import TaskSync.Backend.Basic
import TaskSync.Command.Arguments
import TaskSync.Command.Basic
import TaskSync.Command.Folder
import TaskSync.Config.Basic
import TaskSync.Config.Condition
import TaskSync.Config.Error
import TaskSync.Config.Period
import TaskSync.Config.TaskConfig
import TaskSync.Controller.Errand
import TaskSync.Controller.Loop
import TaskSync.Controller.Once
import TaskSync.Controller.Operation
import TaskSync.Controller.Timer
import TaskSync.Controller.Watch
import TaskSync.Cron.Next
import TaskSync.Cron.Reader
import TaskSync.Cron.Schedule
import TaskSync.Cron.Unit
import TaskSync.Daemon.Ask
import TaskSync.Daemon.Call
import TaskSync.Daemon.Create
import TaskSync.Daemon.Delete
import TaskSync.Daemon.Journal
import TaskSync.Daemon.Mailbox
import TaskSync.Daemon.Run
import TaskSync.Daemon.Setting
import TaskSync.Daemon.Signal
import TaskSync.Daemon.State
import TaskSync.Daemon.Token
import TaskSync.Daemon.Turn
import TaskSync.Daemon.Update
import TaskSync.Data.Decode
import TaskSync.Data.Path
import TaskSync.Data.Script
import TaskSync.Data.SortedMap
import TaskSync.Data.Uuid
import TaskSync.Data.Value
import TaskSync.Duration.Basic
import TaskSync.Duration.Compact
import TaskSync.Duration.Human
import TaskSync.Failure
import TaskSync.Json.Number
import TaskSync.Json.Reader
import TaskSync.Json.Writer
import TaskSync.Main
import TaskSync.Number.Binary64
import TaskSync.Number.Power
import TaskSync.Number.Shortest
import TaskSync.Pattern.Basic
import TaskSync.Pattern.Property
import TaskSync.Pattern.Reader
import TaskSync.Registry
import TaskSync.Retry.Backoff
import TaskSync.Retry.Basic
import TaskSync.Retry.Random
import TaskSync.Run.Bus
import TaskSync.Run.Notice
import TaskSync.Run.Record
import TaskSync.Scenario.Basic
import TaskSync.Scenario.Job
import TaskSync.Scenario.Report
import TaskSync.Scenario.Step
import TaskSync.Scenario.World
import TaskSync.Store.Image
import TaskSync.Store.Line
import TaskSync.Store.Location
import TaskSync.Store.Memory
import TaskSync.Store.Row
import TaskSync.Store.Table
import TaskSync.Task
import TaskSync.Text.Blank
import TaskSync.Text.Letter
import TaskSync.Text.Printable
import TaskSync.Text.Quoted
import TaskSync.Text.Similarity
import TaskSync.Time.Calendar
import TaskSync.Time.Rfc3339
import TaskSync.Time.Timestamp
import TaskSync.Toml.Reader
import TaskSync.Toml.Scalar
import TaskSync.Toml.Tree
import TaskSync.Toml.Writer
import TaskSync.Proofs.Lookup
import TaskSync.Proofs.Registry.Entry
import TaskSync.Proofs.Registry.Path
import TaskSync.Proofs.Registry.History
import TaskSync.Proofs.Registry.Answers
import TaskSync.Proofs.Registry.Templates
import TaskSync.Proofs.Daemon.Aside
import TaskSync.Proofs.Daemon.Steady
import TaskSync.Proofs.Daemon.Requests
import TaskSync.Proofs.Operation.Heed
import TaskSync.Proofs.Operation.Stake
import TaskSync.Proofs.Operation.Move
import TaskSync.Proofs.Operation.Crew
import TaskSync.Proofs.Operation.Leaves
import TaskSync.Proofs.Operation.Requests
import TaskSync.Proofs.Traffic.Basic
import TaskSync.Proofs.Traffic.Sound
import TaskSync.Proofs.Traffic.Exclusion
import TaskSync.Proofs.Operation.Names
import TaskSync.Proofs.Traffic.Faithful
import TaskSync.Proofs.Operation.Creates
import TaskSync.Proofs.Traffic.Removal
import TaskSync.Proofs.Sequence.Basic
import TaskSync.Proofs.Sequence.Agreement
import TaskSync.Proofs.Sequence.Store
import TaskSync.Proofs.Run.Effect
import TaskSync.Proofs.Run.Turn
import TaskSync.Proofs.Run.Course
import TaskSync.Proofs.Run.Rows
import TaskSync.Proofs.Run.Underway
import TaskSync.Proofs.Traffic.Course
import TaskSync.Proofs.Traffic.Numbers
import TaskSync.Proofs.Traffic.Requests
import TaskSync.Proofs.Traffic.Origin
import TaskSync.Proofs.Traffic.Tenure
import TaskSync.Proofs.Data.Ordered
import TaskSync.Proofs.Data.Digits
import TaskSync.Proofs.Data.Canonical
import TaskSync.Proofs.Json.Strings
import TaskSync.Proofs.Json.Numbers
import TaskSync.Proofs.Json.RoundTrip
import TaskSync.Proofs.Config.Canonical
import TaskSync.Proofs.Config.Changes
import TaskSync.Proofs.Data.Identifiers
import TaskSync.Proofs.Duration.Human
import TaskSync.Proofs.Config.Decoding
import TaskSync.Proofs.Store.Rows
import TaskSync.Proofs.Store.Tables
import TaskSync.Proofs.Store.Agreement
import TaskSync.Proofs.Daemon.Attend
import TaskSync.Proofs.Sequence.Creation
import TaskSync.Proofs.Sequence.Pass
import TaskSync.Proofs.Sequence.Rounds
import TaskSync.Proofs.Sequence.Halting
import TaskSync.Proofs.Sequence.Passing
import TaskSync.Proofs.Sequence.Repetition
import TaskSync.Proofs.Run.Receivers
import TaskSync.Proofs.Daemon.Detached
import TaskSync.Proofs.Operation.Detached
import TaskSync.Proofs.Operation.Choice
import TaskSync.Proofs.Operation.Staff
import TaskSync.Proofs.Operation.Lead
import TaskSync.Proofs.Traffic.Choice
import TaskSync.Proofs.Traffic.Staff
import TaskSync.Proofs.Traffic.Shutdown
import TaskSync.Proofs.Daemon.Twin
import TaskSync.Proofs.Daemon.Spares
import TaskSync.Proofs.Concurrence.Abreast
import TaskSync.Proofs.Concurrence.Outcome
import TaskSync.Proofs.Concurrence.Interruption
import TaskSync.Proofs.Concurrence.Interleaving
import TaskSync.Proofs.Concurrence.Rounds
import TaskSync.Proofs.Concurrence.Halting
import TaskSync.Proofs.Concurrence.Passing
import TaskSync.Proofs.Daemon.Deeds
import TaskSync.Proofs.Operation.Deeds
import TaskSync.Proofs.Traffic.Marked
import TaskSync.Proofs.Sequence.Announced
import TaskSync.Proofs.Traffic.Custody
import TaskSync.Proofs.Daemon.Stops
import TaskSync.Proofs.Operation.Stops
import TaskSync.Proofs.Traffic.Timers
import TaskSync.Proofs.Store.History
import TaskSync.Proofs.Time.Calendar
import TaskSync.Proofs.Data.Reading
import TaskSync.Proofs.Time.Rfc3339
import TaskSync.Proofs.Config.Reading
import TaskSync.Proofs.Run.Reading
import TaskSync.Proofs.Run.RoundTrip
import TaskSync.Proofs.Trial.Timetable
import TaskSync.Proofs.Trial.Calls
import TaskSync.Proofs.Trial.Waits
import TaskSync.Proofs.Trial.Protocol
import TaskSync.Proofs.Daemon.Traces
import TaskSync.Proofs.Operation.Traces
import TaskSync.Proofs.Daemon.Own
import TaskSync.Proofs.Operation.Updating
import TaskSync.Proofs.Traffic.Labels
import TaskSync.Proofs.Traffic.Lines
import TaskSync.Proofs.Traffic.Updating
import TaskSync.Proofs.Number.Rounding
import TaskSync.Proofs.Retry.Waits
import TaskSync.Proofs.Retry.Series
import TaskSync.Proofs.Store.Trips
import TaskSync.Proofs.Config.Finalizing
import TaskSync.Proofs.Config.Validation
import TaskSync.Proofs.Config.Making
import TaskSync.Proofs.Traffic.Punctual
import TaskSync.Proofs.Traffic.Recreation
import TaskSync.Proofs.Config.Acceptance
import TaskSync.Proofs.Data.Path
import TaskSync.Proofs.Config.Directories
import TaskSync.Proofs.Config.Overlay
