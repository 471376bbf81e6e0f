import TaskSync.Daemon.Mailbox
import TaskSync.Daemon.Token
import TaskSync.Failure

/-!
# Signals

What operations wait for and what they set going: signals say what has happened that somebody may
wait for, crews are what a controller shares with its work on the side.
-/

namespace TaskSync

/-- The numbers of controllers, backends and of what runs on the side are places in lists. -/
abbrev Place := Nat

/-- What one can wait for. -/
inductive Signal where
  | time (ms : Nat)
  | canceled (token : Token)
  /-- A new scheduled task was announced. -/
  | createdArrived
  /-- No controller holds the queue of new scheduled tasks any more. -/
  | createdFreed
  /-- A deletion was requested. -/
  | deleteArrived
  | deletesFreed
  /-- A trigger is on its way to the watcher. -/
  | triggerArrived
  /-- A controller has been handed a triggered template. -/
  | inboxArrived (crew : Place)
  /-- A controller has taken a triggered template. -/
  | inboxFreed (crew : Place)
  /-- All work of a crew has ended, the watch aside. -/
  | crewIdle (crew : Place)
  | watchEnded (crew : Place)
  /-- A job on the side has ended. -/
  | workEnded (number : Nat)
  /-- Somebody who stands in line at the store has the turn now. -/
  | reached (caller : Nat)
  deriving DecidableEq

/-- A wait for a signal. A wait that is begun anew is told apart by the selection it is part
of. -/
structure Wait where
  signal : Signal
  selection : Nat
  deriving DecidableEq

/-- The right to stop a schedule timer. The number tells a timer's own entry from one that was
registered later under the same name. -/
structure Stop where
  number : UInt64
  token : Token
  deriving DecidableEq

/-- What a controller sets going on the side. -/
inductive Work where
  | watch
  | timer (task : String) (stop : Stop)
  | run (task : String)
  | delete (task : String)

/-- Something that has happened: a signal, or work that a controller has set going. -/
inductive Happening where
  | signal (s : Signal)
  | work (crew : Place) (w : Work)

/-- The way of triggers to the watcher. -/
structure Triggers where
  items : List String
  isOpen : Bool
  /-- The first watch to begin reads the triggers. -/
  reader : Option Place

/-- What a controller shares with the work it has set going. -/
structure Crew where
  /-- Canceled when the controller stops. -/
  token : Token
  /-- The templates that were triggered. -/
  inbox : Mailbox
  /-- How much work, the watch aside, has not ended. -/
  working : Nat
  /-- How the watch ended. -/
  watched : Option (Except WatchError Unit)

end TaskSync
