import TaskSync.Daemon.Create
import TaskSync.Data.Decode

/-!
# Steps of a scenario

A scenario is a daemon with all that surrounds it settled in advance, and a list of steps. What a
step is and what it can answer.
-/

namespace TaskSync

inductive Step where
  | start
  | create (token : String) (goal : Goal) (conf : TaskConfig)
  | update (conf : TaskConfig) (option : RunOption)
  | run (token task : String)
  | requestDeletion (task : String)
  | delete (token task : String)
  | task (name : String)
  | tasks
  | taskNames
  | records (task : String)
  | byTemplate (template : String)
  | config
  /-- How many notices were published. -/
  | published
  | listen
  /-- Takes the completions that have been kept for the listener. -/
  | completions
  | stopListening
  /-- Takes all from the queue of new scheduled tasks. -/
  | takeCreated
  | takeDeletes
  /-- Takes the guard of a task and keeps it under a name. -/
  | activate (task slot : String)
  | release (slot : String)
  | mark (task : String)
  | unregister (task : String)
  | cancel (token : String)
  /-- Cancels a token on the side when so many milliseconds have passed. -/
  | cancelAfter (token : String) (ms : Nat)
  | sleep (ms : Nat)
  | trigger (template : String)
  | closeTriggers
  | once (token : String)
  | control (token : String)
  /-- All at once; each goes on in its turn. -/
  | join (steps : List Step)
  /-- One after the other; answers all, or only the last one's answer. -/
  | sequence (onlyLast : Bool) (steps : List Step)
  /-- On the side, under a name. -/
  | spawn (name : String) (step : Step)
  /-- Waits for what was spawned, for so many milliseconds at most. -/
  | await (name : String) (ms : Nat)
  /-- A step that could not be read. -/
  | malformed (e : DecodeError)
  deriving Inhabited

/-- The use of the store that the answer to a step rests on. -/
def Step.read? : Step → Option StoreOp
  | .task _ => some .getTask
  | .tasks | .taskNames | .listen => some .getAllTasks
  | .records _ => some .getRecords
  | _ => none

/-- What a step answers. -/
inductive Reply where
  | done
  | nothing
  | pending
  /-- A running controller holds the queue. -/
  | held
  | flag (b : Bool)
  | count (n : Nat)
  | name (s : String)
  | names (xs : List String)
  | configuration (c : Config)
  | task (c : TaskConfig)
  | tasks (cs : List TaskConfig)
  | records (rs : List RunRecord)
  | plan (p : Plan)
  | failed (e : Failure)
  | malformed (e : DecodeError)
  | list (rs : List Reply)
  deriving Inhabited

namespace Reply

def ofUnit : Except Failure Unit → Reply
  | .ok () => done
  | .error e => failed e

def ofExcept {α : Type} (f : α → Reply) : Except Failure α → Reply
  | .ok x => f x
  | .error e => failed e

end Reply

end TaskSync
