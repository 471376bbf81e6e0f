import TaskSync.Backend.Basic

/-!
# The journal

Which calls of backends and which writes to the store were made, and how an entry reads.
-/

namespace TaskSync

/-- An operation of the store. -/
inductive StoreOp where
  | getTask
  | getAllTasks
  | setTask
  | deleteTask
  | addRecord
  | getRecords
  | deleteRecords
  deriving DecidableEq

/-- The tables of the store; there is a line at each. -/
inductive StoreTable where
  | configs
  | records
  deriving DecidableEq

namespace StoreOp

def table : StoreOp → StoreTable
  | getTask | getAllTasks | setTask | deleteTask => .configs
  | addRecord | getRecords | deleteRecords => .records

def writes : StoreOp → Bool
  | setTask | deleteTask | addRecord | deleteRecords => true
  | getTask | getAllTasks | getRecords => false

end StoreOp

/-- What the journal says. -/
inductive JournalEntry where
  | factoryStarted
  | made (backend : Label)
  | called (backend : Label) (kind : CallKind)
  | updated (backend : Label) (enabled : Bool) (option : RunOption)
  /-- The delay of a call has passed. -/
  | waited (backend : Label) (kind : CallKind)
  /-- The delay of a call was cut short. -/
  | interrupted (backend : Label) (kind : CallKind)
  | written (op : StoreOp) (task : String)
  deriving DecidableEq

def CallKind.word : CallKind → String
  | render => "render"
  | apply => "apply"
  | inspect => "inspect"
  | override => "override"
  | buffer => "buffer"
  | update => "update"
  | destroy => "destroy"

def RunOption.word : RunOption → String
  | default => "Default"
  | now => "Now"
  | inspect => "Inspect"

def StoreOp.word : StoreOp → String
  | getTask => "get_task"
  | getAllTasks => "get_all_tasks"
  | setTask => "set_task"
  | deleteTask => "delete_task"
  | addRecord => "add_event"
  | getRecords => "get_events"
  | deleteRecords => "delete_events"

def JournalEntry.text : JournalEntry → String
  | factoryStarted => "init"
  | made b => "make " ++ b.text
  | called b kind => kind.word ++ " " ++ b.text
  | updated b enabled option =>
    "update " ++ b.text ++ " " ++ (if enabled then "true" else "false") ++ " " ++ option.word
  | waited b kind => kind.word ++ " " ++ b.text ++ " waited"
  | interrupted b kind => kind.word ++ " " ++ b.text ++ " interrupted"
  | written op task => "store " ++ op.word ++ " " ++ task

/-- A line of a journal, and how often it came in a row. -/
structure JournalLine where
  text : String
  times : Nat

namespace JournalLine

/-- Lines that repeat in a row are counted. -/
def countRuns : List String → List JournalLine
  | [] => []
  | x :: xs =>
    match countRuns xs with
    | l :: ls => if l.text = x then { l with times := l.times + 1 } :: ls else ⟨x, 1⟩ :: l :: ls
    | [] => [⟨x, 1⟩]

def written (l : JournalLine) : String :=
  if l.times = 1 then l.text else l.text ++ " x" ++ toString l.times

end JournalLine

end TaskSync
