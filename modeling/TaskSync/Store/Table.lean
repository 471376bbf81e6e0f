import TaskSync.Config.Basic
import TaskSync.Failure

/-!
# A store in tables

Two tables of a database. Configurations have their name as key: setting a name again replaces
its row in place. Run records have a unique identifier; after an insertion the oldest rows of the
same task beyond a limit are deleted. Rows stand in the order of their insertion.
-/

namespace TaskSync

/-- The rows of a database. -/
structure Database where
  configs : List ConfigRow
  runs : List RunRow
  deriving DecidableEq

namespace Database

def empty : Database := ⟨[], []⟩

instance : Inhabited Database := ⟨empty⟩

/-- Inserts a row or replaces the one with its key. -/
def upsertRow (row : ConfigRow) : List ConfigRow → List ConfigRow
  | [] => [row]
  | r :: rs => if r.name = row.name then row :: rs else r :: upsertRow row rs

def upsert (d : Database) (c : TaskConfig) : Database :=
  { d with configs := upsertRow (.ofConfig c) d.configs }

def readConfig (r : ConfigRow) : Except StoreError TaskConfig := r.toConfig.mapError .row

def readRun (r : RunRow) : Except StoreError RunRecord := r.toRecord.mapError .row

def findConfig (d : Database) (name : String) : Except StoreError (Option TaskConfig) :=
  match d.configs.find? (·.name == name) with
  | none => .ok none
  | some r => (readConfig r).map some

def allConfigs (d : Database) : Except StoreError (List TaskConfig) := d.configs.mapM readConfig

/-- Deletes a configuration; says whether there was one. -/
def deleteConfig (d : Database) (name : String) : Bool × Database :=
  (d.configs.any (·.name == name),
    { d with configs := d.configs.filter fun r => r.name != name })

/-- The rows of a task beyond its newest `limit` ones are dropped. A limit of 63 bits or more is
none. -/
def evict (limit : Nat) (name : String) (runs : List RunRow) : List RunRow :=
  if 2 ^ 63 ≤ limit then runs
  else
    let count := (runs.filter (·.taskName == name)).length
    dropFirst (count - limit) runs
where
  /-- Drops the first `n` rows of the task. -/
  dropFirst : Nat → List RunRow → List RunRow
    | _, [] => []
    | 0, rs => rs
    | n + 1, r :: rs => if r.taskName = name then dropFirst n rs else r :: dropFirst (n + 1) rs

def uniqueViolation : StoreError := .database 2067 "UNIQUE constraint failed: task_events.id"

/-- Inserts a run and evicts older ones, both or neither. -/
def insertBounded (d : Database) (r : RunRecord) (limit : Nat) : Except StoreError Database :=
  let row := RunRow.ofRecord r
  if d.runs.any (·.id == row.id) then .error uniqueViolation
  else .ok { d with runs := evict limit row.taskName (d.runs ++ [row]) }

/-- The runs of a task, newest first. -/
def runsOf (d : Database) (name : String) : Except StoreError (List RunRecord) :=
  (d.runs.filter (·.taskName == name)).reverse.mapM readRun

/-- Deletes the runs of a task; says how many there were. -/
def deleteRuns (d : Database) (name : String) : Nat × Database :=
  ((d.runs.filter (·.taskName == name)).length,
    { d with runs := d.runs.filter fun r => r.taskName != name })

end Database

/-- A store whose data live in a database. -/
structure TableStore where
  config : Config
  database : Database

namespace TableStore

/-- Opens a store: the tasks of the configuration are put into the database. -/
def openOn (config : Config) (d : Database) : TableStore :=
  ⟨config, config.tasks.foldl Database.upsert d⟩

def getTask (s : TableStore) (name : String) : Except StoreError (Option TaskConfig) :=
  s.database.findConfig name

def allTasks (s : TableStore) : Except StoreError (List TaskConfig) := s.database.allConfigs

def setTask (s : TableStore) (c : TaskConfig) : TableStore :=
  { s with database := s.database.upsert c }

def deleteTask (s : TableStore) (name : String) : TableStore :=
  { s with database := (s.database.deleteConfig name).2 }

def addRecord (s : TableStore) (r : RunRecord) : Except StoreError TableStore := do
  let d ← s.database.insertBounded r s.config.eventHistory
  .ok { s with database := d }

def recordsOf (s : TableStore) (name : String) : Except StoreError (List RunRecord) :=
  s.database.runsOf name

def deleteRecords (s : TableStore) (name : String) : TableStore :=
  { s with database := (s.database.deleteRuns name).2 }

end TableStore

end TaskSync
