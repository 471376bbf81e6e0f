import TaskSync.Config.Basic
import TaskSync.Run.Record

/-!
# A store in memory

Configurations in the order in which they came, and for each task its last run records, the
newest first. A configuration that is set again keeps its place.
-/

namespace TaskSync

structure MemoryStore where
  config : Config
  tasks : List TaskConfig
  records : SortedMap (List RunRecord)

namespace MemoryStore

/-- The store that begins with the tasks of a configuration. -/
def new (config : Config) : MemoryStore := ⟨config, config.tasks, []⟩

def getTask (s : MemoryStore) (name : String) : Option TaskConfig :=
  s.tasks.find? fun t => t.name == some name

def allTasks (s : MemoryStore) : List TaskConfig := s.tasks

/-- Replaces the first element that satisfies a test, or appends. -/
def replaceFirst (test : TaskConfig → Bool) (c : TaskConfig) : List TaskConfig → List TaskConfig
  | [] => [c]
  | t :: ts => if test t then c :: ts else t :: replaceFirst test c ts

def setTask (s : MemoryStore) (c : TaskConfig) : MemoryStore :=
  { s with tasks := replaceFirst (fun t => t.name == c.name) c s.tasks }

def deleteTask (s : MemoryStore) (name : String) : MemoryStore :=
  { s with tasks := s.tasks.filter fun t => t.name != some name }

def recordsOf (s : MemoryStore) (name : String) : List RunRecord := (s.records.get? name).getD []

/-- Adds a record and drops what exceeds the history. -/
def addRecord (s : MemoryStore) (r : RunRecord) : MemoryStore :=
  { s with
    records := s.records.put r.taskName
      ((r :: s.recordsOf r.taskName).take s.config.eventHistory) }

def deleteRecords (s : MemoryStore) (name : String) : MemoryStore :=
  { s with records := s.records.erase name }

end MemoryStore

end TaskSync
