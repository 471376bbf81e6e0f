import TaskSync.Json.Reader
import TaskSync.Json.Writer
import TaskSync.Store.Table

/-!
# Databases as text

A database between two commands is one JSON text with the rows of both tables in their order.
-/

namespace TaskSync

def ConfigRow.toValue (r : ConfigRow) : Value :=
  .table [("name", .text r.name), ("config", .text r.config)]

def RunRow.toValue (r : RunRow) : Value :=
  let time : Option Int → Value
    | some n => .integer n
    | none => .null
  .table [("id", .text r.id), ("task_name", .text r.taskName), ("success", .boolean r.success),
    ("start_time", time r.startTime), ("end_time", time r.endTime),
    ("error_message", (r.errorMessage.map Value.text).getD .null),
    ("providers", .text r.providers), ("services", .text r.services), ("source", .text r.source)]

namespace Image

def text? (v : Value) (key : String) : Option String :=
  match v.get? key with
  | some (.text s) => some s
  | _ => none

def integer? (v : Value) (key : String) : Option Int :=
  match v.get? key with
  | some (.integer n) => some n
  | _ => none

def rows? (v : Value) (key : String) : Option (List Value) :=
  match v.get? key with
  | some (.list xs) => some xs
  | _ => none

def configRow? (v : Value) : Option ConfigRow := do
  some ⟨← text? v "name", ← text? v "config"⟩

def runRow? (v : Value) : Option RunRow := do
  some {
    id := ← text? v "id"
    taskName := ← text? v "task_name"
    success := v.get? "success" == some (.boolean true)
    startTime := integer? v "start_time"
    endTime := integer? v "end_time"
    errorMessage := text? v "error_message"
    providers := ← text? v "providers"
    services := ← text? v "services"
    source := ← text? v "source" }

def write (d : Database) : String :=
  Json.write (.table [("task_configs", .list (d.configs.map (·.toValue))),
    ("task_events", .list (d.runs.map (·.toValue)))])

/-- The database of a text, if it is one. -/
def read? (s : String) : Option Database := do
  let v ← Json.read? s
  let configs ← (← rows? v "task_configs").mapM configRow?
  let runs ← (← rows? v "task_events").mapM runRow?
  some ⟨configs, runs⟩

end Image

end TaskSync
