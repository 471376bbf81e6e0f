import TaskSync.Task
import TaskSync.Data.Uuid
import TaskSync.Time.Rfc3339

/-!
# Run records

A record of one run of a task: when it started and ended, whether it succeeded, and which parts
of the configuration it ran with. A record is ended once it has an end time.
-/

namespace TaskSync

/-- What a run was configured with. -/
structure RunOrigin where
  providers : List String
  services : List String
  source : String
  deriving DecidableEq, Inhabited

/-- A record of a run. -/
structure RunRecord where
  id : Uuid
  taskName : String
  success : Bool
  startTime : Option Timestamp
  endTime : Option Timestamp
  error : Option String
  origin : RunOrigin
  deriving DecidableEq, Inhabited

namespace RunOrigin

def ofTask (t : Task) : RunOrigin := ⟨t.providers, t.services, t.moduleName⟩

def shape : Shape RunOrigin where
  title := "struct EventConfig"
  start := ⟨[], [], ""⟩
  fields := [
    ⟨"providers", .required, fun _ v => do
      let x ← Decode.texts v
      .ok fun o => { o with providers := x }⟩,
    ⟨"services", .required, fun _ v => do
      let x ← Decode.texts v
      .ok fun o => { o with services := x }⟩,
    ⟨"source", .required, fun _ v => do
      let x ← Decode.text v
      .ok fun o => { o with source := x }⟩]

def toValue (o : RunOrigin) : Value :=
  .table [("providers", .list (o.providers.map .text)),
    ("services", .list (o.services.map .text)), ("source", .text o.source)]

end RunOrigin

namespace RunRecord

/-- A record of a run that has not started. -/
def new (id : Uuid) (taskName : String) (origin : RunOrigin) : RunRecord :=
  ⟨id, taskName, false, none, none, none, origin⟩

def forTask (id : Uuid) (t : Task) : RunRecord := new id t.name (.ofTask t)

def start (r : RunRecord) (now : Timestamp) : RunRecord := { r with startTime := some now }

def succeed (r : RunRecord) (now : Timestamp) : RunRecord :=
  { r with endTime := some now, success := true, error := none }

def fail (r : RunRecord) (now : Timestamp) (message : String) : RunRecord :=
  { r with endTime := some now, success := false, error := some message }

def isEnded (r : RunRecord) : Bool := r.endTime.isSome

/-- Nanoseconds from start to end, negative when the clock went back. -/
def nanos? (r : RunRecord) : Option Int :=
  match r.startTime, r.endTime with
  | some a, some b => some (a.nanosBetween b)
  | _, _ => none

/-- Whole milliseconds of the run, rounded toward zero. -/
def millis? (r : RunRecord) : Option Int := r.nanos?.map (·.tdiv (10 ^ 6))

def readUuid : Value → Decoded Uuid
  | .text s => (Uuid.read s).mapError fun e => .badText e.message
  | v => .error (.invalidType v "a UUID string")

def readTime : Value → Decoded Timestamp
  | .text s => (Timestamp.read s).mapError fun e => .badText e.message
  | v => .error (.invalidType v "an RFC 3339 formatted date and time string")

def errorShape : Shape String where
  title := "struct EventError"
  start := ""
  fields := [⟨"message", .required, fun _ v => do
    let s ← Decode.text v
    .ok fun _ => s⟩]

def shape : Shape RunRecord where
  title := "struct Event"
  start := new .nil "" ⟨[], [], ""⟩
  fields := [
    ⟨"id", .required, fun _ v => do
      let x ← readUuid v
      .ok fun r => { r with id := x }⟩,
    ⟨"task_name", .required, fun _ v => do
      let x ← Decode.text v
      .ok fun r => { r with taskName := x }⟩,
    ⟨"success", .required, fun _ v => do
      let x ← Decode.boolean v
      .ok fun r => { r with success := x }⟩,
    ⟨"start_time", .optional, fun _ v => do
      let x ← Decode.optional readTime v
      .ok fun r => { r with startTime := x }⟩,
    ⟨"end_time", .optional, fun _ v => do
      let x ← Decode.optional readTime v
      .ok fun r => { r with endTime := x }⟩,
    ⟨"error", .optional, fun d v => do
      let x ← Decode.optional (errorShape.read d) v
      .ok fun r => { r with error := x }⟩,
    ⟨"config", .required, fun d v => do
      let x ← RunOrigin.shape.read d v
      .ok fun r => { r with origin := x }⟩]

def timeValue (t : Option Timestamp) : Value :=
  match t with
  | some t => .text t.text
  | none => .null

def errorValue : Option String → Value
  | some message => .table [("message", .text message)]
  | none => .null

def toValue (r : RunRecord) : Value :=
  .table [("id", .text r.id.text), ("task_name", .text r.taskName),
    ("success", .boolean r.success), ("start_time", timeValue r.startTime),
    ("end_time", timeValue r.endTime), ("error", errorValue r.error),
    ("config", r.origin.toValue)]

end RunRecord

end TaskSync
