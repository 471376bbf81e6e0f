import TaskSync.Run.Record

/-!
# Rows

How configurations and run records are kept in tables: a configuration as one JSON text, a record
with its times in milliseconds and its lists as JSON texts. Only the time below a millisecond is
lost.
-/

namespace TaskSync

/-- A row of the table of configurations. -/
structure ConfigRow where
  name : String
  config : String
  deriving DecidableEq

/-- A row of the table of run records. -/
structure RunRow where
  id : String
  taskName : String
  success : Bool
  startTime : Option Int
  endTime : Option Int
  errorMessage : Option String
  providers : String
  services : String
  source : String
  deriving DecidableEq

/-- A column of a row does not hold what it should. -/
inductive RowError where
  | notJson
  | decode (e : DecodeError)
  deriving DecidableEq

namespace ConfigRow

def ofConfig (c : TaskConfig) : ConfigRow := ⟨c.nameOrEmpty, Json.write c.toValue⟩

/-- The configuration in a row. A part that is written twice is refused. -/
def toConfig (r : ConfigRow) : Except RowError TaskConfig :=
  match Json.read? r.config with
  | none => .error .notJson
  | some v => (TaskConfig.shape.read .json v).mapError .decode

end ConfigRow

namespace RunRow

def textsColumn (xs : List String) : String := Json.write (.list (xs.map .text))

def ofRecord (r : RunRecord) : RunRow where
  id := r.id.text
  taskName := r.taskName
  success := r.success
  startTime := r.startTime.map Timestamp.millis
  endTime := r.endTime.map Timestamp.millis
  errorMessage := r.error
  providers := textsColumn r.origin.providers
  services := textsColumn r.origin.services
  source := r.origin.source

def readTexts (column : String) : Except RowError (List String) :=
  match Json.read? column with
  | none => .error .notJson
  | some v => (Decode.texts v).mapError .decode

/-- The record in a row. An identifier that cannot be read is the nil one, a time out of range is
none. -/
def toRecord (r : RunRow) : Except RowError RunRecord := do
  let providers ← readTexts r.providers
  let services ← readTexts r.services
  .ok {
    id := (Uuid.read r.id).toOption.getD .nil
    taskName := r.taskName
    success := r.success
    startTime := r.startTime.bind Timestamp.ofMillis?
    endTime := r.endTime.bind Timestamp.ofMillis?
    error := r.errorMessage
    origin := ⟨providers, services, r.source⟩ }

end RunRow

end TaskSync
