import TaskSync.Config.Period
import TaskSync.Config.Condition
import TaskSync.Data.Path

/-!
# Task configurations

What a user writes about a task. Every part may be left open; an empty list counts as open.
`finalize` fills the open parts, `validate` refuses what cannot run, and `changedFields` says
what an update asks to change.
-/

namespace TaskSync

structure TaskConfig where
  name : Option String
  description : Option String
  enabled : Option Bool
  moduleName : Option String
  version : Option String
  providers : List String
  services : List String
  moduleInputs : List String
  /-- The texts of variables, which are read as JSON where they are JSON. -/
  bindings : SortedMap String
  bufferPeriod : Option PeriodConfig
  condition : Option Condition
  workingDir : Option Path
  deriving Inhabited

namespace TaskConfig

/-- Nothing set. -/
def empty : TaskConfig :=
  ⟨none, none, none, none, none, [], [], [], [], none, none, none⟩

/-- Equality of all parts, of the working directory by components. -/
instance : BEq TaskConfig where
  beq a b :=
    a.name == b.name && a.description == b.description && a.enabled == b.enabled
      && a.moduleName == b.moduleName && a.version == b.version && a.providers == b.providers
      && a.services == b.services && a.moduleInputs == b.moduleInputs
      && a.bindings == b.bindings && a.bufferPeriod == b.bufferPeriod
      && a.condition == b.condition && a.workingDir == b.workingDir

/-- A task of which only the name is set. -/
def named (name : String) : TaskConfig := { empty with name := some name }

def withModule (c : TaskConfig) (m : String) : TaskConfig := { c with moduleName := some m }

def withServices (c : TaskConfig) (names : List String) : TaskConfig :=
  { c with services := names }

def withEnabled (c : TaskConfig) (b : Bool) : TaskConfig := { c with enabled := some b }

def withCondition (c : TaskConfig) (x : Condition) : TaskConfig :=
  { c with condition := some x }

def withVariable (c : TaskConfig) (key value : String) : TaskConfig :=
  { c with bindings := c.bindings.put key value }

def nameOrEmpty (c : TaskConfig) : String := c.name.getD ""

def isScheduled (c : TaskConfig) : Bool := c.condition.any Condition.isSchedule

/-- Whether a set part differs from the current one. -/
def differs {α : Type} [BEq α] (wanted current : Option α) : Bool :=
  wanted.isSome && !(wanted == current)

/-- Whether a list with something in it differs from the current one. -/
def differsList {α : Type} [BEq α] (wanted current : List α) : Bool :=
  !wanted.isEmpty && !(wanted == current)

/-- The parts other than `name` and `enabled` that are set and differ from `current`. -/
def changedFields (c current : TaskConfig) : List String :=
  [("description", differs c.description current.description),
    ("module", differs c.moduleName current.moduleName),
    ("version", differs c.version current.version),
    ("providers", differsList c.providers current.providers),
    ("services", differsList c.services current.services),
    ("module_inputs", differsList c.moduleInputs current.moduleInputs),
    ("variables", differsList c.bindings current.bindings),
    ("buffer_period", differs c.bufferPeriod current.bufferPeriod),
    ("condition", differs c.condition current.condition),
    ("working_dir", differs c.workingDir current.workingDir)].filterMap
      fun (field, changed) => if changed then some field else none

/-- Fills the open parts. A scheduled task has no buffer period, and the directory of a task lies
under the common one and has its name. -/
def finalize (c : TaskConfig) (period : PeriodConfig) (dir : Path) : TaskConfig :=
  { c with
    enabled := some (c.enabled.getD true)
    description := some (c.description.getD "")
    version := some (c.version.getD "")
    bufferPeriod :=
      some (if c.isScheduled then .disabled else (c.bufferPeriod.getD .empty).finalize period)
    workingDir := c.workingDir <|> c.name.map dir.join }

/-- Letters and digits of ASCII, underscore and hyphen. -/
def isNameChar (c : Char) : Bool := c.isAlphanum || c == '_' || c == '-'

def isValidName (s : String) : Bool := !s.toList.isEmpty && s.toList.all isNameChar

/-- The first text that occurred before. -/
def firstRepeat? : List String → List String → Option String
  | _, [] => none
  | seen, x :: xs => if seen.contains x then some x else firstRepeat? (x :: seen) xs

/-- What is wrong with a task that has a name. -/
def validateNamed (c : TaskConfig) : Except TaskFault Unit := do
  if c.moduleName.getD "" = "" then throw .moduleMissing
  if let some p := c.bufferPeriod then p.validate.mapError .part
  match c.condition with
  | some x => x.validate.mapError .part
  | none => if c.services.isEmpty then throw .nothingWatched
  match firstRepeat? [] c.providers with
  | some p => throw (.duplicateProvider p)
  | none => pure ()

def validate (c : TaskConfig) : Except ConfigError Unit :=
  match c.name with
  | none => .error .nameMissing
  | some name =>
    if name = "" then .error .nameMissing
    else if isValidName name then c.validateNamed.mapError (.task name)
    else .error (.badName name)

def shape : Shape TaskConfig where
  title := "struct TaskConfig"
  start := empty
  fields := [
    ⟨"name", .defaulted, fun _ v => do
      let x ← Decode.optional Decode.text v
      .ok fun c => { c with name := x }⟩,
    ⟨"description", .defaulted, fun _ v => do
      let x ← Decode.optional Decode.text v
      .ok fun c => { c with description := x }⟩,
    ⟨"enabled", .defaulted, fun _ v => do
      let x ← Decode.optional Decode.boolean v
      .ok fun c => { c with enabled := x }⟩,
    ⟨"module", .defaulted, fun _ v => do
      let x ← Decode.optional Decode.text v
      .ok fun c => { c with moduleName := x }⟩,
    ⟨"version", .defaulted, fun _ v => do
      let x ← Decode.optional Decode.text v
      .ok fun c => { c with version := x }⟩,
    ⟨"providers", .defaulted, fun _ v => do
      let x ← Decode.texts v
      .ok fun c => { c with providers := x }⟩,
    ⟨"services", .defaulted, fun _ v => do
      let x ← Decode.texts v
      .ok fun c => { c with services := x }⟩,
    ⟨"module_inputs", .defaulted, fun _ v => do
      let x ← Decode.texts v
      .ok fun c => { c with moduleInputs := x }⟩,
    ⟨"variables", .defaulted, fun _ v => do
      let x ← Decode.textMap v
      .ok fun c => { c with bindings := x }⟩,
    ⟨"buffer_period", .defaulted, fun d v => do
      let x ← Decode.optional (PeriodConfig.shape.read d) v
      .ok fun c => { c with bufferPeriod := x }⟩,
    ⟨"condition", .defaulted, fun d v => do
      let x ← Decode.optional (Condition.read d) v
      .ok fun c => { c with condition := x }⟩,
    ⟨"working_dir", .defaulted, fun _ v => do
      let x ← Decode.optional Decode.pathText v
      .ok fun c => { c with workingDir := x.map Path.mk }⟩]

/-- An entry for a list that is not empty. -/
def listEntry (key : String) (xs : List String) : List (String × Value) :=
  if xs.isEmpty then [] else [(key, .list (xs.map .text))]

def textEntry (key : String) (x : Option String) : List (String × Value) :=
  (x.map fun s => (key, Value.text s)).toList

/-- The set parts in order; open ones are left out. -/
def toValue (c : TaskConfig) : Value :=
  .table (
    textEntry "name" c.name
      ++ textEntry "description" c.description
      ++ (c.enabled.map fun b => ("enabled", Value.boolean b)).toList
      ++ textEntry "module" c.moduleName
      ++ textEntry "version" c.version
      ++ listEntry "providers" c.providers
      ++ listEntry "services" c.services
      ++ listEntry "module_inputs" c.moduleInputs
      ++ (if c.bindings.isEmpty then []
          else [("variables", .table (c.bindings.mapValues .text))])
      ++ (c.bufferPeriod.map fun p => ("buffer_period", p.toValue)).toList
      ++ (c.condition.map fun x => ("condition", x.toValue)).toList
      ++ textEntry "working_dir" (c.workingDir.map Path.text))

end TaskConfig

end TaskSync
