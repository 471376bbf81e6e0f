import TaskSync.Config.TaskConfig
import TaskSync.Json.Reader
import TaskSync.Json.Writer

/-!
# Tasks

A task is what a configuration describes once its parts are settled. Variables are data values:
a text that is JSON stands for its value, any other text for itself. `toConfig` is the canonical
configuration of a task: every part set, variables written as JSON.
-/

namespace TaskSync

inductive TaskKind where
  /-- Runs when what it watches changes. -/
  | dynamic
  /-- Runs at the times of its schedule. -/
  | scheduled
  deriving DecidableEq, Inhabited

def TaskKind.word : TaskKind → String
  | dynamic => "dynamic"
  | scheduled => "scheduled"

/-- How long changes are gathered. -/
structure BufferPeriod where
  min : Duration
  max : Duration
  deriving DecidableEq

/-- A unit of work. -/
structure Task where
  name : String
  description : String
  enabled : Bool
  kind : TaskKind
  moduleName : String
  version : String
  providers : List String
  services : List String
  moduleInputs : List String
  /-- Variables and their values. -/
  bindings : SortedMap Value
  bufferPeriod : Option BufferPeriod
  condition : Option Condition
  workingDir : Path
  deriving Inhabited

namespace Task

/-- Equality of all parts, of the working directory by components. -/
instance : BEq Task where
  beq a b :=
    a.name == b.name && a.description == b.description && a.enabled == b.enabled
      && a.kind == b.kind && a.moduleName == b.moduleName && a.version == b.version
      && a.providers == b.providers && a.services == b.services
      && a.moduleInputs == b.moduleInputs && a.bindings == b.bindings
      && a.bufferPeriod == b.bufferPeriod && a.condition == b.condition
      && a.workingDir == b.workingDir

def isScheduled (t : Task) : Bool := t.kind == .scheduled

/-- The value that a text stands for. -/
def variableValue (raw : String) : Value := (Json.readCanonical? raw).getD (.text raw)

/-- The waits of a period that is switched on; an open wait is none. -/
def periodOf (p : PeriodConfig) : Option BufferPeriod :=
  if p.isEnabled then some ⟨p.min.getD .zero, p.max.getD .zero⟩ else none

/-- The task of a configuration, which needs a name and a module. -/
def ofConfig (c : TaskConfig) : Except ConfigError Task :=
  match c.name, c.moduleName with
  | none, _ => .error .nameMissing
  | some name, none => .error (.task name .moduleMissing)
  | some name, some moduleName => .ok {
      name
      description := c.description.getD ""
      enabled := c.enabled.getD true
      kind := if c.isScheduled then .scheduled else .dynamic
      moduleName
      version := c.version.getD ""
      providers := c.providers
      services := c.services
      moduleInputs := c.moduleInputs
      bindings := c.bindings.mapValues variableValue
      bufferPeriod := c.bufferPeriod.bind periodOf
      condition := c.condition
      workingDir := c.workingDir.getD ⟨name⟩ }

/-- The cron expression of a scheduled task. -/
def schedule? (t : Task) : Option String :=
  match t.condition with
  | some (.schedule cron) => some cron
  | _ => none

def periodConfig : Option BufferPeriod → PeriodConfig
  | some p => .new p.min p.max
  | none => .disabled

/-- The canonical configuration. -/
def toConfig (t : Task) : TaskConfig where
  name := some t.name
  description := some t.description
  enabled := some t.enabled
  moduleName := some t.moduleName
  version := some t.version
  providers := t.providers
  services := t.services
  moduleInputs := t.moduleInputs
  bindings := t.bindings.mapValues Json.write
  bufferPeriod := some (periodConfig t.bufferPeriod)
  condition := t.condition
  workingDir := some t.workingDir

end Task

end TaskSync
