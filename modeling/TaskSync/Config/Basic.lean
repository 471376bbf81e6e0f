import TaskSync.Config.TaskConfig

/-!
# Process configurations

The configuration of the whole process with the tasks it lists, in their order.
-/

namespace TaskSync

/-- How a pass over all tasks goes: one after the other, ending at the first failure, or all at
once, gathering failures. -/
inductive PassMode where
  | consecutive
  | concurrent
  deriving DecidableEq, Inhabited

def PassMode.words : List String := ["consecutive", "concurrent"]

def PassMode.word : PassMode → String
  | consecutive => "consecutive"
  | concurrent => "concurrent"

def PassMode.read (d : Dialect) (v : Value) : Decoded PassMode := do
  match ← Decode.choice d words v with
  | 0 => .ok .consecutive
  | _ => .ok .concurrent

/-- How often a failed call is tried again, and the delay that the waits in between are counted
in. -/
structure RetryConfig where
  maxRetries : UInt32
  baseDelay : Duration
  deriving DecidableEq

namespace RetryConfig

def default : RetryConfig := ⟨2, .ofSecs 1⟩

instance : Inhabited RetryConfig := ⟨default⟩

def shape : Shape RetryConfig where
  title := "struct RetryConfig"
  start := default
  fields := [
    ⟨"max_retries", .defaulted, fun _ v => do
      let n ← Decode.natural (2 ^ 32) "u32" v
      .ok fun r => { r with maxRetries := UInt32.ofNat n }⟩,
    ⟨"base_delay", .defaulted, fun _ v => do
      let d ← PeriodConfig.readDuration v
      .ok fun r => { r with baseDelay := d }⟩]

def toValue (r : RetryConfig) : Value :=
  .table [("max_retries", .integer r.maxRetries.toNat), ("base_delay", .text r.baseDelay.human)]

end RetryConfig

/-- The configuration of the process. -/
structure Config where
  workingDir? : Option Path
  bufferPeriod? : Option PeriodConfig
  databaseUrl? : Option String
  logLevel? : Option String
  onceMode : PassMode
  retry : RetryConfig
  eventHistory? : Option Nat
  tasks : List TaskConfig
  deriving Inhabited

namespace Config

/-- Nothing set. -/
def default : Config := ⟨none, none, none, none, .consecutive, .default, none, []⟩

def defaultWorkingDir : Path := ⟨"sync-tasks"⟩

def defaultDatabaseUrl : String := "sqlite:syncd.db"

def defaultLogLevel : String := "info"

def defaultEventHistory : Nat := 5

def withTask (c : Config) (t : TaskConfig) : Config := { c with tasks := c.tasks ++ [t] }

def workingDir (c : Config) : Path := c.workingDir?.getD defaultWorkingDir

def databaseUrl (c : Config) : String := c.databaseUrl?.getD defaultDatabaseUrl

def logLevel (c : Config) : String := c.logLevel?.getD defaultLogLevel

/-- How many events are kept of each task. -/
def eventHistory (c : Config) : Nat := c.eventHistory?.getD defaultEventHistory

/-- The period that tasks inherit. -/
def globalPeriod (c : Config) : PeriodConfig :=
  (c.bufferPeriod?.getD .empty).finalize .fallback

/-- Fills the open parts of the configuration and of its tasks. -/
def finalize (c : Config) : Config :=
  { c with
    workingDir? := some c.workingDir
    bufferPeriod? := some c.globalPeriod
    databaseUrl? := some c.databaseUrl
    logLevel? := some c.logLevel
    eventHistory? := some c.eventHistory
    tasks := c.tasks.map (·.finalize c.globalPeriod c.workingDir) }

/-- Checks tasks in order; a name may not come twice. -/
def validateTasks : List String → List TaskConfig → Except ConfigError Unit
  | _, [] => .ok ()
  | seen, t :: ts => do
    t.validate
    if seen.contains t.nameOrEmpty then .error (.duplicateTask t.nameOrEmpty)
    else validateTasks (t.nameOrEmpty :: seen) ts

def validate (c : Config) : Except ConfigError Unit := do
  if let some p := c.bufferPeriod? then p.validate.mapError .part
  validateTasks [] c.tasks

def shape : Shape Config where
  title := "struct Config"
  start := default
  fields := [
    ⟨"working_dir", .defaulted, fun _ v => do
      let x ← Decode.optional Decode.pathText v
      .ok fun c => { c with workingDir? := x.map Path.mk }⟩,
    ⟨"buffer_period", .defaulted, fun d v => do
      let x ← Decode.optional (PeriodConfig.shape.read d) v
      .ok fun c => { c with bufferPeriod? := x }⟩,
    ⟨"database_url", .defaulted, fun _ v => do
      let x ← Decode.optional Decode.text v
      .ok fun c => { c with databaseUrl? := x }⟩,
    ⟨"log_level", .defaulted, fun _ v => do
      let x ← Decode.optional Decode.text v
      .ok fun c => { c with logLevel? := x }⟩,
    ⟨"once_mode", .defaulted, fun d v => do
      let x ← PassMode.read d v
      .ok fun c => { c with onceMode := x }⟩,
    ⟨"retry", .defaulted, fun d v => do
      let x ← RetryConfig.shape.read d v
      .ok fun c => { c with retry := x }⟩,
    ⟨"event_history", .defaulted, fun _ v => do
      let x ← Decode.optional (Decode.natural (2 ^ 64) "usize") v
      .ok fun c => { c with eventHistory? := x }⟩,
    ⟨"task", .defaulted, fun d v => do
      let x ← Decode.list (TaskConfig.shape.read d) v
      .ok fun c => { c with tasks := x }⟩]

/-- The set parts in order; the tasks stand under `task`. -/
def toValue (c : Config) : Value :=
  .table (
    TaskConfig.textEntry "working_dir" (c.workingDir?.map Path.text)
      ++ (c.bufferPeriod?.map fun p => ("buffer_period", p.toValue)).toList
      ++ TaskConfig.textEntry "database_url" c.databaseUrl?
      ++ TaskConfig.textEntry "log_level" c.logLevel?
      ++ [("once_mode", .text c.onceMode.word), ("retry", c.retry.toValue)]
      ++ (c.eventHistory?.map fun n => ("event_history", Value.integer n)).toList
      ++ (if c.tasks.isEmpty then [] else [("task", .list (c.tasks.map TaskConfig.toValue))]))

end Config

end TaskSync
