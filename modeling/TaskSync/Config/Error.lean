/-!
# Refused configurations

Why a configuration is refused, as a cause, and the wording of each cause in one place. A cause
inside a task names the task.
-/

namespace TaskSync

/-- What is wrong with a buffer period or a condition. -/
inductive PartFault where
  /-- The shorter wait, the longer wait. -/
  | periodReversed (min max : String)
  | noConditionServices
  | badRegexp
  | badCron (cron : String)
  deriving DecidableEq

/-- What is wrong with a task. -/
inductive TaskFault where
  | moduleMissing
  | part (fault : PartFault)
  | nothingWatched
  | duplicateProvider (provider : String)
  deriving DecidableEq

/-- Why a configuration is refused. -/
inductive ConfigError where
  | part (fault : PartFault)
  | nameMissing
  | badName (name : String)
  | task (name : String) (fault : TaskFault)
  | duplicateTask (name : String)
  deriving DecidableEq

/-- The mark in front of every fault but a duplicate name. -/
def validationMark : String := "Validation error: "

def PartFault.message : PartFault → String
  | periodReversed min max =>
    "buffer_period.min (" ++ min ++ ") must not exceed buffer_period.max (" ++ max ++ ")"
  | noConditionServices => "services condition requires at least one service name"
  | badRegexp => "invalid catalog_services regexp:"
  | badCron cron =>
    "invalid schedule cron '" ++ cron ++ "': Invalid expression: Invalid cron expression."

def TaskFault.message : TaskFault → String
  | moduleMissing => "module is required"
  | part fault => validationMark ++ fault.message
  | nothingWatched => "at least one service or a condition is required"
  | duplicateProvider provider => "duplicate provider '" ++ provider ++ "'"

/-- The message without the mark. -/
def ConfigError.detail : ConfigError → String
  | part fault => fault.message
  | nameMissing => "task name is required"
  | badName name => "task name '" ++ name ++ "' may only contain letters, digits, '_' and '-'"
  | task name fault => "task '" ++ name ++ "': " ++ fault.message
  | duplicateTask name => "Duplicate task name: " ++ name

def ConfigError.message : ConfigError → String
  | duplicateTask name => "Duplicate task name: " ++ name
  | e => validationMark ++ e.detail

end TaskSync
