import TaskSync.Config.Error
import TaskSync.Store.Row

/-!
# Failures

Everything that an operation on tasks can fail with, as causes. `message` words a failure,
`sources` lists the messages of what lies behind it, the nearest first.
-/

namespace TaskSync

/-- A failure reported by a backend. -/
inductive BackendError where
  | backend (message : String)
  | canceled
  deriving DecidableEq, Inhabited

def BackendError.message : BackendError → String
  | backend m => m
  | canceled => "driver operation canceled"

/-- A failure of the watcher. -/
inductive WatchError where
  | failed (message : String)
  | canceled
  deriving DecidableEq, Inhabited

def WatchError.message : WatchError → String
  | failed m => "watcher failed: " ++ m
  | canceled => "watcher canceled"

/-- A failure of the store. -/
inductive StoreError where
  | unavailable (message : String)
  /-- The location of the database makes no sense. -/
  | location (detail : String)
  /-- The database refused a statement: its code and its text. -/
  | database (code : Nat) (text : String)
  | row (e : RowError)
  deriving DecidableEq

namespace StoreError

/-- The database's own words. -/
def databaseText (code : Nat) (text : String) : String :=
  "(code: " ++ toString code ++ ") " ++ text

def locationText (detail : String) : String := "error with configuration: " ++ detail

def message : StoreError → String
  | unavailable m => "Store unavailable: " ++ m
  | location detail => "Database error: " ++ locationText detail
  | database code text => "Database error: error returned from database: "
      ++ databaseText code text
  | row _ => "Serialization error"

def sources : StoreError → List String
  | location detail => [locationText detail, detail]
  | database code text =>
    ["error returned from database: " ++ databaseText code text, databaseText code text]
  | _ => []

end StoreError

/-- Why an operation on tasks failed. -/
inductive Failure where
  | invalid (e : ConfigError)
  | nameTaken (task : String)
  /-- A refusal in words. -/
  | refused (message : String)
  | alreadyExists (task : String)
  | notFound (task : String)
  | busy (task : String)
  | initializationTimeout (task : String)
  | render (task : String) (source : BackendError)
  | applyFailed (task : String) (attempts : UInt32) (source : BackendError)
  | canceled
  | unsupportedUpdate (task : String) (fields : String)
  | invalidArgument (message : String)
  | taskFailed (task : String) (source : Failure)
  | onceFailed (failures : List (String × Failure))
  | backend (source : BackendError)
  | watcher (source : WatchError)
  | store (source : StoreError)

instance : Inhabited Failure := ⟨.canceled⟩

namespace Failure

mutual

def message : Failure → String
  | invalid e => validationMark ++ e.detail
  | nameTaken task => validationMark ++ "task with name " ++ task ++ " already exists"
  | refused m => validationMark ++ m
  | alreadyExists task => "Task already exists: " ++ task
  | notFound task => "Task not found: " ++ task
  | busy task => "Task '" ++ task ++ "' is active and cannot be run at this time"
  | initializationTimeout task => "Timed out initializing task '" ++ task ++ "'"
  | render task source =>
    "Error rendering template for task '" ++ task ++ "': " ++ source.message
  | applyFailed task attempts source =>
    "Could not apply changes for task '" ++ task ++ "' after " ++ toString attempts.toNat
      ++ " attempt(s): " ++ source.message
  | canceled => "Operation canceled"
  | unsupportedUpdate task fields =>
    "Unsupported update for task '" ++ task ++ "': only 'enabled' can be changed, got " ++ fields
  | invalidArgument m => "Invalid argument: " ++ m
  | taskFailed task source => "Task '" ++ task ++ "' failed: " ++ source.message
  | onceFailed failures =>
    toString failures.length ++ " task(s) failed: " ++ "; ".intercalate (summaries failures)
  | backend source => "Driver error: " ++ source.message
  | watcher source => "Watcher error: " ++ source.message
  | store source => "Database error: " ++ source.message

def summaries : List (String × Failure) → List String
  | [] => []
  | (task, e) :: rest => (task ++ ": " ++ e.message) :: summaries rest

end

/-- The messages of what lies behind a failure. -/
def sources : Failure → List String
  | render _ e | applyFailed _ _ e | backend e => [e.message]
  | watcher e => [e.message]
  | store e => e.message :: e.sources
  | taskFailed _ e => e.message :: e.sources
  | _ => []

def isCanceled : Failure → Bool
  | canceled => true
  | _ => false

end Failure

end TaskSync
