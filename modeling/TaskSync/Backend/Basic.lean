import TaskSync.Data.Script
import TaskSync.Failure
import TaskSync.Task

/-!
# Backends

A backend runs one task: it renders the task's template, plans and applies changes, and is torn
down in the end. What it answers, how long it takes and what it does on the side is settled in
advance by its script, so a statement about all scripts is one about all backends.
-/

namespace TaskSync

/-- When a change of a task takes effect: at its next run, at once, or never, when only the plan
is asked for. -/
inductive RunOption where
  | default
  | now
  | inspect
  deriving DecidableEq, Inhabited

/-- What a change would do. -/
structure Plan where
  changesPresent : Bool
  plan : String
  url : String
  deriving DecidableEq

def Plan.empty : Plan := ⟨false, "", ""⟩

instance : Inhabited Plan := ⟨.empty⟩

/-- What a backend can be asked for. -/
inductive CallKind where
  | render
  | apply
  | inspect
  /-- To ignore the next trigger. -/
  | override
  /-- To use the task's buffer period. -/
  | buffer
  | update
  | destroy
  deriving DecidableEq

/-- What a backend does on the side while it is called. -/
inductive Action where
  | cancel (token : String)
  | enable
  | disable
  /-- Marks its task for deletion. -/
  | mark
  /-- Asks for its task to be deleted. -/
  | delete
  /-- Takes its task out of the registry. -/
  | unregister
  deriving DecidableEq

/-- What happens on the side at the n-th call of a kind. -/
structure Hook where
  kind : CallKind
  nth : Nat
  actions : List Action

/-- The answers of a backend. Delays are in milliseconds; a delay is taken from the script when a
call begins, an answer when it ends. -/
structure BackendScript where
  /-- `none` stands for one template that is named for the task. -/
  templates : Option (List String)
  renders : Script (Except BackendError Bool)
  renderDelays : Script Nat
  applies : Script (Except BackendError Unit)
  applyDelays : Script Nat
  updates : Script (Except BackendError Unit)
  inspection : Except BackendError Unit
  plan : Plan
  /-- Whether a delay goes on when the caller has given up. -/
  ignoresCancel : Bool
  hooks : List Hook

/-- A backend that renders and applies at once and never fails. -/
def BackendScript.plain : BackendScript where
  templates := none
  renders := .always (.ok true)
  renderDelays := .always 0
  applies := .always (.ok ())
  applyDelays := .always 0
  updates := .always (.ok ())
  inspection := .ok ()
  plan := ⟨true, "1 to add", ""⟩
  ignoresCancel := false
  hooks := []

instance : Inhabited BackendScript := ⟨.plain⟩

/-- A backend is told apart by the name of its task and its place among the backends made for
that name. -/
structure Label where
  task : String
  serial : Nat
  deriving DecidableEq, Inhabited

def Label.text (l : Label) : String := l.task ++ "#" ++ toString l.serial

/-- A backend in use: its script is what is left of it. -/
structure Backend where
  label : Label
  task : Task
  script : BackendScript
  /-- The calls so far, the last one first. -/
  calls : List CallKind
  deriving Inhabited

namespace Backend

def new (label : Label) (task : Task) (script : BackendScript) : Backend :=
  ⟨label, task, script, []⟩

/-- The templates of the task. -/
def templates (b : Backend) : List String :=
  b.script.templates.getD ["tmpl-" ++ b.label.task]

def setEnabled (b : Backend) (enabled : Bool) : Backend :=
  { b with task := { b.task with enabled } }

/-- How often a kind of call was made. -/
def count (b : Backend) (kind : CallKind) : Nat := b.calls.count kind

/-- Notes a call; the actions are those that its hooks ask for. -/
def note (b : Backend) (kind : CallKind) : List Action × Backend :=
  let b := { b with calls := kind :: b.calls }
  let n := b.count kind
  ((b.script.hooks.filter fun h => h.kind = kind && h.nth = n).flatMap (·.actions), b)

end Backend

end TaskSync
