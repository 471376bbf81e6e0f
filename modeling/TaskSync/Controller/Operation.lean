import TaskSync.Controller.Errand
import TaskSync.Controller.Loop
import TaskSync.Daemon.Create
import TaskSync.Daemon.Update

/-!
# Operations

The operations on tasks, and those that a controller has going on the side, as one type: at any
time any operation under way may have the next turn.
-/

namespace TaskSync

inductive Operation where
  | create (token : Token) (goal : Goal) (phase : Creation.Phase)
  | update (phase : Update.Phase)
  | run (token : Token) (phase : Run.Phase)
  | delete (token : Token) (phase : Deletion.Phase)
  | control (token : Token) (phase : Controller.Phase)
  | errand (crew : Place) (errand : Errand)

namespace Operation

/-- What operations answer. -/
inductive Answer where
  | done
  | created (c : Created)
  | plan (p : Plan)

abbrev Result := Except Failure Answer

abbrev Outcome := Turn Operation Result × Daemon

/-- The turn of one kind of operation as that of an operation. -/
def lift {π ρ : Type} (operation : π → Operation) (answer : ρ → Result) :
    Turn π ρ × Daemon → Outcome
  | (.next phase, d) => (.next (operation phase), d)
  | (.wait on, d) => (.wait on, d)
  | (.done r, d) => (.done (answer r), d)

/-- A turn of an operation. -/
def turn : Operation → Daemon → Outcome
  | create token goal phase, d =>
    lift (create token goal) (·.map .created) (Creation.turn token goal phase d)
  | update phase, d => lift update (·.map .plan) (Update.turn phase d)
  | run token phase, d => lift (run token) (·.map fun _ => .done) (Run.turn token phase d)
  | delete token phase, d =>
    lift (delete token) (·.map fun _ => .done) (Deletion.turn token phase d)
  | control token phase, d => lift (control token) .error (Controller.turn token phase d)
  | errand crew e, d => lift (errand crew) (fun _ => .ok .done) (Errand.turn crew e d)

end Operation

end TaskSync
