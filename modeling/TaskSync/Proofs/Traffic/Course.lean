import TaskSync.Proofs.Run.Course
import TaskSync.Proofs.Traffic.Faithful

/-!
# Runs among other calls

A run that takes its turns among other calls has a course: the daemons that its turns find are
those that the other calls and time have left there. So what holds of all courses holds of all runs,
whatever goes on beside them.
-/

namespace TaskSync.Traffic

/-- The traffic after so many turns of a call, with events in front of each. -/
def afterTurns (t : Traffic) (i : Nat) (between : Nat → List Event) : Nat → Traffic
  | 0 => t
  | n + 1 => ((t.afterTurns i between n).run (between n)).turn i

/-- What the turns of a call find. -/
def finds (t : Traffic) (i : Nat) (between : Nat → List Event) (n : Nat) : Daemon :=
  ((t.afterTurns i between n).run (between n)).daemon

variable {t : Traffic} {i : Nat} {between : Nat → List Event}

/-- A call stays as it is as long as it takes no turn. -/
theorem calls_run {c : Call} (there : t.calls[i]? = some c) {events : List Event}
    (apart : ∀ e ∈ events, e ≠ .turn i) : (t.run events).calls[i]? = some c := by
  induction events generalizing t with
  | nil => exact there
  | cons e events ih =>
      refine ih ?_ fun e' member => apart e' (List.mem_cons_of_mem e member)
      have inside := (List.getElem?_eq_some_iff.mp there).1
      cases e with
      | turn j =>
          have other : i ≠ j := fun same => apart _ List.mem_cons_self (same ▸ rfl)
          cases going : t.going? j with
          | none =>
              rw [step_idle going]
              exact there
          | some o =>
              show (t.turn j).calls[i]? = some c
              rw [turn_eq_take going, calls_take_other other inside]
              exact there
      | call q => exact (List.getElem?_append_left inside).trans there
      | start | requestDeletion | cancel | listen | trigger | pass | wall => exact there

/-- How a call stands whose run has come to a stage. -/
def callOf (token : Token) : Run.Stage → Call
  | .going p => .going (.run token p)
  | .ended r => .ended (r.map fun _ => .done)

/-- A run among other calls follows the course of what its turns find. -/
theorem afterTurns_course {token : Token} {task : String}
    (begun : t.calls[i]? = some (callOf token (.going (.start task))))
    (apart : ∀ n, ∀ e ∈ between n, e ≠ .turn i) (n : Nat) :
    (t.afterTurns i between n).calls[i]? =
      some (callOf token (Run.course token task (t.finds i between) n).stage) := by
  induction n with
  | zero => exact begun
  | succ n ih =>
      have there := calls_run ih (apart n)
      show (((t.afterTurns i between n).run (between n)).turn i).calls[i]? = _
      cases stage : (Run.course token task (t.finds i between) n).stage with
      | ended r =>
          rw [stage] at there
          rw [Run.course_ended stage, stage, turn_idle]
          · exact there
          · rw [going?, there]
            rfl
      | going p =>
          rw [stage] at there
          have going := going?_eq_some.mpr there
          rw [turn_eq_take going, calls_take_self going, Run.course_going stage]
          rw [show (Operation.run token p).turn ((t.afterTurns i between n).run (between n)).daemon =
            Operation.lift (.run token) (·.map fun _ => .done)
              (Run.turn token p (t.finds i between n)) from rfl]
          obtain ⟨p' | on | r, d⟩ := Run.turn token p (t.finds i between n)
          · rfl
          · rfl
          · rfl

end TaskSync.Traffic
