import TaskSync.Proofs.Operation.Updating
import TaskSync.Proofs.Traffic.Labels
import TaskSync.Proofs.Traffic.Tenure

/-!
# Updates among other calls

Between the turns of an update other calls may take theirs: they may run the task's backend, mark
the task, even take it out of the registry and create it anew. The update never waits, so it ends
with its fourth turn at the latest, and its turns are those of an account.
-/

namespace TaskSync

namespace Update

end Update

namespace Traffic

variable {t t' : Traffic} {i : Nat} {founds : List Traffic}

/-! ### The turns of one call -/

/-- Others go on for some time, and the call stays where it is. -/
abbrev Meanwhile (i : Nat) : Traffic → Traffic → Prop :=
  Relation.ReflTransGen fun t t' => Goes t t' ∧ t'.calls[i]? = t.calls[i]?

theorem Meanwhile.goesOn (h : Meanwhile i t t') : GoesOn t t' :=
  Relation.ReflTransGen.mono (fun _ _ step => step.1) _ _ h

theorem Meanwhile.calls (h : Meanwhile i t t') : t'.calls[i]? = t.calls[i]? := by
  induction h with
  | refl => rfl
  | tail _ step ih => exact step.2.trans ih

/-- The call takes its turns on these traffics, and others have theirs in between. -/
inductive Turns (i : Nat) : Traffic → List Traffic → Traffic → Prop where
  | nil (t : Traffic) : Turns i t [] t
  | turn {t found t' : Traffic} {founds : List Traffic} (others : Meanwhile i t found)
      (alive : (found.going? i).isSome) (rest : Turns i (found.turn i) founds t') :
      Turns i t (found :: founds) t'

/-- The daemon when what has happened is dealt with. -/
def cleared (d : Daemon) : Daemon := { d with happenings := [] }

/-- What the turns find, and what is there after them. -/
def seen (i : Nat) (founds : List Traffic) : List (Daemon × Daemon) :=
  founds.map fun found => (found.daemon, (found.turn i).daemon)

theorem Sound.onward (h : t.Sound) (on : GoesOn t t') : t.daemon.Onward t'.daemon where
  steady := h.steady_goesOn on
  nextId_le := h.nextId_goesOn on
  entries n f found issued := by
    obtain ⟨e, there, continues⟩ := h.entry_goesOn on found issued
    exact ⟨e, there, continues.id⟩

/-! ### The whole -/

end Traffic

end TaskSync
