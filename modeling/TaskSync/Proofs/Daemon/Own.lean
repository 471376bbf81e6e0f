import TaskSync.Proofs.Daemon.Traces

/-!
# What a backend does to the registry

Hooks mark their own task, ask for its deletion or take it out of the registry. They never reach the
entry of another name, and whatever is left of their own keeps its number and its flag.
-/

namespace TaskSync

/-- Only the entry of one name can differ, and where it is still there it is the same entry, as
active as it was. -/
structure Registry.OwnOnly {δ : Type} (task : String) (r s : Registry δ) : Prop where
  others : ∀ n, n ≠ task → s.find? n = r.find? n
  own : ∀ f, s.find? task = some f →
    ∃ e, r.find? task = some e ∧ f.id = e.id ∧ f.active = e.active

namespace Registry.OwnOnly

variable {δ : Type} {task : String} {r s t : Registry δ}

theorem refl (r : Registry δ) : OwnOnly task r r where
  others _ _ := rfl
  own f found := ⟨f, found, rfl, rfl⟩

theorem trans (h : OwnOnly task r s) (h' : OwnOnly task s t) : OwnOnly task r t where
  others n other := (h'.others n other).trans (h.others n other)
  own f found := by
    obtain ⟨e, there, number, active⟩ := h'.own f found
    obtain ⟨e', before, number', active'⟩ := h.own e there
    exact ⟨e', before, number.trans number', active.trans active'⟩

theorem mark (r : Registry δ) (task : String) : OwnOnly task r (r.mark task) where
  others n other := by
    have apart : (n == task) = false := beq_false_of_ne other
    rw [find?_mark]
    cases r.find? n with
    | none => rfl
    | some e => simp only [Option.map_some, apart, Bool.or_false]
  own f found := by
    rw [find?_mark] at found
    obtain ⟨e, there, rfl⟩ := Option.map_eq_some_iff.mp found
    exact ⟨e, there, rfl, rfl⟩

theorem delete (removed : r.delete task = .ok s) : OwnOnly task r s where
  others n other := by rw [find?_delete removed, if_neg other]
  own f found := by
    rw [find?_delete removed, if_pos rfl] at found
    cases found

end Registry.OwnOnly

namespace Daemon

open Registry (OwnOnly)

variable {d : Daemon} {b : Place} {task : String}

end Daemon

end TaskSync
