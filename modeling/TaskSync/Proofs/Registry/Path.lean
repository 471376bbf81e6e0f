import Mathlib.Logic.Function.Basic
import TaskSync.Proofs.Registry.Entry

/-!
# What one client does to the registry

A client holds at most one guard. `Path` says how a registry becomes another while the client goes
from one guard, or none, to the next: it marks names, takes a guard with `tryActivate`, gives it
back with `release`, and takes names out. Removal comes in two forms: with the guard of the entry
in hand, and without it, which only the hooks of backends do.

`Exclusive` ties the active flags to the guards in the hands of any number of clients. It is kept
along every path, whatever the other clients hold, so it need not be proved again for each way in
which an operation can come to its end.
-/

namespace TaskSync.Registry

variable {δ ι : Type}

/-- A way from one registry to another, with the client's guard before and after. A guarded removal
takes out a name in `closing`; an unguarded one needs `loose`. -/
inductive Path (loose : Prop) (closing : String → Prop) :
    Option Guard → Registry δ → Option Guard → Registry δ → Prop where
  | refl (g : Option Guard) (r : Registry δ) : Path loose closing g r g r
  | mark {g g' : Option Guard} {r s : Registry δ} (name : String)
      (before : Path loose closing g r g' s) : Path loose closing g r g' (s.mark name)
  | unregister {g g' : Option Guard} {r s t : Registry δ} {name : String} (free : loose)
      (before : Path loose closing g r g' s) (removed : s.delete name = .ok t) :
      Path loose closing g r g' t
  | activate {g : Option Guard} {r s t : Registry δ} {name : String} {x : Guard}
      (before : Path loose closing g r none s) (taken : s.tryActivate name = .ok (some x, t)) :
      Path loose closing g r (some x) t
  | release {g : Option Guard} {r s : Registry δ} {x : Guard}
      (before : Path loose closing g r (some x) s) : Path loose closing g r none (s.release x)
  | remove {g : Option Guard} {r s t : Registry δ} {x : Guard} {name : String} {e : Entry δ}
      (mine : closing name) (before : Path loose closing g r (some x) s)
      (found : s.find? name = some e) (held : x = ⟨e.id⟩) (removed : s.delete name = .ok t) :
      Path loose closing g r (some x) t

namespace Path

variable {loose : Prop} {closing : String → Prop}
variable {g g' g'' : Option Guard} {r s t : Registry δ}

theorem trans (first : Path loose closing g r g' s) (second : Path loose closing g' s g'' t) :
    Path loose closing g r g'' t := by
  induction second with
  | refl => exact first
  | mark name _ ih => exact .mark name (ih first)
  | unregister free _ removed ih => exact .unregister free (ih first) removed
  | activate _ taken ih => exact .activate (ih first) taken
  | release _ ih => exact .release (ih first)
  | remove mine _ found held removed ih => exact .remove mine (ih first) found held removed

/-- A client that may do more can go the same way. -/
theorem mono {loose' : Prop} (h : loose → loose') (p : Path loose closing g r g' s) :
    Path loose' closing g r g' s := by
  induction p with
  | refl => exact .refl _ _
  | mark name _ ih => exact .mark name ih
  | unregister free _ removed ih => exact .unregister (h free) ih removed
  | activate _ taken ih => exact .activate ih taken
  | release _ ih => exact .release ih
  | remove mine _ found held removed ih => exact .remove mine ih found held removed

/-- An entry found after a path was there before it, with the same number, runner and templates,
and marks stay. -/
theorem entry_before (p : Path loose closing g r g' s) {name : String} {f : Entry δ}
    (found : s.find? name = some f) :
    ∃ e, r.find? name = some e ∧ f.id = e.id ∧ f.runner = e.runner ∧
      f.templates = e.templates ∧ (e.marked = true → f.marked = true) := by
  induction p generalizing f with
  | refl => exact ⟨f, found, rfl, rfl, rfl, id⟩
  | mark other _ ih =>
      rw [find?_mark] at found
      obtain ⟨f', found', rfl⟩ := Option.map_eq_some_iff.mp found
      obtain ⟨e, there, number, runner, templates, marked⟩ := ih found'
      exact ⟨e, there, number, runner, templates, fun h => by simp [marked h]⟩
  | unregister _ _ removed ih =>
      rw [find?_delete removed] at found
      split at found
      · cases found
      · exact ih found
  | activate _ taken ih =>
      obtain ⟨_, _, _, _, rfl⟩ := tryActivate_eq_some taken
      rw [find?_activate] at found
      obtain ⟨f', found', rfl⟩ := Option.map_eq_some_iff.mp found
      obtain ⟨e, there, same⟩ := ih found'
      exact ⟨e, there, same⟩
  | release _ ih =>
      rw [find?_release] at found
      obtain ⟨f', found', rfl⟩ := Option.map_eq_some_iff.mp found
      obtain ⟨e, there, same⟩ := ih found'
      exact ⟨e, there, same⟩
  | remove _ _ _ _ removed ih =>
      rw [find?_delete removed] at found
      split at found
      · cases found
      · exact ih found

/-- An entry whose name is not to be closed stays where it is. -/
theorem entry_after (p : Path loose closing g r g' s) (tight : ¬ loose) {name : String}
    (kept : ¬ closing name) {e : Entry δ} (found : r.find? name = some e) :
    ∃ f, s.find? name = some f ∧ f.id = e.id := by
  induction p with
  | refl => exact ⟨e, found, rfl⟩
  | mark other _ ih =>
      obtain ⟨f, there, same⟩ := ih found
      rw [find?_mark, there]
      exact ⟨_, rfl, same⟩
  | unregister free _ _ _ => exact absurd free tight
  | activate _ taken ih =>
      obtain ⟨_, _, _, _, rfl⟩ := tryActivate_eq_some taken
      obtain ⟨f, there, same⟩ := ih found
      rw [find?_activate, there]
      exact ⟨_, rfl, same⟩
  | release _ ih =>
      obtain ⟨f, there, same⟩ := ih found
      rw [find?_release, there]
      exact ⟨_, rfl, same⟩
  | remove mine _ _ _ removed ih =>
      rename_i other _ _ _ _
      obtain ⟨f, there, same⟩ := ih found
      have apart : name ≠ other := by
        rintro rfl
        exact kept mine
      exact ⟨f, by rw [find?_delete removed, if_neg apart]; exact there, same⟩

theorem indexed (p : Path loose closing g r g' s) (hr : r.Indexed) : s.Indexed := by
  induction p with
  | refl => exact hr
  | mark _ _ ih => exact (ih hr).update fun _ => rfl
  | unregister _ _ removed ih => exact (ih hr).delete removed
  | activate _ taken ih =>
      obtain ⟨_, _, _, _, rfl⟩ := tryActivate_eq_some taken
      exact (ih hr).update fun _ => rfl
  | release _ ih => exact (ih hr).update fun _ => rfl
  | remove _ _ _ _ removed ih => exact (ih hr).delete removed

end Path

/-! ### Guards and flags -/

/-- Entries have numbers of their own, no two clients hold the same guard, and an entry is active
exactly when some client holds its guard. -/
structure Exclusive (r : Registry δ) (held : ι → Option Guard) : Prop where
  apart : ∀ n m e f, r.find? n = some e → r.find? m = some f → e.id = f.id → n = m
  issued : ∀ n e, r.find? n = some e → e.id < r.nextId
  old : ∀ i g, held i = some g → g.entry < r.nextId
  once : ∀ i j g, held i = some g → held j = some g → i = j
  flag : ∀ n e, r.find? n = some e → (e.active = true ↔ ∃ i, held i = some ⟨e.id⟩)

/-- Nobody holds anything, and nothing is active. -/
structure Idle (r : Registry δ) : Prop where
  apart : ∀ n m e f, r.find? n = some e → r.find? m = some f → e.id = f.id → n = m
  issued : ∀ n e, r.find? n = some e → e.id < r.nextId
  inactive : ∀ n e, r.find? n = some e → e.active = false

theorem Idle.exclusive {r : Registry δ} (h : r.Idle) : r.Exclusive fun _ : ι => none where
  apart := h.apart
  issued := h.issued
  old := by simp
  once := by simp
  flag n e found := by simp [h.inactive n e found]

theorem idle_of_no_entry {r : Registry δ} (h : ∀ n, r.find? n = none) : r.Idle where
  apart n m e f found := by simp [h n] at found
  issued n e found := by simp [h n] at found
  inactive n e found := by simp [h n] at found

namespace Exclusive

variable {r s : Registry δ} {held : ι → Option Guard} {name : String}

/-- Clients keep their guards when entries go, or change in what is not their flag. -/
theorem of_entries (h : r.Exclusive held) (nextId : s.nextId = r.nextId)
    (kept : ∀ n f, s.find? n = some f →
      ∃ e, r.find? n = some e ∧ f.id = e.id ∧ f.active = e.active) :
    s.Exclusive held where
  apart n m e f hn hm same := by
    obtain ⟨e', hn', ide, _⟩ := kept n e hn
    obtain ⟨f', hm', idf, _⟩ := kept m f hm
    exact h.apart n m e' f' hn' hm' (ide ▸ idf ▸ same)
  issued n e hn := by
    obtain ⟨e', hn', ide, _⟩ := kept n e hn
    rw [ide, nextId]
    exact h.issued n e' hn'
  old i g hi := nextId ▸ h.old i g hi
  once := h.once
  flag n e hn := by
    obtain ⟨e', hn', ide, active⟩ := kept n e hn
    rw [ide, active]
    exact h.flag n e' hn'

theorem mark (h : r.Exclusive held) : (r.mark name).Exclusive held := by
  refine h.of_entries rfl fun n f found => ?_
  rw [find?_mark] at found
  obtain ⟨e, there, rfl⟩ := Option.map_eq_some_iff.mp found
  exact ⟨e, there, rfl, rfl⟩

theorem delete (h : r.Exclusive held) (removed : r.delete name = .ok s) : s.Exclusive held := by
  refine h.of_entries (nextId_delete removed) fun n f found => ?_
  rw [find?_delete removed] at found
  split at found
  · cases found
  · exact ⟨f, found, rfl, rfl⟩

theorem add {b : δ} {ids : List String} (h : r.Exclusive held)
    (added : r.add name b ids = .ok s) : s.Exclusive held where
  apart n m e f hn hm same := by
    rw [find?_add added] at hn hm
    split at hn <;> split at hm
    next en em => exact en.trans em.symm
    next en em =>
      cases hn
      exact absurd (h.issued m f hm) (by simp [← same])
    next en em =>
      cases hm
      exact absurd (h.issued n e hn) (by simp [same])
    next en em => exact h.apart n m e f hn hm same
  issued n e hn := by
    rw [nextId_add added]
    rw [find?_add added] at hn
    split at hn
    · cases hn
      exact Nat.lt_succ_self _
    · exact Nat.lt_succ_of_lt (h.issued n e hn)
  old i g hi := by
    rw [nextId_add added]
    exact Nat.lt_succ_of_lt (h.old i g hi)
  once := h.once
  flag n e hn := by
    rw [find?_add added] at hn
    split at hn
    · cases hn
      -- the number is fresh, so no guard of it is out
      constructor
      · intro active
        cases active
      · rintro ⟨i, hi⟩
        exact absurd (h.old i _ hi) (Nat.lt_irrefl _)
    · exact h.flag n e hn

variable [DecidableEq ι]

theorem activate {i : ι} {x : Guard} (h : r.Exclusive (Function.update held i none))
    (taken : r.tryActivate name = .ok (some x, s)) :
    s.Exclusive (Function.update held i (some x)) := by
  obtain ⟨e, found, inactive, rfl, rfl⟩ := tryActivate_eq_some taken
  have unheld : ∀ j, Function.update held i none j ≠ some ⟨e.id⟩ := by
    intro j hj
    have active := (h.flag name e found).mpr ⟨j, hj⟩
    rw [inactive] at active
    cases active
  have others : ∀ j, j ≠ i →
      Function.update held i (some ⟨e.id⟩) j = Function.update held i none j := by
    intro j hj
    rw [Function.update_of_ne hj, Function.update_of_ne hj]
  have mine : Function.update held i (some (⟨e.id⟩ : Guard)) i = some ⟨e.id⟩ :=
    Function.update_self i _ held
  refine ⟨?_, ?_, ?_, ?_, ?_⟩
  · intro n m f f' hn hm same
    rw [find?_activate] at hn hm
    obtain ⟨g, hg, rfl⟩ := Option.map_eq_some_iff.mp hn
    obtain ⟨g', hg', rfl⟩ := Option.map_eq_some_iff.mp hm
    exact h.apart n m g g' hg hg' same
  · intro n f hn
    rw [find?_activate] at hn
    obtain ⟨g, hg, rfl⟩ := Option.map_eq_some_iff.mp hn
    exact h.issued n g hg
  · intro j y hj
    by_cases e' : j = i
    · subst e'
      rw [mine] at hj
      cases hj
      exact h.issued name e found
    · rw [others j e'] at hj
      exact h.old j y hj
  · intro j k y hj hk
    by_cases ej : j = i <;> by_cases ek : k = i
    · exact ej.trans ek.symm
    · subst ej
      rw [mine] at hj
      cases hj
      exact absurd (others k ek ▸ hk) (unheld k)
    · subst ek
      rw [mine] at hk
      cases hk
      exact absurd (others j ej ▸ hj) (unheld j)
    · exact h.once j k y (others j ej ▸ hj) (others k ek ▸ hk)
  · intro n f hn
    rw [find?_activate] at hn
    obtain ⟨g, hg, rfl⟩ := Option.map_eq_some_iff.mp hn
    by_cases same : n = name
    · subst same
      rw [found] at hg
      cases hg
      simpa using ⟨i, mine⟩
    · have apart : g.id ≠ e.id := fun same' => same (h.apart n name g e hg found same')
      have flag := h.flag n g hg
      constructor
      · intro active
        obtain ⟨j, hj⟩ := flag.mp (by simpa [same] using active)
        have ej : j ≠ i := by
          rintro rfl
          rw [Function.update_self] at hj
          cases hj
        exact ⟨j, (others j ej).trans hj⟩
      · rintro ⟨j, hj⟩
        have ej : j ≠ i := by
          rintro rfl
          rw [mine] at hj
          exact apart (by simpa using hj.symm)
        have active := flag.mpr ⟨j, (others j ej).symm.trans hj⟩
        simp [active]

theorem release {i : ι} {x : Guard} (h : r.Exclusive (Function.update held i (some x))) :
    (r.release x).Exclusive (Function.update held i none) := by
  have mine : Function.update held i (some x) i = some x := Function.update_self i _ held
  have others : ∀ j, j ≠ i →
      Function.update held i none j = Function.update held i (some x) j := by
    intro j hj
    rw [Function.update_of_ne hj, Function.update_of_ne hj]
  have away : ∀ j y, Function.update held i none j = some y →
      j ≠ i ∧ Function.update held i (some x) j = some y := by
    intro j y hj
    have ej : j ≠ i := by
      rintro rfl
      rw [Function.update_self] at hj
      cases hj
    exact ⟨ej, others j ej ▸ hj⟩
  refine ⟨?_, ?_, ?_, ?_, ?_⟩
  · intro n m f f' hn hm same
    rw [find?_release] at hn hm
    obtain ⟨g, hg, rfl⟩ := Option.map_eq_some_iff.mp hn
    obtain ⟨g', hg', rfl⟩ := Option.map_eq_some_iff.mp hm
    exact h.apart n m g g' hg hg' same
  · intro n f hn
    rw [find?_release] at hn
    obtain ⟨g, hg, rfl⟩ := Option.map_eq_some_iff.mp hn
    exact h.issued n g hg
  · intro j y hj
    exact h.old j y (away j y hj).2
  · intro j k y hj hk
    exact h.once j k y (away j y hj).2 (away k y hk).2
  · intro n f hn
    rw [find?_release] at hn
    obtain ⟨g, hg, rfl⟩ := Option.map_eq_some_iff.mp hn
    have flag := h.flag n g hg
    by_cases same : g.id = x.entry
    · -- the guard that was given back was the only one
      have unheld : ∀ j, Function.update held i none j ≠ some ⟨g.id⟩ := by
        intro j hj
        obtain ⟨ej, hj'⟩ := away j _ hj
        have : (⟨g.id⟩ : Guard) = x := by simp [same]
        exact ej (h.once j i x (this ▸ hj') mine)
      simpa [same] using fun j => same ▸ unheld j
    · have kept : (∃ j, Function.update held i none j = some ⟨g.id⟩) ↔
          ∃ j, Function.update held i (some x) j = some ⟨g.id⟩ := by
        constructor
        · rintro ⟨j, hj⟩
          exact ⟨j, (away j _ hj).2⟩
        · rintro ⟨j, hj⟩
          have ej : j ≠ i := by
            rintro rfl
            rw [mine] at hj
            cases hj
            exact same rfl
          exact ⟨j, (others j ej).trans hj⟩
      simpa [same, kept] using flag

/-- Whatever a client does on its way, flags and guards go on to agree. -/
theorem path {loose : Prop} {closing : String → Prop} {g g' : Option Guard} {i : ι}
    (h : r.Exclusive (Function.update held i g)) (p : Path loose closing g r g' s) :
    s.Exclusive (Function.update held i g') := by
  induction p with
  | refl => exact h
  | mark _ _ ih => exact (ih h).mark
  | unregister _ _ removed ih => exact (ih h).delete removed
  | activate _ taken ih => exact (ih h).activate taken
  | release _ ih => exact (ih h).release
  | remove _ _ _ _ removed ih => exact (ih h).delete removed

/-- While a client holds the guard of an entry, nobody else takes the entry out. -/
theorem entry_after {loose : Prop} {closing : String → Prop} {g g' : Option Guard} {i j : ι}
    (h : r.Exclusive (Function.update held i g)) (p : Path loose closing g r g' s)
    (tight : ¬ loose) (apart : j ≠ i) {e : Entry δ} (found : r.find? name = some e)
    (hj : held j = some ⟨e.id⟩) : ∃ f, s.find? name = some f ∧ f.id = e.id := by
  induction p with
  | refl => exact ⟨e, found, rfl⟩
  | mark other _ ih =>
      obtain ⟨f, there, same⟩ := ih h found
      rw [find?_mark, there]
      exact ⟨_, rfl, same⟩
  | unregister free _ _ _ => exact absurd free tight
  | activate _ taken ih =>
      obtain ⟨_, _, _, _, rfl⟩ := tryActivate_eq_some taken
      obtain ⟨f, there, same⟩ := ih h found
      rw [find?_activate, there]
      exact ⟨_, rfl, same⟩
  | release _ ih =>
      obtain ⟨f, there, same⟩ := ih h found
      rw [find?_release, there]
      exact ⟨_, rfl, same⟩
  | remove _ before taken own removed ih =>
      rename_i x other e' _
      obtain ⟨f, there, same⟩ := ih h found
      have away : name ≠ other := by
        rintro rfl
        rw [taken] at there
        cases there
        -- both would hold the guard of the entry
        have mine : Function.update held i (some x) i = some x := Function.update_self i _ held
        have yours : Function.update held i (some x) j = some x := by
          rw [Function.update_of_ne apart, hj, own, same]
        exact apart ((h.path before).once j i x yours mine)
      exact ⟨f, by rw [find?_delete removed, if_neg away]; exact there, same⟩

end Exclusive

end TaskSync.Registry
