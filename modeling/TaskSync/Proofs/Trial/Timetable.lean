import TaskSync.Daemon.Create

/-!
# When a backend renders

A backend renders again and again, with a pause after every answer that it is not complete. So its
script settles when each rendering begins and when it ends, and which of them is the first to
decide whether the backend is used. Renderings are counted from zero, and times from the beginning
of the first one.

Nothing is begun after a minute, and a pause takes a good part of a second. So a script, whose
answers are the same from some point on, can stand for any sequence of answers.
-/

namespace TaskSync

namespace Script

variable {α : Type}

/-- The answer to the n-th question. -/
def nth (s : Script α) (n : Nat) : α := s.first.getD n s.after

/-- What is left after so many answers. -/
def rest (s : Script α) (n : Nat) : Script α := { s with first := s.first.drop n }

theorem next_rest (s : Script α) (n : Nat) : (s.rest n).next = (s.nth n, s.rest (n + 1)) := by
  unfold next rest nth
  rw [← List.tail_drop]
  cases left : s.first.drop n with
  | nil =>
      have past : s.first[n]? = none := List.getElem?_eq_none (List.drop_eq_nil_iff.mp left)
      rw [List.getD_eq_getElem?_getD, past]
      rfl
  | cons x xs =>
      have here : s.first[n]? = some x := by
        rw [← List.head?_drop, left]
        rfl
      rw [List.getD_eq_getElem?_getD, here]
      rfl

end Script

namespace Creation

section

variable (s : BackendScript)

/-- When the n-th rendering begins, if every one before was incomplete. -/
def begun : Nat → Nat
  | 0 => 0
  | n + 1 => begun n + s.renderDelays.nth n + pause

/-- When the n-th rendering ends. -/
def completed (n : Nat) : Nat := begun s n + s.renderDelays.nth n

/-- The n-th rendering is the first one that is not incomplete, and it ends in time. -/
structure Decides (n : Nat) : Prop where
  before : ∀ i < n, s.renders.nth i = .ok false
  answer : s.renders.nth n ≠ .ok false
  early : completed s n < timeout

end

variable {s : BackendScript} {m n : Nat}

theorem begun_succ (s : BackendScript) (n : Nat) : begun s (n + 1) = completed s n + pause := rfl

theorem begun_le_completed (s : BackendScript) (n : Nat) : begun s n ≤ completed s n :=
  Nat.le_add_right _ _

theorem begun_mono (h : m ≤ n) : begun s m ≤ begun s n := by
  induction h with
  | refl => exact Nat.le_refl _
  | step _ ih =>
      refine Nat.le_trans ih ?_
      rw [Nat.succ_eq_add_one, begun_succ]
      exact Nat.le_trans (begun_le_completed s _) (Nat.le_add_right _ _)

/-- A rendering ends before the next one begins. -/
theorem completed_lt_begun (h : m < n) : completed s m < begun s n := by
  refine Nat.lt_of_lt_of_le ?_ (begun_mono h)
  rw [begun_succ]
  exact Nat.lt_add_of_pos_right (by decide)

theorem Decides.le (h : Decides s n) (before : ∀ i < m, s.renders.nth i = .ok false) : m ≤ n :=
  Nat.le_of_not_lt fun less => h.answer (before n less)

theorem Decides.unique (h : Decides s m) (h' : Decides s n) : m = n :=
  Nat.le_antisymm (h'.le h.before) (h.le h'.before)

/-- Once the time is up before the n-th rendering has ended, no rendering decides. -/
theorem not_decides (before : ∀ i < n, s.renders.nth i = .ok false)
    (late : timeout ≤ completed s n) (m : Nat) : ¬ Decides s m := by
  intro h
  have later : completed s n ≤ completed s m := by
    rcases Nat.eq_or_lt_of_le (h.le before) with same | less
    · exact Nat.le_of_eq (congrArg _ same)
    · exact Nat.le_trans (Nat.le_of_lt (completed_lt_begun less)) (begun_le_completed s m)
  have early := h.early
  omega

end Creation

end TaskSync
