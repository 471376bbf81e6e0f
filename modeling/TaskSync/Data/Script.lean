/-!
# Scripts

A sequence of answers that is settled in advance: some first ones in order, and one that is given
ever after.
-/

namespace TaskSync

structure Script (α : Type) where
  first : List α
  after : α
  deriving Inhabited

namespace Script

variable {α : Type}

/-- The same answer every time. -/
def always (answer : α) : Script α := ⟨[], answer⟩

/-- The next answer, and what is left. -/
def next (s : Script α) : α × Script α :=
  match s.first with
  | [] => (s.after, s)
  | x :: xs => (x, { s with first := xs })

end Script

end TaskSync
