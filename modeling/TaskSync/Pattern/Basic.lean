import TaskSync.Number.Power

/-!
# Regular expressions

The shape of a regular expression as far as it decides whether the expression is accepted: how
deep it nests, and how large the automaton is that it stands for.
-/

namespace TaskSync

/-- A set of characters: its nesting depth, the size of its automaton in bytes, and, where it is
a set of bytes, its members as a bit mask. -/
structure CharSet where
  depth : Nat
  size : Nat
  mask : Nat

/-- A regular expression. -/
inductive Pattern where
  | empty
  /-- A change of mode, which matches nothing and cannot be repeated. -/
  | mode
  /-- A character of so many bytes. -/
  | literal (bytes : Nat)
  | set (s : CharSet)
  | assertion
  | repeated (p : Pattern) (low : Nat) (high : Option Nat)
  | group (capturing : Bool) (p : Pattern)
  | sequence (ps : List Pattern)
  | choice (ps : List Pattern)

namespace Pattern

/-- Whether a repetition may stand behind the pattern. -/
def isRepeatable : Pattern → Bool
  | empty | mode => false
  | _ => true

/-- Patterns one after the other. -/
def ofSequence : List Pattern → Pattern
  | [] => empty
  | [p] => p
  | ps => sequence ps

/-- Alternatives. -/
def ofChoice : List Pattern → Pattern
  | [p] => p
  | ps => choice ps

mutual

/-- How deep the pattern nests. A set inside brackets counts its brackets. -/
def depth : Pattern → Nat
  | empty | mode | literal _ | assertion => 0
  | set s => s.depth
  | repeated p _ _ => p.depth + 1
  | group _ p => p.depth + 1
  | sequence ps => maxDepth ps + 1
  | choice ps => maxDepth ps + 1

def maxDepth : List Pattern → Nat
  | [] => 0
  | p :: ps => max p.depth (maxDepth ps)

end

/-- An estimate of what one state of an automaton takes. -/
def stateSize : Nat := 32

mutual

/-- The bytes of an automaton for the pattern: one state for each byte of a literal, a copy of
the repeated part for each count, and a state for each branch. -/
def size : Pattern → Nat
  | empty | mode => stateSize
  | assertion => stateSize
  | literal bytes => bytes * stateSize
  | set s => s.size
  | repeated p low none => (max low 1) * p.size + 2 * stateSize
  | repeated p low (some high) =>
    low * p.size + (high - low) * (p.size + stateSize + 8) + stateSize
  | group true p => p.size + 2 * stateSize
  | group false p => p.size
  | sequence ps => totalSize ps
  | choice ps => totalSize ps + 2 * stateSize + 8 * ps.length

def totalSize : List Pattern → Nat
  | [] => 0
  | p :: ps => p.size + totalSize ps

end

/-- The deepest nesting that is accepted. -/
def nestLimit : Nat := 250

/-- The largest automaton that is accepted, in bytes. -/
def sizeLimit : Nat := 10 * 2 ^ 20

def isSmall (p : Pattern) : Bool := decide (p.depth ≤ nestLimit) && decide (p.size ≤ sizeLimit)

end Pattern

end TaskSync
