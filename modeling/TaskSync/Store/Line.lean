/-!
# The line at a table

Who uses a table of the store stands in line for it, and all are served in the order in which they
came. A write has the table for itself; looks that stand one behind the other are served together.
-/

namespace TaskSync

/-- Somebody who has come to a table, to write or only to look. -/
structure Caller where
  number : Nat
  writes : Bool
  deriving DecidableEq

/-- Those who have come to a table and were not served yet, the first one first. -/
structure Line where
  callers : List Caller
  deriving DecidableEq

namespace Line

def empty : Line := ⟨[]⟩

/-- Somebody comes to the end of the line. -/
def join (l : Line) (c : Caller) : Line := ⟨l.callers ++ [c]⟩

/-- Somebody has been served. -/
def leave (l : Line) (number : Nat) : Line := ⟨l.callers.filter (·.number != number)⟩

/-- Whose turn it is: that of the first one or, if that one only looks, of all who look before the
next write. -/
def next (l : Line) : List Nat :=
  match l.callers with
  | [] => []
  | c :: cs =>
    if c.writes then [c.number] else (c :: cs.takeWhile (!·.writes)).map (·.number)

/-- Somebody who stands in line waits for somebody else. -/
def holds (l : Line) (number : Nat) : Bool :=
  l.callers.any (·.number == number) && !l.next.contains number

end Line

end TaskSync
