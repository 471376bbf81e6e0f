/-!
# Mailboxes

A mailbox keeps names in the order in which they came, up to its capacity. What does not fit is
turned away.
-/

namespace TaskSync

structure Mailbox where
  capacity : Nat
  items : List String

namespace Mailbox

def empty (capacity : Nat) : Mailbox := ⟨capacity, []⟩

def isFull (m : Mailbox) : Bool := decide (m.capacity ≤ m.items.length)

/-- Puts a name in at the end, unless the mailbox is full. -/
def offer? (m : Mailbox) (item : String) : Option Mailbox :=
  if m.isFull then none else some { m with items := m.items ++ [item] }

/-- Takes the first name. -/
def take? (m : Mailbox) : Option (String × Mailbox) :=
  match m.items with
  | [] => none
  | x :: xs => some (x, { m with items := xs })

end Mailbox

end TaskSync
