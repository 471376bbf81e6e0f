/-!
# Sorted association lists

A map whose order is part of the data: keys ascend by code point, and putting a key again
replaces its value. Two lists built by `put` from the same associations are equal, so equality of
maps is equality of lists.
-/

namespace TaskSync

/-- Associations in ascending order of the key. -/
abbrev SortedMap (α : Type) := List (String × α)

namespace SortedMap

variable {α β : Type}

/-- Sets a key, in its place. -/
def put (key : String) (value : α) : SortedMap α → SortedMap α
  | [] => [(key, value)]
  | (k, v) :: rest =>
    if key < k then (key, value) :: (k, v) :: rest
    else if key = k then (key, value) :: rest
    else (k, v) :: put key value rest

/-- The map of a list of associations; the last one of a key wins. -/
def ofList (entries : List (String × α)) : SortedMap α :=
  entries.foldl (fun m e => put e.1 e.2 m) []

def get? (key : String) (m : SortedMap α) : Option α :=
  List.lookup key m

/-- Takes a key out. -/
def erase (key : String) (m : SortedMap α) : SortedMap α :=
  m.filter fun e => e.1 != key

def keys (m : SortedMap α) : List String := m.map (·.1)

/-- The same keys with other values. -/
def mapValues (f : α → β) (m : SortedMap α) : SortedMap β :=
  m.map fun e => (e.1, f e.2)

end SortedMap

end TaskSync
