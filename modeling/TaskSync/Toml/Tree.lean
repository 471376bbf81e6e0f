import TaskSync.Data.Value

/-!
# Documents under construction

A document grows table by table. A table that only a longer path has mentioned is implicit and
may still be opened by its own header, once; a table made by a dotted key is closed to headers. A
path through an array of tables leads into its last table.
-/

namespace TaskSync.Toml

/-- A part of a document. -/
inductive Node where
  | value (v : Value)
  | table (implicit dotted : Bool) (entries : List (String × Node))
  /-- An array of tables, as the list of their entries. -/
  | tables (items : List (List (String × Node)))
  deriving Inhabited

/-- A table that can be added to. -/
structure Table where
  implicit : Bool
  dotted : Bool
  entries : List (String × Node)

namespace Table

def empty : Table := ⟨false, false, []⟩

def toNode (t : Table) : Node := .table t.implicit t.dotted t.entries

/-- Sets an entry in its place, or at the end. -/
def set (t : Table) (key : String) (n : Node) : Table :=
  if t.entries.any (·.1 == key) then
    { t with entries := t.entries.map fun e => if e.1 == key then (key, n) else e }
  else { t with entries := t.entries ++ [(key, n)] }

def remove (t : Table) (key : String) : Table :=
  { t with entries := t.entries.filter fun e => e.1 != key }

/-- Changes the table at the end of a path, making the missing tables on the way. A dotted key
may not pass through a table that has been opened. -/
def descend (dotted : Bool) (change : Table → Option Table) :
    List String → Table → Option Table
  | [], t => change t
  | k :: ks, t =>
    match t.entries.lookup k with
    | none => do
      let inner ← descend dotted change ks ⟨true, dotted, []⟩
      some (t.set k inner.toNode)
    | some (.value _) => none
    | some (.tables items) =>
      match items.getLast? with
      | none => none
      | some last => do
        let inner ← descend dotted change ks ⟨false, false, last⟩
        some (t.set k (.tables (items.dropLast ++ [inner.entries])))
    | some (.table implicit wasDotted entries) =>
      if dotted && !implicit then none
      else do
        let inner ← descend dotted change ks ⟨implicit, wasDotted, entries⟩
        some (t.set k inner.toNode)

/-- Adds a value under a key that may be dotted. Dotted keys and headers do not mix. -/
def putValue (t : Table) (path : List String) (key : String) (v : Value) : Option Table :=
  descend (!path.isEmpty)
    (fun inner =>
      if inner.dotted == path.isEmpty || inner.entries.any (·.1 == key) then none
      else some (inner.set key (.value v)))
    path t

end Table

mutual

def Node.toValue : Node → Value
  | .value v => v
  | .table _ _ entries => .table (entriesValue entries)
  | .tables items => .list (itemsValue items)

def entriesValue : List (String × Node) → List (String × Value)
  | [] => []
  | (k, n) :: es => (k, n.toValue) :: entriesValue es

def itemsValue : List (List (String × Node)) → List Value
  | [] => []
  | t :: ts => .table (entriesValue t) :: itemsValue ts

end

/-- The document so far, and the table that lines add to: its path and whether it is an item of
an array of tables. -/
structure Builder where
  root : Table
  current : Table
  path : List String
  isItem : Bool

namespace Builder

def start : Builder := ⟨.empty, .empty, [], false⟩

/-- Puts the current table into the document. -/
def close (b : Builder) : Option Table :=
  match b.path.getLast? with
  | none => some b.current
  | some key =>
    b.root.descend false
      (fun parent =>
        if b.isItem then
          match parent.entries.lookup key with
          | some (.tables items) => some (parent.set key (.tables (items ++ [b.current.entries])))
          | none => some (parent.set key (.tables [b.current.entries]))
          | _ => none
        else some (parent.set key b.current.toNode))
      b.path.dropLast

/-- What stands at the end of a path. -/
def lookup? (root : Table) (path : List String) (key : String) : Option Node :=
  match path with
  | [] => root.entries.lookup key
  | k :: ks =>
    match root.entries.lookup k with
    | some (.table implicit dotted entries) => lookup? ⟨implicit, dotted, entries⟩ ks key
    | some (.tables items) => lookup? ⟨false, false, items.getLast?.getD []⟩ ks key
    | _ => none

/-- Opens the table of a header. An implicit table goes on with what it holds and moves to the
end of its parent. -/
def openTable (b : Builder) (path : List String) : Option Builder := do
  let root ← b.close
  let key ← path.getLast?
  let parents := path.dropLast
  let root ← root.descend false some parents
  match lookup? root parents key with
  | none => some ⟨root, .empty, path, false⟩
  | some (.table true false entries) => do
    let root ← root.descend false (fun parent => some (parent.remove key)) parents
    some ⟨root, ⟨false, false, entries⟩, path, false⟩
  | some _ => none

/-- Opens a new table at the end of an array of tables. -/
def openItem (b : Builder) (path : List String) : Option Builder := do
  let root ← b.close
  let key ← path.getLast?
  let parents := path.dropLast
  let root ← root.descend false some parents
  match lookup? root parents key with
  | none => do
    let root ← root.descend false (fun parent => some (parent.set key (.tables []))) parents
    some ⟨root, .empty, path, true⟩
  | some (.tables _) => some ⟨root, .empty, path, true⟩
  | some _ => none

def addValue (b : Builder) (path : List String) (key : String) (v : Value) : Option Builder := do
  let current ← b.current.putValue path key v
  some { b with current }

end Builder

end TaskSync.Toml
