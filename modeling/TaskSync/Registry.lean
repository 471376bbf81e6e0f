import TaskSync.Failure
import TaskSync.Data.SortedMap

/-!
# The registry

The tasks that exist, each with what runs it, and which task each template belongs to. A task is
active while someone holds its guard. A guard belongs to the entry it was taken from, not to the
name, so a guard left over from a deleted task never touches a new task of that name. A mark for
deletion stays.
-/

namespace TaskSync

/-- A registered task. Entries are told apart by their number. -/
structure Entry (δ : Type) where
  id : Nat
  runner : δ
  templates : List String
  active : Bool
  marked : Bool

structure Registry (δ : Type) where
  tasks : SortedMap (Entry δ)
  /-- The task that each template belongs to. -/
  templates : SortedMap String
  nextId : Nat

/-- The right to use an entry: its number. -/
structure Guard where
  entry : Nat
  deriving DecidableEq

namespace Registry

variable {δ : Type}

def empty : Registry δ := ⟨[], [], 0⟩

instance : Inhabited (Registry δ) := ⟨empty⟩

def find? (r : Registry δ) (name : String) : Option (Entry δ) := r.tasks.get? name

def get? (r : Registry δ) (name : String) : Option δ := (r.find? name).map (·.runner)

def contains (r : Registry δ) (name : String) : Bool := (r.find? name).isSome

/-- Registered names in order. -/
def names (r : Registry δ) : List String := r.tasks.keys

def size (r : Registry δ) : Nat := r.tasks.length

/-- Points templates to a task; the last one to claim a template owns it. -/
def claim (name : String) (ids : List String) (index : SortedMap String) : SortedMap String :=
  ids.foldl (fun m id => m.put id name) index

/-- Takes out the templates that point to a task. -/
def disclaim (name : String) (ids : List String) (index : SortedMap String) : SortedMap String :=
  ids.foldl (fun m id => if m.get? id = some name then m.erase id else m) index

/-- Registers a task; a name that is taken stays with its owner. -/
def add (r : Registry δ) (name : String) (runner : δ) (templates : List String) :
    Except Failure (Registry δ) :=
  if r.contains name then .error (.alreadyExists name)
  else .ok {
    tasks := r.tasks.put name ⟨r.nextId, runner, templates, false, false⟩
    templates := claim name templates r.templates
    nextId := r.nextId + 1 }

def delete (r : Registry δ) (name : String) : Except Failure (Registry δ) :=
  match r.find? name with
  | none => .error (.notFound name)
  | some e => .ok {
      r with
      tasks := r.tasks.erase name
      templates := disclaim name e.templates r.templates }

/-- Changes the entries that satisfy a test. -/
def update (r : Registry δ) (test : String → Entry δ → Bool) (change : Entry δ → Entry δ) :
    Registry δ :=
  { r with tasks := r.tasks.map fun e => if test e.1 e.2 then (e.1, change e.2) else e }

def isActive (r : Registry δ) (name : String) : Bool := (r.find? name).any (·.active)

/-- Takes the guard of a task, unless someone holds it. -/
def tryActivate (r : Registry δ) (name : String) :
    Except Failure (Option Guard × Registry δ) :=
  match r.find? name with
  | none => .error (.notFound name)
  | some e =>
    if e.active then .ok (none, r)
    else .ok (some ⟨e.id⟩, r.update (fun n _ => n == name) fun e => { e with active := true })

/-- Gives a guard back. -/
def release (r : Registry δ) (g : Guard) : Registry δ :=
  r.update (fun _ e => e.id == g.entry) fun e => { e with active := false }

def isMarked (r : Registry δ) (name : String) : Bool := (r.find? name).any (·.marked)

/-- Marks a task for deletion; names that are not registered are passed over. -/
def mark (r : Registry δ) (name : String) : Registry δ :=
  r.update (fun n _ => n == name) fun e => { e with marked := true }

/-- What runs the task that a template belongs to. -/
def getByTemplate? (r : Registry δ) (id : String) : Option δ :=
  (r.templates.get? id).bind r.get?

/-- Forgets all tasks and templates. -/
def reset (r : Registry δ) : Registry δ := { r with tasks := [], templates := [] }

/-- The names of the tasks whose runner satisfies a test, in order. -/
def namesWhere (r : Registry δ) (test : δ → Bool) : List String :=
  (r.tasks.filter fun e => test e.2.runner).map (·.1)

end Registry

end TaskSync
