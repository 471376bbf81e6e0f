/-!
# Paths

A path is a text that is read as components between slashes. Paths are equal when their
components are: repeated and trailing slashes do not count, nor does a dot anywhere but in front.
-/

namespace TaskSync

/-- A path as written. -/
structure Path where
  text : String
  deriving Inhabited

namespace Path

/-- A part of a path. -/
inductive Component where
  | root
  | current
  | parent
  | normal (name : List Char)
  deriving DecidableEq

/-- The texts between slashes; one more than there are slashes. -/
def splitSlash : List Char → List (List Char)
  | [] => [[]]
  | c :: cs =>
    if c = '/' then [] :: splitSlash cs
    else
      match splitSlash cs with
      | [] => [[c]]
      | part :: parts => (c :: part) :: parts

/-- The component of a text between slashes; empty texts and dots are none. -/
def component? (part : List Char) : Option Component :=
  if part = [] ∨ part = ['.'] then none
  else if part = ['.', '.'] then some .parent
  else some (.normal part)

def componentsOf (cs : List Char) : List Component :=
  let parts := splitSlash cs
  let front := match cs with
    | '/' :: _ => [Component.root]
    | _ => if parts.head? = some ['.'] then [Component.current] else []
  front ++ parts.filterMap component?

/-- The components, a root or a leading dot first. -/
def components (p : Path) : List Component := componentsOf p.text.toList

/-- Paths are the same when their components are. -/
instance : BEq Path := ⟨fun p q => p.components == q.components⟩

def isAbsolute (cs : List Char) : Bool := cs.head? == some '/'

/-- A path followed by another one; an absolute path stands for itself. -/
def join (p : Path) (q : String) : Path :=
  let ps := p.text.toList
  let qs := q.toList
  if isAbsolute qs then ⟨q⟩
  else if ps = [] ∨ ps.getLast? = some '/' then ⟨String.ofList (ps ++ qs)⟩
  else ⟨String.ofList (ps ++ '/' :: qs)⟩

end Path

end TaskSync
