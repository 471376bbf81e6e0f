import TaskSync.Data.SortedMap

/-!
# Cancellation tokens

A token is canceled once and for good. A child is canceled with its parent, and is canceled from
the start when its parent was. Tokens that are spoken of from outside have names; a name stands
for a fresh token when it is first used.
-/

namespace TaskSync

/-- A token: its place among all tokens. -/
structure Token where
  place : Nat
  deriving DecidableEq, Inhabited

/-- A parent has a smaller place than its children. -/
structure TokenState where
  parent : Option Token
  canceled : Bool

structure Tokens where
  states : List TokenState
  names : SortedMap Token

namespace Tokens

def empty : Tokens := ⟨[], []⟩

def isCanceled (ts : Tokens) (t : Token) : Bool := (ts.states[t.place]?).any (·.canceled)

def push (ts : Tokens) (s : TokenState) : Token × Tokens :=
  (⟨ts.states.length⟩, { ts with states := ts.states ++ [s] })

/-- A token without a parent. -/
def fresh (ts : Tokens) : Token × Tokens := ts.push ⟨none, false⟩

def child (ts : Tokens) (parent : Token) : Token × Tokens :=
  ts.push ⟨some parent, ts.isCanceled parent⟩

/-- The token of a name. -/
def named (ts : Tokens) (name : String) : Token × Tokens :=
  match ts.names.get? name with
  | some t => (t, ts)
  | none =>
    let (t, ts) := ts.fresh
    (t, { ts with names := ts.names.put name t })

/-- A token and all below it, the latest first. -/
def family (ts : Tokens) (t : Token) : List Token :=
  ts.states.zipIdx.foldl
    (fun found (s, i) =>
      if s.parent.any found.contains then ⟨i⟩ :: found else found)
    [t]

/-- Cancels a token and all below it. The list holds those that were not canceled before, each
behind its children. -/
def cancel (ts : Tokens) (t : Token) : List Token × Tokens :=
  let family := ts.family t
  (family.filter fun u => !ts.isCanceled u,
    { ts with states := ts.states.zipIdx.map fun (s, i) =>
        if family.contains ⟨i⟩ then { s with canceled := true } else s })

end Tokens

end TaskSync
