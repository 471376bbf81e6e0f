import TaskSync.Cron.Unit

/-!
# Schedules

A schedule says for every unit of time which ordinals belong to it. An item of a field is a
range or a single ordinal, perhaps thinned out by a step; a step behind a single ordinal runs on
to the end of the unit.
-/

namespace TaskSync.Cron

/-- Where the ordinals of an item come from. -/
inductive Base where
  | all
  | point (n : Nat)
  | range (first last : Nat)
  | namedRange (first last : List Char)
  deriving DecidableEq

/-- One item of a field's list. -/
inductive Item where
  | plain (base : Base)
  | stepped (base : Base) (step : Nat)
  | named (name : List Char)
  deriving DecidableEq

/-- The ordinals from `first` to `last`. -/
def span (first last : Nat) : List Nat := (List.range (last + 1 - first)).map (first + ·)

/-- Every `step`-th element, beginning with the first. -/
def everyNth (step : Nat) (xs : List Nat) : List Nat :=
  (xs.zipIdx.filter fun e => e.2 % step = 0).map (·.1)

def Unit.inBounds (u : Unit) (n : Nat) : Bool := decide (u.low ≤ n ∧ n ≤ u.high)

def rangeOrdinals? (u : Unit) (first last : Nat) : Option (List Nat) :=
  if u.inBounds first && u.inBounds last && decide (first ≤ last) then some (span first last)
  else none

def Base.ordinals? (u : Unit) : Base → Option (List Nat)
  | all => some (span u.low u.high)
  | point n => if u.inBounds n then some [n] else none
  | range a b => rangeOrdinals? u a b
  | namedRange a b => do rangeOrdinals? u (← u.ordinalOfName? a) (← u.ordinalOfName? b)

/-- The ordinals of an item; `none` if it is out of bounds, backwards or has step zero. -/
def Item.ordinals? (u : Unit) : Item → Option (List Nat)
  | plain base => base.ordinals? u
  | named name => do return [← u.ordinalOfName? name]
  | stepped base step =>
    if step = 0 then none
    else
      match base with
      | .point n => if u.inBounds n then some (everyNth step (span n u.high)) else none
      | base => (base.ordinals? u).map (everyNth step)

/-- The ordinals that some item of a field admits, in ascending order. -/
def fieldOrdinals? (u : Unit) (items : List Item) : Option (List Nat) := do
  let sets ← items.mapM (·.ordinals? u)
  some ((span u.low u.high).filter fun n => sets.any (·.contains n))

/-- The ordinals of every unit, each in ascending order. -/
structure Schedule where
  seconds : List Nat
  minutes : List Nat
  hours : List Nat
  daysOfMonth : List Nat
  months : List Nat
  daysOfWeek : List Nat
  years : List Nat
  deriving DecidableEq

end TaskSync.Cron
