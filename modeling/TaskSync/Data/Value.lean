import TaskSync.Number.Binary64
import TaskSync.Data.SortedMap

/-!
# Data values

The tree that data texts denote. A table keeps its entries as written, so that a reader of
records can see order and repetition; `canonical` is the view in which keys are sorted and the
last entry of a key wins.
-/

namespace TaskSync

/-- A value of a data text. -/
inductive Value where
  | null
  | boolean (b : Bool)
  | integer (n : Int)
  | float (x : Binary64)
  | text (s : String)
  | list (items : List Value)
  | table (entries : List (String × Value))
  deriving Inhabited

namespace Value

mutual

def decEq : (a b : Value) → Decidable (a = b)
  | null, null => isTrue rfl
  | boolean a, boolean b =>
    if h : a = b then isTrue (h ▸ rfl) else isFalse fun e => h (Value.boolean.inj e)
  | integer a, integer b =>
    if h : a = b then isTrue (h ▸ rfl) else isFalse fun e => h (Value.integer.inj e)
  | float a, float b =>
    if h : a = b then isTrue (h ▸ rfl) else isFalse fun e => h (Value.float.inj e)
  | text a, text b =>
    if h : a = b then isTrue (h ▸ rfl) else isFalse fun e => h (Value.text.inj e)
  | list a, list b =>
    match decEqItems a b with
    | isTrue h => isTrue (h ▸ rfl)
    | isFalse h => isFalse fun e => h (Value.list.inj e)
  | table a, table b =>
    match decEqEntries a b with
    | isTrue h => isTrue (h ▸ rfl)
    | isFalse h => isFalse fun e => h (Value.table.inj e)
  | null, boolean _ | null, integer _ | null, float _ | null, text _ | null, list _
  | null, table _ | boolean _, null | boolean _, integer _ | boolean _, float _
  | boolean _, text _ | boolean _, list _ | boolean _, table _ | integer _, null
  | integer _, boolean _ | integer _, float _ | integer _, text _ | integer _, list _
  | integer _, table _ | float _, null | float _, boolean _ | float _, integer _
  | float _, text _ | float _, list _ | float _, table _ | text _, null | text _, boolean _
  | text _, integer _ | text _, float _ | text _, list _ | text _, table _ | list _, null
  | list _, boolean _ | list _, integer _ | list _, float _ | list _, text _
  | list _, table _ | table _, null | table _, boolean _ | table _, integer _
  | table _, float _ | table _, text _ | table _, list _ => isFalse nofun

def decEqItems : (a b : List Value) → Decidable (a = b)
  | [], [] => isTrue rfl
  | [], _ :: _ | _ :: _, [] => isFalse nofun
  | x :: xs, y :: ys =>
    match decEq x y, decEqItems xs ys with
    | isTrue h, isTrue hs => isTrue (h ▸ hs ▸ rfl)
    | isFalse h, _ => isFalse fun e => h (List.cons.inj e).1
    | _, isFalse hs => isFalse fun e => hs (List.cons.inj e).2

def decEqEntries : (a b : List (String × Value)) → Decidable (a = b)
  | [], [] => isTrue rfl
  | [], _ :: _ | _ :: _, [] => isFalse nofun
  | (k, x) :: xs, (l, y) :: ys =>
    if hk : k = l then
      match decEq x y, decEqEntries xs ys with
      | isTrue h, isTrue hs => isTrue (hk ▸ h ▸ hs ▸ rfl)
      | isFalse h, _ => isFalse fun e => h (Prod.mk.inj (List.cons.inj e).1).2
      | _, isFalse hs => isFalse fun e => hs (List.cons.inj e).2
    else isFalse fun e => hk (Prod.mk.inj (List.cons.inj e).1).1

end

instance : DecidableEq Value := decEq

mutual

/-- Keys sorted, the last entry of a key kept, at every level. -/
def canonical : Value → Value
  | list items => list (canonicalItems items)
  | table entries => table (SortedMap.ofList (canonicalEntries entries))
  | v => v

def canonicalItems : List Value → List Value
  | [] => []
  | v :: vs => canonical v :: canonicalItems vs

def canonicalEntries : List (String × Value) → List (String × Value)
  | [] => []
  | (k, v) :: es => (k, canonical v) :: canonicalEntries es

end

/-- The entry of a table under a key. -/
def get? (key : String) : Value → Option Value
  | table entries => entries.lookup key
  | _ => none

end Value

end TaskSync
