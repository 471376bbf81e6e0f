import TaskSync.Data.Value
import TaskSync.Text.Blank

/-!
# Numbers of JSON texts

A number is read in two steps. The grammar splits it into sign, digits, fraction and exponent;
`Numeral.value?` says what the parts denote. A whole number that fits in 64 bits is an integer,
anything else a double: the digits that fit in 64 bits, times or divided by a power of ten. That
is two roundings, so the result may lie one unit beside the nearest double.
-/

namespace TaskSync.Json

open Text

/-- The parts of a number as written. -/
structure Numeral where
  negative : Bool
  whole : List Char
  fraction : Option (List Char)
  /-- Whether the exponent is negative, and its digits. -/
  exponent : Option (Bool × List Char)

/-- The digits at the front of a text, and the rest. -/
def spanDigits (cs : List Char) : List Char × List Char := cs.span Char.isDigit

/-- At least one digit. -/
def someDigits? (cs : List Char) : Option (List Char × List Char) :=
  match spanDigits cs with
  | ([], _) => none
  | r => some r

/-- Digits before the point: `0` alone, or no zero in front. -/
def wholeDigits? (cs : List Char) : Option (List Char × List Char) :=
  match someDigits? cs with
  | some ('0' :: _ :: _, _) => none
  | r => r

def fraction? : List Char → Option (Option (List Char) × List Char)
  | '.' :: cs => (someDigits? cs).map fun (ds, rest) => (some ds, rest)
  | cs => some (none, cs)

def exponentDigits? (cs : List Char) : Option (Option (Bool × List Char) × List Char) :=
  let (negative, cs) : Bool × List Char := match cs with
    | '-' :: cs => (true, cs)
    | '+' :: cs => (false, cs)
    | cs => (false, cs)
  (someDigits? cs).map fun (ds, rest) => (some (negative, ds), rest)

def exponent? : List Char → Option (Option (Bool × List Char) × List Char)
  | 'e' :: cs | 'E' :: cs => exponentDigits? cs
  | cs => some (none, cs)

/-- The longest number at the front of a text. -/
def numeral? (cs : List Char) : Option (Numeral × List Char) := do
  let (negative, cs) : Bool × List Char := match cs with
    | '-' :: cs => (true, cs)
    | cs => (false, cs)
  let (whole, cs) ← wholeDigits? cs
  let (fraction, cs) ← fraction? cs
  let (exponent, cs) ← exponent? cs
  some (⟨negative, whole, fraction, exponent⟩, cs)

/-- Adds digits to a significand as long as it fits in 64 bits, and counts those taken. -/
def absorb : Nat → Nat → List Char → Nat × Nat
  | n, taken, [] => (n, taken)
  | n, taken, c :: cs =>
    let m := n * 10 + (digit? c).getD 0
    if m < 2 ^ 64 then absorb m (taken + 1) cs else (n, taken)

/-- `x` times `10 ^ e`, for `e` in steps that have an exact table entry. `none` if the result is
too large. Twice 308 places down nothing is left, so the fuel is no limit. -/
def scale? : Nat → Binary64 → Int → Option Binary64
  | 0, x, _ => some x
  | fuel + 1, x, e =>
    if e.natAbs ≤ 308 then
      let p := Binary64.ofDecimal 1 (e.natAbs : Int)
      if 0 ≤ e then
        let y := x.mul p
        if y.isFinite then some y else none
      else some (x.div p)
    else if x.isZero then some x
    else if 0 ≤ e then none
    else scale? fuel (x.div (Binary64.ofDecimal 1 308)) (e + 308)

/-- What the parts of a number denote. An exponent beyond 31 bits leaves nothing of the number
when it is negative, and is out of range otherwise unless the number is zero. -/
def Numeral.value? (t : Numeral) : Option Value :=
  let (n, taken) := absorb 0 0 t.whole
  let ignored := t.whole.length - taken
  if t.fraction.isNone && t.exponent.isNone && ignored == 0 then
    if !t.negative then some (.integer n)
    else if n = 0 || 2 ^ 63 < n then some (.float (Binary64.ofNat n).neg)
    else some (.integer (-(n : Int)))
  else
    let (n, places) := absorb n 0 (t.fraction.getD [])
    let e : Int := (ignored : Int) - (places : Int)
    let signed (x : Binary64) : Value := .float (if t.negative then x.neg else x)
    let direct (e : Int) : Option Value := (scale? 4 (Binary64.ofNat n) e).map signed
    match t.exponent with
    | none => direct e
    | some (negative, ds) =>
      let p := (ofDigits? ds).getD 0
      if 2 ^ 31 ≤ p then
        if n ≠ 0 && !negative then none else some (signed .zero)
      else direct (if negative then e - (p : Int) else e + (p : Int))

end TaskSync.Json
