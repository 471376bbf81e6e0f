import TaskSync.Number.Binary64
import TaskSync.Text.Blank

/-!
# Shortest decimal text

The decimal of a finite number is the one with the fewest digits that reads back as the number;
of several such, the nearest to it. Two layouts show it: data texts switch to an exponent below
1e-5 and from 1e16 on, messages never do. Both mark a whole number with `.0`.
-/

namespace TaskSync.Binary64

open Text

/-- `digits * 10 ^ exponent`. -/
structure Decimal where
  digits : Nat
  exponent : Int
  deriving DecidableEq

/-- `num / den < 10 ^ e`. -/
def belowPower (num den : Nat) (e : Int) : Bool :=
  if 0 ≤ e then decide (num < den * 10 ^ e.toNat) else decide (num * 10 ^ (-e).toNat < den)

/-- How many digits stand before the point of `num / den`, negative for leading zeros behind it.
The estimate from the binary logarithm is off by at most one. -/
def pointPosition (num den : Nat) : Int :=
  let guess : Int := (((num.log2 : Int) - (den.log2 : Int)) * 30103).fdiv 100000
  ((List.range 6).map fun (i : Nat) => guess - 2 + (i : Int)).find? (belowPower num den)
    |>.getD (guess + 4)

/-- `num / den * 10 ^ e` as a quotient. -/
def scaled10 (num den : Nat) (e : Int) : Nat × Nat :=
  if 0 ≤ e then (num * 10 ^ e.toNat, den) else (num, den * 10 ^ (-e).toNat)

/-- The numbers that round to `x` lie between these bounds, given in quarters of the unit of the
mantissa; the bounds belong to it iff the mantissa is even. The gap below a power of two is half
as wide. -/
def quarterBounds (x : Binary64) : Nat × Nat :=
  let m := x.mantissa
  let low := if m = 2 ^ 52 ∧ x.exponent ≠ -1074 then 4 * m - 1 else 4 * m - 2
  (low, 4 * m + 2)

/-- Whether `n * 10 ^ e` rounds to `x`. -/
def roundsTo (x : Binary64) (n : Nat) (e : Int) : Bool :=
  let (low, high) := x.quarterBounds
  let (a, b) := scaled10 n 1 e
  let (u, v) := scaled 1 1 (x.exponent - 2)
  let lhs := a * v
  if x.mantissa % 2 = 0 then decide (low * u * b ≤ lhs) && decide (lhs ≤ high * u * b)
  else decide (low * u * b < lhs) && decide (lhs < high * u * b)

/-- The best decimal of `x` with so many digits, if one of the two neighbours on that grid reads
back. -/
def neighbour? (x : Binary64) (position : Int) (count : Nat) : Option Decimal :=
  let e := position - (count : Int)
  let (num, den) := x.ratio
  let (n, d) := scaled10 num den (-e)
  let low := n / d
  let r := n % d
  let lowFits := roundsTo x low e
  let highFits := roundsTo x (low + 1) e
  if lowFits && highFits then
    if 2 * r < d then some ⟨low, e⟩
    else if d < 2 * r then some ⟨low + 1, e⟩
    else some ⟨if low % 2 = 0 then low else low + 1, e⟩
  else if lowFits then some ⟨low, e⟩
  else if highFits then some ⟨low + 1, e⟩
  else none

/-- Drops trailing zeros of the digits. -/
def Decimal.trim : Nat → Decimal → Decimal
  | 0, d => d
  | fuel + 1, d =>
    if d.digits ≠ 0 ∧ d.digits % 10 = 0 then trim fuel ⟨d.digits / 10, d.exponent + 1⟩ else d

/-- The shortest decimal of a finite number, the sign aside. -/
def shortest (x : Binary64) : Decimal :=
  if x.isZero then ⟨0, 0⟩
  else
    let (num, den) := x.ratio
    let position := pointPosition num den
    let found := (List.range 17).findSome? fun i => neighbour? x position (i + 1)
    (found.getD ⟨x.mantissa, 0⟩).trim 20

/-- Positional text of a decimal, with `.0` after a whole number. -/
def Decimal.positional (d : Decimal) : List Char :=
  let ds := Text.digits d.digits
  if 0 ≤ d.exponent then ds ++ List.replicate d.exponent.toNat '0' ++ ['.', '0']
  else
    let places := (-d.exponent).toNat
    if places < ds.length then
      ds.take (ds.length - places) ++ '.' :: ds.drop (ds.length - places)
    else ['0', '.'] ++ List.replicate (places - ds.length) '0' ++ ds

/-- Text with an exponent: one digit before the point, a sign on the exponent. -/
def Decimal.scientific (d : Decimal) : List Char :=
  let ds := Text.digits d.digits
  let e : Int := d.exponent + (ds.length : Int) - 1
  let head := match ds with
    | [c] => [c]
    | c :: rest => c :: '.' :: rest
    | [] => []
  head ++ ['e'] ++ (if e < 0 then ['-'] else ['+']) ++ Text.digits e.natAbs

/-- The text of a finite number in data. -/
def dataChars (x : Binary64) : List Char :=
  let d := x.shortest
  let leading : Int := d.exponent + ((Text.digits d.digits).length : Int)
  let body :=
    if x.isZero then ['0', '.', '0']
    else if -5 < leading ∧ leading ≤ 16 then d.positional
    else d.scientific
  (if x.isNegative then ['-'] else []) ++ body

/-- The text of any number in a message. -/
def messageChars (x : Binary64) : List Char :=
  if x.isFinite then (if x.isNegative then ['-'] else []) ++ x.shortest.positional
  else if x.isInfinite then (if x.isNegative then ['-'] else []) ++ ['i', 'n', 'f']
  else ['N', 'a', 'N']

end TaskSync.Binary64
