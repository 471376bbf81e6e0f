import TaskSync.Number.Power

/-!
# Double-precision numbers

A 64-bit floating-point number by its bits: a sign, a biased exponent and a mantissa. All
arithmetic is exact arithmetic on natural numbers followed by one rounding to the nearest number,
a tie going to the even mantissa, so every result is a definition that can be reasoned about.
-/

namespace TaskSync

/-- A double-precision number in its interchange form. -/
structure Binary64 where
  bits : UInt64
  deriving DecidableEq

namespace Binary64

/-- The bits of positive infinity; larger magnitudes are not numbers. -/
def infinityBits : Nat := 0x7FF0000000000000

def signBit : Nat := 2 ^ 63

/-- The bits without the sign. -/
def magnitude (x : Binary64) : Nat := x.bits.toNat % signBit

def isNegative (x : Binary64) : Bool := decide (signBit ≤ x.bits.toNat)

def isFinite (x : Binary64) : Bool := decide (x.magnitude < infinityBits)

def isInfinite (x : Binary64) : Bool := decide (x.magnitude = infinityBits)

def isZero (x : Binary64) : Bool := decide (x.magnitude = 0)

/-- The number of a sign and the bits of a magnitude. -/
def ofMagnitude (negative : Bool) (magnitude : Nat) : Binary64 :=
  ⟨UInt64.ofNat (magnitude + if negative then signBit else 0)⟩

def infinity : Binary64 := ofMagnitude false infinityBits

def nan : Binary64 := ofMagnitude false (infinityBits + 2 ^ 51)

def zero : Binary64 := ofMagnitude false 0

instance : Inhabited Binary64 := ⟨zero⟩

/-- The same number with the other sign. -/
def neg (x : Binary64) : Binary64 := ofMagnitude (!x.isNegative) x.magnitude

/-- The mantissa of a finite number as a whole number: the magnitude is
`mantissa * 2 ^ exponent`. -/
def mantissa (x : Binary64) : Nat :=
  let fraction := x.magnitude % 2 ^ 52
  if x.magnitude / 2 ^ 52 = 0 then fraction else fraction + 2 ^ 52

/-- The exponent that belongs to `mantissa`. -/
def exponent (x : Binary64) : Int :=
  let biased : Nat := x.magnitude / 2 ^ 52
  if biased = 0 then -1074 else (biased : Int) - 1075

/-- Whole quotient to nearest, a tie to even. -/
def roundDiv (num den : Nat) : Nat :=
  let q := num / den
  let r := num % den
  if 2 * r < den then q
  else if den < 2 * r then q + 1
  else if q % 2 = 0 then q else q + 1

/-- `num / den` times a power of two, as a quotient of natural numbers. -/
def scaled (num den : Nat) (e : Int) : Nat × Nat :=
  if 0 ≤ e then (num * 2 ^ e.toNat, den) else (num, den * 2 ^ (-e).toNat)

/-- The exponent at which the mantissa of `num / den` has 53 bits. -/
def roundingExponent (num den : Nat) : Int :=
  let low : Int := (num.log2 : Int) - (den.log2 : Int) - 53
  if (scaled num den (-low)).1 < (scaled num den (-low)).2 * 2 ^ 53 then low else low + 1

/-- The bits of `num / den` with its mantissa rounded at an exponent. A carry out of the mantissa
moves into the exponent by itself, because the bits are a sum of both. -/
def roundedBits (num den : Nat) (e : Int) : Nat :=
  (e + 1074).toNat * 2 ^ 52 + roundDiv (scaled num den (-e)).1 (scaled num den (-e)).2

/-- The number nearest to `num / den`. The mantissa has 53 bits, unless the number is too small for
that. -/
def ofRatio (num den : Nat) : Binary64 :=
  if num = 0 then zero
  else
    ofMagnitude false
      (Min.min (roundedBits num den (Max.max (roundingExponent num den) (-1074))) infinityBits)

/-- The number nearest to a natural number. -/
def ofNat (n : Nat) : Binary64 := ofRatio n 1

/-- A finite number as a quotient of natural numbers, the sign aside. -/
def ratio (x : Binary64) : Nat × Nat := scaled x.mantissa 1 x.exponent

def withSign (negative : Bool) (x : Binary64) : Binary64 := ofMagnitude negative x.magnitude

/-- Product of finite numbers. -/
def mul (x y : Binary64) : Binary64 :=
  let (a, b) := x.ratio
  let (c, d) := y.ratio
  withSign (x.isNegative != y.isNegative) (ofRatio (a * c) (b * d))

/-- Sum of finite numbers that are not negative. -/
def plus (x y : Binary64) : Binary64 :=
  let (a, b) := x.ratio
  let (c, d) := y.ratio
  ofRatio (a * d + c * b) (b * d)

/-- Quotient of finite numbers; the divisor is not zero. -/
def div (x y : Binary64) : Binary64 :=
  let (a, b) := x.ratio
  let (c, d) := y.ratio
  withSign (x.isNegative != y.isNegative) (ofRatio (a * d) (b * c))

/-- The number nearest to `digits * 10 ^ exponent10`. Exponents far outside the range settle the
answer without the power. -/
def ofDecimal (digits : Nat) (exponent10 : Int) : Binary64 :=
  if digits = 0 then zero
  else if 400 < exponent10 then infinity
  else if exponent10 + (digits.log2 : Int) < -1200 then zero
  else if 0 ≤ exponent10 then ofRatio (digits * 10 ^ exponent10.toNat) 1
  else ofRatio digits (10 ^ (-exponent10).toNat)

end Binary64

end TaskSync
