import TaskSync.Time.Timestamp
import TaskSync.Text.Blank

/-!
# Timestamps as text

Instants are written as in RFC 3339 with as many decimals as they need in steps of three; years
beyond four digits carry a sign. The reader also takes blanks between the parts, a blank in place
of the `T`, signed years of any length, an offset without a colon, and `UTC`.
-/

namespace TaskSync.Timestamp

open Text

/-- Why a text is no timestamp. -/
inductive ReadError where
  | outOfRange
  | impossible
  | invalid
  | tooShort
  | tooLong
  deriving DecidableEq

def ReadError.message : ReadError → String
  | outOfRange => "input is out of range"
  | impossible => "no possible date and time matching input"
  | invalid => "input contains invalid characters"
  | tooShort => "premature end of input"
  | tooLong => "trailing input"

abbrev Reads (α : Type) := List Char → Except ReadError (α × List Char)

def trimStart (cs : List Char) : List Char := cs.dropWhile isBlank

/-- Up to `width` digits, at least one. -/
def number (width : Nat) : Reads Nat := fun cs =>
  match cs with
  | [] => .error .tooShort
  | _ =>
    let ds := (cs.take width).takeWhile Char.isDigit
    match ofDigits? ds with
    | some n =>
      if ds = [] then .error .invalid
      else if n < 2 ^ 63 then .ok (n, cs.drop ds.length)
      else .error .outOfRange
    | none => .error .invalid

/-- A number between bounds, behind blanks. -/
def bounded (low high : Nat) : Reads Nat := fun cs => do
  let (n, cs) ← number 2 (trimStart cs)
  if low ≤ n ∧ n ≤ high then .ok (n, cs) else .error .outOfRange

/-- A year: four digits at most, or a sign and any number. -/
def year : Reads Int := fun cs => do
  let (n, cs) ← show Except ReadError (Int × List Char) from
    match trimStart cs with
    | '-' :: cs => do
      let (n, cs) ← number cs.length cs
      .ok (-(n : Int), cs)
    | '+' :: cs => do
      let (n, cs) ← number cs.length cs
      .ok ((n : Int), cs)
    | cs => do
      let (n, cs) ← number 4 cs
      .ok ((n : Int), cs)
  if -(2 ^ 31 : Int) ≤ n ∧ n < 2 ^ 31 then .ok (n, cs) else .error .outOfRange

def literal (c : Char) : Reads Unit := fun cs =>
  match trimStart cs with
  | [] => .error .tooShort
  | d :: cs => if d = c then .ok ((), cs) else .error .invalid

/-- Decimals behind a point; nine of them count. -/
def decimals : Reads Nat := fun cs =>
  match cs with
  | '.' :: cs => do
    let (n, rest) ← number 9 cs
    let taken := cs.length - rest.length
    .ok (n * 10 ^ (9 - taken), rest.dropWhile Char.isDigit)
  | cs => .ok (0, cs)

def digitPair : List Char → Except ReadError (Nat × Nat × List Char)
  | a :: b :: cs =>
    match digit? a, digit? b with
    | some a, some b => .ok (a, b, cs)
    | _, _ => .error .invalid
  | [c] => .error (if c.utf8Size = 1 then .tooShort else .invalid)
  | [] => .error .tooShort

/-- Seconds east of universal time: `Z`, or a sign, hours and minutes. -/
def offset : Reads Int := fun cs =>
  match cs with
  | [] => .error .tooShort
  | c :: cs =>
    if c = 'Z' ∨ c = 'z' then .ok (0, cs)
    else if c = '+' ∨ c = '-' ∨ c = '−' then do
      let (h1, h2, cs) ← digitPair cs
      let cs := cs.dropWhile fun c => c == ':' || isBlank c
      let (m1, m2, cs) ← digitPair cs
      if 6 ≤ m1 then .error .outOfRange
      else
        let s : Int := ((h1 * 10 + h2) * 3600 + (m1 * 10 + m2) * 60 : Nat)
        .ok (if c = '+' then s else -s, cs)
    else .error .invalid

def zone : Reads Int := fun cs =>
  let word := (cs.take 3).map Char.toUpper
  if word = ['U', 'T', 'C'] then .ok (0, cs.drop 3) else offset cs

def separator : Reads Unit := fun cs =>
  match cs with
  | [] => .error .tooShort
  | c :: cs => if c = 't' ∨ c = 'T' ∨ c = ' ' then .ok ((), cs) else .error .invalid

/-- Puts the parts together. Second 60 is a leap second. -/
def assemble (y : Int) (mo d h mi s nanos : Nat) (off : Int) : Except ReadError Timestamp :=
  match Date.exists? y mo d with
  | none => .error .outOfRange
  | some date =>
    if y < minYear ∨ maxYear < y then .error .outOfRange
    else if off ≤ -86400 ∨ 86400 ≤ off then .error .outOfRange
    else
      let (s, nanos) := if s = 60 then (59, nanos + nanosPerSecond) else (s, nanos)
      let second := date.toDays * 86400 + ((h * 3600 + mi * 60 + s : Nat) : Int) - off
      if inRange second then .ok ⟨second, nanos⟩ else .error .impossible

def readChars (cs : List Char) : Except ReadError Timestamp := do
  let (y, cs) ← year cs
  let (_, cs) ← literal '-' cs
  let (mo, cs) ← bounded 1 12 cs
  let (_, cs) ← literal '-' cs
  let (d, cs) ← bounded 1 31 cs
  let (_, cs) ← separator cs
  let (h, cs) ← bounded 0 23 cs
  let (_, cs) ← literal ':' cs
  let (mi, cs) ← bounded 0 59 cs
  let (_, cs) ← literal ':' cs
  let (s, cs) ← bounded 0 60 cs
  let (nanos, cs) ← decimals cs
  let (off, cs) ← zone (trimStart cs)
  if trimStart cs ≠ [] then .error .tooLong
  else assemble y mo d h mi s nanos off

/-- Reads a timestamp of any offset. -/
def read (s : String) : Except ReadError Timestamp := readChars s.toList

/-- Four digits, or a sign and at least four. -/
def yearChars (y : Int) : List Char :=
  if 0 ≤ y ∧ y ≤ 9999 then padded 4 y.toNat
  else (if y < 0 then '-' else '+') :: padded 4 y.natAbs

/-- No decimals for a whole second, else three, six or nine. -/
def decimalChars (nanos : Nat) : List Char :=
  if nanos = 0 then []
  else if nanos % 10 ^ 6 = 0 then '.' :: padded 3 (nanos / 10 ^ 6)
  else if nanos % 10 ^ 3 = 0 then '.' :: padded 6 (nanos / 10 ^ 3)
  else '.' :: padded 9 nanos

/-- Date and time without the zone. -/
def localChars (t : Timestamp) : List Char :=
  let date := Date.ofDays (t.second / 86400)
  let s := t.secondOfDay.toNat
  let leap := t.nano / nanosPerSecond
  yearChars date.year ++ '-' :: padded 2 date.month ++ '-' :: padded 2 date.day ++ 'T' ::
    padded 2 (s / 3600) ++ ':' :: padded 2 (s / 60 % 60) ++ ':' :: padded 2 (s % 60 + leap)
    ++ decimalChars (t.nano % nanosPerSecond)

/-- The text in data, marked with `Z`. -/
def text (t : Timestamp) : String := String.ofList (t.localChars ++ ['Z'])

/-- The text in reports, with the offset of universal time. -/
def offsetText (t : Timestamp) : String := String.ofList (t.localChars ++ "+00:00".toList)

end TaskSync.Timestamp
