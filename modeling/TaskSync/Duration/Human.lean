import TaskSync.Duration.Basic
import TaskSync.Text.Blank

/-!
# Durations in human units

A duration is written as spans such as `1h 30m`, largest unit first, zero as `0s`. It is read
from one or more spans in any order; blanks may stand between the parts and even between digits.
A number may have a fraction when the fraction comes out whole in the unit's grain, and every
product and sum has to fit in 64 bits.
-/

namespace TaskSync.Duration

open Text

/-- The units, with months and years of average length. -/
inductive SpanUnit where
  | nanosecond | microsecond | millisecond | second | minute | hour | day | week | month | year
  deriving DecidableEq

namespace SpanUnit

/-- The names under which a unit is read. -/
def names : SpanUnit → List String
  | nanosecond => ["nanos", "nsec", "ns"]
  | microsecond => ["usec", "us", "µs"]
  | millisecond => ["millis", "msec", "ms"]
  | second => ["seconds", "second", "secs", "sec", "s"]
  | minute => ["minutes", "minute", "min", "mins", "m"]
  | hour => ["hours", "hour", "hr", "hrs", "h"]
  | day => ["days", "day", "d"]
  | week => ["weeks", "week", "wk", "wks", "w"]
  | month => ["months", "month", "M"]
  | year => ["years", "year", "yr", "yrs", "y"]

def all : List SpanUnit :=
  [nanosecond, microsecond, millisecond, second, minute, hour, day, week, month, year]

def ofName? (name : List Char) : Option SpanUnit :=
  all.find? fun u => u.names.any (·.toList == name)

/-- What one unit amounts to: below a second in nanoseconds, from there on in seconds. -/
inductive Amount where
  | nanos (n : Nat)
  | secs (n : Nat)

def amount : SpanUnit → Amount
  | nanosecond => .nanos 1
  | microsecond => .nanos 1000
  | millisecond => .nanos 1000000
  | second => .secs 1
  | minute => .secs 60
  | hour => .secs 3600
  | day => .secs 86400
  | week => .secs 604800
  | month => .secs 2630016
  | year => .secs 31557600

/-- The grain of a fraction of the unit: nanoseconds up to the minute, whole seconds from the
hour on. A nanosecond has no fraction. -/
def fraction? : SpanUnit → Option Amount
  | nanosecond => none
  | microsecond => some (.nanos 1000)
  | millisecond => some (.nanos 1000000)
  | second => some (.nanos 1000000000)
  | minute => some (.nanos 60000000000)
  | u => some u.amount

end SpanUnit

/-- Digits after the point: `numerator / denominator`, the denominator a power of ten. -/
structure Fraction where
  numerator : Nat
  denominator : Nat
  deriving DecidableEq

/-- A number and its unit. -/
structure Span where
  whole : Nat
  fraction : Option Fraction
  unit : SpanUnit

def wordLimit : Nat := 2 ^ 64

/-- A value if it fits in 64 bits. -/
def fit? (n : Nat) : Option Nat := if n < wordLimit then some n else none

/-- Adds seconds and nanoseconds to a sum; each part has to fit in 64 bits on the way. -/
def plus? (sum : Duration) (secs nanos : Nat) : Option Duration := do
  let nanos ← fit? (sum.nanos + nanos)
  let secs ← fit? (sum.secs + (secs + nanos / 10 ^ 9))
  ofNanos? (secs * 10 ^ 9 + nanos % 10 ^ 9)

/-- Adds `n / denominator` of an amount, which has to come out whole. -/
def plusAmount? (sum : Duration) (n denominator : Nat) (a : SpanUnit.Amount) : Option Duration :=
  match a with
  | .nanos k => do
    let p ← fit? (n * k)
    if p % denominator = 0 then sum.plus? 0 (p / denominator) else none
  | .secs k => do
    let p ← fit? (n * k)
    if p % denominator = 0 then sum.plus? (p / denominator) 0 else none

/-- Adds a span to a sum. -/
def plusSpan? (sum : Duration) (s : Span) : Option Duration := do
  let sum ← sum.plusAmount? s.whole 1 s.unit.amount
  match s.fraction with
  | none => some sum
  | some f => sum.plusAmount? f.numerator f.denominator (← s.unit.fraction?)

/-- Letters that a unit's name may hold. -/
def isUnitLetter (c : Char) : Bool :=
  ('a' ≤ c && c ≤ 'z') || ('A' ≤ c && c ≤ 'Z') || c == 'µ'

/-- Digits after the point, up to the first letter or the end. -/
def readFraction : Fraction → List Char → Option (Fraction × List Char)
  | f, [] => some (f, [])
  | f, c :: cs =>
    match digit? c with
    | some d => do
      let denominator ← fit? (f.denominator * 10)
      let numerator ← fit? (f.numerator * 10 + d)
      readFraction ⟨numerator, denominator⟩ cs
    | none =>
      if isBlank c then readFraction f cs
      else if isUnitLetter c then some (f, c :: cs)
      else none

/-- The rest of a number: more digits, perhaps a fraction, up to the first letter or the end. -/
def readNumber : Nat → List Char → Option (Nat × Option Fraction × List Char)
  | n, [] => some (n, none, [])
  | n, c :: cs =>
    match digit? c with
    | some d => do readNumber (← fit? (n * 10 + d)) cs
    | none =>
      if isBlank c then readNumber n cs
      else if isUnitLetter c then some (n, none, c :: cs)
      else if c = '.' then
        match readFraction ⟨0, 1⟩ cs with
        | some (f, rest) => if f.denominator = 1 then none else some (n, some f, rest)
        | none => none
      else none

/-- Where a unit ends: at a digit, which starts the next span, or behind a blank. -/
def readUnit : List Char → Option (List Char × List Char)
  | [] => some ([], [])
  | c :: cs =>
    if c.isDigit then some ([], c :: cs)
    else if isBlank c then some ([], cs)
    else if isUnitLetter c then (readUnit cs).map fun (name, rest) => (c :: name, rest)
    else none

/-- The first digit of a span, behind blanks. `some none` is the end of the text. -/
def readFirstDigit : List Char → Option (Option (Nat × List Char))
  | [] => some none
  | c :: cs =>
    match digit? c with
    | some d => some (some (d, cs))
    | none => if isBlank c then readFirstDigit cs else none

/-- One span whose first digit has been read. -/
def readSpan (first : Nat) (cs : List Char) : Option (Span × List Char) := do
  let (whole, fraction, cs) ← readNumber first cs
  let (name, cs) ← readUnit cs
  some (⟨whole, fraction, ← SpanUnit.ofName? name⟩, cs)

/-- Spans to the end of the text, added up. Each span takes a character, so `fuel` characters
are enough. -/
def readSpans : Nat → Duration → List Char → Option Duration
  | 0, _, _ => none
  | fuel + 1, sum, cs =>
    match readFirstDigit cs with
    | none => none
    | some none => some sum
    | some (some (first, cs)) =>
      match readSpan first cs with
      | none => none
      | some (span, rest) =>
        match sum.plusSpan? span with
        | none => none
        | some sum => readSpans fuel sum rest

/-- Reads the human form. A lone `0` needs no unit; a text without any span is refused. -/
def ofHumanChars? (cs : List Char) : Option Duration :=
  if cs = ['0'] then some zero
  else if cs.all isBlank then none
  else readSpans (cs.length + 1) zero cs

def ofHuman? (s : String) : Option Duration := ofHumanChars? s.toList

/-- A unit that takes a plural ending: `1day`, `2days`. -/
def pluralItem (name : String) (n : Nat) : List (List Char) :=
  if n = 0 then [] else [digits n ++ name.toList ++ if n = 1 then [] else ['s']]

/-- A unit with a fixed name. -/
def item (name : String) (n : Nat) : List (List Char) :=
  if n = 0 then [] else [digits n ++ name.toList]

/-- The spans of a duration that are not zero, largest unit first. -/
def humanItems (d : Duration) : List (List Char) :=
  let ofYear := d.secs % 31557600
  let ofMonth := ofYear % 2630016
  let ofDay := ofMonth % 86400
  pluralItem "year" (d.secs / 31557600)
    ++ pluralItem "month" (ofYear / 2630016)
    ++ pluralItem "day" (ofMonth / 86400)
    ++ item "h" (ofDay / 3600)
    ++ item "m" (ofDay % 3600 / 60)
    ++ item "s" (ofDay % 60)
    ++ item "ms" (d.nanos / 1000000)
    ++ item "us" (d.nanos / 1000 % 1000)
    ++ item "ns" (d.nanos % 1000)

def humanChars (d : Duration) : List Char :=
  if d = zero then ['0', 's'] else [' '].intercalate d.humanItems

/-- The human form of a duration. -/
def human (d : Duration) : String := String.ofList d.humanChars

end TaskSync.Duration
