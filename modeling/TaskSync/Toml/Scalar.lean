import TaskSync.Data.Value
import TaskSync.Text.Blank
import TaskSync.Time.Calendar

/-!
# Scalars of TOML documents

Strings of four kinds, numbers and dates. Control characters may stand nowhere but in escapes; in
strings over several lines a line break is one line feed, however it is written.
-/

namespace TaskSync.Toml

open Text

/-- What a grammar rule takes from the front of a text, and the rest. -/
abbrev Reads (α : Type) := List Char → Option (α × List Char)

/-- Blank and tab. -/
def isSpace (c : Char) : Bool := c == ' ' || c == '\t'

def skipSpace (cs : List Char) : List Char := cs.dropWhile isSpace

/-- Characters that may stand in comments and strings. -/
def isTextChar (c : Char) : Bool :=
  c == '\t' || (decide (0x20 ≤ c.toNat) && c.toNat != 0x7F)

/-- The rest behind a line break. -/
def newline? : List Char → Option (List Char)
  | '\n' :: cs => some cs
  | '\r' :: '\n' :: cs => some cs
  | _ => none

def dropNewline (cs : List Char) : List Char := (newline? cs).getD cs

/-- A code point that is a character. -/
def charOf? (n : Nat) : Option Char :=
  if n < 0xD800 ∨ (0xE000 ≤ n ∧ n < 0x110000) then some (Char.ofNat n) else none

def hexChar? (count : Nat) (cs : List Char) : Option (Char × List Char) := do
  let ds := cs.take count
  if ds.length ≠ count then none
  else
    let n ← ds.foldlM (fun n c => (hexDigit? c).map (n * 16 + ·)) 0
    some (← charOf? n, cs.drop count)

/-- The character of an escape, behind its backslash. -/
def escape? : List Char → Option (Char × List Char)
  | 'b' :: cs => some ('\x08', cs)
  | 'f' :: cs => some ('\x0c', cs)
  | 'n' :: cs => some ('\n', cs)
  | 'r' :: cs => some ('\r', cs)
  | 't' :: cs => some ('\t', cs)
  | '"' :: cs => some ('"', cs)
  | '\\' :: cs => some ('\\', cs)
  | 'u' :: cs => hexChar? 4 cs
  | 'U' :: cs => hexChar? 8 cs
  | _ => none

/-- A string in double quotes, behind the opening one. -/
def basicBody? : Nat → List Char → Option (List Char × List Char)
  | 0, _ => none
  | _ + 1, [] => none
  | fuel + 1, c :: cs =>
    if c = '"' then some ([], cs)
    else if c = '\\' then do
      let (d, cs) ← escape? cs
      let (ds, cs) ← basicBody? fuel cs
      some (d :: ds, cs)
    else if isTextChar c then do
      let (ds, cs) ← basicBody? fuel cs
      some (c :: ds, cs)
    else none

/-- A string in single quotes, behind the opening one. -/
def literalBody? : List Char → Option (List Char × List Char)
  | [] => none
  | c :: cs =>
    if c = '\'' then some ([], cs)
    else if isTextChar c then (literalBody? cs).map fun (ds, rest) => (c :: ds, rest)
    else none

/-- How many copies of a quote stand at the front, and the rest. -/
def quoteRun (q : Char) (cs : List Char) : Nat × List Char :=
  ((cs.takeWhile (· == q)).length, cs.dropWhile (· == q))

/-- What a run of quotes means inside a string over several lines: three close it, one or two in
front of them belong to it; fewer than three are text. -/
inductive QuoteRun where
  | text (count : Nat)
  | close (count : Nat)
  | bad

def quoteMeaning (n : Nat) : QuoteRun :=
  if n < 3 then .text n else if n ≤ 5 then .close (n - 3) else .bad

/-- Blanks and line breaks behind a line-ending backslash. -/
def dropBlankLines : Nat → List Char → List Char
  | 0, cs => cs
  | fuel + 1, cs =>
    match cs with
    | c :: rest =>
      if isSpace c then dropBlankLines fuel rest
      else
        match newline? cs with
        | some rest => dropBlankLines fuel rest
        | none => cs
    | [] => []

/-- A string over several lines. With `escapes`, a backslash begins an escape or, at the end of a
line, takes the blanks that follow away. -/
def multilineBody? (q : Char) (escapes : Bool) :
    Nat → List Char → Option (List Char × List Char)
  | 0, _ => none
  | _ + 1, [] => none
  | fuel + 1, c :: cs =>
    if c = q then
      let (n, rest) := quoteRun q (c :: cs)
      match quoteMeaning n with
      | .bad => none
      | .close extra => some (List.replicate extra q, rest)
      | .text count =>
        (multilineBody? q escapes fuel rest).map fun (ds, rest) =>
          (List.replicate count q ++ ds, rest)
    else if escapes && c == '\\' then
      match newline? (skipSpace cs) with
      | some rest => multilineBody? q escapes fuel (dropBlankLines rest.length rest)
      | none => do
        let (d, cs) ← escape? cs
        let (ds, cs) ← multilineBody? q escapes fuel cs
        some (d :: ds, cs)
    else
      match newline? (c :: cs) with
      | some rest => (multilineBody? q escapes fuel rest).map fun (ds, rest) => ('\n' :: ds, rest)
      | none =>
        if isTextChar c then
          (multilineBody? q escapes fuel cs).map fun (ds, rest) => (c :: ds, rest)
        else none

/-- A string on one line. -/
def lineString? : Reads String
  | '"' :: cs => (basicBody? (cs.length + 1) cs).map fun (ds, rest) => (String.ofList ds, rest)
  | '\'' :: cs => (literalBody? cs).map fun (ds, rest) => (String.ofList ds, rest)
  | _ => none

/-- A string of any kind. -/
def string? (cs : List Char) : Option (String × List Char) :=
  match cs with
  | '"' :: '"' :: '"' :: rest =>
    (multilineBody? '"' true (rest.length + 1) (dropNewline rest)).map fun (ds, rest) =>
      (String.ofList ds, rest)
  | '\'' :: '\'' :: '\'' :: rest =>
    (multilineBody? '\'' false (rest.length + 1) (dropNewline rest)).map fun (ds, rest) =>
      (String.ofList ds, rest)
  | cs => lineString? cs

/-! ### Numbers -/

/-- Digits of a base with single underscores between them; the underscores are dropped. -/
def moreDigits? (isDigit : Char → Bool) : List Char → Option (List Char × List Char)
  | [] => some ([], [])
  | '_' :: c :: cs =>
    if isDigit c then (moreDigits? isDigit cs).map fun (ds, rest) => (c :: ds, rest) else none
  | '_' :: [] => none
  | c :: cs =>
    if isDigit c then (moreDigits? isDigit cs).map fun (ds, rest) => (c :: ds, rest)
    else some ([], c :: cs)

def someDigits? (isDigit : Char → Bool) : List Char → Option (List Char × List Char)
  | [] => none
  | c :: cs =>
    if isDigit c then (moreDigits? isDigit cs).map fun (ds, rest) => (c :: ds, rest) else none

/-- A sign, if there is one: whether it is a minus. -/
def sign : List Char → Bool × List Char
  | '+' :: cs => (false, cs)
  | '-' :: cs => (true, cs)
  | cs => (false, cs)

/-- A whole number in decimal: zero alone, or no zero in front. -/
def decimal? (cs : List Char) : Option ((Bool × List Char) × List Char) :=
  let (negative, cs) := sign cs
  match cs with
  | '0' :: rest => some ((negative, ['0']), rest)
  | cs => (someDigits? Char.isDigit cs).map fun (ds, rest) => ((negative, ds), rest)

/-- Whether a 64-bit integer can hold the number. -/
def int64? (n : Int) : Option Int := if -(2 ^ 63 : Int) ≤ n ∧ n < 2 ^ 63 then some n else none

def isBinary (c : Char) : Bool := c == '0' || c == '1'

def isOctal (c : Char) : Bool := decide ('0' ≤ c ∧ c ≤ '7')

def isHex (c : Char) : Bool := (hexDigit? c).isSome

def ofBase (base : Nat) (ds : List Char) : Nat :=
  ds.foldl (fun n c => n * base + (hexDigit? c).getD 0) 0

def basedInteger? (base : Nat) (isDigit : Char → Bool) (cs : List Char) :
    Option (Value × List Char) := do
  let (ds, rest) ← someDigits? isDigit cs
  some (.integer (← int64? (ofBase base ds)), rest)

def integer? (cs : List Char) : Option (Value × List Char) :=
  match cs with
  | '0' :: 'x' :: rest => basedInteger? 16 isHex rest
  | '0' :: 'o' :: rest => basedInteger? 8 isOctal rest
  | '0' :: 'b' :: rest => basedInteger? 2 isBinary rest
  | cs => do
    let ((negative, ds), rest) ← decimal? cs
    let n : Int := ofBase 10 ds
    some (.integer (← int64? (if negative then -n else n)), rest)

/-- An exponent behind its letter. -/
def exponent? (cs : List Char) : Option (Int × List Char) := do
  let (negative, cs) := sign cs
  let (ds, rest) ← someDigits? Char.isDigit cs
  let n : Int := ofBase 10 ds
  some (if negative then -n else n, rest)

/-- The double that digits, places behind the point and an exponent denote. A positive one has
to be finite. -/
def double? (negative : Bool) (whole fraction : List Char) (e : Int) : Option Value :=
  let x := Binary64.ofDecimal (ofBase 10 (whole ++ fraction)) (e - fraction.length)
  if negative then some (.float x.neg)
  else if x.isFinite then some (.float x) else none

/-- A number with a fraction or an exponent; `some none` if there is neither. -/
def float? (cs : List Char) : Option (Option (Value × List Char)) :=
  match decimal? cs with
  | none => some none
  | some ((negative, whole), rest) =>
    match rest with
    | '.' :: rest => do
      let (fraction, rest) ← someDigits? Char.isDigit rest
      match rest with
      | 'e' :: rest | 'E' :: rest => do
        let (e, rest) ← exponent? rest
        some (some (← double? negative whole fraction e, rest))
      | rest => some (some (← double? negative whole fraction 0, rest))
    | 'e' :: rest | 'E' :: rest => do
      let (e, rest) ← exponent? rest
      some (some (← double? negative whole [] e, rest))
    | _ => some none

/-- Infinity and not-a-number, with a sign or without. -/
def specialFloat? (cs : List Char) : Option (Value × List Char) :=
  let (negative, cs) := sign cs
  let signed (x : Binary64) : Value := .float (if negative then x.neg else x)
  match cs with
  | 'i' :: 'n' :: 'f' :: rest => some (signed .infinity, rest)
  | 'n' :: 'a' :: 'n' :: rest => some (signed .nan, rest)
  | _ => none

/-! ### Dates and times -/

/-- A number of exactly two digits. -/
def twoDigits? : Reads Nat
  | a :: b :: cs => do some ((← digit? a) * 10 + (← digit? b), cs)
  | _ => none

def twoDigitsUpTo? (high : Nat) : Reads Nat := fun cs => do
  let (n, cs) ← twoDigits? cs
  if n ≤ high then some (n, cs) else none

def mark? (c : Char) : List Char → Option (List Char)
  | d :: cs => if d = c then some cs else none
  | [] => none

/-- A date; `some none` if the text does not begin as one. -/
def date? (cs : List Char) : Option (Option (List Char)) :=
  match twoDigits? cs with
  | none => some none
  | some (century, rest) =>
    match twoDigits? rest with
    | none => some none
    | some (yearOf, rest) =>
      match rest with
      | '-' :: rest => do
        let (month, rest) ← twoDigits? rest
        let rest ← mark? '-' rest
        let (day, rest) ← twoDigits? rest
        let _ ← Date.exists? ((century * 100 + yearOf : Nat) : Int) month day
        some (some rest)
      | _ => some none

/-- A time of day; `some none` if the text does not begin as one. -/
def time? (cs : List Char) : Option (Option (List Char)) :=
  match twoDigitsUpTo? 23 cs with
  | some (_, ':' :: rest) => do
    let (_, rest) ← twoDigitsUpTo? 59 rest
    let rest ← mark? ':' rest
    let (_, rest) ← twoDigitsUpTo? 60 rest
    match rest with
    | '.' :: c :: cs =>
      if c.isDigit then some (some (cs.dropWhile Char.isDigit)) else some (some rest)
    | rest => some (some rest)
  | _ => some none

/-- The offset behind a time, if there is one. -/
def offset? : List Char → Option (List Char)
  | 'Z' :: cs | 'z' :: cs => some cs
  | '+' :: cs | '-' :: cs => do
    let (_, cs) ← twoDigitsUpTo? 23 cs
    let cs ← mark? ':' cs
    let (_, cs) ← twoDigitsUpTo? 59 cs
    some cs
  | cs => some cs

/-- A date, a time or both; `some none` if the text begins as neither. -/
def moment? (cs : List Char) : Option (Option (List Char)) := do
  match ← date? cs with
  | some rest =>
    match rest with
    | c :: more =>
      if c = 'T' ∨ c = 't' ∨ c = ' ' then
        match ← time? more with
        | some rest => some (some (← offset? rest))
        | none => some (some rest)
      else some (some rest)
    | [] => some (some [])
  | none => time? cs

/-- Readers of records see a date as a table with this one key. -/
def momentKey : String := "$__toml_private_datetime"

/-- A date or a number. -/
def number? (cs : List Char) : Option (Value × List Char) := do
  match ← moment? cs with
  | some rest =>
    let written := String.ofList (cs.take (cs.length - rest.length))
    some (.table [(momentKey, .text written)], rest)
  | none =>
    match ← float? cs with
    | some r => some r
    | none => specialFloat? cs <|> integer? cs

end TaskSync.Toml
