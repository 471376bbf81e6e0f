import TaskSync.Cron.Schedule
import TaskSync.Number.Power
import TaskSync.Text.Blank

/-!
# Reading cron expressions

An expression has six fields, from seconds to days of the week, and perhaps a seventh with
years, or is one of five shorthands. Blanks may stand around every number, name and sign, and
need not stand between fields: a field ends where it cannot go on. A list may hold numbers,
names, ranges and steps; a step cannot follow a single name.
-/

namespace TaskSync.Cron

open Text

/-- What a grammar rule takes from the front of a text, and the rest. -/
abbrev Reads (α : Type) := List Char → Option (α × List Char)

def skipBlanks (cs : List Char) : List Char := cs.dropWhile isAsciiBlank

/-- One sign with blanks around it. -/
def sign (c : Char) : Reads PUnit := fun cs =>
  match skipBlanks cs with
  | d :: cs => if d = c then some (⟨⟩, skipBlanks cs) else none
  | [] => none

/-- The rest behind one character. -/
def exact (c : Char) : Reads PUnit := fun cs =>
  match cs with
  | d :: cs => if d = c then some (⟨⟩, cs) else none
  | [] => none

/-- A number below 2^32 with blanks around it. -/
def ordinal : Reads Nat := fun cs =>
  match (skipBlanks cs).span Char.isDigit with
  | ([], _) => none
  | (ds, rest) => do
    let n ← ofDigits? ds
    if n < 2 ^ 32 then some (n, skipBlanks rest) else none

/-- Letters with blanks around them. -/
def name : Reads (List Char) := fun cs =>
  match (skipBlanks cs).span Char.isAlpha with
  | ([], _) => none
  | (ds, rest) => some (ds, skipBlanks rest)

def range : Reads Base := fun cs => do
  let (a, cs) ← ordinal cs
  let (_, cs) ← exact '-' cs
  let (b, cs) ← ordinal cs
  some (.range a b, cs)

def namedRange : Reads Base := fun cs => do
  let (a, cs) ← name cs
  let (_, cs) ← exact '-' cs
  let (b, cs) ← name cs
  some (.namedRange a b, cs)

/-- The base of an item, the longest reading first. -/
def base (u : Unit) : Reads Base := fun cs =>
  (if u.admitsOpen then (sign '?' cs).map fun r => (Base.all, r.2) else none)
    <|> ((sign '*' cs).map fun r => (Base.all, r.2))
    <|> range cs
    <|> ((ordinal cs).map fun r => (Base.point r.1, r.2))
    <|> namedRange cs

def steppedItem (u : Unit) : Reads Item := fun cs => do
  let (b, cs) ← base u cs
  let (_, cs) ← exact '/' cs
  let (n, cs) ← ordinal cs
  some (.stepped b n, cs)

def item (u : Unit) : Reads Item := fun cs =>
  steppedItem u cs
    <|> ((base u cs).map fun r => (Item.plain r.1, r.2))
    <|> ((name cs).map fun r => (Item.named r.1, r.2))

/-- Further items behind commas. A comma without an item behind it is left in the text. -/
def moreItems (u : Unit) : Nat → List Char → List Item × List Char
  | 0, cs => ([], cs)
  | fuel + 1, cs =>
    match cs with
    | ',' :: rest =>
      match item u rest with
      | some (i, rest) =>
        let (is, rest) := moreItems u fuel rest
        (i :: is, rest)
      | none => ([], cs)
    | _ => ([], cs)

/-- One field: the ordinals of its items. -/
def field (u : Unit) : Reads (List Nat) := fun cs => do
  let (i, cs) ← item u (skipBlanks cs)
  let (is, cs) := moreItems u cs.length cs
  some (← fieldOrdinals? u (i :: is), skipBlanks cs)

/-- Six fields and perhaps a seventh. -/
def fields? (cs : List Char) : Option Schedule := do
  let (seconds, cs) ← field .second cs
  let (minutes, cs) ← field .minute cs
  let (hours, cs) ← field .hour cs
  let (daysOfMonth, cs) ← field .dayOfMonth cs
  let (months, cs) ← field .month cs
  let (daysOfWeek, cs) ← field .dayOfWeek cs
  let (years, cs) := (field .year cs).getD (span (Unit.low .year) (Unit.high .year), cs)
  if cs.isEmpty then some ⟨seconds, minutes, hours, daysOfMonth, months, daysOfWeek, years⟩
  else none

/-- The expressions that the shorthands stand for. -/
def shorthands : List (String × String) :=
  [("@yearly", "0 0 0 1 1 *"), ("@monthly", "0 0 0 1 * *"), ("@weekly", "0 0 0 * * 1"),
   ("@daily", "0 0 0 * * *"), ("@hourly", "0 0 * * * *")]

/-- The shorthand that is the whole text, blanks around it aside. -/
def shorthand? (cs : List Char) : Option Schedule := do
  let body := ((skipBlanks cs).reverse.dropWhile isAsciiBlank).reverse
  let (_, expression) ← shorthands.find? fun e => e.1.toList == body
  fields? expression.toList

def readChars? (cs : List Char) : Option Schedule := shorthand? cs <|> fields? cs

/-- Reads an expression. -/
def read? (s : String) : Option Schedule := readChars? s.toList

end TaskSync.Cron
