import TaskSync.Json.Number

/-!
# Reading JSON

The reader takes one value with blanks around it and nothing else. It keeps the entries of an
object as written. Containers may be nested 127 deep. Strings admit no control characters and no
half of a surrogate pair.
-/

namespace TaskSync.Json

open Text

def skipBlanks (cs : List Char) : List Char := cs.dropWhile isAsciiBlank

/-- The rest behind one character, which has to be there. -/
def expect? (c : Char) : List Char → Option (List Char)
  | [] => none
  | d :: cs => if d = c then some cs else none

def expectAll? : List Char → List Char → Option (List Char)
  | [], cs => some cs
  | w :: ws, cs => (expect? w cs).bind (expectAll? ws)

/-- Four hexadecimal digits. -/
def hex4? : List Char → Option (Nat × List Char)
  | a :: b :: c :: d :: rest => do
    let a ← hexDigit? a
    let b ← hexDigit? b
    let c ← hexDigit? c
    let d ← hexDigit? d
    some (((a * 16 + b) * 16 + c) * 16 + d, rest)
  | _ => none

/-- The character of a `\u` escape whose first unit has been read. A high surrogate needs a low
one in the next escape. -/
def unitChar? (u : Nat) (cs : List Char) : Option (Char × List Char) :=
  if 0xDC00 ≤ u ∧ u < 0xE000 then none
  else if 0xD800 ≤ u ∧ u < 0xDC00 then
    match cs with
    | '\\' :: 'u' :: cs => do
      let (v, cs) ← hex4? cs
      if 0xDC00 ≤ v ∧ v < 0xE000 then
        some (Char.ofNat (0x10000 + (u - 0xD800) * 0x400 + (v - 0xDC00)), cs)
      else none
    | _ => none
  else some (Char.ofNat u, cs)

/-- The character that an escape denotes, behind its backslash. -/
def escaped? : List Char → Option (Char × List Char)
  | '"' :: cs => some ('"', cs)
  | '\\' :: cs => some ('\\', cs)
  | '/' :: cs => some ('/', cs)
  | 'b' :: cs => some ('\x08', cs)
  | 'f' :: cs => some ('\x0c', cs)
  | 'n' :: cs => some ('\n', cs)
  | 'r' :: cs => some ('\r', cs)
  | 't' :: cs => some ('\t', cs)
  | 'u' :: cs => do
    let (u, cs) ← hex4? cs
    unitChar? u cs
  | _ => none

/-- A string behind its opening quote. Each character takes at least one of the text. -/
def stringBody? : Nat → List Char → Option (List Char × List Char)
  | 0, _ => none
  | _ + 1, [] => none
  | fuel + 1, c :: cs =>
    if c = '"' then some ([], cs)
    else if c = '\\' then do
      let (d, cs) ← escaped? cs
      let (ds, cs) ← stringBody? fuel cs
      some (d :: ds, cs)
    else if c.toNat < 0x20 then none
    else do
      let (ds, cs) ← stringBody? fuel cs
      some (c :: ds, cs)

/-- A string behind its opening quote. -/
def string? (cs : List Char) : Option (String × List Char) :=
  (stringBody? (cs.length + 1) cs).map fun (ds, rest) => (String.ofList ds, rest)

mutual

/-- A value at the front of a text, inside containers that leave room for `depth` more. -/
def value? : Nat → Nat → List Char → Option (Value × List Char)
  | 0, _, _ => none
  | fuel + 1, depth, cs =>
    match skipBlanks cs with
    | [] => none
    | c :: cs =>
      if c = 'n' then (expectAll? ['u', 'l', 'l'] cs).map fun cs => (.null, cs)
      else if c = 't' then (expectAll? ['r', 'u', 'e'] cs).map fun cs => (.boolean true, cs)
      else if c = 'f' then
        (expectAll? ['a', 'l', 's', 'e'] cs).map fun cs => (.boolean false, cs)
      else if c = '"' then (string? cs).map fun (s, cs) => (.text s, cs)
      else if c = '[' then
        match depth with
        | 0 => none
        | depth + 1 =>
          match skipBlanks cs with
          | ']' :: cs => some (.list [], cs)
          | cs => (items? fuel depth cs).map fun (vs, cs) => (.list vs, cs)
      else if c = '\x7b' then
        match depth with
        | 0 => none
        | depth + 1 =>
          match skipBlanks cs with
          | '\x7d' :: cs => some (.table [], cs)
          | cs => (entries? fuel depth cs).map fun (es, cs) => (.table es, cs)
      else do
        let (t, cs) ← numeral? (c :: cs)
        some (← t.value?, cs)

/-- At least one item, up to the closing bracket. -/
def items? : Nat → Nat → List Char → Option (List Value × List Char)
  | 0, _, _ => none
  | fuel + 1, depth, cs => do
    let (v, cs) ← value? fuel depth cs
    match skipBlanks cs with
    | ',' :: cs =>
      let (vs, cs) ← items? fuel depth cs
      some (v :: vs, cs)
    | ']' :: cs => some ([v], cs)
    | _ => none

/-- At least one entry, up to the closing brace. -/
def entries? : Nat → Nat → List Char → Option (List (String × Value) × List Char)
  | 0, _, _ => none
  | fuel + 1, depth, cs => do
    let cs ← expect? '"' (skipBlanks cs)
    let (k, cs) ← string? cs
    let cs ← expect? ':' (skipBlanks cs)
    let (v, cs) ← value? fuel depth cs
    match skipBlanks cs with
    | ',' :: cs =>
      let (es, cs) ← entries? fuel depth cs
      some ((k, v) :: es, cs)
    | '\x7d' :: cs => some ([(k, v)], cs)
    | _ => none

end

/-- How deep containers may be nested. -/
def maxDepth : Nat := 127

/-- Reads a whole text. Every level of the recursion takes a character or stands directly above
one that does, so twice the length is enough fuel. -/
def readChars? (cs : List Char) : Option Value :=
  match value? (2 * cs.length + 2) maxDepth cs with
  | some (v, rest) => if (skipBlanks rest).isEmpty then some v else none
  | none => none

/-- Reads a text, entries of objects as written. -/
def read? (s : String) : Option Value := readChars? s.toList

/-- Reads a text as a data value: keys sorted, the last entry of a key kept. -/
def readCanonical? (s : String) : Option Value := (read? s).map Value.canonical

end TaskSync.Json
