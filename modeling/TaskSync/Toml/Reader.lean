import TaskSync.Toml.Scalar
import TaskSync.Toml.Tree

/-!
# Reading TOML documents

A document is a sequence of lines: headers of tables, headers of items in arrays of tables, and
values under keys. Entries come out in the order of the document. Arrays and inline tables may be
nested fewer than 80 deep, and a key has fewer than 80 parts.
-/

namespace TaskSync.Toml

/-- How deep values may be nested, and how many parts a key may have. -/
def nestLimit : Nat := 80

def isBareKeyChar (c : Char) : Bool := c.isAlphanum || c == '-' || c == '_'

def simpleKey? (cs : List Char) : Option (String × List Char) :=
  match cs with
  | '"' :: _ | '\'' :: _ => lineString? cs
  | cs =>
    match cs.span isBareKeyChar with
    | ([], _) => none
    | (ds, rest) => some (String.ofList ds, rest)

/-- A key: parts between dots, with blanks around each. -/
def keyParts? : Nat → List Char → Option (List String × List Char)
  | 0, _ => none
  | fuel + 1, cs => do
    let (k, rest) ← simpleKey? (skipSpace cs)
    match skipSpace rest with
    | '.' :: rest =>
      let (ks, rest) ← keyParts? fuel rest
      some (k :: ks, rest)
    | rest => some ([k], rest)

def key? (cs : List Char) : Option (List String × List Char) := keyParts? (nestLimit - 1) cs

/-- The rest behind a comment, which runs to the end of the line. -/
def skipComment (cs : List Char) : List Char :=
  match cs with
  | '#' :: rest => rest.dropWhile isTextChar
  | cs => cs

/-- Blanks, comments and line breaks between the items of an array. -/
def skipLines : Nat → List Char → List Char
  | 0, cs => cs
  | fuel + 1, cs =>
    match cs with
    | '#' :: rest => skipLines fuel (rest.dropWhile isTextChar)
    | c :: rest =>
      if isSpace c then skipLines fuel rest
      else
        match newline? cs with
        | some rest => skipLines fuel rest
        | none => cs
    | [] => []

def skipGap (cs : List Char) : List Char := skipLines cs.length cs

mutual

/-- A value inside so many containers. -/
def value? : Nat → Nat → List Char → Option (Value × List Char)
  | 0, _, _ => none
  | fuel + 1, depth, cs =>
    match cs with
    | '"' :: _ | '\'' :: _ => (string? cs).map fun (s, rest) => (.text s, rest)
    | '[' :: rest =>
      if nestLimit ≤ depth + 1 then none
      else (items? fuel (depth + 1) rest).map fun (vs, rest) => (.list vs, rest)
    | '\x7b' :: rest =>
      if nestLimit ≤ depth + 1 then none
      else
        match skipSpace rest with
        | '\x7d' :: rest => some (.table [], rest)
        | _ => (pairs? fuel (depth + 1) .empty rest).map fun (t, rest) => (t.toNode.toValue, rest)
    | 't' :: 'r' :: 'u' :: 'e' :: rest => some (.boolean true, rest)
    | 'f' :: 'a' :: 'l' :: 's' :: 'e' :: rest => some (.boolean false, rest)
    | 'i' :: _ | 'n' :: _ => specialFloat? cs
    | c :: _ => if c.isDigit || c == '+' || c == '-' then number? cs else none
    | [] => none

/-- Items up to the closing bracket; a comma may stand behind the last one. -/
def items? : Nat → Nat → List Char → Option (List Value × List Char)
  | 0, _, _ => none
  | fuel + 1, depth, cs =>
    match skipGap cs with
    | ']' :: rest => some ([], rest)
    | cs => do
      let (v, rest) ← value? fuel depth cs
      match skipGap rest with
      | ',' :: rest =>
        let (vs, rest) ← items? fuel depth rest
        some (v :: vs, rest)
      | ']' :: rest => some ([v], rest)
      | _ => none

/-- Keys and values on one line, up to the closing brace. -/
def pairs? : Nat → Nat → Table → List Char → Option (Table × List Char)
  | 0, _, _, _ => none
  | fuel + 1, depth, t, cs => do
    let (path, rest) ← key? cs
    match rest with
    | '=' :: rest =>
      let (v, rest) ← value? fuel depth (skipSpace rest)
      let t ← t.putValue path.dropLast (path.getLast?.getD "") v
      match skipSpace rest with
      | ',' :: rest => pairs? fuel depth t rest
      | '\x7d' :: rest => some (t, rest)
      | _ => none
    | _ => none

end

/-- The rest behind the end of a line: blanks, perhaps a comment, and a line break or the end of
the text. -/
def lineEnd? (cs : List Char) : Option (List Char) :=
  match skipComment (skipSpace cs) with
  | [] => some []
  | cs => newline? cs

/-- The value on the right of a key. -/
def keyValue? (b : Builder) (cs : List Char) : Option (Builder × List Char) := do
  let (path, rest) ← key? cs
  match rest with
  | '=' :: rest =>
    let cs := skipSpace rest
    let (v, rest) ← value? (2 * cs.length + 2) 0 cs
    let rest ← lineEnd? rest
    some (← b.addValue path.dropLast (path.getLast?.getD "") v, rest)
  | _ => none

def tableHeader? (b : Builder) (cs : List Char) : Option (Builder × List Char) := do
  let (path, rest) ← key? cs
  match rest with
  | ']' :: rest =>
    let rest ← lineEnd? rest
    some (← b.openTable path, rest)
  | _ => none

def itemHeader? (b : Builder) (cs : List Char) : Option (Builder × List Char) := do
  let (path, rest) ← key? cs
  match rest with
  | ']' :: ']' :: rest =>
    let rest ← lineEnd? rest
    some (← b.openItem path, rest)
  | _ => none

/-- Lines to the end of the text. Each takes a character, so the length is fuel enough. -/
def lines? : Nat → Builder → List Char → Option Builder
  | 0, _, _ => none
  | fuel + 1, b, cs =>
    match skipSpace cs with
    | [] => some b
    | '#' :: rest => do lines? fuel b (← lineEnd? ('#' :: rest))
    | '[' :: '[' :: rest => do
      let (b, rest) ← itemHeader? b rest
      lines? fuel b rest
    | '[' :: rest => do
      let (b, rest) ← tableHeader? b rest
      lines? fuel b rest
    | cs =>
      match newline? cs with
      | some rest => lines? fuel b rest
      | none => do
        let (b, rest) ← keyValue? b cs
        lines? fuel b rest

def readChars? (cs : List Char) : Option Value := do
  let cs := match cs with
    | '\uFEFF' :: rest => rest
    | cs => cs
  let b ← lines? (cs.length + 1) .start cs
  let root ← b.close
  some root.toNode.toValue

/-- Reads a document. -/
def read? (s : String) : Option Value := readChars? s.toList

end TaskSync.Toml
