import TaskSync.Data.Value
import TaskSync.Number.Shortest
import TaskSync.Text.Quoted

/-!
# Reading records from data values

A record is read from a table, whose entries are visited in their order, or from a list of its
fields. The first thing that does not fit is the error. What a field may hold and whether it may
be left out is described by `Field`; `Shape.read` does the rest for every record alike.
-/

namespace TaskSync

open Text

/-- The data format that a value was written in. The formats differ in how messages show a
value, in whether a list may be longer than the record, and in how a choice is written. -/
inductive Dialect where
  | json
  | toml
  deriving DecidableEq

/-- Why a value is not what was wanted. -/
inductive DecodeError where
  | invalidType (found : Value) (expected : String)
  | invalidValue (found : Value) (expected : String)
  | invalidLength (length : Nat) (expected : String)
  | missingField (name : String)
  | duplicateField (name : String)
  | unknownVariant (name : String) (known : List String)
  /-- A table or list that should name one choice. -/
  | badChoice (text : String)
  /-- A text that its own grammar refuses. -/
  | badText (text : String)
  deriving DecidableEq

/-- How a message names a value. -/
def Value.described (d : Dialect) : Value → String
  | .null => "null"
  | .boolean b => "boolean `" ++ (if b then "true" else "false") ++ "`"
  | .integer n => "integer `" ++ toString n ++ "`"
  | .float x =>
    let cs := match d with
      | .json => x.dataChars
      | .toml => x.messageChars
    "floating point `" ++ String.ofList cs ++ "`"
  | .text s => "string " ++ quoted s
  | .list _ => "sequence"
  | .table _ => "map"

/-- Names between backticks, as alternatives. -/
def alternatives : List String → String
  | [] => "there are no variants"
  | [a] => "expected `" ++ a ++ "`"
  | [a, b] => "expected `" ++ a ++ "` or `" ++ b ++ "`"
  | names => "expected one of " ++ ", ".intercalate (names.map fun n => "`" ++ n ++ "`")

def DecodeError.message (d : Dialect) : DecodeError → String
  | invalidType v expected => "invalid type: " ++ v.described d ++ ", expected " ++ expected
  | invalidValue v expected => "invalid value: " ++ v.described d ++ ", expected " ++ expected
  | invalidLength n expected => "invalid length " ++ toString n ++ ", expected " ++ expected
  | missingField name => "missing field `" ++ name ++ "`"
  | duplicateField name => "duplicate field `" ++ name ++ "`"
  | unknownVariant name known => "unknown variant `" ++ name ++ "`, " ++ alternatives known
  | badChoice text => text
  | badText text => text

abbrev Decoded (α : Type) := Except DecodeError α

namespace Decode

def text : Value → Decoded String
  | .text s => .ok s
  | v => .error (.invalidType v "a string")

def pathText : Value → Decoded String
  | .text s => .ok s
  | v => .error (.invalidType v "path string")

def boolean : Value → Decoded Bool
  | .boolean b => .ok b
  | v => .error (.invalidType v "a boolean")

/-- A whole number below `limit`. -/
def natural (limit : Nat) (expected : String) : Value → Decoded Nat
  | .integer n =>
    if 0 ≤ n ∧ n < (limit : Int) then .ok n.toNat
    else .error (.invalidValue (.integer n) expected)
  | v => .error (.invalidType v expected)

/-- Reads every item; the first failure wins. -/
def items {α : Type} (read : Value → Decoded α) : List Value → Decoded (List α)
  | [] => .ok []
  | v :: vs => do
    let x ← read v
    let xs ← items read vs
    .ok (x :: xs)

def list {α : Type} (read : Value → Decoded α) : Value → Decoded (List α)
  | .list vs => items read vs
  | v => .error (.invalidType v "a sequence")

def texts : Value → Decoded (List String) := list text

/-- Entries of a table of texts; a key that comes again replaces its value. -/
def textEntries (m : SortedMap String) : List (String × Value) → Decoded (SortedMap String)
  | [] => .ok m
  | (k, v) :: es => do
    let s ← text v
    textEntries (m.put k s) es

def textMap : Value → Decoded (SortedMap String)
  | .table es => textEntries [] es
  | v => .error (.invalidType v "a map")

/-- `null` or a value. -/
def optional {α : Type} (read : Value → Decoded α) : Value → Decoded (Option α)
  | .null => .ok none
  | v => (read v).map some

end Decode

/-- Whether a field may be left out: nowhere, from a table, or from a table and at the end of a
list. -/
inductive Presence where
  | required
  | optional
  | defaulted
  deriving DecidableEq

/-- A field of a record `σ`: its name and how its value changes a record. -/
structure Field (σ : Type) where
  name : String
  presence : Presence
  read : Dialect → Value → Decoded (σ → σ)

/-- A record: what messages call it, its fields in order, and the record before any is read. -/
structure Shape (σ : Type) where
  title : String
  fields : List (Field σ)
  start : σ

namespace Shape

variable {σ : Type}

/-- `1 element`, `2 elements`. -/
def elements (n : Nat) : String :=
  toString n ++ if n = 1 then " element" else " elements"

/-- Visits the entries of a table in order. Entries of other names are passed over. -/
def readEntries (d : Dialect) (s : Shape σ) :
    List String → σ → List (String × Value) → Decoded (List String × σ)
  | seen, r, [] => .ok (seen, r)
  | seen, r, (k, v) :: es =>
    match s.fields.find? (·.name == k) with
    | none => readEntries d s seen r es
    | some f =>
      if k ∈ seen then .error (.duplicateField k)
      else do
        let set ← f.read d v
        readEntries d s (k :: seen) (set r) es

/-- The first required field that was not seen. -/
def missing? (s : Shape σ) (seen : List String) : Option String :=
  (s.fields.find? fun f => f.presence == .required && !seen.contains f.name).map (·.name)

def readTable (d : Dialect) (s : Shape σ) (entries : List (String × Value)) : Decoded σ := do
  let (seen, r) ← s.readEntries d [] s.start entries
  match s.missing? seen with
  | some name => .error (.missingField name)
  | none => .ok r

/-- Visits the fields with the items of a list; returns the items left over. -/
def readItems (d : Dialect) (s : Shape σ) :
    Nat → List (Field σ) → σ → List Value → Decoded (σ × List Value)
  | _, [], r, vs => .ok (r, vs)
  | i, f :: fs, r, v :: vs => do
    let set ← f.read d v
    readItems d s (i + 1) fs (set r) vs
  | i, f :: fs, r, [] =>
    if f.presence = .defaulted then readItems d s (i + 1) fs r []
    else .error (.invalidLength i (s.title ++ " with " ++ elements s.fields.length))

/-- Reads a record of its own. -/
def read (s : Shape σ) (d : Dialect) : Value → Decoded σ
  | .table entries => s.readTable d entries
  | .list vs => do
    let (r, rest) ← s.readItems d 0 s.fields s.start vs
    if d = .json ∧ rest ≠ [] then .error (.invalidLength vs.length "fewer elements in array")
    else .ok r
  | v => .error (.invalidType v s.title)

/-- Reads the record behind a tag. -/
def readTagged (s : Shape σ) (d : Dialect) : Value → Decoded σ
  | .table entries => s.readTable d entries
  | .list vs => do
    let (r, rest) ← s.readItems d 0 s.fields s.start vs
    if rest = [] then .ok r
    else .error (.invalidLength vs.length (elements s.fields.length ++ " in sequence"))
  | v => .error (.invalidType v s.title)

end Shape

namespace Decode

/-- The index of a tag among the known ones. -/
def tagIndex (known : List String) : Value → Decoded Nat
  | .text s =>
    match known.findIdx? (· == s) with
    | some i => .ok i
    | none => .error (.unknownVariant s known)
  | v => .error (.invalidType v "variant identifier")

/-- Visits the entries of a tagged table: the tag's index, if it was seen, and the others. -/
def splitTag (known : List String) :
    List (String × Value) → Decoded (Option Nat × List (String × Value))
  | [] => .ok (none, [])
  | (k, v) :: es =>
    if k = "type" then do
      let i ← tagIndex known v
      match ← splitTag known es with
      | (some _, _) => .error (.duplicateField "type")
      | (none, rest) => .ok (some i, rest)
    else do
      let (tag, rest) ← splitTag known es
      .ok (tag, (k, v) :: rest)

/-- A value that names its variant in the field `type` or in the first item: the variant's index
and what is left for it. -/
def tagged (title : String) (known : List String) : Value → Decoded (Nat × Value)
  | .table entries => do
    match ← splitTag known entries with
    | (some i, rest) => .ok (i, .table rest)
    | (none, _) => .error (.missingField "type")
  | .list [] => .error (.missingField "type")
  | .list (v :: vs) => do .ok (← tagIndex known v, .list vs)
  | v => .error (.invalidType v title)

/-- A word out of a list. -/
def word (known : List String) (s : String) : Decoded Nat :=
  match known.findIdx? (· == s) with
  | some i => .ok i
  | none => .error (.unknownVariant s known)

/-- The kind of a value, as the second format's messages name it. -/
def kindName : Value → String
  | .null => "null"
  | .boolean _ => "boolean"
  | .integer _ => "integer"
  | .float _ => "float"
  | .text _ => "string"
  | .list _ => "array"
  | .table _ => "table"

/-- A choice without content: a word, or a table whose only key is the word. What may stand
under the key depends on the dialect: nothing, or an empty container. -/
def choice (d : Dialect) (known : List String) : Value → Decoded Nat
  | .text s => word known s
  | .table entries =>
    match d, entries with
    | .json, [(k, v)] => do
      let i ← word known k
      match v with
      | .null => .ok i
      | v => .error (.invalidType v "unit")
    | .json, _ => .error (.invalidValue (.table entries) "map with a single key")
    | .toml, [(k, v)] => do
      let i ← word known k
      match v with
      | .list [] | .table [] => .ok i
      | .list _ => .error (.badChoice "expected empty array")
      | .table _ => .error (.badChoice "expected empty table")
      | v => .error (.badChoice ("expected table, found " ++ kindName v))
    | .toml, [] => .error (.badChoice "wanted exactly 1 element, found 0 elements")
    | .toml, _ => .error (.badChoice "wanted exactly 1 element, more than 1 element")
  | v =>
    match d with
    | .json => .error (.invalidType v "string or map")
    | .toml => .error (.badChoice "wanted string or table")

end Decode

end TaskSync
