import TaskSync.Number.Power
import TaskSync.Text.Blank
import TaskSync.Text.Quoted

/-!
# Universally unique identifiers

An identifier is a number of 128 bits. It is written as 32 lower-case hexadecimal digits in
groups of 8, 4, 4, 4 and 12. The reader also takes upper case, the digits without hyphens, braces
around the groups, and the prefix `urn:uuid:`.
-/

namespace TaskSync

structure Uuid where
  value : Nat
  value_lt : value < 2 ^ 128 := by decide
  deriving DecidableEq

namespace Uuid

open Text

def nil : Uuid := ⟨0, by decide⟩

instance : Inhabited Uuid := ⟨nil⟩

/-- The lengths of the groups. -/
def groups : List Nat := [8, 4, 4, 4, 12]

/-- Where the hyphens stand. -/
def hyphens : List Nat := [8, 13, 18, 23]

/-- Why a text is no identifier. -/
inductive ReadError where
  | badChar (c : Char) (position : Nat)
  | simpleLength (length : Nat)
  | groupCount (count : Nat)
  | groupLength (group length : Nat)
  deriving DecidableEq

def ReadError.message (e : ReadError) : String :=
  "UUID parsing failed: " ++ match e with
    | badChar c i =>
      "invalid character: expected an optional prefix of `urn:uuid:` followed by "
        ++ "[0-9a-fA-F-], found `" ++ String.singleton c ++ "` at " ++ toString i
    | simpleLength n =>
      "invalid length: expected length 32 for simple format, found " ++ toString n
    | groupCount n => "invalid group count: expected 5, found " ++ toString n
    | groupLength i n =>
      "invalid group length in group " ++ toString i ++ ": expected "
        ++ toString (groups.getD i 0) ++ ", found " ++ toString n

def ofHex? (cs : List Char) : Option Uuid := do
  let n ← cs.foldlM (fun n c => (hexDigit? c).map (n * 16 + ·)) 0
  if h : n < 2 ^ 128 then some ⟨n, h⟩ else none

/-- 32 digits. -/
def simple? (cs : List Char) : Option Uuid := if cs.length = 32 then ofHex? cs else none

/-- 32 digits with hyphens between the groups. -/
def hyphenated? (cs : List Char) : Option Uuid :=
  if cs.length = 36 ∧ hyphens.all fun i => cs[i]? == some '-' then
    ofHex? ((cs.zipIdx.filter fun e => !hyphens.contains e.2).map (·.1))
  else none

def urnMark : List Char := "urn:uuid:".toList

/-- What is left inside braces or behind the prefix, and how long the part in front of it is. -/
def unwrap (cs : List Char) : List Char × Nat × Bool :=
  match cs with
  | '\x7b' :: rest =>
    if rest.getLast? = some '\x7d' then (rest.dropLast, 1, false) else (cs, 0, true)
  | _ =>
    if urnMark.isPrefixOf cs then (cs.drop urnMark.length, urnMark.length, false)
    else (cs, 0, true)

def utf8Length (cs : List Char) : Nat := (cs.map (·.utf8Size)).foldl (· + ·) 0

/-- The first character, with its place, that is neither a digit nor a hyphen. -/
def badChar? : Nat → List Char → Option (Char × Nat)
  | _, [] => none
  | i, c :: cs =>
    if c = '-' ∨ (hexDigit? c).isSome then badChar? (i + c.utf8Size) cs else some (c, i)

def hyphenPlaces (cs : List Char) : List Nat :=
  (cs.zipIdx.filter fun e => e.1 == '-').map (·.2)

/-- What is wrong with a text that was refused. -/
def diagnose (cs : List Char) : ReadError :=
  let (body, offset, bare) := unwrap cs
  match badChar? 0 body with
  | some (c, i) => .badChar c (i + offset + 1)
  | none =>
    let places := hyphenPlaces body
    if places = [] ∧ bare then .simpleLength (utf8Length cs)
    else if places.length ≠ 4 then .groupCount (places.length + 1)
    else
      let starts := [0, 9, 14, 19]
      match ((places.zip hyphens).zipIdx.find? fun e => e.1.1 ≠ e.1.2) with
      | some ((p, _), i) => .groupLength i (p - starts.getD i 0)
      | none => .groupLength 4 (utf8Length cs - 24)

def readChars (cs : List Char) : Except ReadError Uuid :=
  let (body, _, bare) := unwrap cs
  match (if bare then simple? body else none) <|> hyphenated? body with
  | some u => .ok u
  | none => .error (diagnose cs)

def read (s : String) : Except ReadError Uuid := readChars s.toList

/-- The 32 digits. -/
def digits (u : Uuid) : List Char :=
  let ds := hex u.value
  List.replicate (32 - ds.length) '0' ++ ds

def textChars (u : Uuid) : List Char :=
  let ds := u.digits
  ds.take 8 ++ '-' :: (ds.drop 8).take 4 ++ '-' :: (ds.drop 12).take 4
    ++ '-' :: (ds.drop 16).take 4 ++ '-' :: ds.drop 20

/-- The written form. -/
def text (u : Uuid) : String := String.ofList u.textChars

/-- An identifier with the version and variant of a random one, whose other bits hold a serial
number. -/
def ofSerial (n : Nat) : Uuid :=
  ⟨4 * 2 ^ 76 + 8 * 2 ^ 60 + n % 2 ^ 60, by omega⟩

/-- The version nibble. -/
def version (u : Uuid) : Nat := u.value / 2 ^ 76 % 16

end Uuid

end TaskSync
