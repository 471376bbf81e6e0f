import TaskSync.Failure
import TaskSync.Text.Blank

/-!
# Locations of databases

Where a database is: in memory, or in a file. A location is a path behind a scheme that may be
left out, with options behind a question mark; bytes of the path can be written in hexadecimal.
-/

namespace TaskSync

inductive Location where
  | memory
  /-- A file. It is made when it is missing, unless it is only to be read. -/
  | file (path : String) (readOnly : Bool)
  deriving DecidableEq

namespace Location

/-- Takes a text off the front as often as it stands there. -/
def dropAll (mark : List Char) : Nat → List Char → List Char
  | 0, cs => cs
  | n + 1, cs => if mark.isPrefixOf cs then dropAll mark n (cs.drop mark.length) else cs

def withoutScheme (cs : List Char) : List Char :=
  let cs := dropAll "sqlite://".toList cs.length cs
  dropAll "sqlite:".toList cs.length cs

/-- The path in front of the first question mark, and the options behind it. -/
def splitOptions (cs : List Char) : List Char × List Char :=
  (cs.takeWhile (· ≠ '?'), (cs.dropWhile (· ≠ '?')).drop 1)

/-- The bytes of a text in which some are written in hexadecimal. -/
def bytesOf : List Char → List UInt8
  | '%' :: a :: b :: rest =>
    match Text.hexDigit? a, Text.hexDigit? b with
    | some x, some y => UInt8.ofNat (16 * x + y) :: bytesOf rest
    | _, _ => '%'.toString.toUTF8.toList ++ bytesOf (a :: b :: rest)
  | c :: rest => c.toString.toUTF8.toList ++ bytesOf rest
  | [] => []

def decodePath (cs : List Char) : Except StoreError String :=
  match String.fromUTF8? (bytesOf cs).toByteArray with
  | some s => .ok s
  | none => .error (.location "invalid utf-8 sequence")

/-- Where an option moves the database. -/
def applyOption (l : Location) (option : String) : Except StoreError Location :=
  let key := (option.splitOn "=").headD ""
  let value := "=".intercalate ((option.splitOn "=").drop 1)
  let unknownValue : Except StoreError Location :=
    .error (.location ("unknown value \"" ++ value ++ "\" for `" ++ key ++ "`"))
  match key, value, l with
  | "mode", "memory", _ => .ok memory
  | "mode", "ro", file path _ => .ok (file path true)
  | "mode", "ro", memory => .ok memory
  | "mode", "rw", l => .ok l
  | "mode", "rwc", l => .ok l
  | "mode", _, _ => unknownValue
  | "cache", "private", l => .ok l
  | "cache", "shared", l => .ok l
  | "cache", _, _ => unknownValue
  | "immutable", v, l => if ["true", "1", "false", "0"].contains v then .ok l else unknownValue
  | "vfs", _, l => .ok l
  | _, _, _ =>
    .error (.location
      ("unknown query parameter `" ++ key ++ "` while parsing connection URL"))

/-- Reads a location. A path that is empty is a database of its own that nobody else sees. -/
def read (url : String) : Except StoreError Location := do
  let (path, options) := splitOptions (withoutScheme url.toList)
  let path ← decodePath path
  let start := if path = ":memory:" ∨ path = "" then memory else file path false
  ((String.ofList options).splitOn "&").foldlM
    (fun l option => if option = "" then .ok l else applyOption l option) start

end Location

end TaskSync
