import TaskSync.Text.Quoted
import TaskSync.Toml.Reader

/-!
# Writing TOML

A table is written as its plain entries, one a line, and then its tables and arrays of tables,
each under a header of its own. A list of more than one item has an item a line.
-/

namespace TaskSync.Toml

open Text

def escapedChar (c : Char) : List Char :=
  if c = '"' then ['\\', '"']
  else if c = '\\' then ['\\', '\\']
  else if c = '\n' then ['\\', 'n']
  else if c = '\t' then ['\\', 't']
  else if c = '\r' then ['\\', 'r']
  else if c.toNat < 0x20 || c.toNat == 0x7f then
    ['\\', 'u', '0', '0'] ++ (if c.toNat < 0x10 then ['0'] else []) ++ hex c.toNat
  else [c]

def stringChars (s : String) : List Char := ['"'] ++ s.toList.flatMap escapedChar ++ ['"']

/-- A key is quoted unless the reader takes it bare. -/
def keyChars (key : String) : List Char :=
  if !key.isEmpty && key.toList.all isBareKeyChar then key.toList else stringChars key

/-- A table, or a list of tables, which comes under headers. -/
def isTable : Value → Bool
  | .table _ => true
  | .list (.table _ :: _) => true
  | _ => false

def integerChars (n : Int) : List Char := (if n < 0 then ['-'] else []) ++ digits n.natAbs

mutual

/-- A value on the right of an equals sign. Tables do not come here, and there is no null. -/
def plainChars : Value → List Char
  | .boolean true => "true".toList
  | .boolean false => "false".toList
  | .integer n => integerChars n
  | .text s => stringChars s
  | .list [] => ['[', ']']
  | .list [v] => ['['] ++ plainChars v ++ [']']
  | .list (v :: w :: vs) => ['[', '\n'] ++ itemLines (v :: w :: vs) ++ [']']
  | _ => []

def itemLines : List Value → List Char
  | [] => []
  | v :: vs => "    ".toList ++ plainChars v ++ [',', '\n'] ++ itemLines vs

end

/-- The plain entries, one a line. -/
def plainLines (entries : List (String × Value)) : List Char :=
  (entries.filter fun e => !isTable e.2).flatMap fun e =>
    keyChars e.1 ++ " = ".toList ++ plainChars e.2 ++ ['\n']

def pathChars (path : List String) : List Char :=
  ['.'].intercalate (path.map keyChars)

mutual

/-- The tables in a value that stands at a path. -/
def tableChars (path : List String) : Value → List Char
  | .table entries =>
    ['\n', '['] ++ pathChars path ++ [']', '\n'] ++ plainLines entries ++ entryTables path entries
  | .list items => arrayTables path items
  | _ => []

def arrayTables (path : List String) : List Value → List Char
  | [] => []
  | .table entries :: rest =>
    ['\n', '[', '['] ++ pathChars path ++ [']', ']', '\n'] ++ plainLines entries
      ++ entryTables path entries ++ arrayTables path rest
  | _ :: rest => arrayTables path rest

def entryTables (path : List String) : List (String × Value) → List Char
  | [] => []
  | (key, v) :: rest => tableChars (path ++ [key]) v ++ entryTables path rest

end

/-- The text of a document. -/
def write : Value → String
  | .table entries =>
    let chars := plainLines entries ++ entryTables [] entries
    String.ofList (if chars.head? = some '\n' then chars.drop 1 else chars)
  | _ => ""

end TaskSync.Toml
