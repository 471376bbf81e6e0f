import TaskSync.Data.Value
import TaskSync.Number.Shortest
import TaskSync.Text.Quoted

/-!
# Writing JSON

Values are written without blanks, entries of tables in their order. Strings escape quotes,
backslashes and controls and nothing else.
-/

namespace TaskSync.Json

open Text

/-- One character inside a string. -/
def escapeStringChar (c : Char) : List Char :=
  if c = '"' then ['\\', '"']
  else if c = '\\' then ['\\', '\\']
  else if c = '\x08' then ['\\', 'b']
  else if c = '\x0c' then ['\\', 'f']
  else if c = '\n' then ['\\', 'n']
  else if c = '\r' then ['\\', 'r']
  else if c = '\t' then ['\\', 't']
  else if c.toNat < 0x20 then
    ['\\', 'u', '0', '0'] ++ (if c.toNat < 0x10 then ['0'] else []) ++ hex c.toNat
  else [c]

def stringChars (s : String) : List Char :=
  ['"'] ++ s.toList.flatMap escapeStringChar ++ ['"']

def integerChars (n : Int) : List Char :=
  (if n < 0 then ['-'] else []) ++ digits n.natAbs

mutual

def writeChars : Value → List Char
  | .null => ['n', 'u', 'l', 'l']
  | .boolean true => ['t', 'r', 'u', 'e']
  | .boolean false => ['f', 'a', 'l', 's', 'e']
  | .integer n => integerChars n
  | .float x => x.dataChars
  | .text s => stringChars s
  | .list items => ['['] ++ writeItems items ++ [']']
  | .table entries => ['\x7b'] ++ writeEntries entries ++ ['\x7d']

def writeItems : List Value → List Char
  | [] => []
  | [v] => writeChars v
  | v :: vs => writeChars v ++ ',' :: writeItems vs

def writeEntries : List (String × Value) → List Char
  | [] => []
  | [(k, v)] => stringChars k ++ ':' :: writeChars v
  | (k, v) :: es => stringChars k ++ ':' :: (writeChars v ++ ',' :: writeEntries es)

end

/-- The text of a value. -/
def write (v : Value) : String := String.ofList (writeChars v)

end TaskSync.Json
