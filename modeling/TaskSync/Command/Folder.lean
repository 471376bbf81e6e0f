import TaskSync.Data.Path
import TaskSync.Store.Table

/-!
# Folders

The folder in which a command works: its files, databases and directories by their place below
it. Nothing outside of it is seen.
-/

namespace TaskSync

/-- What stands at a place. -/
inductive Folder.Content where
  | directory
  | text (content : String)
  | database (d : Database)
  deriving DecidableEq, Inhabited

structure Folder where
  entries : List (List String × Folder.Content)

/-- Why a file cannot be used. -/
inductive FileError where
  | missing
  | notDirectory
  | isDirectory
  | alreadyThere
  | notText
  deriving DecidableEq

def FileError.message : FileError → String
  | missing => "No such file or directory (os error 2)"
  | alreadyThere => "File exists (os error 17)"
  | notDirectory => "Not a directory (os error 20)"
  | isDirectory => "Is a directory (os error 21)"
  | notText => "stream did not contain valid UTF-8"

namespace Folder

def empty : Folder := ⟨[]⟩

/-- The place that a path leads to, unless that is outside. -/
def place? (path : String) : Option (List String) :=
  if path = "" then none
  else
    (Path.components ⟨path⟩).foldlM
      (fun place c =>
        match c with
        | .root => none
        | .current => some place
        | .parent => if place.isEmpty then none else some place.dropLast
        | .normal name => some (place ++ [String.ofList name]))
      []

def find? (f : Folder) (place : List String) : Option Content := f.entries.lookup place

/-- What stands at a place; every place on the way must be a directory. -/
def find (f : Folder) (before : List String) : List String → Except FileError Content
  | [] => .ok .directory
  | [x] =>
    match f.find? (before ++ [x]) with
    | some node => .ok node
    | none => .error .missing
  | x :: rest =>
    match f.find? (before ++ [x]) with
    | some .directory => f.find (before ++ [x]) rest
    | some _ => .error .notDirectory
    | none => .error .missing

def look (f : Folder) (path : String) : Except FileError Content :=
  match place? path with
  | some place => f.find [] place
  | none => .error .missing

def contains (f : Folder) (path : String) : Bool := (f.look path).isOk

/-- Puts something at a place. -/
def put (f : Folder) (place : List String) (node : Content) : Folder :=
  if (f.find? place).isSome then
    ⟨f.entries.map fun e => if e.1 = place then (place, node) else e⟩
  else ⟨f.entries ++ [(place, node)]⟩

def readText (f : Folder) (path : String) : Except FileError String :=
  match f.look path with
  | .error e => .error e
  | .ok .directory => .error .isDirectory
  | .ok (.text content) => .ok content
  | .ok (.database _) => .error .notText

/-- A place at which a file can be written: its directory is there, and it is no directory. -/
def filePlace (f : Folder) (path : String) : Except FileError (List String) :=
  match place? path with
  | none => .error .missing
  | some place =>
    match f.find [] place.dropLast with
    | .error e => .error e
    | .ok .directory =>
      match f.find? place with
      | some .directory => .error .isDirectory
      | _ => if place.isEmpty then .error .isDirectory else .ok place
    | .ok _ => .error .notDirectory

def writeText (f : Folder) (path content : String) : Except FileError Folder :=
  (f.filePlace path).map fun place => f.put place (.text content)

/-- Makes the directories of a place that are missing. -/
def makePlaces (f : Folder) (before : List String) : List String → Except FileError Folder
  | [] => .ok f
  | x :: rest =>
    let place := before ++ [x]
    match f.find? place with
    | none => (f.put place .directory).makePlaces place rest
    | some .directory => f.makePlaces place rest
    | some _ => .error (if rest.isEmpty then .alreadyThere else .notDirectory)

def makeDirectories (f : Folder) (path : String) : Except FileError Folder :=
  match place? path with
  | some place => f.makePlaces [] place
  | none => .error .missing

/-- A file with all the directories above it. -/
def withFile (f : Folder) (path content : String) : Folder :=
  match place? path with
  | none => f
  | some place =>
    match f.makePlaces [] place.dropLast with
    | .ok f => f.put place (.text content)
    | .error _ => f

def cannotOpen : StoreError := .database 14 "unable to open database file"

def notDatabase : StoreError := .database 26 "file is not a database"

def readOnly : StoreError := .database 8 "attempt to write a readonly database"

/-- The database in a file. A file that is missing or empty is an empty database. -/
def readDatabase (f : Folder) (path : String) : Except StoreError Database :=
  match f.filePlace path with
  | .error _ => .error cannotOpen
  | .ok place =>
    match f.find? place with
    | some (.database d) => .ok d
    | some (.text content) => if content = "" then .ok .empty else .error notDatabase
    | _ => .ok .empty

/-- The database in a file that is only to be read. It has to have its tables. -/
def readOnlyDatabase (f : Folder) (path : String) : Except StoreError Database :=
  match f.look path with
  | .error _ => .error cannotOpen
  | .ok (.text "") => .error readOnly
  | .ok _ => f.readDatabase path

def writeDatabase (f : Folder) (path : String) (d : Database) : Folder :=
  match place? path with
  | some place => f.put place (.database d)
  | none => f

end Folder

end TaskSync
