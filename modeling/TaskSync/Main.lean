import TaskSync.Command.Basic
import TaskSync.Store.Image

/-!
# The program

Brings what a command looks at from the current directory into a folder, runs the command there,
and writes back what it has changed.
-/

namespace TaskSync.Program

/-- Brings what stands at a place into the folder. -/
def loadPlace (f : Folder) (place : List String) : IO Folder := do
  let path := (← IO.currentDir) / "/".intercalate place
  if ← path.isDir then return f.put place .directory
  else if ← path.pathExists then
    let content ← IO.FS.readFile path
    return f.put place ((Image.read? content).elim (.text content) .database)
  else return f

/-- Brings the places on the way to a path into the folder, from the top. -/
def loadPath (f : Folder) (path : String) : IO Folder :=
  match Folder.place? path with
  | none => return f
  | some place =>
    (List.range place.length).foldlM (fun f n => loadPlace f (place.take (n + 1))) f

def load (f : Folder) (paths : List String) : IO Folder := paths.foldlM loadPath f

/-- Writes one entry of a folder. -/
def savePlace (place : List String) (content : Folder.Content) : IO Unit := do
  let path := (← IO.currentDir) / "/".intercalate place
  match content with
  | .directory => IO.FS.createDirAll path
  | .text s => IO.FS.writeFile path s
  | .database d => IO.FS.writeFile path (Image.write d)

/-- Writes what has changed. -/
def save (before after : Folder) : IO Unit :=
  after.entries.forM fun e =>
    if before.find? e.1 = some e.2 then pure () else savePlace e.1 e.2

end TaskSync.Program

open TaskSync in
/-- Runs the command line. -/
def main (args : List String) : IO UInt32 := do
  let f ← Program.load .empty (Command.paths args .empty)
  let f ← Program.load f (Command.paths args f)
  let (out, g) := Command.run args f
  Program.save f g
  IO.print out.stdout
  IO.eprint out.stderr
  return UInt32.ofNat out.code
