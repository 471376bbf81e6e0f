import TaskSync.Data.Decode

/-!
# Notices

What is announced about a task: that it was created, updated or deleted, and how a run ended.
-/

namespace TaskSync

inductive Notice where
  | created (task : String) (scheduled : Bool)
  | updated (task : String) (enabled : Bool)
  | deleted (task : String)
  | runCompleted (task : String) (success : Bool) (error : Option String)
  deriving DecidableEq

namespace Notice

def taskName : Notice → String
  | created task _ | updated task _ | deleted task | runCompleted task _ _ => task

def tags : List String := ["task.created", "task.updated", "task.deleted", "task.run_completed"]

def nameField (set : Notice → String → Notice) : Field Notice :=
  ⟨"task_name", .required, fun _ v => do
    let s ← Decode.text v
    .ok fun n => set n s⟩

def flagField (name : String) (set : Notice → Bool → Notice) : Field Notice :=
  ⟨name, .required, fun _ v => do
    let b ← Decode.boolean v
    .ok fun n => set n b⟩

def withName : Notice → String → Notice
  | created _ b, s => created s b
  | updated _ b, s => updated s b
  | deleted _, s => deleted s
  | runCompleted _ b e, s => runCompleted s b e

def withFlag : Notice → Bool → Notice
  | created s _, b => created s b
  | updated s _, b => updated s b
  | deleted s, _ => deleted s
  | runCompleted s _ e, b => runCompleted s b e

def withError : Notice → Option String → Notice
  | runCompleted s b _, e => runCompleted s b e
  | n, _ => n

def shapeOf (variantName : String) (start : Notice) (fields : List (Field Notice)) :
    Shape Notice where
  title := "struct variant TaskEvent::" ++ variantName
  start := start
  fields := fields

def createdShape : Shape Notice :=
  shapeOf "TaskCreated" (created "" false) [nameField withName, flagField "scheduled" withFlag]

def updatedShape : Shape Notice :=
  shapeOf "TaskUpdated" (updated "" false) [nameField withName, flagField "enabled" withFlag]

def deletedShape : Shape Notice :=
  shapeOf "TaskDeleted" (deleted "") [nameField withName]

def runCompletedShape : Shape Notice :=
  shapeOf "TaskRunCompleted" (runCompleted "" false none)
    [nameField withName, flagField "success" withFlag,
      ⟨"error", .optional, fun _ v => do
        let e ← Decode.optional Decode.text v
        .ok fun n => withError n e⟩]

def read (d : Dialect) (v : Value) : Decoded Notice := do
  let (i, content) ← Decode.tagged "internally tagged enum TaskEvent" tags v
  match i with
  | 0 => createdShape.readTagged d content
  | 1 => updatedShape.readTagged d content
  | 2 => deletedShape.readTagged d content
  | _ => runCompletedShape.readTagged d content

def toValue : Notice → Value
  | created task scheduled =>
    .table [("type", .text "task.created"), ("task_name", .text task),
      ("scheduled", .boolean scheduled)]
  | updated task enabled =>
    .table [("type", .text "task.updated"), ("task_name", .text task),
      ("enabled", .boolean enabled)]
  | deleted task => .table [("type", .text "task.deleted"), ("task_name", .text task)]
  | runCompleted task success error =>
    .table [("type", .text "task.run_completed"), ("task_name", .text task),
      ("success", .boolean success),
      ("error", match error with
        | some e => .text e
        | none => .null)]

end Notice

end TaskSync
