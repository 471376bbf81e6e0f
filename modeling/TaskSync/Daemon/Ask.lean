import TaskSync.Daemon.Call

/-!
# Questions

What can be asked about tasks, and the operations that are over at once.
-/

namespace TaskSync.Daemon

/-- Forgets all tasks and starts the factory. -/
def start (d : Daemon) : Except Failure Unit × Daemon :=
  let (r, d) := { d with registry := d.registry.reset }.startFactory
  (r.mapError .backend, d)

/-- The stored configuration of a task. -/
def task (d : Daemon) (name : String) : Except Failure TaskConfig × Daemon :=
  let (r, d) := d.look .getTask (·.getTask name)
  (match r with
    | .error e => .error (.store e)
    | .ok none => .error (.notFound name)
    | .ok (some c) => .ok c, d)

/-- All stored configurations. -/
def tasks (d : Daemon) : Except Failure (List TaskConfig) × Daemon :=
  let (r, d) := d.look .getAllTasks (·.allTasks)
  (r.mapError .store, d)

/-- The records of a task, the newest first. -/
def records (d : Daemon) (name : String) : Except Failure (List RunRecord) × Daemon :=
  let (r, d) := d.look .getRecords (·.recordsOf name)
  (r.mapError .store, d)

/-- The task that renders a template. -/
def taskByTemplate (d : Daemon) (template : String) : Option String :=
  (d.registry.getByTemplate? template).map fun b => (d.taskOf b).name

/-- From now on completed runs are kept for a listener, at least one for each stored task. -/
def listen (d : Daemon) : Except Failure Unit × Daemon :=
  match d.tasks with
  | (.error e, d) => (.error e, d)
  | (.ok tasks, d) =>
    (.ok (), { d with completions := some (.empty (max tasks.length minCompletions)) })

end TaskSync.Daemon
