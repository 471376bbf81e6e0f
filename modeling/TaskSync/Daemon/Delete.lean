import TaskSync.Daemon.Run

/-!
# Deleting tasks

A deletion waits until the task is inactive, stops its timer, takes it out of the registry and
then out of the store. It holds the guard to the end, so no run can start in between.
-/

namespace TaskSync.Deletion

inductive Phase where
  | start (task : String)
  /-- The task is active; it is looked at again when the time has come. -/
  | queued (task : String) (backend : Place) (due : Nat)
  | deletingTask (task : String) (guard : Guard)
  | deletingRecords (task : String) (guard : Guard)

abbrev Result := Except Failure Unit

abbrev Outcome := Turn Phase Result × Daemon

def finish (guard : Guard) (result : Result) (d : Daemon) : Outcome :=
  (.done result, d.release guard)

/-- Goes on with the guard. -/
def entered (task : String) (backend : Place) (guard : Guard) (d : Daemon) : Outcome :=
  let d := if (d.taskOf backend).isScheduled then d.stopTimer task else d
  match d.registry.delete task with
  | .error e => finish guard (.error e) d
  | .ok registry => (.next (.deletingTask task guard), { d with registry })

/-- Looks whether the task is inactive, and queues if it is not. A task that is gone by now is
deleted. -/
def enter (task : String) (backend : Place) (d : Daemon) : Outcome :=
  match Activation.look task d with
  | (.missing _, d) => (.done (.ok ()), d)
  | (.busy, d) => (.next (.queued task backend (d.clock + Activation.poll)), d)
  | (.taken guard, d) => entered task backend guard d

/-- A turn of a deletion. -/
def turn (token : Token) : Phase → Daemon → Outcome
  | .start task, d =>
    match d.registry.get? task with
    | none => (.done (.ok ()), d)
    | some backend => enter task backend d
  | .queued task backend due, d =>
    if d.isCanceled token then (.done (.error .canceled), d)
    else if due ≤ d.clock then enter task backend d
    else (.wait (Daemon.waitsUntil token due), d)
  | .deletingTask task guard, d =>
    match d.deleteTask task with
    | (.error e, d) => finish guard (.error (.store e)) d
    | (.ok (), d) => (.next (.deletingRecords task guard), d)
  | .deletingRecords task guard, d =>
    match d.deleteRecords task with
    | (.error e, d) => finish guard (.error (.store e)) d
    | (.ok (), d) => finish guard (.ok ()) (d.publish (.deleted task))

end TaskSync.Deletion
