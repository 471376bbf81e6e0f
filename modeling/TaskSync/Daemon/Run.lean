import TaskSync.Daemon.Call
import TaskSync.Retry.Basic

/-!
# Running tasks

A run renders the template of a registered task and, if that is complete, applies the task, with
retries. It holds the task's guard from before the first call to the end. Runs of scheduled tasks
never queue; others wait until the task is inactive.

| how it goes               | record    | completion |
|---------------------------|-----------|------------|
| marked for deletion       | none      | no         |
| disabled                  | none      | yes        |
| rendering fails           | failure   | no         |
| incomplete, dynamic       | none      | no         |
| incomplete, scheduled     | success   | no         |
| applied                   | success   | yes        |
| applying fails            | failure   | no         |
-/

namespace TaskSync

namespace Activation

/-- Milliseconds between two looks at a task that is active; the clock has no shorter time. -/
def poll : Nat := 1

/-- What a look at a task comes to. -/
inductive Look where
  | taken (guard : Guard)
  | busy
  | missing (e : Failure)

def look (task : String) (d : Daemon) : Look × Daemon :=
  match d.tryActivate task with
  | .error e => (.missing e, d)
  | .ok (none, d) => (.busy, d)
  | .ok (some guard, d) => (.taken guard, d)

end Activation

namespace Run

/-- What a run holds once the task is its own. -/
structure Held where
  task : String
  guard : Guard
  backend : Place
  scheduled : Bool
  record : RunRecord

inductive Phase where
  | start (task : String)
  /-- The task is active; it is looked at again when the time has come. -/
  | queued (task : String) (backend : Place) (due : Nat)
  | rendering (h : Held) (call : Pending)
  | applying (h : Held) (retries : UInt32) (call : Pending)
  | backingOff (h : Held) (retries : UInt32) (due : Nat)
  | recording (h : Held) (applied : Bool) (result : Except Failure Unit)

abbrev Result := Except Failure Unit

abbrev Outcome := Turn Phase Result × Daemon

/-- Ends a run that holds the guard. -/
def finish (guard : Guard) (result : Result) (d : Daemon) : Outcome :=
  (.done result, d.release guard)

/-- Announces how the run ended; its record is stored next. -/
def settled (h : Held) (record : RunRecord) (applied : Bool) (result : Result) (d : Daemon) :
    Outcome :=
  (.next (.recording { h with record } applied result), d.announceRun record)

def failed (h : Held) (message : String) (e : Failure) (d : Daemon) : Outcome :=
  settled h (h.record.fail d.wall message) false (.error e) d

def succeeded (h : Held) (applied : Bool) (d : Daemon) : Outcome :=
  settled h (h.record.succeed d.wall) applied (.ok ()) d

/-- Goes on with the guard. The task may have been marked or switched off in the meantime. -/
def entered (task : String) (backend : Place) (scheduled : Bool) (guard : Guard) (d : Daemon) :
    Outcome :=
  if d.registry.isMarked task then finish guard (.ok ()) d
  else
    let t := d.taskOf backend
    if t.enabled then
      let (record, d) := d.startRecord t
      (.next (.rendering ⟨task, guard, backend, scheduled, record⟩ .unsent), d)
    else finish guard (.ok ()) (d.notifyCompletion task)

/-- Looks whether the task is inactive, and queues if it is not. -/
def enter (task : String) (backend : Place) (d : Daemon) : Outcome :=
  match Activation.look task d with
  | (.missing e, d) => (.done (.error e), d)
  | (.busy, d) => (.next (.queued task backend (d.clock + Activation.poll)), d)
  | (.taken guard, d) => entered task backend false guard d

/-- A scheduled task that is active is not waited for. -/
def enterScheduled (task : String) (backend : Place) (d : Daemon) : Outcome :=
  match Activation.look task d with
  | (.missing e, d) => (.done (.error e), d)
  | (.busy, d) => (.done (.error (.busy task)), d)
  | (.taken guard, d) => entered task backend true guard d

def begin (task : String) (d : Daemon) : Outcome :=
  if d.registry.isMarked task then (.done (.ok ()), d)
  else
    match d.registry.get? task with
    | none => (.done (.error (.notFound task)), d)
    | some backend =>
      if (d.taskOf backend).isScheduled then enterScheduled task backend d
      else enter task backend d

/-- What follows a failure to apply. -/
def retry (h : Held) (retries : UInt32) (e : BackendError) (d : Daemon) : Outcome :=
  match Retry.decide d.retry.maxRetries retries with
  | .giveUp attempts => failed h e.message (.applyFailed h.task attempts e) d
  | .again retry =>
    let (wait, source) := Backoff.wait d.retry.baseDelay retry d.source
    let d := { d with source }
    (.next (.backingOff h retry (d.after wait)), d)

/-- A turn of a run. -/
def turn (token : Token) : Phase → Daemon → Outcome
  | .start task, d => begin task d
  | .queued task backend due, d =>
    if d.isCanceled token then (.done (.error .canceled), d)
    else if due ≤ d.clock then enter task backend d
    else (.wait (Daemon.waitsUntil token due), d)
  | .rendering h call, d =>
    match TimedCall.render.turn h.backend token call d with
    | (.next call, d) => (.next (.rendering h call), d)
    | (.wait on, d) => (.wait on, d)
    | (.done (.error e), d) => failed h e.message (.render h.task e) d
    | (.done (.ok true), d) => (.next (.applying h 0 .unsent), d)
    | (.done (.ok false), d) =>
      if h.scheduled then succeeded h false d else finish h.guard (.ok ()) d
  | .applying h retries call, d =>
    match TimedCall.apply.turn h.backend token call d with
    | (.next call, d) => (.next (.applying h retries call), d)
    | (.wait on, d) => (.wait on, d)
    | (.done (.error e), d) => retry h retries e d
    | (.done (.ok ()), d) => succeeded h true d
  | .backingOff h retries due, d =>
    if d.isCanceled token then failed h "canceled while retrying apply" .canceled d
    else if due ≤ d.clock then (.next (.applying h retries .unsent), d)
    else (.wait (Daemon.waitsUntil token due), d)
  | .recording h applied result, d =>
    let d := d.addRecord h.record
    finish h.guard result (if applied then d.notifyCompletion h.task else d)

end Run

end TaskSync
