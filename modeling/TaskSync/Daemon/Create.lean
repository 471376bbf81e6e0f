import TaskSync.Daemon.Call

/-!
# Creating tasks

A new task is made a backend, which has to render before the task is added, applied once and
added, or inspected and thrown away. Rendering is tried again until it succeeds, fails or the
time is up; half way to the deadline the backend is told once to ignore its notifier. A backend
whose task is not added is torn down, unless the caller has given up or applying failed.
-/

namespace TaskSync

/-- What is to become of a new task. -/
inductive Goal where
  | add
  | runAndAdd
  /-- The task is only inspected, never added. -/
  | inspect
  deriving DecidableEq

/-- What a creation answers: the canonical configuration of an added task, or the plan of an
inspected one. -/
inductive Created where
  | config (c : TaskConfig)
  | plan (p : Plan)

namespace Creation

/-- Milliseconds of rendering after which the notifier is overridden. -/
def overrideAfter : Nat := 30000

/-- Milliseconds of rendering after which a creation is given up. -/
def timeout : Nat := 60000

/-- Milliseconds between two renderings. -/
def pause : Nat := 50

/-- A backend that has to render: since when, and whether its notifier was overridden. -/
structure Trial where
  backend : Place
  since : Nat
  overridden : Bool

inductive Phase where
  | start (conf : TaskConfig)
  | making (task : Task)
  | rendering (t : Trial) (call : Pending)
  | pausing (t : Trial) (due : Nat)
  | destroying (backend : Place) (result : Except Failure Created)
  | applying (backend : Place) (record : RunRecord) (call : Pending)
  | recording (backend : Place) (record : RunRecord)
  | storing (task : Task)
  | inspecting (backend : Place)

abbrev Result := Except Failure Created

abbrev Outcome := Turn Phase Result × Daemon

def fail (e : Failure) (d : Daemon) : Outcome := (.done (.error e), d)

/-- Settles the task of a configuration, whose name must be free. -/
def begin (conf : TaskConfig) (d : Daemon) : Outcome :=
  let config := d.store.config
  let conf := conf.finalize config.globalPeriod config.workingDir
  match conf.validate with
  | .error e => fail (.invalid e) d
  | .ok () =>
    if d.registry.contains conf.nameOrEmpty then fail (.nameTaken conf.nameOrEmpty) d
    else
      match Task.ofConfig conf with
      | .error e => fail (.invalid e) d
      | .ok task => (.next (.making task), d)

/-- Adds the task; if the name was taken in the meantime, its owner stays and the new backend
goes. -/
def register (backend : Place) (d : Daemon) : Outcome :=
  let d := d.call backend .buffer
  let task := d.taskOf backend
  match d.registry.add task.name backend (d.backend backend).templates with
  | .error e => (.next (.destroying backend (.error e)), d)
  | .ok registry => (.next (.storing task), { d with registry })

/-- Goes on with a backend that has rendered. Rendering may have called for one more trigger,
which is suppressed. -/
def rendered (goal : Goal) (backend : Place) (d : Daemon) : Outcome :=
  let d := d.call backend .override
  match goal with
  | .inspect => (.next (.inspecting backend), d)
  | .add => register backend d
  | .runAndAdd =>
    let task := d.taskOf backend
    if task.enabled then
      let (record, d) := d.startRecord task
      (.next (.applying backend record .unsent), d)
    else register backend d

/-- What can end the selection of a rendering. -/
def renderingWaits (token : Token) (t : Trial) : List Wait :=
  let deadline := t.since + timeout
  let override := t.since + overrideAfter
  if t.overridden then [⟨.canceled token, deadline⟩, ⟨.time deadline, deadline⟩]
  else [⟨.canceled token, override⟩, ⟨.time deadline, override⟩, ⟨.time override, override⟩]

/-- Cancellation goes before the deadline, the deadline before the override, and all before the
answer. -/
def render (token : Token) (goal : Goal) (t : Trial) (call : Pending) (d : Daemon) : Outcome :=
  let name := (d.taskOf t.backend).name
  if d.isCanceled token then fail .canceled d
  else if t.since + timeout ≤ d.clock then
    (.next (.destroying t.backend (.error (.initializationTimeout name))), d)
  else if !t.overridden && decide (t.since + overrideAfter ≤ d.clock) then
    (.next (.rendering { t with overridden := true } call), d.call t.backend .override)
  else
    match TimedCall.render.turn t.backend token call d with
    | (.next call, d) => (.next (.rendering t call), d)
    | (.wait on, d) => (.wait (renderingWaits token t ++ on), d)
    | (.done (.ok true), d) => rendered goal t.backend d
    | (.done (.ok false), d) => (.next (.pausing t (d.clock + pause)), d)
    | (.done (.error e), d) => (.next (.destroying t.backend (.error (.render name e))), d)

/-- A turn of a creation. -/
def turn (token : Token) (goal : Goal) : Phase → Daemon → Outcome
  | .start conf, d => begin conf d
  | .making task, d =>
    match d.make task with
    | (.error e, d) => fail (.backend e) d
    | (.ok backend, d) => (.next (.rendering ⟨backend, d.clock, false⟩ .unsent), d)
  | .rendering t call, d => render token goal t call d
  | .pausing t due, d =>
    if d.isCanceled token then fail .canceled d
    else if due ≤ d.clock then (.next (.rendering t .unsent), d)
    else (.wait (Daemon.waitsUntil token due), d)
  | .destroying backend result, d => (.done result, d.call backend .destroy)
  | .applying backend record call, d =>
    match TimedCall.apply.turn backend token call d with
    | (.next call, d) => (.next (.applying backend record call), d)
    | (.wait on, d) => (.wait on, d)
    | (.done (.error e), d) => fail (.applyFailed record.taskName 1 e) d
    | (.done (.ok ()), d) =>
      let record := record.succeed d.wall
      (.next (.recording backend record), d.announceRun record)
  | .recording backend record, d =>
    register backend ((d.addRecord record).notifyCompletion record.taskName)
  | .storing task, d =>
    let conf := task.toConfig
    match d.setTask conf with
    | (.error e, d) => fail (.store e) (d.requestDeletion task.name)
    | (.ok (), d) =>
      let d := if task.isScheduled then d.announceSchedule task.name else d
      (.done (.ok (.config conf)), d.publish (.created task.name task.isScheduled))
  | .inspecting backend, d =>
    let (r, d) := d.inspect backend
    (.next (.destroying backend ((r.map Created.plan).mapError .backend)), d)

end Creation

end TaskSync
