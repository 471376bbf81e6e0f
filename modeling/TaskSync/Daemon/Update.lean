import TaskSync.Daemon.Call

/-!
# Updating tasks

The only part of a task that an update changes is whether it is enabled. An update with the
option `now` leaves a record, whatever comes of it. A task that is active is not waited for.
-/

namespace TaskSync.Update

/-- What an update holds once the task is its own. -/
structure Held where
  task : String
  guard : Guard
  backend : Place
  enabled : Bool
  option : RunOption
  record : Option RunRecord

inductive Phase where
  | start (conf : TaskConfig) (option : RunOption)
  | patching (h : Held)
  | recording (h : Held) (record : RunRecord) (result : Except BackendError Plan)
  | storing (h : Held) (conf : TaskConfig) (plan : Plan)

abbrev Result := Except Failure Plan

abbrev Outcome := Turn Phase Result × Daemon

def fail (e : Failure) (d : Daemon) : Outcome := (.done (.error e), d)

def finish (h : Held) (result : Result) (d : Daemon) : Outcome :=
  (.done result, d.release h.guard)

/-- Goes on with the guard. -/
def entered (task : String) (backend : Place) (enabled : Bool) (option : RunOption)
    (guard : Guard) (d : Daemon) : Outcome :=
  let h : Held := ⟨task, guard, backend, enabled, option, none⟩
  if option = .now then
    let (record, d) := d.startRecord (d.taskOf backend)
    (.next (.patching { h with record := some record }), d)
  else (.next (.patching h), d)

/-- Refuses what is no update of a registered task. -/
def begin (conf : TaskConfig) (option : RunOption) (d : Daemon) : Outcome :=
  let name := conf.nameOrEmpty
  if name = "" then fail (.invalidArgument "task name is required for updating a task") d
  else
    match d.registry.get? name with
    | none => fail (.notFound name) d
    | some backend =>
      match conf.changedFields (d.taskOf backend).toConfig with
      | field :: fields => fail (.unsupportedUpdate name (", ".intercalate (field :: fields))) d
      | [] =>
        match conf.enabled with
        | none => (.done (.ok .empty), d)
        | some enabled =>
          match d.tryActivate name with
          | .error e => fail e d
          | .ok (none, d) => fail (.busy name) d
          | .ok (some guard, d) => entered name backend enabled option guard d

/-- What is left to do when the backend has answered: unless the update was an inspection, the
canonical configuration is stored. -/
def settle (h : Held) (result : Except BackendError Plan) (d : Daemon) : Outcome :=
  match result with
  | .error e => finish h (.error (.backend e)) d
  | .ok plan =>
    if h.option = .inspect then finish h (.ok plan) d
    else
      (.next (.storing h { (d.taskOf h.backend).toConfig with enabled := some h.enabled } plan),
        d)

/-- A record as the answer has it. -/
def close (record : RunRecord) (result : Except BackendError Plan) (now : Timestamp) :
    RunRecord :=
  match result with
  | .ok _ => record.succeed now
  | .error e => record.fail now e.message

/-- A turn of an update. -/
def turn : Phase → Daemon → Outcome
  | .start conf option, d => begin conf option d
  | .patching h, d =>
    let (result, d) := d.patch h.backend h.enabled h.option
    match h.record with
    | some record => (.next (.recording h (close record result d.wall) result), d)
    | none => settle h result d
  | .recording h record result, d => settle h result (d.addRecord record)
  | .storing h conf plan, d =>
    match d.setTask conf with
    | (.error e, d) => finish h (.error (.store e)) d
    | (.ok (), d) => finish h (.ok plan) (d.publish (.updated h.task h.enabled))

end TaskSync.Update
