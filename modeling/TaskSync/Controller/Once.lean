import TaskSync.Controller.Watch
import TaskSync.Daemon.Ask
import TaskSync.Daemon.Create

/-!
# Passes over all tasks

A pass creates and runs every stored task once, one after the other up to the first failure, or
all at the same time. If the watcher has something to watch and fails during the pass, the pass
is abandoned with that failure.
-/

namespace TaskSync

namespace Consecutive

inductive Phase where
  | between (rest : List TaskConfig)
  | creating (task : String) (phase : Creation.Phase) (rest : List TaskConfig)

abbrev Outcome := Turn Phase (Except Failure Unit) × Daemon

/-- A turn of a pass that takes one task after the other. -/
def turn (token : Token) : Phase → Daemon → Outcome
  | .between [], d => (.done (.ok ()), d)
  | .between (conf :: rest), d =>
    if d.isCanceled token then (.done (.error .canceled), d)
    else (.next (.creating conf.nameOrEmpty (.start conf) rest), d)
  | .creating task phase rest, d =>
    match Creation.turn token .runAndAdd phase d with
    | (.next phase, d) => (.next (.creating task phase rest), d)
    | (.wait on, d) => (.wait on, d)
    | (.done (.ok _), d) => (.next (.between rest), d)
    | (.done (.error .canceled), d) => (.done (.error .canceled), d)
    | (.done (.error e), d) => (.done (.error (.taskFailed task e)), d)

end Consecutive

namespace Concurrent

/-- A creation that is part of the pass: under way or ended. -/
inductive Member where
  | creating (task : String) (phase : Creation.Phase)
  | ended (task : String) (result : Creation.Result)

def Member.ofConfig (conf : TaskConfig) : Member := creating conf.nameOrEmpty (.start conf)

/-- The failure of a creation that has ended in one. -/
def Member.failure? : Member → Option (String × Failure)
  | ended task (.error e) => some (task, e)
  | _ => none

def Member.isEnded : Member → Bool
  | ended _ _ => true
  | creating _ _ => false

/-- One turn of one creation. -/
def Member.turn (token : Token) : Member → Daemon → Turn Member Member × Daemon
  | creating task phase, d =>
    match Creation.turn token .runAndAdd phase d with
    | (.next phase, d) => (.next (creating task phase), d)
    | (.wait on, d) => (.wait on, d)
    | (.done r, d) => (.done (ended task r), d)
  | ended task r, d => (.done (ended task r), d)

/-- The result of a pass whose creations have all ended: every failure, in the order of the
tasks. -/
def result (members : List Member) : Except Failure Unit :=
  match members.filterMap Member.failure? with
  | [] => .ok ()
  | failures =>
    if failures.all fun f => f.2.isCanceled then .error .canceled
    else .error (.onceFailed failures)

end Concurrent

namespace Once

/-- A pass under way. -/
inductive Pass where
  | consecutive (phase : Consecutive.Phase)
  | concurrent (members : List Concurrent.Member)

inductive Phase where
  | start
  /-- `waiting` holds while the watcher is waited for, until `due` if its end has a time. -/
  | passing (pass : Pass) (waiting : Bool) (due : Option Nat)

abbrev Result := Except Failure Unit

def Pass.start (mode : PassMode) (confs : List TaskConfig) : Pass :=
  match mode with
  | .consecutive => consecutive (.between confs)
  | .concurrent => concurrent (confs.map .ofConfig)

/-- What the members of a pass have come to after a round: themselves, what they wait for, and
whether one could go on. -/
structure Round where
  members : List Concurrent.Member
  waits : List Wait
  paused : Bool

/-- Lets each creation go on as far as it can, in the order of the tasks. -/
def round (token : Token) (share : Nat) : List Concurrent.Member → Daemon → Round × Daemon
  | [], d => (⟨[], [], false⟩, d)
  | m :: ms, d =>
    let (m, waits, paused, d) := match settle (Concurrent.Member.turn token) share m d with
      | (.waiting m on, d) => (m, on, false, d)
      | (.paused m, d) => (m, [], true, d)
      | (.ended m, d) => (m, [], false, d)
    let (r, d) := round token share ms d
    (⟨m :: r.members, waits ++ r.waits, paused || r.paused⟩, d)

/-- Lets a pass go on as far as it can. -/
def Pass.go (token : Token) (share : Nat) : Pass → Daemon → Rest Pass Result × Daemon
  | consecutive phase, d =>
    match settle (Consecutive.turn token) share phase d with
    | (.waiting p on, d) => (.waiting (consecutive p) on, d)
    | (.paused p, d) => (.paused (consecutive p), d)
    | (.ended r, d) => (.ended r, d)
  | concurrent members, d =>
    let (r, d) := round token share members d
    if r.members.all (·.isEnded) then (.ended (Concurrent.result r.members), d)
    else if r.paused then (.paused (concurrent r.members), d)
    else (.waiting (concurrent r.members) r.waits, d)

/-- What a look at the watcher comes to. -/
inductive Look where
  | stillWaiting
  /-- There is nothing left to wait for. A watcher that fails because the caller has given up is
  no failure. -/
  | over
  | failed (e : WatchError)

def look (token : Token) (due : Option Nat) (d : Daemon) : Look :=
  let script := d.setting.watcher.wait
  if d.isCanceled token then .over
  else if Watch.isDue due d.clock then
    match script.result with
    | .ok () => .over
    | .error e => .failed e
  else .stillWaiting

/-- Lets a pass under way go on as far as it can; its end goes before that of the watcher. -/
def advance (token : Token) (share : Nat) (pass : Pass) (waiting : Bool) (due : Option Nat)
    (d : Daemon) : Rest Phase Result × Daemon :=
  match pass.go token share d with
  | (.ended r, d) => (.ended r, d)
  | (.paused pass, d) => (.paused (.passing pass waiting due), d)
  | (.waiting pass on, d) =>
    if waiting then
      match look token due d with
      | .stillWaiting =>
        (.waiting (.passing pass true due) (on ++ Watch.scriptWaits token due), d)
      | .over => (.waiting (.passing pass false due) on, d)
      | .failed e => (.ended (.error (.watcher e)), d)
    else (.waiting (.passing pass false due) on, d)

/-- Lets a pass go on as far as it can. -/
def go (token : Token) (mode : PassMode) (share : Nat) :
    Phase → Daemon → Rest Phase Result × Daemon
  | .start, d =>
    match d.tasks with
    | (.error e, d) => (.ended (.error e), d)
    | (.ok confs, d) =>
      let watcher := d.setting.watcher
      advance token share (.start mode confs) (decide (0 < watcher.size))
        (watcher.wait.after.map (d.clock + ·)) d
  | .passing pass waiting due, d => advance token share pass waiting due d

end Once

end TaskSync
