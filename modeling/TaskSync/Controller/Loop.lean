import TaskSync.Daemon.Ask
import TaskSync.Daemon.Turn

/-!
# The controller

The controller runs tasks whose templates are triggered, starts a timer for every scheduled task
and deletes tasks on request, until it is canceled or the watch fails. It then cancels what it has
set going and waits for all of it, so that nothing is left behind. Only one controller at a time
takes from the queues.
-/

namespace TaskSync.Controller

inductive Phase where
  | start
  | lockingCreated (crew : Place)
  | lockingDeletes (crew : Place)
  /-- `rounds` counts what was dealt with. -/
  | looping (crew : Place) (watching : Bool) (rounds : Nat)
  | draining (crew : Place) (watching : Bool) (e : Failure)
  | joining (crew : Place) (e : Failure)

/-- A controller ends with a failure only: it is canceled, or the watch fails. -/
abbrev Outcome := Turn Phase Failure × Daemon

/-- How many triggered templates can wait for a controller. -/
def inboxCapacity : Nat := 64

def setCrew (d : Daemon) (crew : Place) (c : Crew) : Daemon :=
  { d with crews := d.crews.setIfInBounds crew c }

/-- Sets work going that is waited for in the end. -/
def engage (crew : Place) (w : Work) (d : Daemon) : Daemon :=
  match d.crews[crew]? with
  | none => d
  | some c => (setCrew d crew { c with working := c.working + 1 }).happen (.work crew w)

/-- Starts the timer of a task, unless it has one. -/
def startTimer (crew : Place) (task : String) (d : Daemon) : Daemon :=
  match d.registerStop task with
  | (none, d) => d
  | (some stop, d) => engage crew (.timer task stop) d

/-- Runs the task of a triggered template. -/
def trigger (crew : Place) (template : String) (d : Daemon) : Daemon :=
  match d.taskByTemplate template with
  | none => d
  | some task => engage crew (.run task) d

/-- Sets the watch going, and the timers of the tasks that are registered by now. -/
def begin (token : Token) (d : Daemon) : Outcome :=
  let (child, tokens) := d.tokens.child token
  let crew := d.crews.size
  let d := { d with
    tokens
    crews := d.crews.push ⟨child, .empty inboxCapacity, 0, none⟩ }
  let names := d.registry.namesWhere fun b => (d.taskOf b).isScheduled
  let d := names.foldl (fun d task => startTimer crew task d) (d.happen (.work crew .watch))
  (.next (.lockingCreated crew), d)

/-- Cancels everything that was set going. -/
def stop (crew : Place) (watching : Bool) (e : Failure) (d : Daemon) : Outcome :=
  let d := match d.crews[crew]? with
    | some c => d.cancel c.token
    | none => d
  (.next (.draining crew watching e), d.stopTimers)

/-- Gives the queues free. -/
def finish (e : Failure) (d : Daemon) : Outcome :=
  (.done e,
    ({ d with createdHeld := false, deletesHeld := false }.signal .deletesFreed).signal
      .createdFreed)

/-- Deals with one thing: cancellation first, then a trigger, a new scheduled task, a request to
delete, and the end of the watch. A watch that ends well does not end the loop. -/
def round (token : Token) (crew : Place) (c : Crew) (watching : Bool) (rounds : Nat)
    (d : Daemon) : Outcome :=
  let again (watching : Bool) (d : Daemon) : Outcome :=
    (.next (.looping crew watching (rounds + 1)), d)
  if d.isCanceled token then stop crew watching .canceled d
  else
    match c.inbox.take?, d.created.take?, d.deletes.take?, c.watched, watching with
    | some (template, inbox), _, _, _, _ =>
      again watching
        (trigger crew template ((setCrew d crew { c with inbox }).signal (.inboxFreed crew)))
    | none, some (task, created), _, _, _ =>
      again watching (startTimer crew task { d with created })
    | none, none, some (task, deletes), _, _ =>
      again watching (engage crew (.delete task) { d with deletes })
    | none, none, none, some (.ok ()), true => again false d
    | none, none, none, some (.error e), true => stop crew false (.watcher e) d
    | none, none, none, _, _ =>
      let signals : List Signal := [.canceled token, .inboxArrived crew, .createdArrived,
        .deleteArrived, .watchEnded crew]
      (.wait (signals.map (⟨·, rounds⟩)), d)

/-- A turn of a controller. -/
def turn (token : Token) : Phase → Daemon → Outcome
  | .start, d => begin token d
  | .lockingCreated crew, d =>
    if d.createdHeld then (.wait [⟨.createdFreed, 0⟩], d)
    else (.next (.lockingDeletes crew), { d with createdHeld := true })
  | .lockingDeletes crew, d =>
    if d.deletesHeld then (.wait [⟨.deletesFreed, 0⟩], d)
    else (.next (.looping crew true 0), { d with deletesHeld := true })
  | .looping crew watching rounds, d =>
    match d.crews[crew]? with
    | none => stop crew watching .canceled d
    | some c => round token crew c watching rounds d
  | .draining crew watching e, d =>
    if (d.crews[crew]?).all (·.working == 0) then
      if watching then (.next (.joining crew e), d) else finish e d
    else (.wait [⟨.crewIdle crew, 0⟩], d)
  | .joining crew e, d =>
    if (d.crews[crew]?).all (·.watched.isSome) then finish e d
    else (.wait [⟨.watchEnded crew, 0⟩], d)

end TaskSync.Controller
