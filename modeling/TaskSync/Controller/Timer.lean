import TaskSync.Cron.Next
import TaskSync.Cron.Reader
import TaskSync.Daemon.Run

/-!
# Schedule timers

The timer of a scheduled task runs it at every time of its schedule, until it is stopped or the
task is gone. Whichever way it ends, it gives its stop back; a task that was created anew under
the name in the meantime is then taken over.
-/

namespace TaskSync.Timer

inductive Phase where
  /-- `served` is the backend that the timer ran for before. -/
  | start (stop : Stop) (served : Option Place)
  | planning (stop : Stop) (served : Place) (schedule : Cron.Schedule)
  | sleeping (stop : Stop) (served : Place) (schedule : Cron.Schedule) (due : Nat)
  | running (stop : Stop) (served : Place) (schedule : Cron.Schedule) (run : Run.Phase)

abbrev Result := Except Failure Unit

abbrev Outcome := Turn Phase Result × Daemon

/-- The backend of a scheduled task that is registered under the name now and was not served
before. -/
def successor? (task : String) (served : Option Place) (d : Daemon) : Option Place :=
  match d.registry.get? task with
  | none => none
  | some current =>
    if served = some current || !(d.taskOf current).isScheduled then none else some current

/-- Gives the stop back. Whoever announced a successor found the stop taken, so the timer goes on
with it. -/
def finish (token : Token) (task : String) (stop : Stop) (served : Option Place)
    (result : Result) (d : Daemon) : Outcome :=
  let d := d.releaseStop task stop
  match result with
  | .error e => (.done (.error e), d)
  | .ok () =>
    if d.isCanceled stop.token || d.isCanceled token then (.done (.ok ()), d)
    else if (successor? task served d).isNone then (.done (.ok ()), d)
    else
      match d.registerStop task with
      | (none, d) => (.done (.ok ()), d)
      | (some stop, d) => (.next (.start stop served), d)

/-- The schedule of a task. -/
def schedule (task : String) (t : Task) : Except Failure Cron.Schedule :=
  match t.schedule? with
  | none => .error (.refused ("task " ++ task ++ " has no schedule condition"))
  | some cron =>
    match Cron.read? cron with
    | some s => .ok s
    | none => .error (.refused ("invalid cron expression '" ++ cron ++ "'"))

/-- Milliseconds from an instant to the beginning of a second. -/
def millisUntil (now : Timestamp) (second : Int) : Nat :=
  ((now.nanosBetween ⟨second, 0⟩ + 999999) / 1000000).toNat

/-- A turn of a timer. -/
def turn (token : Token) (task : String) : Phase → Daemon → Outcome
  | .start stop served, d =>
    match d.registry.get? task with
    | none => finish token task stop served (.ok ()) d
    | some backend =>
      match schedule task (d.taskOf backend) with
      | .error e => finish token task stop (some backend) (.error e) d
      | .ok s => (.next (.planning stop backend s), d)
  | .planning stop served s, d =>
    match s.next? d.wall.second with
    | none => finish token task stop (some served) (.ok ()) d
    | some second =>
      (.next (.sleeping stop served s (d.clock + millisUntil d.wall second)), d)
  | .sleeping stop served s due, d =>
    if d.isCanceled token || d.isCanceled stop.token then
      finish token task stop (some served) (.ok ()) d
    else if due ≤ d.clock then
      if d.registry.contains task then (.next (.running stop served s (.start task)), d)
      else finish token task stop (some served) (.ok ()) d
    else (.wait (⟨.canceled stop.token, due⟩ :: Daemon.waitsUntil token due), d)
  | .running stop served s run, d =>
    match Run.turn token run d with
    | (.next run, d) => (.next (.running stop served s run), d)
    | (.wait on, d) => (.wait on, d)
    | (.done (.error .canceled), d) => finish token task stop (some served) (.ok ()) d
    | (.done _, d) => (.next (.planning stop served s), d)

end TaskSync.Timer
