import TaskSync.Controller.Timer
import TaskSync.Controller.Watch
import TaskSync.Daemon.Delete

/-!
# Errands

What a controller has going on the side: the watch, timers, runs and deletions. They are canceled
with the controller's crew, which is told when they end.
-/

namespace TaskSync

inductive Errand where
  | watch (phase : Watch.Phase)
  | timer (task : String) (phase : Timer.Phase)
  | run (phase : Run.Phase)
  | delete (phase : Deletion.Phase)

namespace Errand

/-- Work at its beginning. -/
def ofWork : Work → Errand
  | .watch => watch .start
  | .timer task stop => timer task (.start stop none)
  | .run task => run (.start task)
  | .delete task => delete (.start task)

abbrev Outcome := Turn Errand Unit × Daemon

def crewToken (d : Daemon) (crew : Place) : Token := ((d.crews[crew]?).map (·.token)).getD default

/-- One piece of work less. -/
def leave (crew : Place) (d : Daemon) : Daemon :=
  match d.crews[crew]? with
  | none => d
  | some c =>
    let d := { d with crews := d.crews.setIfInBounds crew { c with working := c.working - 1 } }
    if c.working ≤ 1 then d.signal (.crewIdle crew) else d

def leaveWatch (crew : Place) (result : Watch.Result) (d : Daemon) : Daemon :=
  match d.crews[crew]? with
  | none => d
  | some c =>
    { d with crews := d.crews.setIfInBounds crew { c with watched := some result } }.signal
      (.watchEnded crew)

/-- The turn of an operation as the turn of an errand; `leave` is what happens at its end. -/
def settled {π ρ : Type} (errand : π → Errand) (leave : ρ → Daemon → Daemon) :
    Turn π ρ × Daemon → Outcome
  | (.next phase, d) => (.next (errand phase), d)
  | (.wait on, d) => (.wait on, d)
  | (.done r, d) => (.done (), leave r d)

/-- A turn of an errand. How it ended is of no interest to anybody, the watch aside. -/
def turn (crew : Place) : Errand → Daemon → Outcome
  | watch phase, d =>
    settled watch (leaveWatch crew) (Watch.turn crew (crewToken d crew) phase d)
  | timer task phase, d =>
    settled (timer task) (fun _ => leave crew) (Timer.turn (crewToken d crew) task phase d)
  | run phase, d => settled run (fun _ => leave crew) (Run.turn (crewToken d crew) phase d)
  | delete phase, d =>
    settled delete (fun _ => leave crew) (Deletion.turn (crewToken d crew) phase d)

end Errand

end TaskSync
