import TaskSync.Daemon.Turn

/-!
# Watching

The watch hands triggered templates on to its controller until it fails, ends or is canceled. The
first watch to begin reads the triggers, and they end with it.
-/

namespace TaskSync.Watch

inductive Phase where
  | start
  | watching (due : Option Nat)

abbrev Result := Except WatchError Unit

abbrev Outcome := Turn Phase Result × Daemon

def reads (crew : Place) (d : Daemon) : Bool := d.triggers.reader == some crew

def finish (crew : Place) (result : Result) (d : Daemon) : Outcome :=
  (.done result,
    if reads crew d then { d with triggers := { d.triggers with items := [], isOpen := false } }
    else d)

/-- Whether a time has been reached. -/
def isDue (due : Option Nat) (clock : Nat) : Bool := due.any fun t => decide (t ≤ clock)

/-- The waits on a script: for its token, and for its end if that has a time. -/
def scriptWaits (token : Token) (due : Option Nat) : List Wait :=
  ⟨.canceled token, 0⟩ :: due.toList.map fun t => ⟨.time t, 0⟩

/-- Hands the next trigger on. -/
def forward (crew : Place) (token : Token) (due : Option Nat) (d : Daemon) : Outcome :=
  match d.triggers.items, reads crew d, d.crews[crew]? with
  | template :: rest, true, some c =>
    match c.inbox.offer? template with
    | none => (.wait (⟨.inboxFreed crew, 0⟩ :: scriptWaits token due), d)
    | some inbox =>
      let d := { d with
        crews := d.crews.setIfInBounds crew { c with inbox }
        triggers := { d.triggers with items := rest } }
      (.next (.watching due), d.signal (.inboxArrived crew))
  | _, _, _ => (.wait (⟨.triggerArrived, 0⟩ :: scriptWaits token due), d)

/-- A turn of the watch. -/
def turn (crew : Place) (token : Token) : Phase → Daemon → Outcome
  | .start, d =>
    let d := if d.triggers.reader.isNone then
        { d with triggers := { d.triggers with reader := some crew } }
      else d
    (.next (.watching (d.setting.watcher.watch.after.map (d.clock + ·))), d)
  | .watching due, d =>
    if d.isCanceled token then finish crew d.setting.watcher.watch.onCancel d
    else if isDue due d.clock then finish crew d.setting.watcher.watch.result d
    else forward crew token due d

end TaskSync.Watch
