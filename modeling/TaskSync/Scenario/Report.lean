import TaskSync.Scenario.World

/-!
# Reports

What is reported of a step: its answer, what the journal and the bus have since the step before,
and the flags of every registered task.
-/

namespace TaskSync

/-- The flags of a registered task. -/
structure TaskFlags where
  name : String
  enabled : Bool
  scheduled : Bool
  active : Bool
  marked : Bool

structure Report where
  reply : Reply
  journal : List String
  bus : List Bus.Received
  tasks : List TaskFlags

namespace Report

/-- Takes everything that a receiver can get; there is no more than was ever sent. -/
def receiveAll : Nat → Nat → Bus → List Bus.Received × Bus
  | 0, _, bus => ([], bus)
  | n + 1, receiver, bus =>
    match bus.receive receiver with
    | (.empty, bus) | (.unknown, bus) => ([], bus)
    | (x, bus) =>
      let (xs, bus) := receiveAll n receiver bus
      (x :: xs, bus)

def flags (d : Daemon) : List TaskFlags :=
  d.registry.tasks.map fun (name, e) =>
    let t := d.taskOf e.runner
    ⟨name, t.enabled, t.isScheduled, e.active, e.marked⟩

def flagsText (f : TaskFlags) : String :=
  (if f.enabled then "E" else "d") ++ (if f.scheduled then "S" else "")
    ++ (if f.active then "A" else "") ++ (if f.marked then "M" else "")

end Report

namespace World

/-- Takes a step and reports on it. -/
def report (w : World) (s : Step) : Report × World :=
  let (reply, w) := w.takeStep s
  let d := w.scene.daemon
  let lines := (d.journal.take (d.journal.length - w.reported)).reverse.map (·.text)
  let (received, bus) := Report.receiveAll (d.bus.sent.size + 2) w.receiver d.bus
  (⟨reply, (JournalLine.countRuns lines).map (·.written), received, Report.flags d⟩,
    { w with scene := w.scene.withDaemon { d with bus }, reported := d.journal.length })

end World

end TaskSync
