import TaskSync.Scenario.Job

/-!
# The world of a scenario

Jobs side by side on a clock that only moves when none of them can go on, and then to the next
time that one waits for. Jobs that can go on stand in a queue; a signal puts those that wait for
it at its end, in the order in which their waits began. The main job, which takes the steps of
the scenario, goes first whenever it can go on, but is looked at only when the queue is empty or
some others have had their turn. A job that has had its share goes on no sooner than that either.
-/

namespace TaskSync

/-- A job on the side. Each of its waits has a number that says when it began. -/
structure Worker where
  number : Nat
  job : Job
  waits : List (Wait × Nat)

structure World where
  scene : Scene
  /-- The receiver of all notices. -/
  receiver : Nat
  workers : List Worker
  queue : List Nat
  /-- The jobs that have had their share, the last one first, and whether the main job has. -/
  deferred : List Nat
  mainDeferred : Bool
  /-- The waits of the main job, and whether it can go on. -/
  mainWaits : List (Wait × Nat)
  mainReady : Bool
  nextWait : Nat
  /-- How many journal entries have been reported. -/
  reported : Nat

namespace World

/-- How many jobs have their turn before the main job is looked at. -/
def slice : Nat := 61

/-- Numbers waits; one that goes on keeps its number. -/
def numbered (old : List (Wait × Nat)) : List Wait → Nat → List (Wait × Nat) × Nat
  | [], next => ([], next)
  | w :: ws, next =>
    let (n, next) := match old.lookup w with
      | some n => (n, next)
      | none => (next, next + 1)
    let (rest, next) := numbered old ws next
    ((w, n) :: rest, next)

/-- Puts a job at the end of the queue, unless it stands there. -/
def enqueue (w : World) (number : Nat) : World :=
  if w.queue.contains number then w else { w with queue := w.queue ++ [number] }

/-- When a wait for a signal began, if there is one. -/
def waitsFor (test : Signal → Bool) (waits : List (Wait × Nat)) : Option Nat :=
  (waits.filter fun e => test e.1.signal).foldl
    (fun least e => some (min e.2 (least.getD e.2))) none

/-- Wakes all that wait for a signal that passes the test, in the order in which they began to
wait. -/
def wake (w : World) (test : Signal → Bool) : World :=
  let w := if (waitsFor test w.mainWaits).isSome then { w with mainReady := true } else w
  let woken : List (Nat × Nat) := w.workers.filterMap fun x =>
    (waitsFor test x.waits).map fun began => (began, x.number)
  (woken.mergeSort fun a b => decide (a.1 ≤ b.1)).foldl (fun w e => w.enqueue e.2) w

/-- Adds a job on the side and queues it. -/
def add (w : World) (number : Nat) (job : Job) : World :=
  ({ w with workers := w.workers ++ [Worker.mk number job []] } : World).enqueue number

/-- What a happening leads to. -/
def react (w : World) : Happening → World
  | .signal s => w.wake (· == s)
  | .work crew x =>
    let n := w.scene.workers
    let w := { w with scene := { w.scene with workers := n + 1 } }
    w.add n (.operation none (.errand crew (.ofWork x)))

/-- Deals with everything that has happened and sets going what is new. -/
def settle (w : World) : World :=
  let d := w.scene.daemon
  let fresh := w.scene.fresh
  let w := { w with scene :=
    { w.scene with daemon := { d with happenings := [] }, fresh := [] } }
  let w := d.happenings.reverse.foldl react w
  fresh.foldl (fun w e => w.add e.1 e.2) w

/-- The bound on what is begun inside one job. -/
def fuel : Nat := 1000000

/-- Lets a job on the side go on. -/
def goWorker (w : World) (number : Nat) : World :=
  match w.workers.find? (·.number == number) with
  | none => w
  | some x =>
    let (rest, scene) := x.job.go fuel { w.scene with allowance := Job.allowance }
    let w := { w with scene }
    let replace (w : World) (x : Worker) : World :=
      { w with workers := w.workers.map fun y => if y.number = number then x else y }
    match rest with
    | .waiting job on =>
      let (waits, nextWait) := numbered x.waits on w.nextWait
      (replace { w with nextWait } { x with job, waits }).settle
    | .paused job =>
      let w := replace w { x with job, waits := [] }
      { w with deferred := number :: w.deferred }.settle
    | .ended r =>
      let scene := { w.scene with
        answers := (number, r) :: w.scene.answers
        daemon := w.scene.daemon.signal (.workEnded number) }
      { w with scene, workers := w.workers.filter (·.number != number) }.settle

/-- Lets so many jobs of the queue go on, each once. -/
def drain : Nat → World → World
  | 0, w => w
  | n + 1, w =>
    match w.queue with
    | [] => w
    | number :: queue => drain n ({ w with queue }.goWorker number)

/-- Lets those go on that have had their share, and the main job with a new allowance. -/
def resume (w : World) : World :=
  w.deferred.foldl enqueue { w with
    mainReady := w.mainReady || w.mainDeferred
    mainDeferred := false
    deferred := []
    scene := { w.scene with allowance := Job.allowance } }

/-- The times that are waited for. -/
def times (w : World) : List Nat :=
  (w.mainWaits :: w.workers.map (·.waits)).flatten.filterMap fun e =>
    match e.1.signal with
    | .time t => some t
    | _ => none

/-- Moves the clock to the next time that is waited for; `none` if there is none. -/
def tick? (w : World) : Option World :=
  match w.times.min? with
  | none => none
  | some t =>
    let clock := max t w.scene.daemon.clock
    let scene := w.scene.withDaemon { w.scene.daemon with clock }
    some ({ w with scene }.wake fun s =>
      match s with
      | .time t => decide (t ≤ clock)
      | _ => false)

/-- Runs the main job to its end. A job that waits for nothing that can ever happen answers
nothing. -/
def runMain : Nat → Job → World → Reply × World
  | 0, _, w => (.nothing, w)
  | n + 1, job, w =>
    if w.mainReady then
      let (rest, scene) := job.go fuel w.scene
      let w := { w with scene, mainReady := false }
      match rest with
      | .ended r => (r, { w with mainWaits := [], mainReady := true }.settle)
      | .paused job => runMain n job { w with mainDeferred := true }.settle
      | .waiting job on =>
        let (mainWaits, nextWait) := numbered w.mainWaits on w.nextWait
        runMain n job { w with mainWaits, nextWait }.settle
    else
      let w := (w.drain slice).resume
      if w.mainReady || !w.queue.isEmpty then runMain n job w
      else
        match w.tick? with
        | none => (.nothing, w)
        | some w => runMain n job w

/-- More rounds than any scenario takes. -/
def rounds : Nat := 2 ^ 60

/-- Milliseconds after each step in which everything that can go on does. -/
def settleTime : Nat := 3

/-- Takes a step and lets the others go on. -/
def takeStep (w : World) (s : Step) : Reply × World :=
  let (r, w) := runMain rounds (.step none s) w
  (r, (runMain rounds (.sleeping (w.scene.daemon.clock + settleTime)) w).2)

end World

end TaskSync
