import TaskSync.Daemon.Journal
import TaskSync.Daemon.Setting
import TaskSync.Daemon.Signal
import TaskSync.Registry
import TaskSync.Retry.Random
import TaskSync.Run.Bus
import TaskSync.Store.Memory

/-!
# The state of the daemon

Everything that the operations on tasks share: the registry, the store, the backends, the bus,
the queues between operations and controllers, and the clock, in milliseconds.
-/

namespace TaskSync

structure Daemon where
  setting : Setting
  clock : Nat
  /-- The time of day. No operation sets it. -/
  wall : Timestamp
  tokens : Tokens
  store : MemoryStore
  /-- Which uses of the store fail, and what with. -/
  storeFaults : List (StoreOp × Script (Option String))
  /-- The registered tasks with the places of their backends. -/
  registry : Registry Place
  /-- Every backend that was ever made. -/
  backends : Array Backend
  /-- How many backends were asked for, by task. -/
  made : SortedMap Nat
  retry : RetryConfig
  /-- Where the random factors of waits come from. -/
  source : Random.Source
  bus : Bus
  /-- The names of tasks with a completed run, once somebody listens. -/
  completions : Option Mailbox
  /-- New scheduled tasks that no controller has a timer for yet, and whether a controller takes
  from this queue. -/
  created : Mailbox
  createdHeld : Bool
  /-- Tasks that are to be deleted, and whether a controller takes from this queue. -/
  deletes : Mailbox
  deletesHeld : Bool
  /-- The stops of the schedule timers that run. -/
  stops : SortedMap Stop
  nextStop : UInt64
  triggers : Triggers
  /-- The crew of every controller that was ever started. -/
  crews : Array Crew
  /-- The number from which the next run record gets its identifier. -/
  nextRecord : Nat
  /-- The last entry first. -/
  journal : List JournalEntry
  /-- The last happening first. -/
  happenings : List Happening

namespace Daemon

/-- How many names the queues between operations and controllers hold. -/
def queueCapacity : Nat := 64

/-- The least number of completions that can be outstanding. -/
def minCompletions : Nat := 16

/-! ### Journal and signals -/

def log (d : Daemon) (line : JournalEntry) : Daemon := { d with journal := line :: d.journal }

def happen (d : Daemon) (h : Happening) : Daemon := { d with happenings := h :: d.happenings }

def signal (d : Daemon) (s : Signal) : Daemon := d.happen (.signal s)

/-! ### Tokens -/

def isCanceled (d : Daemon) (t : Token) : Bool := d.tokens.isCanceled t

def cancel (d : Daemon) (t : Token) : Daemon :=
  let (canceled, tokens) := d.tokens.cancel t
  canceled.foldl (fun d u => d.signal (.canceled u)) { d with tokens }

def namedToken (d : Daemon) (name : String) : Token × Daemon :=
  let (t, tokens) := d.tokens.named name
  (t, { d with tokens })

/-! ### Backends -/

def backend (d : Daemon) (b : Place) : Backend := d.backends.getD b default

/-- The task as its backend has it. -/
def taskOf (d : Daemon) (b : Place) : Task := (d.backend b).task

def setBackend (d : Daemon) (b : Place) (backend : Backend) : Daemon :=
  { d with backends := d.backends.setIfInBounds b backend }

/-! ### Notices and completions -/

def publish (d : Daemon) (n : Notice) : Daemon := { d with bus := (d.bus.publish n).2 }

/-- Tells a listener, if there is one and it keeps up, that a run is complete. -/
def notifyCompletion (d : Daemon) (task : String) : Daemon :=
  match d.completions.bind (·.offer? task) with
  | some box => { d with completions := some box }
  | none => d

/-! ### Queues -/

/-- Marks a task for deletion and asks a controller to delete it. A task that is marked already
is left alone; a request that finds the queue full is dropped. -/
def requestDeletion (d : Daemon) (task : String) : Daemon :=
  if d.registry.isMarked task then d
  else
    let d := { d with registry := d.registry.mark task }
    match d.deletes.offer? task with
    | some deletes => { d with deletes }.signal .deleteArrived
    | none => d

/-- Announces a new scheduled task to a controller, unless the queue is full. -/
def announceSchedule (d : Daemon) (task : String) : Daemon :=
  match d.created.offer? task with
  | some created => { d with created }.signal .createdArrived
  | none => d

/-! ### Schedule timers -/

/-- The right to run the timer of a name, unless somebody has it. -/
def registerStop (d : Daemon) (task : String) : Option Stop × Daemon :=
  if (d.stops.get? task).isSome then (none, d)
  else
    let (token, tokens) := d.tokens.fresh
    let stop : Stop := ⟨d.nextStop, token⟩
    (some stop,
      { d with tokens, stops := d.stops.put task stop, nextStop := d.nextStop + 1 })

/-- Gives a right back; a later one under the same name stays. -/
def releaseStop (d : Daemon) (task : String) (stop : Stop) : Daemon :=
  if (d.stops.get? task).any (·.number == stop.number) then
    { d with stops := d.stops.erase task }
  else d

/-- Stops the timer of a name. -/
def stopTimer (d : Daemon) (task : String) : Daemon :=
  match d.stops.get? task with
  | some stop => { d with stops := d.stops.erase task }.cancel stop.token
  | none => d

/-- Stops all timers. -/
def stopTimers (d : Daemon) : Daemon :=
  d.stops.foldl (fun d entry => d.cancel entry.2.token) { d with stops := [] }

/-! ### Guards -/

/-- Takes the guard of a task. -/
def tryActivate (d : Daemon) (task : String) : Except Failure (Option Guard × Daemon) :=
  (d.registry.tryActivate task).map fun (guard, registry) => (guard, { d with registry })

def release (d : Daemon) (g : Guard) : Daemon := { d with registry := d.registry.release g }

/-! ### The store -/

/-- Whether the next use of an operation fails. -/
def access (d : Daemon) (op : StoreOp) : Except StoreError Unit × Daemon :=
  match d.storeFaults.lookup op with
  | none => (.ok (), d)
  | some faults =>
    let (fault, rest) := faults.next
    (match fault with
      | some m => .error (.unavailable m)
      | none => .ok (),
      { d with storeFaults := d.storeFaults.map fun e => if e.1 = op then (op, rest) else e })

/-- Whether the store will take the next use of an operation. -/
def willTake (d : Daemon) (op : StoreOp) : Bool :=
  match (d.access op).1 with
  | .ok () => true
  | .error _ => false

/-- Looks something up in the store. -/
def look {α : Type} (d : Daemon) (op : StoreOp) (f : MemoryStore → α) :
    Except StoreError α × Daemon :=
  let (r, d) := d.access op
  (r.map fun _ => f d.store, d)

/-- Changes the store, unless it fails. -/
def write (d : Daemon) (op : StoreOp) (task : String) (f : MemoryStore → MemoryStore) :
    Except StoreError Unit × Daemon :=
  let (r, d) := (d.log (.written op task)).access op
  match r with
  | .ok () => (.ok (), { d with store := f d.store })
  | .error e => (.error e, d)

def setTask (d : Daemon) (c : TaskConfig) : Except StoreError Unit × Daemon :=
  d.write .setTask c.nameOrEmpty (·.setTask c)

def deleteTask (d : Daemon) (task : String) : Except StoreError Unit × Daemon :=
  d.write .deleteTask task (·.deleteTask task)

def deleteRecords (d : Daemon) (task : String) : Except StoreError Unit × Daemon :=
  d.write .deleteRecords task (·.deleteRecords task)

/-- Adds a record of a run; a failure to do so is passed over. -/
def addRecord (d : Daemon) (r : RunRecord) : Daemon :=
  (d.write .addRecord r.taskName (·.addRecord r)).2

/-- A record of a run that starts now. -/
def startRecord (d : Daemon) (t : Task) : RunRecord × Daemon :=
  ((RunRecord.forTask (.ofSerial d.nextRecord) t).start d.wall,
    { d with nextRecord := d.nextRecord + 1 })

/-- Announces how a run ended. -/
def announceRun (d : Daemon) (r : RunRecord) : Daemon :=
  d.publish (.runCompleted r.taskName r.success r.error)

/-! ### The clock -/

/-- The first millisecond at which a wait that begins now has passed. -/
def after (d : Daemon) (wait : Duration) : Nat := d.clock + wait.ceilMillis

/-- The wait for a token and a time, whichever comes first. -/
def waitsUntil (token : Token) (ms : Nat) : List Wait :=
  [⟨.canceled token, ms⟩, ⟨.time ms, ms⟩]

end Daemon

end TaskSync
