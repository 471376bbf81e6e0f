import TaskSync.Controller.Once
import TaskSync.Controller.Operation
import TaskSync.Scenario.Step
import TaskSync.Store.Line

/-!
# Jobs

A job is a step under way. `Job.go` lets it go on until it has to wait. Jobs in a `join` go on in
the order of the steps, each as far as it can.

Who comes to a table of the store takes a place in its line, and others that come later are not
served before. A job that has used the store often enough without a wait has to let others go first,
and keeps its place meanwhile. A write is in the journal from when the job came to the table. What a
pass over all tasks does to the store is not counted and does not stand in line.
-/

namespace TaskSync

inductive Job where
  /-- `place` is the job's place in a line of the store, if it stands in one. -/
  | step (place : Option Nat) (s : Step)
  /-- With a place in a line, the write that comes next is in the journal. -/
  | operation (place : Option Nat) (o : Operation)
  | once (token : Token) (phase : Once.Phase)
  | sleeping (due : Nat)
  /-- Cancels a token when the time has come. -/
  | canceling (token : Token) (due : Nat)
  | awaiting (name : String) (number : Nat) (due : Nat)
  | join (members : List (Job ⊕ Reply))
  | sequence (onlyLast : Bool) (answers : List Reply) (current : Job) (rest : List Step)

/-- What the steps of a scenario share. -/
structure Scene where
  daemon : Daemon
  mode : PassMode
  slots : SortedMap Guard
  /-- How much has been set going on the side. -/
  workers : Nat
  /-- The numbers of what was spawned under a name. -/
  spawned : SortedMap Nat
  /-- What is to be set going on the side, with its number. -/
  fresh : List (Nat × Job)
  /-- The answers of what has ended on the side. -/
  answers : List (Nat × Reply)
  /-- How often the job may use the store, or wake from a sleep, before it lets others go. -/
  allowance : Nat
  lines : StoreTable → Line
  /-- How many have come to the store. -/
  callers : Nat

/-- What coming to the store leads to. -/
inductive Admission where
  | served
  /-- It is the caller's turn, but others go first. -/
  | starved (place : Nat)
  /-- Somebody else is served first. -/
  | queued (place : Nat)

namespace Job

abbrev Outcome := Rest Job Reply × Scene

/-- How many turns an operation may take before others have theirs. -/
def share : Nat := 10000

/-- How often a job may use the store before others have their turn. -/
def allowance : Nat := 128

def replyOf : Operation.Result → Reply
  | .error e => .failed e
  | .ok .done => .done
  | .ok (.created (.config c)) => .task c
  | .ok (.created (.plan p)) => .plan p
  | .ok (.plan p) => .plan p

end Job

namespace Scene

def withDaemon (s : Scene) (d : Daemon) : Scene := { s with daemon := d }

/-- One use less. -/
def spend (s : Scene) : Scene := { s with allowance := s.allowance - 1 }

def setLine (s : Scene) (table : StoreTable) (line : Line) : Scene :=
  { s with lines := fun t => if t = table then line else s.lines t }

/-- Who is served leaves the line, and those who have the turn now are told. -/
def serve (s : Scene) (table : StoreTable) (place : Nat) : Scene :=
  let before := s.lines table
  let after := before.leave place
  let s := (s.setLine table after).spend
  let turned := after.next.filter (!before.next.contains ·)
  s.withDaemon (turned.foldl (fun d n => d.signal (.reached n)) s.daemon)

/-- Somebody comes to use the store, or has come before and has a place in line. -/
def approach (s : Scene) (op : StoreOp) (place : Option Nat) : Admission × Scene :=
  let (n, s) := match place with
    | some n => (n, s)
    | none =>
      let line := (s.lines op.table).join ⟨s.callers, op.writes⟩
      (s.callers, { s.setLine op.table line with callers := s.callers + 1 })
  if (s.lines op.table).holds n then (.queued n, s)
  else if s.allowance = 0 then (.starved n, s)
  else (.served, s.serve op.table n)

/-- An answer that comes with a new state of the daemon. -/
def answer {α : Type} (s : Scene) (f : α → Reply) (r : Except Failure α × Daemon) :
    Reply × Scene :=
  (Reply.ofExcept f r.1, s.withDaemon r.2)

def takeCreated (s : Scene) : Reply × Scene :=
  let d := s.daemon
  if d.createdHeld then (.held, s)
  else (.names d.created.items, s.withDaemon { d with created := { d.created with items := [] } })

def takeDeletes (s : Scene) : Reply × Scene :=
  let d := s.daemon
  if d.deletesHeld then (.held, s)
  else (.names d.deletes.items, s.withDaemon { d with deletes := { d.deletes with items := [] } })

def completions (s : Scene) : Reply × Scene :=
  match s.daemon.completions with
  | none => (.nothing, s)
  | some box =>
    (.names box.items, s.withDaemon { s.daemon with completions := some { box with items := [] } })

/-- The guard that was kept under the name before is given back. -/
def activate (s : Scene) (task slot : String) : Reply × Scene :=
  match s.daemon.tryActivate task with
  | .error e => (.failed e, s)
  | .ok (none, d) => (.flag false, s.withDaemon d)
  | .ok (some guard, d) =>
    let d := match s.slots.get? slot with
      | some old => d.release old
      | none => d
    (.flag true, { s with daemon := d, slots := s.slots.put slot guard })

def release (s : Scene) (slot : String) : Reply × Scene :=
  match s.slots.get? slot with
  | none => (.flag false, s)
  | some guard =>
    (.flag true, { s with daemon := s.daemon.release guard, slots := s.slots.erase slot })

def unregister (s : Scene) (task : String) : Reply × Scene :=
  match s.daemon.registry.delete task with
  | .error e => (.failed e, s)
  | .ok registry => (.done, s.withDaemon { s.daemon with registry })

def trigger (s : Scene) (template : String) : Reply × Scene :=
  let t := s.daemon.triggers
  if t.isOpen then
    (.flag true, s.withDaemon
      ({ s.daemon with triggers := { t with items := t.items ++ [template] } }.signal
        .triggerArrived))
  else (.flag false, s)

/-- The answer of a step that is over at once. -/
def ask (s : Scene) : Step → Option (Reply × Scene)
  | .start => some (s.answer (fun _ => .done) s.daemon.start)
  | .requestDeletion task => some (.done, s.withDaemon (s.daemon.requestDeletion task))
  | .task name => some (s.answer .task (s.daemon.task name))
  | .tasks => some (s.answer .tasks s.daemon.tasks)
  | .taskNames =>
    some (s.answer (fun cs => .names (cs.map (·.nameOrEmpty))) s.daemon.tasks)
  | .records task => some (s.answer .records (s.daemon.records task))
  | .byTemplate template =>
    some (((s.daemon.taskByTemplate template).map .name).getD .nothing, s)
  | .config => some (.configuration s.daemon.store.config, s)
  | .published => some (.count s.daemon.bus.published, s)
  | .listen => some (s.answer (fun _ => .done) s.daemon.listen)
  | .completions => some s.completions
  | .stopListening => some (.done, s.withDaemon { s.daemon with completions := none })
  | .takeCreated => some s.takeCreated
  | .takeDeletes => some s.takeDeletes
  | .activate task slot => some (s.activate task slot)
  | .release slot => some (s.release slot)
  | .mark task =>
    some (.done, s.withDaemon { s.daemon with registry := s.daemon.registry.mark task })
  | .unregister task => some (s.unregister task)
  | .cancel token =>
    let (t, d) := s.daemon.namedToken token
    some (.done, s.withDaemon (d.cancel t))
  | .trigger template => some (s.trigger template)
  | .closeTriggers =>
    some (.done, s.withDaemon
      { s.daemon with triggers := { s.daemon.triggers with isOpen := false } })
  | .malformed e => some (.malformed e, s)
  | _ => none

def namedToken (s : Scene) (name : String) : Token × Scene :=
  let (t, d) := s.daemon.namedToken name
  (t, s.withDaemon d)

/-- Sets a job going on the side. -/
def engage (s : Scene) (job : Job) : Nat × Scene :=
  (s.workers, { s with workers := s.workers + 1, fresh := s.fresh ++ [(s.workers, job)] })

/-- The job that a step is; a step that only sets something going is over at once. -/
def begin (s : Scene) : Step → (Job ⊕ Reply) × Scene
  | .create token goal conf =>
    let (t, s) := s.namedToken token
    (.inl (.operation none (.create t goal (.start conf))), s)
  | .update conf option => (.inl (.operation none (.update (.start conf option))), s)
  | .run token task =>
    let (t, s) := s.namedToken token
    (.inl (.operation none (.run t (.start task))), s)
  | .delete token task =>
    let (t, s) := s.namedToken token
    (.inl (.operation none (.delete t (.start task))), s)
  | .control token =>
    let (t, s) := s.namedToken token
    (.inl (.operation none (.control t .start)), s)
  | .once token =>
    let (t, s) := s.namedToken token
    (.inl (.once t .start), s)
  | .sleep ms => (.inl (.sleeping (s.daemon.clock + ms)), s)
  | .cancelAfter token ms =>
    let (t, s) := s.namedToken token
    (.inr .done, (s.engage (.canceling t (s.daemon.clock + ms))).2)
  | .join steps => (.inl (.join (steps.map fun x => .inl (.step none x))), s)
  | .sequence onlyLast (x :: xs) => (.inl (.sequence onlyLast [] (.step none x) xs), s)
  | .sequence onlyLast [] => (.inr (if onlyLast then .nothing else .list []), s)
  | .spawn name x =>
    let (n, s) := s.engage (.step none x)
    (.inr .done, { s with spawned := s.spawned.put name n })
  | .await name ms =>
    match s.spawned.get? name with
    | none => (.inr .nothing, s)
    | some n => (.inl (.awaiting name n (s.daemon.clock + ms)), s)
  | _ => (.inr .nothing, s)

end Scene

namespace Job

/-- The members of a `join` go on in order; what they wait for is gathered. -/
def goAll (go : Job → Scene → Outcome) :
    List (Job ⊕ Reply) → Scene → (List (Job ⊕ Reply) × List Wait × Bool) × Scene
  | [], s => (([], [], false), s)
  | .inr r :: ms, s =>
    let ((ms, waits, paused), s) := goAll go ms s
    ((.inr r :: ms, waits, paused), s)
  | .inl j :: ms, s =>
    let (m, on, stopped, s) := match go j s with
      | (.waiting j on, s) => (Sum.inl j, on, false, s)
      | (.paused j, s) => (Sum.inl j, [], true, s)
      | (.ended r, s) => (Sum.inr r, [], false, s)
    let ((ms, waits, paused), s) := goAll go ms s
    ((m :: ms, on ++ waits, stopped || paused), s)

/-- The answers, once all are there. -/
def replies? (members : List (Job ⊕ Reply)) : Option (List Reply) :=
  members.mapM fun m => m.getRight?

/-- Answers to keep of a sequence. -/
def keep (onlyLast : Bool) (answers : List Reply) (r : Reply) : List Reply :=
  if onlyLast then [r] else answers ++ [r]

/-- The answer of a sequence that has come to its end. -/
def sequenceReply (onlyLast : Bool) (answers : List Reply) : Reply :=
  if onlyLast then answers.getLast?.getD .nothing else .list answers

/-- The write that the turn begins with for which one has to come to the store. One that fails does
so at once and is not counted. -/
def write? (s : Scene) (place : Option Nat) (after : Daemon) : Option (StoreOp × JournalEntry) :=
  match after.journal.getLast? with
  | some (.written op task) =>
    if place.isSome || s.daemon.willTake op then some (op, .written op task) else none
  | _ => none

/-- The operation stands in line; its write is in the journal. -/
def standing (s : Scene) (place : Option Nat) (line : JournalEntry) : Scene :=
  if place.isSome then s else s.withDaemon (s.daemon.log line)

/-- Takes turns of an operation until it has to wait or ends, at most so many. A line that was
written in advance is not written again. -/
def goOperation : Nat → Option Nat → Operation → Scene → Outcome
  | 0, place, o, s => (.paused (.operation place o), s)
  | fuel + 1, place, o, s =>
    let turned (s : Scene) : Outcome :=
      let (turn, d) := o.turn { s.daemon with journal := [] }
      let lines := if place.isSome then d.journal.dropLast else d.journal
      let s := s.withDaemon { d with journal := lines ++ s.daemon.journal }
      match turn with
      | .next o => goOperation fuel none o s
      | .wait on => (.waiting (.operation none o) on, s)
      | .done r => (.ended (replyOf r), s)
    match write? s place (o.turn { s.daemon with journal := [] }).2 with
    | none => turned s
    | some (op, line) =>
      match s.approach op place with
      | (.queued n, s) =>
        (.waiting (.operation (some n) o) [⟨.reached n, n⟩], standing s place line)
      | (.starved n, s) => (.paused (.operation (some n) o), standing s place line)
      | (.served, s) => turned s

/-- Takes a step, for which somebody may have to come to the store. -/
def goStep (begun : Job → Scene → Outcome) (place : Option Nat) (x : Step) (s : Scene) : Outcome :=
  let turned (s : Scene) : Outcome :=
    match s.ask x with
    | some (r, s) => (.ended r, s)
    | none =>
      match s.begin x with
      | (.inl j, s) => begun j s
      | (.inr r, s) => (.ended r, s)
  match x.read?.filter fun op => place.isSome || s.daemon.willTake op with
  | none => turned s
  | some op =>
    match s.approach op place with
    | (.queued n, s) => (.waiting (.step (some n) x) [⟨.reached n, n⟩], s)
    | (.starved n, s) => (.paused (.step (some n) x), s)
    | (.served, s) => turned s

/-- Lets a job go on as far as it can. The first argument bounds how many steps inside it are
begun. -/
def go : Nat → Job → Scene → Outcome
  | 0, j, s => (.paused j, s)
  | fuel + 1, .step place x, s => goStep (go fuel) place x s
  | _ + 1, .operation place o, s => goOperation share place o s
  | _ + 1, .once token phase, s =>
    match Once.go token s.mode share phase s.daemon with
    | (.waiting p on, d) => (.waiting (.once token p) on, s.withDaemon d)
    | (.paused p, d) => (.paused (.once token p), s.withDaemon d)
    | (.ended r, d) => (.ended (.ofUnit r), s.withDaemon d)
  | _ + 1, .sleeping due, s =>
    if due ≤ s.daemon.clock then (.ended .done, s.spend)
    else (.waiting (.sleeping due) [⟨.time due, due⟩], s)
  | _ + 1, .canceling token due, s =>
    if due ≤ s.daemon.clock then (.ended .done, s.withDaemon (s.daemon.cancel token))
    else (.waiting (.canceling token due) [⟨.time due, due⟩], s)
  | _ + 1, .awaiting name n due, s =>
    match s.answers.lookup n with
    | some r => (.ended r, { s with spawned := s.spawned.erase name })
    | none =>
      if due ≤ s.daemon.clock then (.ended .pending, s)
      else (.waiting (.awaiting name n due) [⟨.workEnded n, due⟩, ⟨.time due, due⟩], s)
  | fuel + 1, .join members, s =>
    let ((members, waits, paused), s) := goAll (go fuel) members s
    match replies? members with
    | some rs => (.ended (.list rs), s)
    | none =>
      if paused then (.paused (.join members), s) else (.waiting (.join members) waits, s)
  | fuel + 1, .sequence onlyLast answers current rest, s =>
    match go fuel current s with
    | (.waiting j on, s) => (.waiting (.sequence onlyLast answers j rest) on, s)
    | (.paused j, s) => (.paused (.sequence onlyLast answers j rest), s)
    | (.ended r, s) =>
      let answers := keep onlyLast answers r
      match rest with
      | [] => (.ended (sequenceReply onlyLast answers), s)
      | x :: rest => go fuel (.sequence onlyLast answers (.step none x) rest) s

end Job

end TaskSync
