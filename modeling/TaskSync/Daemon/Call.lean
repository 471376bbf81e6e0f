import TaskSync.Daemon.Turn

/-!
# Calls of backends

Every call is written into the journal and does on the side what the backend's hooks ask for.
Rendering and applying may take time; the others end at once.
-/

namespace TaskSync

/-- A call that may take time: not made yet, or answered at a time of the clock. -/
inductive Pending where
  | unsent
  | delayed (due : Nat)
  deriving DecidableEq

namespace Daemon

/-- What a backend does on the side. -/
def perform (d : Daemon) (b : Place) (a : Action) : Daemon :=
  let name := (d.backend b).label.task
  match a with
  | .cancel token =>
    let (t, d) := d.namedToken token
    d.cancel t
  | .enable => d.setBackend b ((d.backend b).setEnabled true)
  | .disable => d.setBackend b ((d.backend b).setEnabled false)
  | .mark => { d with registry := d.registry.mark name }
  | .delete => d.requestDeletion name
  | .unregister =>
    match d.registry.delete name with
    | .ok registry => { d with registry }
    | .error _ => d

/-- Makes a call, which the journal has as `line`. -/
def callAs (d : Daemon) (b : Place) (kind : CallKind) (line : JournalEntry) : Daemon :=
  let (actions, backend) := (d.backend b).note kind
  actions.foldl (fun d a => d.perform b a) ((d.log line).setBackend b backend)

def call (d : Daemon) (b : Place) (kind : CallKind) : Daemon :=
  d.callAs b kind (.called (d.backend b).label kind)

/-- Takes an answer from a backend's script. -/
def answer {α : Type} (d : Daemon) (b : Place) (f : BackendScript → α × BackendScript) :
    α × Daemon :=
  let backend := d.backend b
  let (x, script) := f backend.script
  (x, d.setBackend b { backend with script })

/-- Asks for the plan of a task that is not to be applied. -/
def inspect (d : Daemon) (b : Place) : Except BackendError Plan × Daemon :=
  let d := d.call b .inspect
  let script := (d.backend b).script
  (script.inspection.map fun _ => script.plan, d)

/-- Switches a task on or off. -/
def patch (d : Daemon) (b : Place) (enabled : Bool) (option : RunOption) :
    Except BackendError Plan × Daemon :=
  let d := d.callAs b .update (.updated (d.backend b).label enabled option)
  let (r, d) := d.answer b fun s =>
    let (x, updates) := s.updates.next
    (x, { s with updates })
  match r with
  | .error e => (.error e, d)
  | .ok () =>
    let backend := d.backend b
    (.ok backend.script.plan,
      if option = .inspect then d else d.setBackend b (backend.setEnabled enabled))

/-- Makes a backend for a task. -/
def make (d : Daemon) (t : Task) : Except BackendError Place × Daemon :=
  let before := (d.made.get? t.name).getD 0
  let label : Label := ⟨t.name, before + 1⟩
  let d := { d with made := d.made.put t.name (before + 1) }.log (.made label)
  match d.setting.makeErrors.get? t.name with
  | some e => (.error e, d)
  | none =>
    let script := match d.setting.backends.get? t.name with
      | some scripts => (scripts[before]? <|> scripts.getLast?).getD d.setting.otherwise
      | none => d.setting.otherwise
    (.ok d.backends.size, { d with backends := d.backends.push (.new label t script) })

/-- Starts the factory. -/
def startFactory (d : Daemon) : Except BackendError Unit × Daemon :=
  match d.setting.start with
  | none => (.ok (), d)
  | some r => (r, d.log .factoryStarted)

end Daemon

/-- A kind of call that may take time: where its delays and its answers come from. -/
structure TimedCall (α : Type) where
  kind : CallKind
  delay : BackendScript → Nat × BackendScript
  answer : BackendScript → Except BackendError α × BackendScript

namespace TimedCall

variable {α : Type}

/-- Renders the template; `true` says that it has all it needs. -/
def render : TimedCall Bool where
  kind := .render
  delay s :=
    let (x, renderDelays) := s.renderDelays.next
    (x, { s with renderDelays })
  answer s :=
    let (x, renders) := s.renders.next
    (x, { s with renders })

def apply : TimedCall Unit where
  kind := .apply
  delay s :=
    let (x, applyDelays) := s.applyDelays.next
    (x, { s with applyDelays })
  answer s :=
    let (x, applies) := s.applies.next
    (x, { s with applies })

/-- The call ends without an answer from the script. -/
def interrupt (c : TimedCall α) (b : Place) (d : Daemon) :
    Turn Pending (Except BackendError α) × Daemon :=
  (.done (.error .canceled), d.log (.interrupted (d.backend b).label c.kind))

/-- A turn of a call. A delay is cut short when the token is canceled, also when it was canceled
before the delay began. -/
def turn (c : TimedCall α) (b : Place) (token : Token) :
    Pending → Daemon → Turn Pending (Except BackendError α) × Daemon
  | .unsent, d =>
    let (ms, d) := d.answer b c.delay
    let d := d.call b c.kind
    if ms = 0 then
      let (r, d) := d.answer b c.answer
      (.done r, d)
    else if d.isCanceled token && !(d.backend b).script.ignoresCancel then c.interrupt b d
    else (.next (.delayed (d.clock + ms)), d)
  | .delayed due, d =>
    let backend := d.backend b
    if d.isCanceled token && !backend.script.ignoresCancel then c.interrupt b d
    else if due ≤ d.clock then
      let (r, d) := (d.log (.waited backend.label c.kind)).answer b c.answer
      (.done r, d)
    else
      (.wait (if backend.script.ignoresCancel then [⟨.time due, due⟩]
        else Daemon.waitsUntil token due), d)

end TimedCall

end TaskSync
