import TaskSync.Proofs.Config.Changes
import TaskSync.Proofs.Daemon.Own
import TaskSync.Proofs.Lookup
import TaskSync.Proofs.Operation.Traces

/-!
# What an update comes to

An update is refused in its first turn, with everything as it was, or has four turns at most: it
takes the guard of its task, calls the backend once, records that if it was to be done at once, and
stores the configuration unless the backend failed or was only asked for its plan. Each of these
turns is about the task alone, and the last one gives the guard back. Others may do what they like
between the turns.
-/

namespace TaskSync

/-! ### What an update relies on -/

/-- What is there later under a number that was given by then was there under the same name. -/
structure Daemon.Onward (d d' : Daemon) : Prop where
  steady : d.Steady d'
  nextId_le : d.registry.nextId ≤ d'.registry.nextId
  entries : ∀ n f, d'.registry.find? n = some f → f.id < d.registry.nextId →
    ∃ e, d.registry.find? n = some e ∧ f.id = e.id

theorem Registry.OwnOnly.sole {δ : Type} {task : String} {r s : Registry δ}
    (h : OwnOnly task r s) {id : Nat} (sole : ∀ n f, r.find? n = some f → f.id = id → n = task) :
    ∀ n f, s.find? n = some f → f.id = id → n = task := by
  intro n f found same
  by_cases own : n = task
  · exact own
  · rw [h.others n own] at found
    exact sole n f found same

namespace Update

/-! ### Whether it is refused -/

/-- Why an update ends in its first turn, each reason after those before it. -/
inductive Refusal (d : Daemon) (conf : TaskConfig) : Result → Prop where
  | unnamed (nameless : conf.nameOrEmpty = "") :
      Refusal d conf (.error (.invalidArgument "task name is required for updating a task"))
  | missing (named : conf.nameOrEmpty ≠ "")
      (missing : d.registry.find? conf.nameOrEmpty = none) :
      Refusal d conf (.error (.notFound conf.nameOrEmpty))
  | unsupported {e : Entry Place} (named : conf.nameOrEmpty ≠ "")
      (found : d.registry.find? conf.nameOrEmpty = some e)
      (changes : ¬ conf.Repeats (d.taskOf e.runner).toConfig) :
      Refusal d conf (.error (.unsupportedUpdate conf.nameOrEmpty
        (", ".intercalate (conf.changedFields (d.taskOf e.runner).toConfig))))
  /-- This is no failure: nothing was asked for. -/
  | idle {e : Entry Place} (named : conf.nameOrEmpty ≠ "")
      (found : d.registry.find? conf.nameOrEmpty = some e)
      (repeats : conf.Repeats (d.taskOf e.runner).toConfig) (unset : conf.enabled = none) :
      Refusal d conf (.ok .empty)
  | busy {e : Entry Place} {on : Bool} (named : conf.nameOrEmpty ≠ "")
      (found : d.registry.find? conf.nameOrEmpty = some e)
      (repeats : conf.Repeats (d.taskOf e.runner).toConfig) (wanted : conf.enabled = some on)
      (active : e.active = true) : Refusal d conf (.error (.busy conf.nameOrEmpty))

/-- There is no reason to refuse the update. -/
structure Accepts (d : Daemon) (conf : TaskConfig) (e : Entry Place) (on : Bool) : Prop where
  named : conf.nameOrEmpty ≠ ""
  found : d.registry.find? conf.nameOrEmpty = some e
  repeats : conf.Repeats (d.taskOf e.runner).toConfig
  wanted : conf.enabled = some on
  free : e.active = false

/-- What a turn does but for what hooks do on the side: the journal has these lines more, the last
one first, the store is written like this, these notices are published, and nobody is told that a
run is complete. The entries, configurations and histories of other tasks stay as they are, hooks or
no hooks. -/
structure Effect (task : String) (lines : List JournalEntry) (write : MemoryStore → MemoryStore)
    (notices : List Notice) (d d' : Daemon) : Prop where
  journal : d'.journal = lines ++ d.journal
  store : d'.store = write d.store
  bus : d'.bus = notices.foldl (fun bus n => (bus.publish n).2) d.bus
  completions : d'.completions = d.completions
  entries : ∀ n, n ≠ task → d'.registry.find? n = d.registry.find? n
  configs : ∀ n, n ≠ task → d'.store.getTask n = d.store.getTask n
  histories : ∀ n, n ≠ task → d'.store.recordsOf n = d.store.recordsOf n

/-- If the task is active afterwards, then by another entry, which somebody else has taken. -/
def Freed (task : String) (g : Guard) (d d' : Daemon) : Prop :=
  ∀ f, d'.registry.find? task = some f → f.active = true →
    f.id ≠ g.entry ∧ ∃ e, d.registry.find? task = some e ∧ e.id = f.id ∧ e.active = true

section Effect

variable {task : String} {lines : List JournalEntry} {write : MemoryStore → MemoryStore}
variable {notices : List Notice} {d d' : Daemon} {g : Guard}

theorem Effect.publish (h : Effect task lines write [] d d') (n : Notice) :
    Effect task lines write [n] d (d'.publish n) where
  journal := h.journal
  store := h.store
  bus := congrArg (fun bus : Bus => (bus.publish n).2) h.bus
  completions := h.completions
  entries := h.entries
  configs := h.configs
  histories := h.histories

/-- A guard is given back to the entries that have its number. -/
theorem Effect.release (h : Effect task lines write notices d d')
    (sole : ∀ n f, d'.registry.find? n = some f → f.id = g.entry → n = task) :
    Effect task lines write notices d (d'.release g) where
  journal := h.journal
  store := h.store
  bus := h.bus
  completions := h.completions
  entries n other := by
    rw [← h.entries n other]
    show (d'.registry.release g).find? n = _
    rw [Registry.find?_release]
    cases found : d'.registry.find? n with
    | none => rfl
    | some f =>
        have apart : (f.id != g.entry) = true :=
          bne_iff_ne.mpr fun same => other (sole n f found same)
        rw [Option.map_some, apart, Bool.and_true]
  configs := h.configs
  histories := h.histories

end Effect

/-! ### What is left of the whole -/

/-- The turn that records the update, if it was to be done at once. `now` is when the backend has
answered. -/
inductive Records (d : Daemon) (task : String) (b : Place) (option : RunOption)
    (answer : Except BackendError Plan) (now : Timestamp) : List (Daemon × Daemon) → Prop where
  | unasked (later : option ≠ .now) : Records d task b option answer now []
  | recorded {y y' : Daemon} {record : RunRecord} (atOnce : option = .now)
      (closes : record = close (d.startRecord (d.taskOf b)).1 answer now)
      (about : record.taskName = task) (ended : record.success = answer.isOk)
      (effect : Effect task [.written .addRecord task] (·.addRecord record) [] y y') :
      Records d task b option answer now [(y, y')]

/-- The turn that stores the canonical configuration with the flag that was asked for, and announces
the update. -/
inductive Stores (d : Daemon) (task : String) (b : Place) (on : Bool) (option : RunOption)
    (answer : Except BackendError Plan) : List (Daemon × Daemon) → Prop where
  | failed (e : BackendError) (failed : answer = .error e) : Stores d task b on option answer []
  | inspected (only : option = .inspect) : Stores d task b on option answer []
  | stored {y y' : Daemon} {c : TaskConfig} (plan : Plan) (succeeded : answer = .ok plan)
      (acts : option ≠ .inspect)
      (canonical : c = { (d.taskOf b).toConfig with enabled := some on })
      (effect : Effect task [.written .setTask task] (·.setTask c) [.updated task on] y y')
      (holds : y'.store.getTask task = some c) : Stores d task b on option answer [(y, y')]

/-- What is left to do when the backend has answered: a turn, and perhaps the one that stores. -/
structure Settles (d : Daemon) (task : String) (e : Entry Place) (on : Bool) (option : RunOption)
    (answer : Except BackendError Plan) (lines : List JournalEntry)
    (write : MemoryStore → MemoryStore) (x x' : Daemon) (rest : List (Daemon × Daemon))
    (r : Result) : Prop where
  answered : r = answer.mapError .backend
  effect : Effect task lines write [] x x'
  stores : Stores d task e.runner on option answer rest
  freed : ∀ last ∈ ((x, x') :: rest).getLast?, Freed task ⟨e.id⟩ last.1 last.2

/-- What an update holds that was accepted on this daemon. -/
def Held.taken (d : Daemon) (task : String) (e : Entry Place) (on : Bool) (option : RunOption) :
    Held :=
  ⟨task, ⟨e.id⟩, e.runner, on, option,
    if option = .now then some (d.startRecord (d.taskOf e.runner)).1 else none⟩

section Settle

variable {d x x' y : Daemon} {task : String} {e : Entry Place} {on : Bool} {option : RunOption}
variable {p : Phase} {r : Result} {answer : Except BackendError Plan}
variable {rest : List (Phase × Daemon × Daemon)}

end Settle

/-! ### The whole -/

section Account

variable {conf : TaskConfig} {option : RunOption} {d d' x x' : Daemon} {e : Entry Place}
variable {on : Bool} {r : Result} {rest : List (Phase × Daemon × Daemon)}

end Account

end Update

end TaskSync
