import TaskSync.Proofs.Daemon.Steady
import TaskSync.Proofs.Operation.Heed

/-!
# What an operation has a stake in

Between two turns an operation may hold a guard, and it may know a backend that it is going to
call. `Stake` keeps just that of a phase. `Move` says how one turn can change it: a guard that was
not held before is that of the entry registered under the name at the beginning of the turn, and a
backend that was not known before was either looked up there or made in this very turn.

Every turn of every operation is a `Move`, but for the one turn that registers a new task.
-/

namespace TaskSync

/-- What an operation holds or knows between two turns. -/
inductive Stake where
  | nothing
  /-- A backend that was made for a task and is not registered. -/
  | fresh (backend : Place)
  /-- A backend that was looked up under a name; the guard is not held yet. -/
  | queued (task : String) (backend : Place)
  /-- A backend to be called under a guard. -/
  | working (guard : Guard) (backend : Place)
  /-- The guard of an entry that is taken out. -/
  | removing (guard : Guard)
  deriving DecidableEq

namespace Stake

def guard? : Stake → Option Guard
  | working g _ | removing g => some g
  | _ => none

/-- The backend that the operation may be calling. -/
def backend? : Stake → Option Place
  | fresh b | working _ b => some b
  | _ => none

end Stake

/-- The stake after a turn. -/
def Turn.stake {π ρ : Type} (stake : π → Stake) (before : π) : Turn π ρ → Stake
  | .next phase => stake phase
  | .wait _ => stake before
  | .done _ => .nothing

def Run.Phase.stake : Run.Phase → Stake
  | .start _ => .nothing
  | .queued task backend _ => .queued task backend
  | .rendering h _ | .applying h _ _ | .backingOff h _ _ | .recording h _ _ =>
    .working h.guard h.backend

def Update.Phase.stake : Update.Phase → Stake
  | .start _ _ => .nothing
  | .patching h | .recording h _ _ | .storing h _ _ => .working h.guard h.backend

def Deletion.Phase.stake : Deletion.Phase → Stake
  | .start _ | .queued _ _ _ => .nothing
  | .deletingTask _ guard | .deletingRecords _ guard => .removing guard

def Deletion.Phase.task : Deletion.Phase → String
  | .start task | .queued task _ _ | .deletingTask task _ | .deletingRecords task _ => task

def Creation.Phase.stake : Creation.Phase → Stake
  | .start _ | .making _ | .storing _ => .nothing
  | .rendering t _ | .pausing t _ => .fresh t.backend
  | .destroying backend _ | .applying backend _ _ | .recording backend _ | .inspecting backend =>
    .fresh backend

def Timer.Phase.stake : Timer.Phase → Stake
  | .running _ _ _ run => run.stake
  | _ => .nothing

def Errand.stake : Errand → Stake
  | .watch _ => .nothing
  | .timer _ phase => phase.stake
  | .run phase => phase.stake
  | .delete phase => phase.stake

def Operation.stake : Operation → Stake
  | .create _ _ phase => phase.stake
  | .update phase => phase.stake
  | .run _ phase => phase.stake
  | .delete _ phase => phase.stake
  | .control _ _ => .nothing
  | .errand _ e => e.stake

/-- The name that the operation may take out of the registry. -/
def Operation.Closes : Operation → String → Prop
  | .delete _ phase, name | .errand _ (.delete phase), name => name = phase.task
  | _, _ => False

/-- How a turn changes a stake. -/
structure Move (closing : String → Prop) (old new : Stake) (d d' : Daemon) : Prop where
  steady : d.Steady d'
  path : Registry.Path (¬ d.Avoids .unregister) closing old.guard? d.registry new.guard? d'.registry
  queued : ∀ task b, new = .queued task b →
    new = old ∨ ∃ e, d.registry.find? task = some e ∧ e.runner = b
  working : ∀ g b, new = .working g b →
    new = old ∨ ∃ task e, d.registry.find? task = some e ∧ g = ⟨e.id⟩ ∧
      (e.runner = b ∨ old = .queued task b)
  fresh : ∀ b, new = .fresh b → new = old ∨ b = d.backends.size ∧ b < d'.backends.size

namespace Move

variable {closing : String → Prop} {old new : Stake} {d d' : Daemon}

/-- A turn that only keeps or gives up what there was. -/
theorem of_path (same : new = old ∨ new = .nothing) (steady : d.Steady d')
    (path : Registry.Path (¬ d.Avoids .unregister) closing old.guard? d.registry new.guard?
      d'.registry) : Move closing old new d d' where
  steady := steady
  path := path
  queued task b e := .inl (same.resolve_right fun h => by cases e.symm.trans h)
  working g b e := .inl (same.resolve_right fun h => by cases e.symm.trans h)
  fresh b e := .inl (same.resolve_right fun h => by cases e.symm.trans h)

/-- A turn that takes the guard of the entry under a name. -/
theorem takes {task : String} {e : Entry Place} {b : Place} (found : d.registry.find? task = some e)
    (known : e.runner = b ∨ old = .queued task b) (steady : d.Steady d')
    (path : Registry.Path (¬ d.Avoids .unregister) closing old.guard? d.registry (some ⟨e.id⟩)
      d'.registry) : Move closing old (.working ⟨e.id⟩ b) d d' where
  steady := steady
  path := path
  queued := nofun
  working g b h := by
    cases h
    exact .inr ⟨task, e, found, rfl, known⟩
  fresh := nofun

/-- A turn after which everything is as it was. -/
theorem keep (quiet : d.Quiet d') : Move closing old old d d' :=
  .of_path (.inl rfl) quiet.toSteady (quiet.path _ _)

/-- The end of an operation that holds no guard. -/
theorem leave (free : old.guard? = none) (quiet : d.Quiet d') : Move closing old .nothing d d' := by
  refine .of_path (.inr rfl) quiet.toSteady ?_
  rw [free]
  exact quiet.path _ none

/-- The end of an operation that gives its guard back. -/
theorem release {g : Guard} (held : old.guard? = some g) (quiet : d.Quiet d') :
    Move closing old .nothing d (d'.release g) := by
  refine .of_path (.inr rfl) (quiet.toSteady.trans (.of_same rfl rfl rfl rfl)) ?_
  rw [held]
  exact .release (quiet.path _ (some g))

end Move

/-! ### Runs -/

theorem Daemon.tryActivate_eq_some {d d' : Daemon} {task : String} {g : Guard}
    (h : d.tryActivate task = .ok (some g, d')) :
    ∃ r, d.registry.tryActivate task = .ok (some g, r) ∧ d' = { d with registry := r } := by
  unfold tryActivate at h
  cases taken : d.registry.tryActivate task with
  | error e =>
      rw [taken] at h
      cases h
  | ok result =>
      obtain ⟨guard, r⟩ := result
      rw [taken] at h
      cases h
      exact ⟨r, rfl, rfl⟩

theorem Daemon.tryActivate_eq_busy {d d' : Daemon} {task : String}
    (h : d.tryActivate task = .ok (none, d')) :
    d' = d ∧ ∃ e, d.registry.find? task = some e ∧ e.active = true := by
  unfold tryActivate at h
  cases taken : d.registry.tryActivate task with
  | error e =>
      rw [taken] at h
      cases h
  | ok result =>
      obtain ⟨guard, r⟩ := result
      rw [taken] at h
      cases h
      obtain ⟨rfl, found⟩ := Registry.tryActivate_eq_busy taken
      exact ⟨rfl, found⟩

theorem Daemon.tryActivate_eq_error {d : Daemon} {task : String} {e : Failure}
    (h : d.tryActivate task = .error e) :
    d.registry.find? task = none ∧ e = .notFound task := by
  unfold tryActivate at h
  cases taken : d.registry.tryActivate task with
  | error e' =>
      rw [taken] at h
      cases h
      exact Registry.tryActivate_eq_error taken
  | ok result =>
      rw [taken] at h
      cases h

/-- A look at a task takes the guard, or changes nothing. -/
theorem Activation.look_cases (task : String) (d : Daemon) :
    (d.registry.find? task = none ∧ look task d = (.missing (.notFound task), d)) ∨
    (∃ e, d.registry.find? task = some e ∧ e.active = true ∧ look task d = (.busy, d)) ∨
    ∃ g d₁, d.tryActivate task = .ok (some g, d₁) ∧ look task d = (.taken g, d₁) := by
  unfold look
  split
  next e h =>
    obtain ⟨missing, rfl⟩ := Daemon.tryActivate_eq_error h
    exact .inl ⟨missing, rfl⟩
  next d₁ h =>
    obtain ⟨rfl, e, found, active⟩ := Daemon.tryActivate_eq_busy h
    exact .inr (.inl ⟨e, found, active, rfl⟩)
  next g d₁ h => exact .inr (.inr ⟨g, d₁, h, rfl⟩)

namespace Run

/-- Taking the guard, with what is done on the same turn. -/
theorem entered_move {old : Stake} {task : String} {b : Place} {d d₁ : Daemon} {g : Guard}
    (taken : d.tryActivate task = .ok (some g, d₁)) (free : old.guard? = none)
    (known : ∀ e, d.registry.find? task = some e → e.runner = b ∨ old = .queued task b)
    (scheduled : Bool) (p : Phase) :
    Move (fun _ => False) old ((entered task b scheduled g d₁).1.stake Phase.stake p) d
      (entered task b scheduled g d₁).2 := by
  obtain ⟨r, activated, rfl⟩ := Daemon.tryActivate_eq_some taken
  obtain ⟨e, found, _, rfl, _⟩ := Registry.tryActivate_eq_some activated
  have path : Registry.Path (¬ d.Avoids .unregister) (fun _ => False) old.guard? d.registry
      (some ⟨e.id⟩) r := by
    rw [free]
    exact .activate (.refl none _) activated
  unfold entered
  split
  · exact .of_path (.inr rfl) (.of_same rfl rfl rfl rfl) path.release
  · simp only
    split
    · exact .takes found (known e found) (.of_same rfl rfl rfl rfl) path
    · obtain ⟨c, h⟩ := Daemon.notifyCompletion_frame { d with registry := r } task
      rw [h]
      exact .of_path (.inr rfl) (.of_same rfl rfl rfl rfl) path.release

theorem enter_move {old : Stake} {task : String} {b : Place} {d : Daemon} (free : old.guard? = none)
    (known : ∀ e, d.registry.find? task = some e → e.runner = b ∨ old = .queued task b)
    (p : Phase) :
    Move (fun _ => False) old ((enter task b d).1.stake Phase.stake p) d (enter task b d).2 := by
  unfold enter
  rcases Activation.look_cases task d with
    ⟨_, look⟩ | ⟨e, found, _, look⟩ | ⟨g, d₁, taken, look⟩
  · rw [look]
    exact .leave free (.refl d)
  · rw [look]
    have path : Registry.Path (¬ d.Avoids .unregister) (fun _ => False) old.guard? d.registry
        none d.registry := by
      rw [free]
      exact .refl none _
    refine ⟨.refl d, path, fun task' b' queued => ?_, nofun, nofun⟩
    cases queued
    exact (known e found).symm.imp (fun h => h.symm) fun runner => ⟨e, found, runner⟩
  · rw [look]
    exact entered_move taken free known false p

theorem enterScheduled_move {task : String} {b : Place} {d : Daemon}
    (known : ∀ e, d.registry.find? task = some e → e.runner = b) (p : Phase) :
    Move (fun _ => False) .nothing ((enterScheduled task b d).1.stake Phase.stake p) d
      (enterScheduled task b d).2 := by
  unfold enterScheduled
  rcases Activation.look_cases task d with
    ⟨_, look⟩ | ⟨e, found, _, look⟩ | ⟨g, d₁, taken, look⟩
  · rw [look]
    exact .leave rfl (.refl d)
  · rw [look]
    exact .leave rfl (.refl d)
  · rw [look]
    exact entered_move taken rfl (fun e found => .inl (known e found)) true p

theorem begin_move (task : String) (d : Daemon) (p : Phase) :
    Move (fun _ => False) .nothing ((begin task d).1.stake Phase.stake p) d (begin task d).2 := by
  unfold begin
  split
  · exact .leave rfl (.refl d)
  · split
    · exact .leave rfl (.refl d)
    next backend looked =>
      obtain ⟨e, found, rfl⟩ := Registry.get?_eq_some.mp looked
      have known : ∀ f, d.registry.find? task = some f → f.runner = e.runner := by
        intro f there
        rw [found] at there
        cases there
        rfl
      split
      · exact enterScheduled_move known p
      · exact enter_move rfl (fun f there => .inl (known f there)) p

/-- A failure to apply is recorded or waited out; either way the guard stays. -/
theorem retry_move {h : Held} {d d₁ : Daemon} (quiet : d.Quiet d₁) (retries : UInt32)
    (e : BackendError) (p : Phase) :
    Move (fun _ => False) (.working h.guard h.backend)
      ((retry h retries e d₁).1.stake Phase.stake p) d (retry h retries e d₁).2 := by
  unfold retry
  split
  · exact .keep (quiet.trans (.of_same rfl rfl rfl rfl rfl))
  · exact .keep (quiet.trans (.of_same rfl rfl rfl rfl rfl))

theorem turn_move (token : Token) (p : Phase) (d : Daemon) :
    Move (fun _ => False) p.stake ((turn token p d).1.stake Phase.stake p) d
      (turn token p d).2 := by
  cases p with
  | start task => exact begin_move task d _
  | queued task backend due =>
      simp only [turn]
      split
      · exact .leave rfl (.refl d)
      · split
        · exact enter_move rfl (fun _ _ => .inr rfl) _
        · exact .keep (.refl d)
  | rendering h call =>
      obtain ⟨lines, _, aside⟩ :=
        TimedCall.render.turn_aside TimedCall.render_takes h.backend token call d
      have quiet := aside.quiet
      simp only [turn]
      split <;> rename_i eq <;> rw [eq] at quiet
      · exact .keep quiet
      · exact .keep quiet
      · exact .keep (quiet.trans (.of_same rfl rfl rfl rfl rfl))
      · exact .keep quiet
      · split
        · exact .keep (quiet.trans (.of_same rfl rfl rfl rfl rfl))
        · exact .release rfl quiet
  | applying h retries call =>
      obtain ⟨lines, _, aside⟩ :=
        TimedCall.apply.turn_aside TimedCall.apply_takes h.backend token call d
      have quiet := aside.quiet
      simp only [turn]
      split <;> rename_i eq <;> rw [eq] at quiet
      · exact .keep quiet
      · exact .keep quiet
      · exact retry_move quiet retries _ _
      · exact .keep (quiet.trans (.of_same rfl rfl rfl rfl rfl))
  | backingOff h retries due =>
      simp only [turn]
      split
      · exact .keep (.of_same rfl rfl rfl rfl rfl)
      · split
        · exact .keep (.refl d)
        · exact .keep (.refl d)
  | recording h applied result =>
      have quiet : d.Quiet (d.addRecord h.record) := d.write_quiet _ _ _
      simp only [turn]
      split
      · exact .release rfl (quiet.trans (Daemon.notifyCompletion_quiet _ _))
      · exact .release rfl quiet

end Run

end TaskSync
