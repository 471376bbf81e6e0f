import TaskSync.Proofs.Daemon.Deeds
import TaskSync.Proofs.Operation.Staff

/-!
# Which calls a turn makes, and which runs it announces

Of all operations only a run and the run of a new task render and apply, only an update updates, and
only a creation tears its backend down, in a turn of its own. A run is announced in the turn before
the one in which its record goes to the store; an update stores a record that was never announced.
-/

namespace TaskSync

/-- The record that has been announced and goes to the store in the next turn. -/
def Run.Phase.announced? : Run.Phase → Option RunRecord
  | .recording h _ _ => some h.record
  | _ => none

def Creation.Phase.announced? : Creation.Phase → Option RunRecord
  | .recording _ record => some record
  | _ => none

def Timer.Phase.announced? : Timer.Phase → Option RunRecord
  | .running _ _ _ run => run.announced?
  | _ => none

def Errand.announced? : Errand → Option RunRecord
  | .timer _ phase => phase.announced?
  | .run phase => phase.announced?
  | .watch _ | .delete _ => none

def Operation.announced? : Operation → Option RunRecord
  | .create _ _ phase => phase.announced?
  | .run _ phase => phase.announced?
  | .errand _ e => e.announced?
  | .update _ | .delete _ _ | .control _ _ => none

/-- The kinds of calls by which a run goes on. -/
def CallKind.Runs (kind : CallKind) : Prop := kind = .render ∨ kind = .apply

/-- The kinds of calls that the next turn of a creation may make. -/
def Creation.Phase.Calls : Creation.Phase → CallKind → Prop
  | .destroying _ _, kind => kind = .destroy
  | _, kind => kind ≠ .destroy ∧ kind ≠ .update

/-- The kinds of calls that the next turn may make. -/
def Operation.Calls : Operation → CallKind → Prop
  | .create _ _ phase => phase.Calls
  | .update _ => (· = .update)
  | .run _ _ | .errand _ _ => CallKind.Runs
  | .delete _ _ | .control _ _ => fun _ => False

/-- The deeds of a turn are calls of these kinds, and they announce a run if its record is what
comes next. -/
structure Deeds.Fit {π ρ : Type} (x : Deeds) (kinds : CallKind → Prop)
    (announced? : π → Option RunRecord) (p : π) (turn : Turn π ρ) : Prop where
  kinds : ∀ k ∈ x.calls, kinds k
  runs : x.notices.filter (·.isRun) = (turn.holds announced? p).toList.map announcement

namespace Deeds

variable {π ρ : Type} {kinds : CallKind → Prop} {announced? : π → Option RunRecord} {p : π}
variable {turn : Turn π ρ}

/-- Nothing is done. -/
theorem Fit.idle (silent : turn.holds announced? p = none) :
    ({} : Deeds).Fit kinds announced? p turn := by
  refine ⟨nofun, ?_⟩
  rw [silent]
  rfl

/-- A backend is called. -/
theorem Fit.called {calls : List CallKind} (fits : ∀ k ∈ calls, kinds k)
    (silent : turn.holds announced? p = none) :
    ({ calls } : Deeds).Fit kinds announced? p turn := by
  refine ⟨fits, ?_⟩
  rw [silent]
  rfl

/-- A run is announced. -/
theorem Fit.announces {calls : List CallKind} {p' : π} {r : RunRecord}
    (fits : ∀ k ∈ calls, kinds k) (next : announced? p' = some r) :
    ({ calls, notices := [announcement r] } : Deeds).Fit (ρ := ρ) kinds announced? p
      (.next p') := by
  refine ⟨fits, ?_⟩
  show _ = (announced? p').toList.map announcement
  rw [next]
  rfl

/-- The end of an operation. -/
theorem Fit.ends {notices : List Notice} (r : ρ) (silent : notices.filter (·.isRun) = []) :
    ({ notices } : Deeds).Fit kinds announced? p (.done r) := ⟨nofun, silent⟩

end Deeds

theorem Pending.mem_toMake {kind k : CallKind} {p : Pending} (member : k ∈ p.toMake kind) :
    k = kind := by
  cases p with
  | unsent => exact List.mem_singleton.mp member
  | delayed due => cases member

namespace Run

/-- What every turn of a run does. -/
abbrev Does (p : Phase) (b? : Option Place) (d : Daemon) (out : Outcome) : Prop :=
  ∃ x : Deeds, x.Between b? d out.2 ∧ x.Fit CallKind.Runs Phase.announced? p out.1

variable {p : Phase} {b? : Option Place}

theorem Does.idle {d : Daemon} {out : Outcome} (between : ({} : Deeds).Between b? d out.2)
    (silent : out.1.holds Phase.announced? p = none) : Does p b? d out :=
  ⟨{}, between, .idle silent⟩

theorem entered_does (task : String) (b : Place) (scheduled : Bool) {g : Guard} {d d₁ : Daemon}
    (taken : d.tryActivate task = .ok (some g, d₁)) :
    Does p b? d (entered task b scheduled g d₁) := by
  have activated : ({} : Deeds).Between b? d d₁ := .activate taken
  unfold entered
  split
  · exact .idle (activated.and_then (.of_same rfl rfl rfl rfl rfl)) rfl
  · simp only
    split
    · exact .idle (activated.and_then (.of_same rfl rfl rfl rfl rfl)) rfl
    · refine .idle (activated.and_then ((Deeds.Between.notifyCompletion d₁ task).and_then ?_)) rfl
      exact .of_same rfl rfl rfl rfl rfl

theorem enter_does (task : String) (b : Place) (d : Daemon) : Does p b? d (enter task b d) := by
  unfold enter
  rcases Activation.look_cases task d with ⟨_, look⟩ | ⟨_, _, _, look⟩ | ⟨g, d₁, taken, look⟩
  · rw [look]
    exact .idle (.refl d) rfl
  · rw [look]
    exact .idle (.refl d) rfl
  · rw [look]
    exact entered_does task b false taken

theorem enterScheduled_does (task : String) (b : Place) (d : Daemon) :
    Does p b? d (enterScheduled task b d) := by
  unfold enterScheduled
  rcases Activation.look_cases task d with ⟨_, look⟩ | ⟨_, _, _, look⟩ | ⟨g, d₁, taken, look⟩
  · rw [look]
    exact .idle (.refl d) rfl
  · rw [look]
    exact .idle (.refl d) rfl
  · rw [look]
    exact entered_does task b true taken

theorem begin_does (task : String) (d : Daemon) : Does p b? d (begin task d) := by
  unfold begin
  split
  · exact .idle (.refl d) rfl
  split
  · exact .idle (.refl d) rfl
  split
  · exact enterScheduled_does task _ d
  · exact enter_does task _ d

/-- A run is announced with the calls of the turn before it. -/
theorem settled_does {h : Held} {calls : List CallKind} {d d₁ : Daemon}
    (called : ({ calls } : Deeds).Between b? d d₁) (kinds : ∀ k ∈ calls, k.Runs)
    (record : RunRecord) (applied : Bool) (result : Result) :
    Does p b? d (settled h record applied result d₁) :=
  ⟨_, called.publish (announcement record), .announces kinds rfl⟩

theorem turn_does (token : Token) (p : Phase) (d : Daemon) :
    Does p p.stake.backend? d (turn token p d) := by
  cases p with
  | start task => exact begin_does task d
  | queued task backend due =>
      simp only [turn]
      split
      · exact .idle (.refl d) rfl
      split
      · exact enter_does task backend d
      · exact .idle (.refl d) rfl
  | rendering h call =>
      have called := TimedCall.render.turn_deeds h.backend token call d
      have kinds : ∀ k ∈ call.toMake .render, k.Runs := fun k member =>
        .inl (Pending.mem_toMake member)
      simp only [turn]
      split <;> rename_i eq <;> rw [eq] at called
      · exact ⟨_, called, .called kinds rfl⟩
      · exact ⟨_, called, .called kinds rfl⟩
      · exact settled_does called kinds _ _ _
      · exact ⟨_, called, .called kinds rfl⟩
      · split
        · exact settled_does called kinds _ _ _
        · exact ⟨_, called.and_then (.of_same rfl rfl rfl rfl rfl), .called kinds rfl⟩
  | applying h retries call =>
      have called := TimedCall.apply.turn_deeds h.backend token call d
      have kinds : ∀ k ∈ call.toMake .apply, k.Runs := fun k member =>
        .inr (Pending.mem_toMake member)
      simp only [turn]
      split <;> rename_i eq <;> rw [eq] at called
      · exact ⟨_, called, .called kinds rfl⟩
      · exact ⟨_, called, .called kinds rfl⟩
      · unfold retry
        split
        · exact settled_does called kinds _ _ _
        · exact ⟨_, called.and_then (.of_same rfl rfl rfl rfl rfl), .called kinds rfl⟩
      · exact settled_does called kinds _ _ _
  | backingOff h retries due =>
      simp only [turn]
      split
      · have idle : ({ calls := [] } : Deeds).Between (some h.backend) d d := .refl d
        exact settled_does idle (List.forall_mem_nil _) _ _ _
      split
      · exact .idle (.refl d) rfl
      · exact .idle (.refl d) rfl
  | recording h applied result =>
      have written : ({} : Deeds).Between (some h.backend) d (d.addRecord h.record) :=
        .write d _ _ _
      simp only [turn]
      split
      · refine .idle ((written.and_then (.notifyCompletion _ h.task)).and_then ?_) rfl
        exact .of_same rfl rfl rfl rfl rfl
      · exact .idle (written.and_then (.of_same rfl rfl rfl rfl rfl)) rfl

end Run

namespace Update

/-- What every turn of an update does: no run is announced. -/
abbrev Does (p : Phase) (d : Daemon) (out : Outcome) : Prop :=
  ∃ x : Deeds, x.Between p.stake.backend? d out.2 ∧
    x.Fit (· = .update) (fun _ => none) p out.1

theorem silent {p : Phase} (turn : Turn Phase Result) :
    turn.holds (fun _ => (none : Option RunRecord)) p = none := by
  cases turn <;> rfl

theorem settle_between (h : Held) (result : Except BackendError Plan) {b? : Option Place}
    (d : Daemon) : ({} : Deeds).Between b? d (settle h result d).2 := by
  unfold settle
  split
  · exact .of_same rfl rfl rfl rfl rfl
  split
  · exact .of_same rfl rfl rfl rfl rfl
  · exact .refl d

theorem begin_between (conf : TaskConfig) (option : RunOption) {b? : Option Place} (d : Daemon) :
    ({} : Deeds).Between b? d (begin conf option d).2 := by
  unfold begin
  simp only
  split
  · exact .refl d
  split
  · exact .refl d
  split
  · exact .refl d
  split
  · exact .refl d
  split
  · exact .refl d
  next d₁ busy =>
    obtain ⟨rfl, _⟩ := Daemon.tryActivate_eq_busy busy
    exact .refl _
  next g d₁ taken =>
    have activated : ({} : Deeds).Between b? d d₁ := .activate taken
    unfold entered
    simp only
    split
    · exact activated.and_then (.of_same rfl rfl rfl rfl rfl)
    · exact activated

theorem turn_does (p : Phase) (d : Daemon) : Does p d (turn p d) := by
  cases p with
  | start conf option => exact ⟨{}, begin_between conf option d, .idle (silent _)⟩
  | patching h =>
      have patched := Deeds.Between.patch d h.backend h.enabled h.option
      have kinds : ∀ k ∈ [CallKind.update], k = .update := fun k => List.mem_singleton.mp
      simp only [turn]
      split
      · exact ⟨_, patched, .called kinds rfl⟩
      · exact ⟨_, patched.and_then (settle_between h _ _), .called kinds (silent _)⟩
  | recording h record result =>
      have written : ({} : Deeds).Between (some h.backend) d (d.addRecord record) :=
        .write d _ _ _
      exact ⟨{}, written.and_then (settle_between h result _), .idle (silent _)⟩
  | storing h conf plan =>
      have written : ({} : Deeds).Between (some h.backend) d (d.setTask conf).2 := .write d _ _ _
      simp only [turn]
      split <;> rename_i eq <;> rw [eq] at written
      · exact ⟨{}, written.and_then (.of_same rfl rfl rfl rfl rfl), .idle rfl⟩
      · refine ⟨_, (written.publish (.updated h.task h.enabled)).and_then ?_, .ends _ rfl⟩
        exact .of_same rfl rfl rfl rfl rfl

end Update

namespace Deletion

/-- What every turn of a deletion does: no backend is called. -/
abbrev Does (p : Phase) (d : Daemon) (out : Outcome) : Prop :=
  ∃ x : Deeds, x.Between p.stake.backend? d out.2 ∧
    x.Fit (fun _ => False) (fun _ => none) p out.1

theorem silent {p : Phase} (turn : Turn Phase Result) :
    turn.holds (fun _ => (none : Option RunRecord)) p = none := by
  cases turn <;> rfl

theorem enter_between (task : String) (b : Place) {b? : Option Place} (d : Daemon) :
    ({} : Deeds).Between b? d (enter task b d).2 := by
  unfold enter
  rcases Activation.look_cases task d with ⟨_, look⟩ | ⟨_, _, _, look⟩ | ⟨g, d₁, taken, look⟩
  · rw [look]
    exact .refl d
  · rw [look]
    exact .refl d
  · rw [look]
    have activated : ({} : Deeds).Between b? d d₁ := .activate taken
    have stopped : ({} : Deeds).Between b? d
        (if (d₁.taskOf b).isScheduled then d₁.stopTimer task else d₁) := by
      split
      · exact activated.and_then (.stopTimer d₁ task)
      · exact activated
    unfold entered
    simp only
    split
    · exact stopped.and_then (.of_same rfl rfl rfl rfl rfl)
    · exact stopped.and_then (.of_same rfl rfl rfl rfl rfl)

theorem turn_does (token : Token) (p : Phase) (d : Daemon) : Does p d (turn token p d) := by
  cases p with
  | start task =>
      simp only [turn]
      split
      · exact ⟨{}, .refl d, .idle rfl⟩
      · exact ⟨{}, enter_between task _ d, .idle (silent _)⟩
  | queued task backend due =>
      simp only [turn]
      split
      · exact ⟨{}, .refl d, .idle rfl⟩
      split
      · exact ⟨{}, enter_between task backend d, .idle (silent _)⟩
      · exact ⟨{}, .refl d, .idle rfl⟩
  | deletingTask task guard =>
      have written : ({} : Deeds).Between none d (d.deleteTask task).2 := .write d _ _ _
      simp only [turn]
      split <;> rename_i eq <;> rw [eq] at written
      · exact ⟨{}, written.and_then (.of_same rfl rfl rfl rfl rfl), .idle rfl⟩
      · exact ⟨{}, written, .idle rfl⟩
  | deletingRecords task guard =>
      have written : ({} : Deeds).Between none d (d.deleteRecords task).2 := .write d _ _ _
      simp only [turn]
      split <;> rename_i eq <;> rw [eq] at written
      · exact ⟨{}, written.and_then (.of_same rfl rfl rfl rfl rfl), .idle rfl⟩
      · refine ⟨_, (written.publish (.deleted task)).and_then ?_, .ends _ rfl⟩
        exact .of_same rfl rfl rfl rfl rfl

end Deletion

namespace Creation

/-- What every turn of a creation does. -/
abbrev Does (p : Phase) (d : Daemon) (out : Outcome) : Prop :=
  ∃ x : Deeds, x.Between p.stake.backend? d out.2 ∧ x.Fit p.Calls Phase.announced? p out.1

/-- Neither a tear-down nor an update. -/
abbrev Ordinary (kind : CallKind) : Prop := kind ≠ .destroy ∧ kind ≠ .update

/-- The calls of a turn in which a backend goes on towards its registration. -/
structure Prepares (b : Place) (p : Phase) (d : Daemon) (out : Outcome) (calls : List CallKind) :
    Prop where
  between : ({ calls } : Deeds).Between (some b) d out.2
  kinds : ∀ k ∈ calls, Ordinary k
  silent : out.1.holds Phase.announced? p = none

variable {p : Phase} {b : Place} {d d₁ : Daemon} {calls : List CallKind}

theorem ordinary_cons {kind : CallKind} (fits : Ordinary kind) (kinds : ∀ k ∈ calls, Ordinary k) :
    ∀ k ∈ kind :: calls, Ordinary k := by
  intro k member
  rcases List.mem_cons.mp member with rfl | member
  · exact fits
  · exact kinds k member

theorem register_prepares (before : ({ calls } : Deeds).Between (some b) d d₁)
    (kinds : ∀ k ∈ calls, Ordinary k) :
    Prepares b p d (register b d₁) (.buffer :: calls) := by
  have called : ({ calls := .buffer :: calls } : Deeds).Between (some b) d (d₁.call b .buffer) :=
    before.trans (.call d₁ b .buffer)
  have fits : ∀ k ∈ CallKind.buffer :: calls, Ordinary k := ordinary_cons (by decide) kinds
  unfold register
  simp only
  split
  · exact ⟨called, fits, rfl⟩
  · exact ⟨called.and_then (.of_same rfl rfl rfl rfl rfl), fits, rfl⟩

theorem rendered_prepares (before : ({ calls } : Deeds).Between (some b) d d₁)
    (kinds : ∀ k ∈ calls, Ordinary k) (goal : Goal) :
    ∃ calls, Prepares b p d (rendered goal b d₁) calls := by
  have called : ({ calls := .override :: calls } : Deeds).Between (some b) d
      (d₁.call b .override) := before.trans (.call d₁ b .override)
  have fits : ∀ k ∈ CallKind.override :: calls, Ordinary k :=
    ordinary_cons (by decide) kinds
  unfold rendered
  simp only
  split
  · exact ⟨_, called, fits, rfl⟩
  · exact ⟨_, register_prepares called fits⟩
  · split
    · exact ⟨_, called.and_then (.of_same rfl rfl rfl rfl rfl), fits, rfl⟩
    · exact ⟨_, register_prepares called fits⟩

theorem render_prepares (token : Token) (goal : Goal) (t : Trial) (call : Pending) (d : Daemon) :
    ∃ calls, Prepares t.backend (.rendering t call) d (render token goal t call d) calls := by
  unfold render
  simp only
  split
  · exact ⟨[], .refl d, List.forall_mem_nil _, rfl⟩
  split
  · exact ⟨[], .refl d, List.forall_mem_nil _, rfl⟩
  split
  · have fits : ∀ k ∈ [CallKind.override], Ordinary k := by decide
    exact ⟨_, .call d t.backend .override, fits, rfl⟩
  · have called := TimedCall.render.turn_deeds t.backend token call d
    have kinds : ∀ k ∈ call.toMake .render, Ordinary k := fun k member => by
      rw [Pending.mem_toMake member]
      decide
    split <;> rename_i eq <;> rw [eq] at called
    · exact ⟨_, called, kinds, rfl⟩
    · exact ⟨_, called, kinds, rfl⟩
    · exact rendered_prepares called kinds goal
    · exact ⟨_, called, kinds, rfl⟩
    · exact ⟨_, called, kinds, rfl⟩

theorem Prepares.does {out : Outcome} (h : Prepares b p d out calls)
    (fresh : p.stake.backend? = some b) (calls : p.Calls = Ordinary) : Does p d out := by
  refine ⟨_, fresh ▸ h.between, .called ?_ h.silent⟩
  rw [calls]
  exact h.kinds

theorem turn_does (token : Token) (goal : Goal) (p : Phase) (d : Daemon) :
    Does p d (turn token goal p d) := by
  cases p with
  | start conf =>
      refine ⟨{}, ?_, .idle ?_⟩
      · rw [turn, begin_leaves]
        exact .refl d
      · simp only [turn, begin]
        split
        · rfl
        split
        · rfl
        split
        · rfl
        · rfl
  | making task =>
      simp only [turn]
      split <;> rename_i eq
      · exact ⟨{}, .make eq, .idle rfl⟩
      · exact ⟨{}, .make eq, .idle rfl⟩
  | rendering t call =>
      obtain ⟨calls, prepares⟩ := render_prepares token goal t call d
      exact prepares.does rfl rfl
  | pausing t due =>
      simp only [turn]
      split
      · exact ⟨{}, .refl d, .idle rfl⟩
      split
      · exact ⟨{}, .refl d, .idle rfl⟩
      · exact ⟨{}, .refl d, .idle rfl⟩
  | destroying b result =>
      exact ⟨_, .call d b .destroy, .called (fun k => List.mem_singleton.mp) rfl⟩
  | applying b record call =>
      have called := TimedCall.apply.turn_deeds b token call d
      have kinds : ∀ k ∈ call.toMake .apply, Ordinary k := fun k member => by
        rw [Pending.mem_toMake member]
        decide
      simp only [turn]
      split <;> rename_i eq <;> rw [eq] at called
      · exact ⟨_, called, .called kinds rfl⟩
      · exact ⟨_, called, .called kinds rfl⟩
      · exact ⟨_, called, .called kinds rfl⟩
      · exact ⟨_, called.publish (announcement _), .announces kinds rfl⟩
  | recording b record =>
      have written : ({} : Deeds).Between (some b) d (d.addRecord record) := .write d _ _ _
      have told : ({ calls := [] } : Deeds).Between (some b) d
          ((d.addRecord record).notifyCompletion record.taskName) :=
        written.and_then (.notifyCompletion _ record.taskName)
      exact (register_prepares told (List.forall_mem_nil _)).does rfl rfl
  | storing task =>
      have written : ({} : Deeds).Between none d (d.setTask task.toConfig).2 := .write d _ _ _
      simp only [turn]
      split <;> rename_i eq <;> rw [eq] at written
      next e d₁ =>
        exact ⟨{}, written.and_then (.requestDeletion d₁ task.name), .idle rfl⟩
      next d₁ =>
        have announced : ({} : Deeds).Between none d
            (if task.isScheduled then d₁.announceSchedule task.name else d₁) := by
          split
          · exact written.and_then (.announceSchedule d₁ task.name)
          · exact written
        exact ⟨_, announced.publish (.created task.name task.isScheduled), .ends _ rfl⟩
  | inspecting b =>
      have fits : ∀ k ∈ [CallKind.inspect], Ordinary k := by decide
      exact ⟨_, .call d b .inspect, .called fits rfl⟩

end Creation

namespace Timer

theorem finish_silent (token : Token) (task : String) (stop : Stop) (served : Option Place)
    (result : Result) (d : Daemon) (p : Phase) :
    (finish token task stop served result d).1.holds Phase.announced? p = none := by
  unfold finish
  simp only
  split
  · rfl
  split
  · rfl
  split
  · rfl
  split
  · rfl
  · rfl

/-- What every turn of a timer does. Timers register stops too, so they do more than cut off. -/
abbrev Does (p : Phase) (d : Daemon) (out : Outcome) : Prop :=
  ∃ x : Deeds, x.Shown p.stake.backend? d out.2 ∧ x.Fit CallKind.Runs Phase.announced? p out.1

theorem finish_does (token : Token) (task : String) (stop : Stop) (served : Option Place)
    (result : Result) (d : Daemon) (p : Phase) :
    Does p d (finish token task stop served result d) :=
  ⟨{}, .of_aloof (finish_aloof token task stop served result d p).2, .idle (finish_silent ..)⟩

theorem wake_does (token : Token) (task : String) (stop : Stop) (served : Place)
    (s : Cron.Schedule) (due : Nat) (d : Daemon) :
    Does (.sleeping stop served s due) d (wake token task stop served s d) := by
  unfold wake
  split
  · exact ⟨{}, .of_same rfl rfl, .idle rfl⟩
  · exact finish_does token task stop _ _ d _

theorem turn_does (token : Token) (task : String) (p : Phase) (d : Daemon) :
    Does p d (turn token task p d) := by
  cases p with
  | start stop served =>
      simp only [turn]
      split
      · exact finish_does token task stop served _ d _
      split
      · exact finish_does token task stop _ _ d _
      · exact ⟨{}, .of_same rfl rfl, .idle rfl⟩
  | planning stop served s =>
      simp only [turn]
      split
      · exact finish_does token task stop _ _ d _
      · exact ⟨{}, .of_same rfl rfl, .idle rfl⟩
  | sleeping stop served s due =>
      simp only [turn]
      split
      · exact finish_does token task stop _ _ d _
      split
      · exact wake_does token task stop served s due d
      · exact ⟨{}, .of_same rfl rfl, .idle rfl⟩
  | running stop served s run =>
      obtain ⟨x, between, fit⟩ := Run.turn_does token run d
      simp only [turn]
      split <;> rename_i eq <;> rw [eq] at between fit
      · exact ⟨x, between.toShown, fit.kinds, fit.runs⟩
      · exact ⟨x, between.toShown, fit.kinds, fit.runs⟩
      · refine ⟨x, between.toShown.and_then (.of_aloof (finish_aloof token task stop _ _ _
          (.running stop served s run)).2), fit.kinds, ?_⟩
        rw [finish_silent]
        exact fit.runs
      · exact ⟨x, between.toShown, fit.kinds, fit.runs⟩

end Timer

section Lifts

variable {π ρ : Type} {x : Deeds} {kinds : CallKind → Prop} {announced? : π → Option RunRecord}
variable {p : π} {out : Turn π ρ × Daemon}

theorem Deeds.Fit.lift {operation : π → Operation} {answer : ρ → Operation.Result}
    (h : x.Fit kinds announced? p out.1)
    (same : ∀ p, (operation p).announced? = announced? p) :
    x.Fit kinds Operation.announced? (operation p) (Operation.lift operation answer out).1 := by
  refine ⟨h.kinds, h.runs.trans ?_⟩
  obtain ⟨p' | on | r, d⟩ := out
  · exact congrArg (fun a => a.toList.map announcement) (same p').symm
  · exact congrArg (fun a => a.toList.map announcement) (same p).symm
  · rfl

theorem Deeds.Fit.settled {crew : Place} {errand : π → Errand} {leave : ρ → Daemon → Daemon}
    (h : x.Fit kinds announced? p out.1) (same : ∀ p, (errand p).announced? = announced? p) :
    x.Fit kinds Operation.announced? (.errand crew (errand p))
      (Operation.settled crew errand leave out).1 := by
  refine ⟨h.kinds, h.runs.trans ?_⟩
  obtain ⟨p' | on | r, d⟩ := out
  · exact congrArg (fun a => a.toList.map announcement) (same p').symm
  · exact congrArg (fun a => a.toList.map announcement) (same p).symm
  · rfl

end Lifts

namespace Operation

/-- What every turn of an operation does. -/
abbrev Does (o : Operation) (d : Daemon) (out : Outcome) : Prop :=
  ∃ x : Deeds, x.Shown o.stake.backend? d out.2 ∧ x.Fit o.Calls announced? o out.1

/-- An operation that only hands on what others are to do. -/
theorem Does.of_aloof {o : Operation} {d : Daemon} {out : Outcome} (aloof : d.Aloof out.2)
    (silent : out.1.holds announced? o = none) : o.Does d out :=
  ⟨{}, .of_aloof aloof, .idle silent⟩

theorem Does.of_worker {π ρ : Type} {crew : Place} {errand : π → Errand} {p : π} {d : Daemon}
    {out : Turn π ρ × Daemon} {announced? : π → Option RunRecord} {x : Deeds}
    (shown : x.Shown (errand p).stake.backend? d out.2)
    (fit : x.Fit CallKind.Runs announced? p out.1)
    (same : ∀ p, (errand p).announced? = announced? p) :
    Does (.errand crew (errand p)) d (settled crew errand (fun _ => Errand.leave crew) out) := by
  refine ⟨x, ?_, fit.settled same⟩
  rw [settled, lift_snd]
  exact shown.and_then (.of_aloof
    (Errand.settled_aloof (fun _ d => Errand.leave_aloof crew d) out))

theorem Does.of_watch {crew : Place} {phase : Watch.Phase} {d : Daemon}
    {out : Turn Watch.Phase Watch.Result × Daemon} (aloof : d.Aloof out.2) :
    Does (.errand crew (.watch phase)) d (settled crew .watch (Errand.leaveWatch crew) out) := by
  refine .of_aloof ?_ ?_
  · rw [settled, lift_snd]
    exact aloof.trans
      (Errand.settled_aloof (fun r d => Errand.leaveWatch_aloof crew r d) out)
  · obtain ⟨p' | on | r, d₁⟩ := out <;> rfl

/-- Whatever turn an operation may take. -/
theorem May.does {o : Operation} {d : Daemon} {out : Outcome} (may : o.May d out) :
    o.Does d out := by
  cases may with
  | @heed _ _ token heeds =>
      cases o with
      | create own goal phase =>
          obtain ⟨x, between, fit⟩ := Creation.turn_does token goal phase d
          refine ⟨x, ?_, fit.lift fun _ => rfl⟩
          rw [Operation.heed, lift_snd]
          exact between.toShown
      | update phase =>
          obtain ⟨x, between, fit⟩ := Update.turn_does phase d
          refine ⟨x, ?_, fit.lift fun _ => rfl⟩
          rw [Operation.heed, lift_snd]
          exact between.toShown
      | run own phase =>
          obtain ⟨x, between, fit⟩ := Run.turn_does token phase d
          refine ⟨x, ?_, fit.lift fun _ => rfl⟩
          rw [Operation.heed, lift_snd]
          exact between.toShown
      | delete own phase =>
          obtain ⟨x, between, fit⟩ := Deletion.turn_does token phase d
          refine ⟨x, ?_, fit.lift fun _ => rfl⟩
          rw [Operation.heed, lift_snd]
          exact between.toShown
      | control own phase =>
          refine .of_aloof ?_ ?_
          · rw [Operation.heed, lift_snd]
            exact Controller.turn_aloof token phase d
          · rw [Operation.heed]
            obtain ⟨p' | on | r, d₁⟩ := Controller.turn token phase d <;> rfl
      | errand crew e =>
          cases e with
          | watch phase => exact .of_watch (Watch.turn_aloof crew _ phase d)
          | timer task phase =>
              obtain ⟨x, shown, fit⟩ := Timer.turn_does token task phase d
              exact .of_worker shown fit fun _ => rfl
          | run phase =>
              obtain ⟨x, between, fit⟩ := Run.turn_does token phase d
              exact .of_worker between.toShown fit fun _ => rfl
          | delete phase =>
              obtain ⟨x, between, fit⟩ := Deletion.turn_does token phase d
              exact .of_worker between.toShown ⟨fun k m => (fit.kinds k m).elim, fit.runs⟩
                fun _ => rfl
  | @deal token crew c watching rounds _ arm known ready =>
      refine .of_aloof ?_ ?_
      · rw [lift_snd]
        exact arm.deal_aloof crew c watching rounds d
      · obtain ⟨p' | on | r, d₁⟩ := arm.deal crew c watching rounds d <;> rfl
  | @fire crew task stop served s due _ passed =>
      obtain ⟨x, shown, fit⟩ :=
        Timer.wake_does (Errand.crewToken d crew) task stop served s due d
      exact .of_worker shown fit fun _ => rfl
  | @watchEnds crew phase _ result => exact .of_watch (Watch.finish_aloof crew result d)
  | @watchSends crew phase c inbox _ template known room => exact .of_aloof ⟨rfl⟩ rfl

/-- A backend notes a call of some kind in a turn only if the operation has a stake in it and the
kind is one of its own. -/
theorem May.noted {o : Operation} {d : Daemon} {out : Outcome} (may : o.May d out) {b : Place}
    (inside : b < d.backends.size) {kind : CallKind}
    (more : (d.backend b).count kind < (out.2.backend b).count kind) :
    o.stake.backend? = some b ∧ o.Calls kind := by
  obtain ⟨x, shown, fit⟩ := may.does
  unfold Backend.count at more
  rw [shown.calls b inside] at more
  split at more
  next mine =>
    refine ⟨mine, fit.kinds kind (List.count_pos_iff.mp ?_)⟩
    rw [List.count_append] at more
    exact Nat.pos_of_lt_add_left more
  · exact absurd more (Nat.lt_irrefl _)

end Operation

end TaskSync
