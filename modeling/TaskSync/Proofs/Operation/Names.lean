import TaskSync.Proofs.Operation.Choice

/-!
# Names in hand

An operation that has a backend to call carries records and configurations which it is going to
store. The names in them are that of the backend's task, from the turn in which they come into hand
to the one in which they are stored: what a call writes, it writes about the task it works on.
-/

namespace TaskSync

def Run.Phase.names : Run.Phase → List String
  | .start _ | .queued _ _ _ => []
  | .rendering h _ | .applying h _ _ | .backingOff h _ _ | .recording h _ _ => [h.record.taskName]

def Update.Phase.names : Update.Phase → List String
  | .start _ _ => []
  | .patching h => h.record.toList.map (·.taskName)
  | .recording _ record _ => [record.taskName]
  | .storing _ conf _ => conf.name.toList

def Creation.Phase.names : Creation.Phase → List String
  | .applying _ record _ | .recording _ record => [record.taskName]
  | _ => []

def Timer.Phase.names : Timer.Phase → List String
  | .running _ _ _ run => run.names
  | _ => []

def Errand.names : Errand → List String
  | .timer _ phase => phase.names
  | .run phase => phase.names
  | .watch _ | .delete _ => []

/-- The names under which the operation is going to store something. -/
def Operation.names : Operation → List String
  | .create _ _ phase => phase.names
  | .update phase => phase.names
  | .run _ phase => phase.names
  | .delete _ _ | .control _ _ => []
  | .errand _ e => e.names

/-- The names after a turn are names from before, with the same backend at hand, or that of the
backend's task. -/
def Inherits {π ρ : Type} (names : π → List String) (stake : π → Stake) (p : π)
    (out : Turn π ρ × Daemon) : Prop :=
  ∀ p', out.1 = .next p' → ∀ name ∈ names p',
    name ∈ names p ∧ (stake p').backend? = (stake p).backend? ∨
      ∃ b, (stake p').backend? = some b ∧ name = (out.2.taskOf b).name

namespace Inherits

variable {π ρ : Type} {names : π → List String} {stake : π → Stake} {p p' : π} {d : Daemon}

theorem done (r : ρ) : Inherits names stake p (.done r, d) := nofun

theorem wait (on : List Wait) : Inherits (ρ := ρ) names stake p (.wait on, d) := nofun

theorem empty (none : names p' = []) : Inherits (ρ := ρ) names stake p (.next p', d) := by
  intro p'' next name member
  cases next
  rw [none] at member
  cases member

theorem same (names' : names p' = names p) (stake' : (stake p').backend? = (stake p).backend?) :
    Inherits (ρ := ρ) names stake p (.next p', d) := by
  intro p'' next name member
  cases next
  exact .inl ⟨names' ▸ member, stake'⟩

theorem ofTask {b : Place} (names' : ∀ name ∈ names p', name = (d.taskOf b).name)
    (stake' : (stake p').backend? = some b) :
    Inherits (ρ := ρ) names stake p (.next p', d) := by
  intro p'' next name member
  cases next
  exact .inr ⟨b, stake', names' name member⟩

end Inherits

namespace Run

theorem entered_inherits (task : String) (b : Place) (scheduled : Bool) (g : Guard) (d : Daemon)
    (p : Phase) :
    Inherits Phase.names Phase.stake p (entered task b scheduled g d) := by
  unfold entered
  split
  · exact .done _
  · simp only
    split
    · refine .ofTask (b := b) (fun name member => ?_) rfl
      exact List.mem_singleton.mp member
    · exact .done _

theorem enter_inherits (task : String) (b : Place) (d : Daemon) (p : Phase) :
    Inherits Phase.names Phase.stake p (enter task b d) := by
  unfold enter
  split
  · exact .done _
  · exact .empty rfl
  · exact entered_inherits task b false _ _ p

theorem enterScheduled_inherits (task : String) (b : Place) (d : Daemon) (p : Phase) :
    Inherits Phase.names Phase.stake p (enterScheduled task b d) := by
  unfold enterScheduled
  split
  · exact .done _
  · exact .done _
  · exact entered_inherits task b true _ _ p

theorem turn_inherits (token : Token) (p : Phase) (d : Daemon) :
    Inherits Phase.names Phase.stake p (turn token p d) := by
  cases p with
  | start task =>
      simp only [turn, begin]
      split
      · exact .done _
      split
      · exact .done _
      split
      · exact enterScheduled_inherits task _ d _
      · exact enter_inherits task _ d _
  | queued task backend due =>
      simp only [turn]
      split
      · exact .done _
      split
      · exact enter_inherits task backend d _
      · exact .wait _
  | rendering h call =>
      simp only [turn]
      split
      · exact .same rfl rfl
      · exact .wait _
      · exact .same rfl rfl
      · exact .same rfl rfl
      · split
        · exact .same rfl rfl
        · exact .done _
  | applying h retries call =>
      simp only [turn]
      split
      · exact .same rfl rfl
      · exact .wait _
      · unfold retry
        split
        · exact .same rfl rfl
        · exact .same rfl rfl
      · exact .same rfl rfl
  | backingOff h retries due =>
      simp only [turn]
      split
      · exact .same rfl rfl
      split
      · exact .same rfl rfl
      · exact .wait _
  | recording h applied result => exact .done _

end Run

namespace Update

/-- The configuration that is stored is that of the backend's task. -/
theorem settle_inherits (h : Held) (result : Except BackendError Plan) (d : Daemon) {p : Phase} :
    Inherits Phase.names Phase.stake p (settle h result d) := by
  unfold settle
  split
  · exact .done _
  split
  · exact .done _
  · refine .ofTask (b := h.backend) (fun name member => ?_) rfl
    exact List.mem_singleton.mp member

theorem begin_inherits (conf : TaskConfig) (option : RunOption) (d : Daemon) (p : Phase) :
    Inherits Phase.names Phase.stake p (begin conf option d) := by
  unfold begin
  simp only
  split
  · exact .done _
  split
  · exact .done _
  split
  · exact .done _
  split
  · exact .done _
  split
  · exact .done _
  · exact .done _
  next backend _ _ _ _ _ _ _ g d₁ _ =>
    unfold entered
    simp only
    split
    · refine .ofTask (b := backend) (fun name member => ?_) rfl
      exact List.mem_singleton.mp member
    · exact .empty rfl

theorem close_name (record : RunRecord) (result : Except BackendError Plan) (now : Timestamp) :
    (close record result now).taskName = record.taskName := by
  cases result <;> rfl

theorem turn_inherits (p : Phase) (d : Daemon) :
    Inherits Phase.names Phase.stake p (turn p d) := by
  cases p with
  | start conf option => exact begin_inherits conf option d _
  | patching h =>
      simp only [turn]
      split
      next record has =>
        refine .same ?_ rfl
        simp only [Phase.names, has, close_name, Option.toList_some, List.map_cons, List.map_nil]
      · exact settle_inherits h _ _
  | recording h record result => exact settle_inherits h result _
  | storing h conf plan =>
      simp only [turn]
      split
      · exact .done _
      · exact .done _

end Update

namespace Creation

theorem register_inherits (b : Place) (d : Daemon) (p : Phase) :
    Inherits Phase.names Phase.stake p (register b d) := by
  unfold register
  simp only
  split
  · exact .empty rfl
  · exact .empty rfl

theorem rendered_inherits (goal : Goal) (b : Place) (d : Daemon) (p : Phase) :
    Inherits Phase.names Phase.stake p (rendered goal b d) := by
  unfold rendered
  simp only
  split
  · exact .empty rfl
  · exact register_inherits b _ p
  · split
    · refine .ofTask (b := b) (fun name member => ?_) rfl
      exact List.mem_singleton.mp member
    · exact register_inherits b _ p

theorem turn_inherits (token : Token) (goal : Goal) (p : Phase) (d : Daemon) :
    Inherits Phase.names Phase.stake p (turn token goal p d) := by
  cases p with
  | start conf =>
      simp only [turn, begin]
      split
      · exact .done _
      split
      · exact .done _
      split
      · exact .done _
      · exact .empty rfl
  | making task =>
      simp only [turn]
      split
      · exact .done _
      · exact .empty rfl
  | rendering t call =>
      simp only [turn, render]
      split
      · exact .done _
      split
      · exact .empty rfl
      split
      · exact .empty rfl
      · split
        · exact .empty rfl
        · exact .wait _
        · exact rendered_inherits goal t.backend _ _
        · exact .empty rfl
        · exact .empty rfl
  | pausing t due =>
      simp only [turn]
      split
      · exact .done _
      split
      · exact .empty rfl
      · exact .wait _
  | destroying b result => exact .done _
  | applying b record call =>
      simp only [turn]
      split
      · exact .same rfl rfl
      · exact .wait _
      · exact .done _
      · exact .same rfl rfl
  | recording b record => exact register_inherits b _ _
  | storing task =>
      simp only [turn]
      split
      · exact .done _
      · exact .done _
  | inspecting b => exact .empty rfl

end Creation

namespace Timer

theorem finish_inherits (token : Token) (task : String) (stop : Stop) (served : Option Place)
    (result : Result) (d : Daemon) (p : Phase) :
    Inherits Phase.names Phase.stake p (finish token task stop served result d) := by
  unfold finish
  simp only
  split
  · exact .done _
  split
  · exact .done _
  split
  · exact .done _
  split
  · exact .done _
  · exact .empty rfl

theorem wake_inherits (token : Token) (task : String) (stop : Stop) (served : Place)
    (s : Cron.Schedule) (d : Daemon) (p : Phase) :
    Inherits Phase.names Phase.stake p (wake token task stop served s d) := by
  unfold wake
  split
  · exact .empty rfl
  · exact finish_inherits _ _ _ _ _ _ _

theorem turn_inherits (token : Token) (task : String) (p : Phase) (d : Daemon) :
    Inherits Phase.names Phase.stake p (turn token task p d) := by
  cases p with
  | start stop served =>
      simp only [turn]
      split
      · exact finish_inherits _ _ _ _ _ _ _
      split
      · exact finish_inherits _ _ _ _ _ _ _
      · exact .empty rfl
  | planning stop served s =>
      simp only [turn]
      split
      · exact finish_inherits _ _ _ _ _ _ _
      · exact .empty rfl
  | sleeping stop served s due =>
      simp only [turn]
      split
      · exact finish_inherits _ _ _ _ _ _ _
      split
      · exact wake_inherits _ _ _ _ _ _ _
      · exact .wait _
  | running stop served s run =>
      have ran := Run.turn_inherits token run d
      simp only [turn]
      split <;> rename_i eq <;> rw [eq] at ran
      · intro p' next
        cases next
        exact ran _ rfl
      · exact .wait _
      · exact finish_inherits _ _ _ _ _ _ _
      · exact .empty rfl

end Timer

/-- What an operation of one kind inherits, it inherits as an operation. -/
theorem Inherits.lift {π ρ π' ρ' : Type} {names : π → List String} {stake : π → Stake}
    {names' : π' → List String} {stake' : π' → Stake} {p : π} {out : Turn π ρ × Daemon}
    {out' : Turn π' ρ' × Daemon} (h : Inherits names stake p out) (operation : π → π')
    (sameNames : ∀ p, names' (operation p) = names p)
    (sameStake : ∀ p, stake' (operation p) = stake p)
    (next : ∀ o, out'.1 = .next o → ∃ p', out.1 = .next p' ∧ o = operation p' ∧ out'.2 = out.2) :
    Inherits names' stake' (operation p) out' := by
  intro o found name member
  obtain ⟨p', found', rfl, daemon⟩ := next o found
  rw [sameNames] at member ⊢
  rw [sameStake, sameStake, daemon]
  exact h p' found' name member

theorem Errand.heed_inherits (token : Token) (crew : Place) (e : Errand) (d : Daemon) :
    Inherits Errand.names Errand.stake e (e.heed token crew d) := by
  cases e with
  | watch phase =>
      intro e' next name member
      obtain ⟨p, _, rfl, _⟩ := settled_next e' next
      cases member
  | timer task phase =>
      exact (Timer.turn_inherits token task phase d).lift (timer task)
        (fun _ => rfl) (fun _ => rfl) settled_next
  | run phase =>
      exact (Run.turn_inherits token phase d).lift run
        (fun _ => rfl) (fun _ => rfl) settled_next
  | delete phase =>
      intro e' next name member
      obtain ⟨p, _, rfl, _⟩ := settled_next e' next
      cases member

theorem Operation.heed_inherits (o : Operation) (token : Token) (d : Daemon) :
    Inherits Operation.names Operation.stake o (o.heed token d) := by
  cases o with
  | create own goal phase =>
      exact (Creation.turn_inherits token goal phase d).lift (create own goal)
        (fun _ => rfl) (fun _ => rfl) lift_next
  | update phase =>
      exact (Update.turn_inherits phase d).lift update
        (fun _ => rfl) (fun _ => rfl) lift_next
  | run own phase =>
      exact (Run.turn_inherits token phase d).lift (run own)
        (fun _ => rfl) (fun _ => rfl) lift_next
  | delete own phase =>
      intro o' next name member
      obtain ⟨p, _, rfl, _⟩ := lift_next o' next
      cases member
  | control own phase =>
      intro o' next name member
      obtain ⟨p, _, rfl, _⟩ := lift_next o' next
      cases member
  | errand crew e =>
      exact (Errand.heed_inherits token crew e d).lift (errand crew)
        (fun _ => rfl) (fun _ => rfl) lift_next

theorem Operation.May.inherits {o : Operation} {d : Daemon} {out : Outcome} (may : o.May d out) :
    Inherits Operation.names Operation.stake o out := by
  cases may with
  | heed => exact o.heed_inherits _ d
  | deal =>
      intro o' next name member
      obtain ⟨p, -, rfl, -⟩ := lift_next o' next
      cases member
  | @fire crew task stop served s due _ passed =>
      have woken : Inherits Errand.names Errand.stake (.timer task (.sleeping stop served s due))
          (Errand.settled (.timer task) (fun _ => Errand.leave crew)
            (Timer.wake (Errand.crewToken d crew) task stop served s d)) :=
        (Timer.wake_inherits _ task stop served s d _).lift (.timer task)
          (fun _ => rfl) (fun _ => rfl) Errand.settled_next
      exact woken.lift (errand crew) (fun _ => rfl) (fun _ => rfl) lift_next
  | watchEnds =>
      intro o' next name member
      obtain ⟨e, ended, rfl, -⟩ := lift_next o' next
      obtain ⟨p, -, rfl, -⟩ := Errand.settled_next e ended
      cases member
  | watchSends =>
      intro o' next name member
      cases next
      cases member

/-! ### Names of what is written -/

/-- The name under which something is in the store after a write. -/
def Write.fills? : Write → Option String
  | config c => c.name
  | record r => some r.taskName
  | noConfig _ | noRecords _ | switch _ => none

/-- The store has nothing under the name. -/
structure MemoryStore.Lacks (s : MemoryStore) (name : String) : Prop where
  config : s.getTask name = none
  records : s.recordsOf name = []

theorem Write.getTask_apply {w : Write} {s : MemoryStore} {name : String}
    (other : w.fills? ≠ some name) :
    (w.apply s).getTask name = s.getTask name ∨ (w.apply s).getTask name = none := by
  cases w with
  | config c =>
      left
      exact (MemoryStore.getTask_setTask c).trans (if_neg other)
  | noConfig task =>
      rw [apply, MemoryStore.getTask_deleteTask]
      split
      · exact .inr rfl
      · exact .inl rfl
  | record r => exact .inl rfl
  | noRecords task => exact .inl rfl
  | switch b => exact .inl rfl

theorem Write.recordsOf_apply {w : Write} {s : MemoryStore} {name : String}
    (other : w.fills? ≠ some name) :
    (w.apply s).recordsOf name = s.recordsOf name ∨ (w.apply s).recordsOf name = [] := by
  cases w with
  | config c => exact .inl rfl
  | noConfig task => exact .inl rfl
  | record r =>
      left
      rw [apply, MemoryStore.recordsOf_addRecord, if_neg]
      rintro rfl
      exact other rfl
  | noRecords task =>
      rw [apply, MemoryStore.recordsOf_deleteRecords]
      split
      · exact .inr rfl
      · exact .inl rfl
  | switch b => exact .inl rfl

theorem Run.fills_names {p : Run.Phase} {w : Write} {name : String} (h : p.write? = some w)
    (fills : w.fills? = some name) : name ∈ p.names ∧ ∃ b, p.stake.backend? = some b := by
  cases p with
  | recording held applied result =>
      cases h
      cases fills
      exact ⟨List.mem_singleton_self _, held.backend, rfl⟩
  | start | queued | rendering | applying | backingOff => cases h

/-- What is stored under a name was in hand under that name, or it is the configuration of a task
that was just added. -/
theorem Operation.fills_names {o : Operation} {w : Write} {name : String} (h : o.write? = some w)
    (fills : w.fills? = some name) :
    (name ∈ o.names ∧ ∃ b, o.stake.backend? = some b) ∨
      ∃ token goal task, o = .create token goal (.storing task) ∧ task.name = name := by
  cases o with
  | create token goal phase =>
      cases phase with
      | recording b record =>
          cases h
          cases fills
          exact .inl ⟨List.mem_singleton_self _, b, rfl⟩
      | storing task =>
          cases h
          cases fills
          exact .inr ⟨token, goal, task, rfl, rfl⟩
      | start | making | rendering | pausing | destroying | applying | inspecting => cases h
  | update phase =>
      cases phase with
      | recording held record result =>
          cases h
          cases fills
          exact .inl ⟨List.mem_singleton_self _, held.backend, rfl⟩
      | storing held conf plan =>
          cases h
          exact .inl ⟨Option.mem_toList.mpr fills, held.backend, rfl⟩
      | start => cases h
      | patching held =>
          simp only [write?, Update.Phase.write?] at h
          split at h
          · cases h
          · cases h
            cases fills
  | run token phase => exact .inl (Run.fills_names h fills)
  | delete token phase =>
      cases phase <;> cases h <;> cases fills
  | control token phase => cases h
  | errand crew e =>
      cases e with
      | watch phase => cases h
      | timer task phase =>
          cases phase with
          | running stop served s run =>
              exact .inl (Run.fills_names (p := run) h fills)
          | start | planning | sleeping => cases h
      | run phase => exact .inl (Run.fills_names (p := phase) h fills)
      | delete phase => cases phase <;> cases h <;> cases fills

end TaskSync
