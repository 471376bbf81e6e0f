import TaskSync.Proofs.Daemon.Requests
import TaskSync.Proofs.Operation.Choice

/-!
# Requests in a turn

Every turn of every operation gathers requests to delete, but for those of controllers, which mark
nothing and hand requests on from the head of the queue: a request leaves the queue only as a
deletion that is set going on the side.
-/

namespace TaskSync

open Daemon (Gathers)

theorem Daemon.Gathers.activate {loose : Prop} {d d₁ : Daemon} {task : String} {g : Guard}
    (taken : d.tryActivate task = .ok (some g, d₁)) : Gathers loose d d₁ := by
  obtain ⟨r, activated, rfl⟩ := tryActivate_eq_some taken
  exact .of_deletes rfl (fun name => Registry.not_newMark_activate activated) fun _ _ h => h

namespace Run

theorem entered_gathers {loose : Prop} (task : String) (b : Place) (scheduled : Bool) (g : Guard)
    (d : Daemon) : Gathers loose d (entered task b scheduled g d).2 := by
  unfold entered
  split
  · exact .release d g
  · simp only
    split
    · exact .of_same rfl rfl rfl
    · exact (Gathers.notifyCompletion d task).trans (.release _ g)

theorem enter_gathers {loose : Prop} (task : String) (b : Place) (d : Daemon) :
    Gathers loose d (enter task b d).2 := by
  unfold enter
  rcases Activation.look_cases task d with ⟨_, look⟩ | ⟨_, _, _, look⟩ | ⟨g, d₁, taken, look⟩
  · rw [look]
    exact .refl d
  · rw [look]
    exact .refl d
  · rw [look]
    exact (Gathers.activate taken).trans (entered_gathers task b false g d₁)

theorem enterScheduled_gathers {loose : Prop} (task : String) (b : Place) (d : Daemon) :
    Gathers loose d (enterScheduled task b d).2 := by
  unfold enterScheduled
  rcases Activation.look_cases task d with ⟨_, look⟩ | ⟨_, _, _, look⟩ | ⟨g, d₁, taken, look⟩
  · rw [look]
    exact .refl d
  · rw [look]
    exact .refl d
  · rw [look]
    exact (Gathers.activate taken).trans (entered_gathers task b true g d₁)

theorem turn_gathers (token : Token) (p : Phase) (d : Daemon) :
    Gathers (¬ d.Avoids .mark) d (turn token p d).2 := by
  cases p with
  | start task =>
      simp only [turn, begin]
      split
      · exact .refl d
      split
      · exact .refl d
      split
      · exact enterScheduled_gathers task _ d
      · exact enter_gathers task _ d
  | queued task backend due =>
      simp only [turn]
      split
      · exact .refl d
      split
      · exact enter_gathers task backend d
      · exact .refl d
  | rendering h call =>
      have called := TimedCall.render.turn_gathers TimedCall.render_takes h.backend token call d
      simp only [turn]
      split <;> rename_i eq <;> rw [eq] at called
      · exact called
      · exact called
      · exact called.trans (.of_same rfl rfl rfl)
      · exact called
      · split
        · exact called.trans (.of_same rfl rfl rfl)
        · exact called.trans (.release _ h.guard)
  | applying h retries call =>
      have called := TimedCall.apply.turn_gathers TimedCall.apply_takes h.backend token call d
      simp only [turn]
      split <;> rename_i eq <;> rw [eq] at called
      · exact called
      · exact called
      · unfold retry
        split
        · exact called.trans (.of_same rfl rfl rfl)
        · exact called.trans (.of_same rfl rfl rfl)
      · exact called.trans (.of_same rfl rfl rfl)
  | backingOff h retries due =>
      simp only [turn]
      split
      · exact .of_same rfl rfl rfl
      split
      · exact .refl d
      · exact .refl d
  | recording h applied result =>
      have written : Gathers (¬ d.Avoids .mark) d (d.addRecord h.record) := .write d _ _ _
      simp only [turn]
      split
      · exact (written.trans (.notifyCompletion _ h.task)).trans (.release _ h.guard)
      · exact written.trans (.release _ h.guard)

end Run

namespace Update

theorem settle_gathers {loose : Prop} (h : Held) (result : Except BackendError Plan) (d : Daemon) :
    Gathers loose d (settle h result d).2 := by
  unfold settle
  split
  · exact .release d h.guard
  split
  · exact .release d h.guard
  · exact .refl d

theorem begin_gathers {loose : Prop} (conf : TaskConfig) (option : RunOption) (d : Daemon) :
    Gathers loose d (begin conf option d).2 := by
  unfold begin
  simp only
  split
  · exact .refl d
  split
  · exact .refl d
  split
  · exact .refl d
  split
  · exact .refl d
  split
  · exact .refl d
  next d₁ busy =>
    obtain ⟨rfl, _⟩ := Daemon.tryActivate_eq_busy busy
    exact .refl _
  next g d₁ taken =>
    unfold entered
    simp only
    split
    · exact (Gathers.activate taken).trans (.of_same rfl rfl rfl)
    · exact .activate taken

theorem turn_gathers (p : Phase) (d : Daemon) :
    Gathers (¬ d.Avoids .mark) d (turn p d).2 := by
  cases p with
  | start conf option => exact begin_gathers conf option d
  | patching h =>
      have patched := d.patch_gathers h.backend h.enabled h.option
      simp only [turn]
      split
      · exact patched
      · exact patched.trans (settle_gathers h _ _)
  | recording h record result => exact (Gathers.write d _ _ _).trans (settle_gathers h result _)
  | storing h conf plan =>
      have written : Gathers (¬ d.Avoids .mark) d (d.setTask conf).2 := .write d _ _ _
      simp only [turn]
      split <;> rename_i eq <;> rw [eq] at written
      · exact written.trans (.release _ h.guard)
      · exact (written.trans (.publish _ _)).trans (.release _ h.guard)

end Update

namespace Deletion

theorem entered_gathers {loose : Prop} (task : String) (b : Place) (g : Guard) (d : Daemon) :
    Gathers loose d (entered task b g d).2 := by
  have stopped : Gathers loose d
      (if (d.taskOf b).isScheduled then d.stopTimer task else d) := by
    split
    · obtain ⟨ts, hs, stops, h⟩ := d.stopTimer_frame task
      refine .of_registry ?_ ?_ fun _ _ h => (d.engaged_stopTimer task).mp h
      · rw [h]
      · rw [h]
    · exact .refl d
  unfold entered
  simp only
  split
  · exact stopped.trans (.release _ g)
  next registry removed =>
    exact stopped.trans (.of_deletes rfl (fun _ => Registry.not_newMark_delete removed)
      fun _ _ h => h)

theorem enter_gathers {loose : Prop} (task : String) (b : Place) (d : Daemon) :
    Gathers loose d (enter task b d).2 := by
  unfold enter
  rcases Activation.look_cases task d with ⟨_, look⟩ | ⟨_, _, _, look⟩ | ⟨g, d₁, taken, look⟩
  · rw [look]
    exact .refl d
  · rw [look]
    exact .refl d
  · rw [look]
    exact (Gathers.activate taken).trans (entered_gathers task b g d₁)

theorem turn_gathers {loose : Prop} (token : Token) (p : Phase) (d : Daemon) :
    Gathers loose d (turn token p d).2 := by
  cases p with
  | start task =>
      simp only [turn]
      split
      · exact .refl d
      · exact enter_gathers task _ d
  | queued task backend due =>
      simp only [turn]
      split
      · exact .refl d
      split
      · exact enter_gathers task backend d
      · exact .refl d
  | deletingTask task guard =>
      have written : Gathers loose d (d.deleteTask task).2 := .write d _ _ _
      simp only [turn]
      split <;> rename_i eq <;> rw [eq] at written
      · exact written.trans (.release _ guard)
      · exact written
  | deletingRecords task guard =>
      have written : Gathers loose d (d.deleteRecords task).2 := .write d _ _ _
      simp only [turn]
      split <;> rename_i eq <;> rw [eq] at written
      · exact written.trans (.release _ guard)
      · exact (written.trans (.publish _ _)).trans (.release _ guard)

end Deletion

namespace Creation

theorem register_gathers {b : Place} {d d₁ : Daemon} (h : Gathers (¬ d.Avoids .mark) d d₁)
    (steady : d.Steady d₁) : Gathers (¬ d.Avoids .mark) d (register b d₁).2 := by
  have called := h.call steady b .buffer
  unfold register
  simp only
  split
  · exact called
  next registry added =>
    exact called.trans (.of_deletes rfl (fun _ => Registry.not_newMark_add added) fun _ _ h => h)

theorem rendered_gathers {b : Place} {d d₁ : Daemon} (h : Gathers (¬ d.Avoids .mark) d d₁)
    (steady : d.Steady d₁) (goal : Goal) :
    Gathers (¬ d.Avoids .mark) d (rendered goal b d₁).2 := by
  have called := h.call steady b .override
  have later := steady.trans (d₁.call_aside b .override).steady
  unfold rendered
  simp only
  split
  · exact called
  · exact register_gathers called later
  · split
    · exact called.trans (.of_same rfl rfl rfl)
    · exact register_gathers called later

theorem render_gathers (token : Token) (goal : Goal) (t : Trial) (call : Pending) (d : Daemon) :
    Gathers (¬ d.Avoids .mark) d (render token goal t call d).2 := by
  unfold render
  simp only
  split
  · exact .refl d
  split
  · exact .refl d
  split
  · exact d.call_gathers t.backend .override
  · have called := TimedCall.render.turn_gathers TimedCall.render_takes t.backend token call d
    obtain ⟨lines, _, aside⟩ :=
      TimedCall.render.turn_aside TimedCall.render_takes t.backend token call d
    have steady := aside.steady
    split <;> rename_i eq <;> rw [eq] at called steady
    · exact called
    · exact called
    · exact rendered_gathers called steady goal
    · exact called
    · exact called

theorem turn_gathers (token : Token) (goal : Goal) (p : Phase) (d : Daemon) :
    Gathers (¬ d.Avoids .mark) d (turn token goal p d).2 := by
  cases p with
  | start conf =>
      simp only [turn, begin_leaves]
      exact .refl d
  | making task =>
      simp only [turn]
      split <;> rename_i eq
      · exact Daemon.make_gathers eq
      · exact Daemon.make_gathers eq
  | rendering t call => exact render_gathers token goal t call d
  | pausing t due =>
      simp only [turn]
      split
      · exact .refl d
      split
      · exact .refl d
      · exact .refl d
  | destroying b result => exact d.call_gathers b .destroy
  | applying b record call =>
      have called := TimedCall.apply.turn_gathers TimedCall.apply_takes b token call d
      simp only [turn]
      split <;> rename_i eq <;> rw [eq] at called
      · exact called
      · exact called
      · exact called
      · exact called.trans (.of_same rfl rfl rfl)
  | recording b record =>
      exact register_gathers ((Gathers.write d _ _ _).trans (.notifyCompletion _ _))
        ((d.write_quiet _ _ _).trans (Daemon.notifyCompletion_quiet _ _)).toSteady
  | storing task =>
      have written : Gathers (¬ d.Avoids .mark) d (d.setTask task.toConfig).2 := .write d _ _ _
      simp only [turn]
      split <;> rename_i eq <;> rw [eq] at written
      · exact written.trans (.request _ task.name)
      · refine written.trans ?_
        split
        · exact (Gathers.announceSchedule _ task.name).trans (.of_same rfl rfl rfl)
        · exact .of_same rfl rfl rfl
  | inspecting b => exact d.call_gathers b .inspect

end Creation

namespace Timer

theorem finish_gathers {loose : Prop} (token : Token) (task : String) (stop : Stop)
    (served : Option Place) (result : Result) (d : Daemon) :
    Gathers loose d (finish token task stop served result d).2 := by
  have given : Gathers loose d (d.releaseStop task stop) := by
    obtain ⟨stops, released⟩ := d.releaseStop_frame task stop
    rw [released]
    exact .of_same rfl rfl rfl
  unfold finish
  simp only
  split
  · exact given
  split
  · exact given
  split
  · exact given
  · obtain ⟨ts, stops, n, after⟩ := (d.releaseStop task stop).registerStop_frame task
    have registered : Gathers loose d ((d.releaseStop task stop).registerStop task).2 := by
      rw [after]
      exact given.trans (.of_same rfl rfl rfl)
    split <;> rename_i eq <;> rw [eq] at registered
    · exact registered
    · exact registered

theorem wake_gathers {loose : Prop} (token : Token) (task : String) (stop : Stop) (served : Place)
    (s : Cron.Schedule) (d : Daemon) : Gathers loose d (wake token task stop served s d).2 := by
  unfold wake
  split
  · exact .refl d
  · exact finish_gathers ..

theorem turn_gathers (token : Token) (task : String) (p : Phase) (d : Daemon) :
    Gathers (¬ d.Avoids .mark) d (turn token task p d).2 := by
  cases p with
  | start stop served =>
      simp only [turn]
      split
      · exact finish_gathers ..
      split
      · exact finish_gathers ..
      · exact .refl d
  | planning stop served s =>
      simp only [turn]
      split
      · exact finish_gathers ..
      · exact .refl d
  | sleeping stop served s due =>
      simp only [turn]
      split
      · exact finish_gathers ..
      split
      · exact wake_gathers ..
      · exact .refl d
  | running stop served s run =>
      have ran := Run.turn_gathers token run d
      simp only [turn]
      split <;> rename_i eq <;> rw [eq] at ran
      · exact ran
      · exact ran
      · exact ran.trans (finish_gathers ..)
      · exact ran

end Timer

namespace Watch

theorem finish_gathers {loose : Prop} (crew : Place) (result : Result) (d : Daemon) :
    Gathers loose d (finish crew result d).2 := by
  unfold finish
  split
  · exact .of_same rfl rfl rfl
  · exact .refl d

theorem turn_gathers {loose : Prop} (crew : Place) (token : Token) (p : Phase) (d : Daemon) :
    Gathers loose d (turn crew token p d).2 := by
  cases p with
  | start =>
      simp only [turn]
      split
      · exact .of_same rfl rfl rfl
      · exact .refl d
  | watching due =>
      simp only [turn]
      split
      · exact finish_gathers ..
      split
      · exact finish_gathers ..
      · unfold forward
        split
        · split
          · exact .refl d
          · exact .of_registry rfl rfl fun _ _ h => (Daemon.engaged_signal _ _).mp h
        · exact .refl d

end Watch

namespace Errand

theorem leave_gathers {loose : Prop} (crew : Place) (d : Daemon) :
    Gathers loose d (leave crew d) := by
  unfold leave
  split
  · exact .refl d
  · simp only
    split
    · exact .of_registry rfl rfl fun _ _ h => (Daemon.engaged_signal _ _).mp h
    · exact .of_same rfl rfl rfl

theorem settled_gathers {π ρ : Type} {loose : Prop} {errand : π → Errand}
    {leave : ρ → Daemon → Daemon} (left : ∀ r (d : Daemon), Gathers loose d (leave r d))
    (out : Turn π ρ × Daemon) : Gathers loose out.2 (settled errand leave out).2 := by
  obtain ⟨phase | on | r, d⟩ := out
  · exact .refl d
  · exact .refl d
  · exact left r d

theorem leaveWatch_gathers {loose : Prop} (crew : Place) (result : Watch.Result) (d : Daemon) :
    Gathers loose d (leaveWatch crew result d) := by
  unfold leaveWatch
  split
  · exact .refl d
  · exact .of_registry rfl rfl fun _ _ h => (Daemon.engaged_signal _ _).mp h

theorem heed_gathers (token : Token) (crew : Place) (e : Errand) (d : Daemon) :
    Gathers (¬ d.Avoids .mark) d (e.heed token crew d).2 := by
  cases e with
  | watch phase =>
      exact (Watch.turn_gathers crew token phase d).trans
        (settled_gathers (leaveWatch_gathers crew) _)
  | timer task phase =>
      exact (Timer.turn_gathers token task phase d).trans
        (settled_gathers (fun _ d => leave_gathers crew d) _)
  | run phase =>
      exact (Run.turn_gathers token phase d).trans
        (settled_gathers (fun _ d => leave_gathers crew d) _)
  | delete phase =>
      exact (Deletion.turn_gathers token phase d).trans
        (settled_gathers (fun _ d => leave_gathers crew d) _)

end Errand

/-! ### Controllers -/

namespace Daemon

/-- Nothing is marked, and requests only leave the queue, each as a deletion that is set going. -/
structure HandsOn (d d' : Daemon) : Prop where
  registry : d'.registry = d.registry
  capacity : d'.deletes.capacity = d.deletes.capacity
  items : d'.deletes.items <:+ d.deletes.items
  taken : ∀ name ∈ d.deletes.items, name ∈ d'.deletes.items ∨ ∃ crew, d'.Engaged crew (.delete name)
  given : ∀ crew name, d'.Engaged crew (.delete name) →
    d.Engaged crew (.delete name) ∨ name ∈ d.deletes.items

/-- Whatever is set going, it is no deletion. -/
structure Undealt (d d' : Daemon) : Prop where
  registry : d'.registry = d.registry
  deletes : d'.deletes = d.deletes
  engaged : ∀ crew name, d'.Engaged crew (.delete name) ↔ d.Engaged crew (.delete name)

namespace Undealt

variable {d d' d'' : Daemon}

theorem refl (d : Daemon) : Undealt d d := ⟨rfl, rfl, fun _ _ => .rfl⟩

theorem trans (h : Undealt d d') (h' : Undealt d' d'') : Undealt d d'' where
  registry := h'.registry.trans h.registry
  deletes := h'.deletes.trans h.deletes
  engaged crew name := (h'.engaged crew name).trans (h.engaged crew name)

theorem of_same (registry : d'.registry = d.registry) (deletes : d'.deletes = d.deletes)
    (happenings : d'.happenings = d.happenings) : Undealt d d' := by
  refine ⟨registry, deletes, fun crew name => ?_⟩
  unfold Engaged
  rw [happenings]

theorem signal (d : Daemon) (s : Signal) : Undealt d (d.signal s) :=
  ⟨rfl, rfl, fun _ _ => engaged_signal d s⟩

theorem handsOn (h : Undealt d d') : HandsOn d d' where
  registry := h.registry
  capacity := by rw [h.deletes]
  items := h.deletes ▸ List.suffix_refl _
  taken name member := .inl (by rw [h.deletes]; exact member)
  given crew name engaged := .inl ((h.engaged crew name).mp engaged)

end Undealt

end Daemon

namespace Controller

open Daemon (HandsOn Undealt)

/-- Work that is no deletion. -/
theorem engage_undealt (crew : Place) {w : Work} (other : ∀ name, w ≠ .delete name) (d : Daemon) :
    Undealt d (engage crew w d) := by
  unfold engage
  split
  · exact .refl d
  · refine ⟨rfl, rfl, fun c name => ?_⟩
    simp only [Daemon.Engaged, Daemon.happen, setCrew, List.mem_cons, Happening.work.injEq,
      (other name).symm, and_false, false_or]

theorem startTimer_undealt (crew : Place) (task : String) (d : Daemon) :
    Undealt d (startTimer crew task d) := by
  obtain ⟨ts, stops, n, after⟩ := d.registerStop_frame task
  have registered : Undealt d (d.registerStop task).2 := by
    rw [after]
    exact .of_same rfl rfl rfl
  unfold startTimer
  split <;> rename_i eq <;> rw [eq] at registered
  · exact registered
  · exact registered.trans (engage_undealt crew (fun _ same => by cases same) _)

theorem begin_undealt (token : Token) (d : Daemon) : Undealt d (begin token d).2 := by
  have timers : ∀ (names : List String) (crew : Place) (d : Daemon),
      Undealt d (names.foldl (fun d task => startTimer crew task d) d) := by
    intro names crew
    induction names with
    | nil => exact fun d => .refl d
    | cons task names ih => exact fun d => (startTimer_undealt crew task d).trans (ih _)
  unfold begin
  simp only
  refine .trans ?_ (timers _ _ _)
  refine ⟨rfl, rfl, fun c name => ?_⟩
  simp [Daemon.Engaged, Daemon.happen]

theorem stop_undealt (crew : Place) (watching : Bool) (e : Failure) (d : Daemon) :
    Undealt d (stop crew watching e d).2 := by
  have stopped : ∀ d : Daemon, Undealt d d.stopTimers := by
    intro d
    obtain ⟨ts, hs, after⟩ := d.stopTimers_frame
    refine ⟨?_, ?_, fun _ _ => d.engaged_stopTimers⟩
    · rw [after]
    · rw [after]
  have canceled : ∀ t : Token, Undealt d (d.cancel t) := by
    intro t
    obtain ⟨ts, hs, after⟩ := d.cancel_frame t
    refine ⟨?_, ?_, fun _ _ => d.engaged_cancel t⟩
    · rw [after]
    · rw [after]
  unfold stop
  simp only
  split
  next c _ => exact (canceled c.token).trans (stopped _)
  · exact stopped d

theorem finish_undealt (e : Failure) (d : Daemon) : Undealt d (finish e d).2 :=
  have freed : Undealt d { d with createdHeld := false, deletesHeld := false } :=
    .of_same rfl rfl rfl
  (freed.trans (.signal _ .deletesFreed)).trans (.signal _ .createdFreed)

/-- The one way in which a request leaves the queue: its deletion is set going. -/
theorem engage_handsOn {crew : Place} {c : Crew} {task : String} {d : Daemon}
    (known : d.crews[crew]? = some c) (first : d.deletes.items.head? = some task) :
    HandsOn d (engage crew (.delete task) { d with deletes := d.deletes.tail }) := by
  have engage : engage crew (.delete task) { d with deletes := d.deletes.tail } =
      (setCrew { d with deletes := d.deletes.tail } crew { c with working := c.working + 1 }).happen
        (.work crew (.delete task)) := by
    simp only [Controller.engage, known]
  obtain ⟨rest, items⟩ : ∃ rest, d.deletes.items = task :: rest := List.head?_eq_some_iff.mp first
  have left : d.deletes.tail.items = rest := congrArg List.tail items
  rw [engage]
  refine ⟨rfl, rfl, ?_, fun name member => ?_, fun c' name engaged => ?_⟩
  · show d.deletes.tail.items <:+ d.deletes.items
    rw [left, items]
    exact List.suffix_cons task rest
  · rw [items] at member
    rcases List.mem_cons.mp member with rfl | later
    · exact .inr ⟨crew, List.mem_cons_self⟩
    · exact .inl (show name ∈ d.deletes.tail.items from left ▸ later)
  · rcases List.mem_cons.mp engaged with same | before
    · cases same
      rw [items]
      exact .inr List.mem_cons_self
    · exact .inl before

/-- Whatever a controller deals with. -/
theorem Arm.deal_handsOn {crew : Place} {c : Crew} {d : Daemon} (known : d.crews[crew]? = some c)
    {token : Token} {watching : Bool} {arm : Arm} (ready : arm.Ready token c watching d)
    (rounds : Nat) : HandsOn d (arm.deal crew c watching rounds d).2 := by
  cases arm with
  | canceled => exact (stop_undealt crew watching _ d).handsOn
  | triggered template =>
      have inboxed : Undealt d (setCrew d crew { c with inbox := c.inbox.tail }) :=
        .of_same rfl rfl rfl
      refine ((inboxed.trans (.signal _ (.inboxFreed crew))).trans ?_).handsOn
      show Undealt _ (trigger crew template _)
      unfold trigger
      split
      · exact .refl _
      · exact engage_undealt crew (fun _ same => by cases same) _
  | announced task =>
      have left : Undealt d { d with created := d.created.tail } := .of_same rfl rfl rfl
      exact (left.trans (startTimer_undealt crew task _)).handsOn
  | requested task => exact engage_handsOn known ready
  | watchOver => exact (Undealt.refl d).handsOn
  | watchFailed e => exact (stop_undealt crew false _ d).handsOn

theorem round_handsOn {token : Token} {crew : Place} {c : Crew} {watching : Bool} {rounds : Nat}
    {d : Daemon} (known : d.crews[crew]? = some c) :
    HandsOn d (round token crew c watching rounds d).2 := by
  rcases round_cases token crew c watching rounds d with ⟨arm, ready, same⟩ | ⟨⟨on, same⟩, -⟩
  · rw [same]
    exact Arm.deal_handsOn known ready rounds
  · rw [same]
    exact (Undealt.refl d).handsOn

theorem turn_handsOn (token : Token) (p : Phase) (d : Daemon) : HandsOn d (turn token p d).2 := by
  cases p with
  | start => exact (begin_undealt token d).handsOn
  | lockingCreated crew =>
      simp only [turn]
      split
      · exact (Undealt.refl d).handsOn
      · refine Undealt.handsOn ?_
        exact .of_same rfl rfl rfl
  | lockingDeletes crew =>
      simp only [turn]
      split
      · exact (Undealt.refl d).handsOn
      · refine Undealt.handsOn ?_
        exact .of_same rfl rfl rfl
  | looping crew watching rounds =>
      simp only [turn]
      split
      · exact (stop_undealt crew watching _ d).handsOn
      next known => exact round_handsOn known
  | draining crew watching e =>
      simp only [turn]
      split
      · split
        · exact (Undealt.refl d).handsOn
        · exact (finish_undealt e d).handsOn
      · exact (Undealt.refl d).handsOn
  | joining crew e =>
      simp only [turn]
      split
      · exact (finish_undealt e d).handsOn
      · exact (Undealt.refl d).handsOn

end Controller

/-- A turn gathers requests or hands them on. -/
theorem Operation.heed_requests (o : Operation) (token : Token) (d : Daemon) :
    Gathers (¬ d.Avoids .mark) d (o.heed token d).2 ∨
      (∃ token p, o = .control token p) ∧ d.HandsOn (o.heed token d).2 := by
  cases o with
  | create own goal phase =>
      rw [heed, lift_snd]
      exact .inl (Creation.turn_gathers token goal phase d)
  | update phase =>
      rw [heed, lift_snd]
      exact .inl (Update.turn_gathers phase d)
  | run own phase =>
      rw [heed, lift_snd]
      exact .inl (Run.turn_gathers token phase d)
  | delete own phase =>
      rw [heed, lift_snd]
      exact .inl (Deletion.turn_gathers token phase d)
  | control own phase =>
      rw [heed, lift_snd]
      exact .inr ⟨⟨own, phase, rfl⟩, Controller.turn_handsOn token phase d⟩
  | errand crew e =>
      rw [heed, lift_snd]
      exact .inl (Errand.heed_gathers token crew e d)

/-- Whatever turn is taken. -/
theorem Operation.May.requests {o : Operation} {d : Daemon} {out : Outcome} (may : o.May d out) :
    Gathers (¬ d.Avoids .mark) d out.2 ∨
      (∃ token p, o = .control token p) ∧ d.HandsOn out.2 := by
  cases may with
  | heed => exact o.heed_requests _ d
  | @deal token crew c watching rounds _ arm known ready =>
      rw [lift_snd]
      exact .inr ⟨⟨token, _, rfl⟩, Controller.Arm.deal_handsOn known ready rounds⟩
  | @fire crew task stop served s due _ passed =>
      rw [settled, lift_snd]
      exact .inl ((Timer.wake_gathers _ task stop served s d).trans
        (Errand.settled_gathers (fun _ d => Errand.leave_gathers crew d) _))
  | @watchEnds crew phase _ result =>
      rw [settled, lift_snd]
      exact .inl ((Watch.finish_gathers crew result d).trans
        (Errand.settled_gathers (Errand.leaveWatch_gathers crew) _))
  | watchSends =>
      exact .inl (.of_registry rfl rfl fun _ _ h => (Daemon.engaged_signal _ _).mp h)

end TaskSync
