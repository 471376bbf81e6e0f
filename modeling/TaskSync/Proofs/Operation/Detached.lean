import TaskSync.Proofs.Daemon.Detached
import TaskSync.Proofs.Operation.Leaves

/-!
# Turns that no crew is part of

Creations, updates, runs and deletions, on the side or not, leave crews alone and register no stop.
-/

namespace TaskSync

open Daemon (Detached)

theorem Daemon.Detached.activate {d d₁ : Daemon} {task : String} {g : Guard}
    (taken : d.tryActivate task = .ok (some g, d₁)) : Detached d d₁ := by
  obtain ⟨r, activated, rfl⟩ := tryActivate_eq_some taken
  exact .of_same rfl rfl rfl

namespace Run

theorem entered_detached (task : String) (b : Place) (scheduled : Bool) (g : Guard) (d : Daemon) :
    Detached d (entered task b scheduled g d).2 := by
  unfold entered
  split
  · exact .of_same rfl rfl rfl
  · simp only
    split
    · exact .of_same rfl rfl rfl
    · exact (Detached.notifyCompletion d task).trans (.of_same rfl rfl rfl)

theorem enter_detached (task : String) (b : Place) (d : Daemon) :
    Detached d (enter task b d).2 := by
  unfold enter
  rcases Activation.look_cases task d with ⟨_, look⟩ | ⟨_, _, _, look⟩ | ⟨g, d₁, taken, look⟩
  · rw [look]
    exact .refl d
  · rw [look]
    exact .refl d
  · rw [look]
    exact (Detached.activate taken).trans (entered_detached task b false g d₁)

theorem enterScheduled_detached (task : String) (b : Place) (d : Daemon) :
    Detached d (enterScheduled task b d).2 := by
  unfold enterScheduled
  rcases Activation.look_cases task d with ⟨_, look⟩ | ⟨_, _, _, look⟩ | ⟨g, d₁, taken, look⟩
  · rw [look]
    exact .refl d
  · rw [look]
    exact .refl d
  · rw [look]
    exact (Detached.activate taken).trans (entered_detached task b true g d₁)

theorem turn_detached (token : Token) (p : Phase) (d : Daemon) :
    Detached d (turn token p d).2 := by
  cases p with
  | start task =>
      simp only [turn, begin]
      split
      · exact .refl d
      split
      · exact .refl d
      split
      · exact enterScheduled_detached task _ d
      · exact enter_detached task _ d
  | queued task backend due =>
      simp only [turn]
      split
      · exact .refl d
      split
      · exact enter_detached task backend d
      · exact .refl d
  | rendering h call =>
      have called := TimedCall.render.turn_detached h.backend token call d
      simp only [turn]
      split <;> rename_i eq <;> rw [eq] at called
      · exact called
      · exact called
      · exact called.trans (.of_same rfl rfl rfl)
      · exact called
      · split
        · exact called.trans (.of_same rfl rfl rfl)
        · exact called.trans (.of_same rfl rfl rfl)
  | applying h retries call =>
      have called := TimedCall.apply.turn_detached h.backend token call d
      simp only [turn]
      split <;> rename_i eq <;> rw [eq] at called
      · exact called
      · exact called
      · unfold retry
        split
        · exact called.trans (.of_same rfl rfl rfl)
        · exact called.trans (.of_same rfl rfl rfl)
      · exact called.trans (.of_same rfl rfl rfl)
  | backingOff h retries due =>
      simp only [turn]
      split
      · exact .of_same rfl rfl rfl
      split
      · exact .refl d
      · exact .refl d
  | recording h applied result =>
      have written : Detached d (d.addRecord h.record) := .write d _ _ _
      simp only [turn]
      split
      · exact (written.trans (.notifyCompletion _ h.task)).trans (.of_same rfl rfl rfl)
      · exact written.trans (.of_same rfl rfl rfl)

end Run

namespace Update

theorem settle_detached (h : Held) (result : Except BackendError Plan) (d : Daemon) :
    Detached d (settle h result d).2 := by
  unfold settle
  split
  · exact .of_same rfl rfl rfl
  split
  · exact .of_same rfl rfl rfl
  · exact .refl d

theorem begin_detached (conf : TaskConfig) (option : RunOption) (d : Daemon) :
    Detached d (begin conf option d).2 := by
  unfold begin
  simp only
  split
  · exact .refl d
  split
  · exact .refl d
  split
  · exact .refl d
  split
  · exact .refl d
  split
  · exact .refl d
  next d₁ busy =>
    obtain ⟨rfl, _⟩ := Daemon.tryActivate_eq_busy busy
    exact .refl _
  next g d₁ taken =>
    unfold entered
    simp only
    split
    · exact (Detached.activate taken).trans (.of_same rfl rfl rfl)
    · exact .activate taken

theorem turn_detached (p : Phase) (d : Daemon) : Detached d (turn p d).2 := by
  cases p with
  | start conf option => exact begin_detached conf option d
  | patching h =>
      have patched := Detached.patch d h.backend h.enabled h.option
      simp only [turn]
      split
      · exact patched
      · exact patched.trans (settle_detached h _ _)
  | recording h record result =>
      exact (Detached.write d _ _ _).trans (settle_detached h result _)
  | storing h conf plan =>
      have written : Detached d (d.setTask conf).2 := .write d _ _ _
      simp only [turn]
      split <;> rename_i eq <;> rw [eq] at written
      · exact written.trans (.of_same rfl rfl rfl)
      · exact written.trans (.of_same rfl rfl rfl)

end Update

namespace Deletion

theorem entered_detached (task : String) (b : Place) (g : Guard) (d : Daemon) :
    Detached d (entered task b g d).2 := by
  have stopped : Detached d (if (d.taskOf b).isScheduled then d.stopTimer task else d) := by
    split
    · exact .stopTimer d task
    · exact .refl d
  unfold entered
  simp only
  split
  · exact stopped.trans (.of_same rfl rfl rfl)
  · exact stopped.trans (.of_same rfl rfl rfl)

theorem enter_detached (task : String) (b : Place) (d : Daemon) :
    Detached d (enter task b d).2 := by
  unfold enter
  rcases Activation.look_cases task d with ⟨_, look⟩ | ⟨_, _, _, look⟩ | ⟨g, d₁, taken, look⟩
  · rw [look]
    exact .refl d
  · rw [look]
    exact .refl d
  · rw [look]
    exact (Detached.activate taken).trans (entered_detached task b g d₁)

theorem turn_detached (token : Token) (p : Phase) (d : Daemon) :
    Detached d (turn token p d).2 := by
  cases p with
  | start task =>
      simp only [turn]
      split
      · exact .refl d
      · exact enter_detached task _ d
  | queued task backend due =>
      simp only [turn]
      split
      · exact .refl d
      split
      · exact enter_detached task backend d
      · exact .refl d
  | deletingTask task guard =>
      have written : Detached d (d.deleteTask task).2 := .write d _ _ _
      simp only [turn]
      split <;> rename_i eq <;> rw [eq] at written
      · exact written.trans (.of_same rfl rfl rfl)
      · exact written
  | deletingRecords task guard =>
      have written : Detached d (d.deleteRecords task).2 := .write d _ _ _
      simp only [turn]
      split <;> rename_i eq <;> rw [eq] at written
      · exact written.trans (.of_same rfl rfl rfl)
      · exact written.trans (.of_same rfl rfl rfl)

end Deletion

namespace Creation

theorem register_detached (b : Place) (d : Daemon) : Detached d (register b d).2 := by
  have called := Detached.call d b .buffer
  unfold register
  simp only
  split
  · exact called
  · exact called.trans (.of_same rfl rfl rfl)

theorem rendered_detached (goal : Goal) (b : Place) (d : Daemon) :
    Detached d (rendered goal b d).2 := by
  have called := Detached.call d b .override
  unfold rendered
  simp only
  split
  · exact called
  · exact called.trans (register_detached b _)
  · split
    · exact called.trans (.of_same rfl rfl rfl)
    · exact called.trans (register_detached b _)

theorem render_detached (token : Token) (goal : Goal) (t : Trial) (call : Pending) (d : Daemon) :
    Detached d (render token goal t call d).2 := by
  unfold render
  simp only
  split
  · exact .refl d
  split
  · exact .refl d
  split
  · exact .call d t.backend .override
  · have called := TimedCall.render.turn_detached t.backend token call d
    split <;> rename_i eq <;> rw [eq] at called
    · exact called
    · exact called
    · exact called.trans (rendered_detached goal t.backend _)
    · exact called
    · exact called

theorem turn_detached (token : Token) (goal : Goal) (p : Phase) (d : Daemon) :
    Detached d (turn token goal p d).2 := by
  cases p with
  | start conf =>
      simp only [turn, begin_leaves]
      exact .refl d
  | making task =>
      simp only [turn]
      split <;> rename_i eq
      · exact .make eq
      · exact .make eq
  | rendering t call => exact render_detached token goal t call d
  | pausing t due =>
      simp only [turn]
      split
      · exact .refl d
      split
      · exact .refl d
      · exact .refl d
  | destroying b result => exact .call d b .destroy
  | applying b record call =>
      have called := TimedCall.apply.turn_detached b token call d
      simp only [turn]
      split <;> rename_i eq <;> rw [eq] at called
      · exact called
      · exact called
      · exact called
      · exact called.trans (.of_same rfl rfl rfl)
  | recording b record =>
      exact ((Detached.write d _ _ _).trans (.notifyCompletion _ _)).trans (register_detached b _)
  | storing task =>
      have written : Detached d (d.setTask task.toConfig).2 := .write d _ _ _
      simp only [turn]
      split <;> rename_i eq <;> rw [eq] at written
      · exact written.trans (.requestDeletion _ task.name)
      · refine written.trans ?_
        split
        · exact (Detached.announceSchedule _ task.name).trans (.of_same rfl rfl rfl)
        · exact .of_same rfl rfl rfl
  | inspecting b => exact .call d b .inspect

end Creation

end TaskSync
