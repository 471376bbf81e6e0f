import TaskSync.Proofs.Operation.Names

/-!
# The name of a creation

A creation is about one name from its beginning to its end: that of its configuration, then that of
the task made from it, then that of the task its backend has.
-/

namespace TaskSync

/-- The name that a creation is about. -/
def Creation.Phase.name (d : Daemon) : Creation.Phase → String
  | .start conf => conf.nameOrEmpty
  | .making task | .storing task => task.name
  | .rendering t _ | .pausing t _ => (d.taskOf t.backend).name
  | .destroying b _ | .applying b _ _ | .recording b _ | .inspecting b => (d.taskOf b).name

/-- The operation is a creation of the name. -/
def Operation.Creates (o : Operation) (d : Daemon) (name : String) : Prop :=
  ∃ token goal p, o = .create token goal p ∧ p.name d = name

namespace Creation

theorem Phase.name_of_fresh {p : Phase} {b : Place} (h : p.stake = .fresh b) (d : Daemon) :
    p.name d = (d.taskOf b).name := by
  cases p <;> cases h <;> rfl

theorem Phase.name_steady {d d' : Daemon} (steady : d.Steady d') {p : Phase}
    (inside : ∀ b, p.stake = .fresh b → b < d.backends.size) : p.name d' = p.name d := by
  cases stake : p.stake with
  | fresh b =>
      rw [p.name_of_fresh stake, p.name_of_fresh stake, steady.name (inside b stake)]
  | nothing | queued | working | removing => cases p <;> first | rfl | cases stake

theorem register_name {b : Place} {d : Daemon} {p : Phase} (h : (register b d).1 = .next p) :
    p.name (register b d).2 = ((register b d).2.taskOf b).name := by
  unfold register at h ⊢
  simp only at h ⊢
  split at h
  · cases h
    rfl
  · cases h
    rfl

theorem rendered_name {goal : Goal} {b : Place} {d : Daemon} {p : Phase}
    (h : (rendered goal b d).1 = .next p) :
    p.name (rendered goal b d).2 = ((rendered goal b d).2.taskOf b).name := by
  unfold rendered at h ⊢
  simp only at h ⊢
  split at h
  · cases h
    rfl
  · exact register_name h
  · split at h
    next enabled =>
      cases h
      rw [if_pos enabled]
      rfl
    next disabled =>
      rw [if_neg disabled]
      exact register_name h

theorem render_name {token : Token} {goal : Goal} {t : Trial} {call : Pending} {d : Daemon}
    {p : Phase} (h : (render token goal t call d).1 = .next p) :
    p.name (render token goal t call d).2 =
      ((render token goal t call d).2.taskOf t.backend).name := by
  unfold render at h ⊢
  simp only at h ⊢
  split at h
  · cases h
  split at h
  next canceled late =>
    cases h
    rw [if_neg canceled, if_pos late]
    rfl
  split at h
  next canceled late override =>
    cases h
    rw [if_neg canceled, if_neg late, if_pos override]
    rfl
  next canceled late override =>
    rw [if_neg canceled, if_neg late, if_neg override]
    split at h
    · cases h
      rfl
    · cases h
    · exact rendered_name h
    · cases h
      rfl
    · cases h
      rfl

/-- The task of a configuration has the name of the configuration. -/
theorem ofConfig_named {c : TaskConfig} {task : Task} (made : Task.ofConfig c = .ok task) :
    c.name = some task.name := by
  unfold Task.ofConfig at made
  split at made
  · cases made
  · cases made
  next name _ named _ =>
    cases made
    exact named

theorem ofConfig_name {c : TaskConfig} {task : Task} (made : Task.ofConfig c = .ok task) :
    task.name = c.nameOrEmpty := by
  rw [TaskConfig.nameOrEmpty, ofConfig_named made]
  rfl

theorem begin_name {conf : TaskConfig} {d : Daemon} {p : Phase} (h : (begin conf d).1 = .next p) :
    ∃ task, p = .making task ∧ task.name = conf.nameOrEmpty := by
  unfold begin at h
  simp only at h
  split at h
  · cases h
  split at h
  · cases h
  split at h
  · cases h
  next task made =>
    cases h
    exact ⟨task, rfl, (ofConfig_name made).trans rfl⟩

theorem turn_steady (token : Token) (goal : Goal) (p : Phase) (d : Daemon)
    (inside : ∀ b, p.stake = .fresh b → b < d.backends.size) :
    d.Steady (turn token goal p d).2 := by
  cases turn_advance token goal p d inside with
  | move m => exact m.steady
  | register _ _ steady => exact steady

/-- A turn does not change what name a creation is about. -/
theorem turn_name {token : Token} {goal : Goal} {p p' : Phase} {d : Daemon}
    (inside : ∀ b, p.stake = .fresh b → b < d.backends.size)
    (h : (turn token goal p d).1 = .next p') :
    p'.name (turn token goal p d).2 = p.name d := by
  have steady := turn_steady token goal p d inside
  have ofTask {b : Place} (fresh : p.stake = .fresh b)
      (same : p'.name (turn token goal p d).2 = ((turn token goal p d).2.taskOf b).name) :
      p'.name (turn token goal p d).2 = p.name d := by
    rw [same, steady.name (inside b fresh), p.name_of_fresh fresh]
  cases p with
  | start conf =>
      obtain ⟨task, rfl, name⟩ := begin_name h
      exact name
  | making task =>
      simp only [turn] at h ⊢
      split at h
      · cases h
      next b d₁ made =>
        cases h
        obtain ⟨rfl, label, _, script, rfl, _⟩ := Daemon.make_eq_ok made
        show ((d.backends.push _).getD d.backends.size default).task.name = task.name
        rw [Daemon.backend_push, if_pos rfl]
        rfl
  | rendering t call => exact ofTask rfl (render_name h)
  | pausing t due =>
      refine ofTask rfl ?_
      simp only [turn] at h ⊢
      split at h
      · cases h
      split at h
      next canceled past =>
        cases h
        rw [if_neg canceled, if_pos past]
        rfl
      · cases h
  | destroying b result => cases h
  | applying b record call =>
      refine ofTask rfl ?_
      simp only [turn] at h ⊢
      split at h
      · cases h
        rfl
      · cases h
      · cases h
      · cases h
        rfl
  | recording b record => exact ofTask rfl (register_name h)
  | storing task =>
      simp only [turn] at h
      split at h
      · cases h
      · cases h
  | inspecting b =>
      refine ofTask rfl ?_
      simp only [turn] at h ⊢
      cases h
      rfl

end Creation

/-- Only creations have a backend that is not registered. -/
theorem Operation.creates_of_fresh {o : Operation} {b : Place} (h : o.stake = .fresh b)
    (d : Daemon) : o.Creates d (d.taskOf b).name := by
  have run : ∀ p : Run.Phase, p.stake ≠ .fresh b := by
    intro p
    cases p <;> nofun
  cases o with
  | create token goal p => exact ⟨token, goal, p, rfl, p.name_of_fresh h d⟩
  | update p => cases p <;> cases h
  | run token p => exact absurd h (run p)
  | delete token p => cases p <;> cases h
  | control token p => cases h
  | errand crew e =>
      cases e with
      | watch p => cases h
      | timer task p =>
          cases p with
          | running stop served s p => exact absurd h (run p)
          | start | planning | sleeping => cases h
      | run p => exact absurd h (run p)
      | delete p => cases p <;> cases h

end TaskSync
