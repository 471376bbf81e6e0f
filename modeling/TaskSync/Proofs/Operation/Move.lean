import TaskSync.Proofs.Operation.Stake

/-!
# Turns as moves

Updates, deletions and creations, one lemma each. A creation is a move up to the turn in which it
registers its task; that turn is an `enlist`. Of deletions it is also said, in `Acts`, what each of
their turns comes to, and what becomes of the registry.
-/

namespace TaskSync

/-- A turn of any operation: a move, or the registration of a backend that was made for the task. -/
inductive Progress (closing : String → Prop) (old new : Stake) (d d' : Daemon) : Prop where
  | move (m : Move closing old new d d')
  | enlist {b : Place} {ids : List String} {r : Registry Place} (before : old = .fresh b)
      (after : new = .nothing) (steady : d.Steady d')
      (path : Registry.Path (¬ d.Avoids .unregister) closing none d.registry none r)
      (added : r.add (d.taskOf b).name b ids = .ok d'.registry)

namespace Update

theorem settle_move {h : Held} {d d₁ : Daemon} (quiet : d.Quiet d₁)
    (result : Except BackendError Plan) (p : Phase) :
    Move (fun _ => False) (.working h.guard h.backend)
      ((settle h result d₁).1.stake Phase.stake p) d (settle h result d₁).2 := by
  unfold settle
  split
  · exact .release rfl quiet
  · split
    · exact .release rfl quiet
    · exact .keep quiet

theorem begin_move (conf : TaskConfig) (option : RunOption) (d : Daemon) (p : Phase) :
    Move (fun _ => False) .nothing ((begin conf option d).1.stake Phase.stake p) d
      (begin conf option d).2 := by
  unfold begin
  simp only
  split
  · exact .leave rfl (.refl d)
  split
  · exact .leave rfl (.refl d)
  next backend looked =>
    split
    · exact .leave rfl (.refl d)
    split
    · exact .leave rfl (.refl d)
    split
    · exact .leave rfl (.refl d)
    next d₁ busy =>
      obtain ⟨rfl, _⟩ := Daemon.tryActivate_eq_busy busy
      exact .leave rfl (.refl _)
    next g d₁ taken =>
      obtain ⟨r, activated, rfl⟩ := Daemon.tryActivate_eq_some taken
      obtain ⟨e, found, _, rfl, _⟩ := Registry.tryActivate_eq_some activated
      obtain ⟨f, there, runner⟩ := Registry.get?_eq_some.mp looked
      rw [found] at there
      cases there
      have path : Registry.Path (¬ d.Avoids .unregister) (fun _ => False) none d.registry
          (some ⟨e.id⟩) r := .activate (.refl none _) activated
      unfold entered
      simp only
      split
      · exact .takes found (.inl runner) (.of_same rfl rfl rfl rfl) path
      · exact .takes found (.inl runner) (.of_same rfl rfl rfl rfl) path

theorem turn_move (p : Phase) (d : Daemon) :
    Move (fun _ => False) p.stake ((turn p d).1.stake Phase.stake p) d (turn p d).2 := by
  cases p with
  | start conf option => exact begin_move conf option d _
  | patching h =>
      have quiet := d.patch_quiet h.backend h.enabled h.option
      simp only [turn]
      split
      · exact .keep quiet
      · exact settle_move quiet _ _
  | recording h record result => exact settle_move (d.write_quiet _ _ _) result _
  | storing h conf plan =>
      have quiet : d.Quiet (d.setTask conf).2 := d.write_quiet _ _ _
      simp only [turn]
      split <;> rename_i eq <;> rw [eq] at quiet
      · exact .release rfl quiet
      · exact .release rfl (quiet.trans (.of_same rfl rfl rfl rfl rfl))

end Update

namespace Deletion

/-- The entry goes in the turn that takes its guard. -/
theorem entered_move {task : String} {d d₁ : Daemon} {g : Guard}
    (taken : d.tryActivate task = .ok (some g, d₁)) (b : Place) (p : Phase) :
    Move (fun name => name = task) .nothing ((entered task b g d₁).1.stake Phase.stake p) d
      (entered task b g d₁).2 := by
  obtain ⟨r, activated, rfl⟩ := Daemon.tryActivate_eq_some taken
  obtain ⟨e, found, _, rfl, change⟩ := Registry.tryActivate_eq_some activated
  have there : ∃ f, r.find? task = some f ∧ (⟨e.id⟩ : Guard) = ⟨f.id⟩ := by
    rw [change, Registry.find?_activate, found]
    exact ⟨_, rfl, rfl⟩
  obtain ⟨f, there, held⟩ := there
  have path : Registry.Path (¬ d.Avoids .unregister) (fun name => name = task) none d.registry
      (some ⟨e.id⟩) r := .activate (.refl none _) activated
  -- stopping the timer is no concern of the registry
  have stopped : ∃ ts hs stops, (if ({ d with registry := r } : Daemon).taskOf b |>.isScheduled then
        ({ d with registry := r } : Daemon).stopTimer task else { d with registry := r }) =
      { d with registry := r, tokens := ts, happenings := hs, stops := stops } := by
    split
    · exact Daemon.stopTimer_frame _ task
    · exact ⟨d.tokens, d.happenings, d.stops, rfl⟩
  obtain ⟨ts, hs, stops, stopped⟩ := stopped
  unfold entered
  simp only
  rw [stopped]
  split
  next e' missing =>
    rw [Registry.delete_eq_error missing] at there
    cases there
  next registry removed =>
    exact ⟨.of_same rfl rfl rfl rfl, .remove rfl path there held removed, nofun, nofun, nofun⟩

theorem enter_move (task : String) (b : Place) (d : Daemon) (p : Phase) :
    Move (fun name => name = task) .nothing ((enter task b d).1.stake Phase.stake p) d
      (enter task b d).2 := by
  unfold enter
  rcases Activation.look_cases task d with
    ⟨_, look⟩ | ⟨e, found, _, look⟩ | ⟨g, d₁, taken, look⟩
  · rw [look]
    exact .leave rfl (.refl d)
  · rw [look]
    exact .keep (.refl d)
  · rw [look]
    exact entered_move taken b p

theorem turn_move (token : Token) (p : Phase) (d : Daemon) :
    Move (fun name => name = p.task) p.stake ((turn token p d).1.stake Phase.stake p) d
      (turn token p d).2 := by
  cases p with
  | start task =>
      simp only [turn]
      split
      · exact .leave rfl (.refl d)
      · exact enter_move task _ d _
  | queued task backend due =>
      simp only [turn]
      split
      · exact .leave rfl (.refl d)
      · split
        · exact enter_move task backend d _
        · exact .keep (.refl d)
  | deletingTask task guard =>
      have quiet : d.Quiet (d.deleteTask task).2 := d.write_quiet _ _ _
      simp only [turn]
      split <;> rename_i eq <;> rw [eq] at quiet
      · exact .release rfl quiet
      · exact .keep quiet
  | deletingRecords task guard =>
      have quiet : d.Quiet (d.deleteRecords task).2 := d.write_quiet _ _ _
      simp only [turn]
      split <;> rename_i eq <;> rw [eq] at quiet
      · exact .release rfl quiet
      · exact .release rfl (quiet.trans (.of_same rfl rfl rfl rfl rfl))

/-- What a deletion comes to that looks whether the task is inactive. -/
inductive Looks (task : String) (b : Place) (d : Daemon) : Outcome → Prop where
  | missing (absent : d.registry.find? task = none) : Looks task b d (.done (.ok ()), d)
  | busy {e : Entry Place} (found : d.registry.find? task = some e) (active : e.active = true) :
      Looks task b d (.next (.queued task b (d.clock + Activation.poll)), d)
  | removes {e : Entry Place} {d' : Daemon} (found : d.registry.find? task = some e)
      (inactive : e.active = false)
      (rest : ∀ name, d'.registry.find? name =
        if name = task then none else d.registry.find? name) :
      Looks task b d (.next (.deletingTask task ⟨e.id⟩), d')

theorem enter_looks (task : String) (b : Place) (d : Daemon) : Looks task b d (enter task b d) := by
  unfold enter
  rcases Activation.look_cases task d with
    ⟨absent, look⟩ | ⟨e, found, active, look⟩ | ⟨g, d₁, taken, look⟩
  · rw [look]
    exact .missing absent
  · rw [look]
    exact .busy found active
  · rw [look]
    obtain ⟨r, activated, rfl⟩ := Daemon.tryActivate_eq_some taken
    obtain ⟨e, found, inactive, rfl, change⟩ := Registry.tryActivate_eq_some activated
    have registry : (if ({ d with registry := r } : Daemon).taskOf b |>.isScheduled then
        ({ d with registry := r } : Daemon).stopTimer task
        else { d with registry := r }).registry = r := by
      split
      · obtain ⟨ts, hs, stops, stopped⟩ := Daemon.stopTimer_frame { d with registry := r } task
        rw [stopped]
      · rfl
    simp only [entered, registry]
    cases removed : r.delete task with
    | error failure =>
        have absent := Registry.delete_eq_error removed
        rw [change, Registry.find?_activate, found] at absent
        cases absent
    | ok s =>
        refine .removes found inactive fun name => ?_
        show s.find? name = _
        rw [Registry.find?_delete removed]
        split
        · rfl
        next other =>
          rw [change, Registry.find?_activate, beq_false_of_ne other]
          cases d.registry.find? name with
          | none => rfl
          | some f => simp

/-- What a turn of a deletion comes to. -/
inductive Acts (token : Token) (d : Daemon) : Phase → Outcome → Prop where
  | nobody {task : String} (absent : d.registry.find? task = none) :
      Acts token d (.start task) (.done (.ok ()), d)
  | begins {task : String} {b : Place} {out : Outcome} (looks : Looks task b d out) :
      Acts token d (.start task) out
  | canceled {task : String} {b : Place} {due : Nat} (canceled : d.isCanceled token = true) :
      Acts token d (.queued task b due) (.done (.error .canceled), d)
  | again {task : String} {b : Place} {due : Nat} {out : Outcome} (looks : Looks task b d out) :
      Acts token d (.queued task b due) out
  | waits {task : String} {b : Place} {due : Nat} (on : List Wait) :
      Acts token d (.queued task b due) (.wait on, d)
  | clears {task : String} {g : Guard} {d' : Daemon} (registry : d'.registry = d.registry) :
      Acts token d (.deletingTask task g) (.next (.deletingRecords task g), d')
  | fails {task : String} {g : Guard} {d' : Daemon} (r : Result)
      (registry : d'.registry = d.registry.release g) :
      Acts token d (.deletingTask task g) (.done r, d')
  | ends {task : String} {g : Guard} {d' : Daemon} (r : Result)
      (registry : d'.registry = d.registry.release g) :
      Acts token d (.deletingRecords task g) (.done r, d')

theorem turn_acts (token : Token) (p : Phase) (d : Daemon) :
    Acts token d p (turn token p d) := by
  cases p with
  | start task =>
      simp only [turn]
      split
      next unknown => exact .nobody (Registry.get?_eq_none.mp unknown)
      next b _ => exact .begins (enter_looks task b d)
  | queued task b due =>
      simp only [turn]
      split
      next canceled => exact .canceled canceled
      split
      · exact .again (enter_looks task b d)
      · exact .waits _
  | deletingTask task g =>
      obtain ⟨s, faults, after, _⟩ := d.write_frame .deleteTask task (·.deleteTask task)
      replace after : (d.deleteTask task).2 = _ := after
      simp only [turn]
      split <;> rename_i eq <;> rw [eq] at after <;> cases after
      · exact .fails _ rfl
      · exact .clears rfl
  | deletingRecords task g =>
      obtain ⟨s, faults, after, _⟩ := d.write_frame .deleteRecords task (·.deleteRecords task)
      replace after : (d.deleteRecords task).2 = _ := after
      simp only [turn]
      split <;> rename_i eq <;> rw [eq] at after <;> cases after
      · exact .ends _ rfl
      · exact .ends _ rfl

/-- A deletion is about one name from beginning to end. -/
theorem turn_task {token : Token} {p p' : Phase} {d : Daemon} (h : (turn token p d).1 = .next p') :
    p'.task = p.task := by
  generalize acted : turn token p d = out at h
  have acts := turn_acts token p d
  rw [acted] at acts
  cases acts with
  | begins looks | again looks =>
      cases looks with
      | missing => cases h
      | busy | removes =>
          cases h
          rfl
  | clears =>
      cases h
      rfl
  | nobody | canceled | waits | fails | ends => cases h

/-- A deletion goes on to the store when it has taken out an entry. -/
theorem turn_next {token : Token} {p : Phase} {d : Daemon} {task : String} {g : Guard}
    (h : (turn token p d).1 = .next (.deletingTask task g)) :
    (∃ e, d.registry.find? task = some e) ∧ (turn token p d).2.registry.find? task = none := by
  generalize acted : turn token p d = out at h ⊢
  have acts := turn_acts token p d
  rw [acted] at acts
  cases acts with
  | begins looks | again looks =>
      cases looks with
      | missing | busy => cases h
      | removes found _ rest =>
          cases h
          exact ⟨⟨_, found⟩, (rest task).trans (if_pos rfl)⟩
  | nobody | canceled | waits | clears | fails | ends => cases h

end Deletion

namespace Creation

/-- A turn of a creation: a move, or the registration of its backend, whose task is stored next. -/
inductive Advance (p : Phase) (d : Daemon) (out : Outcome) : Prop where
  | move (m : Move (fun _ => False) p.stake (out.1.stake Phase.stake p) d out.2)
      (unregistered : ∀ task, out.1 ≠ .next (.storing task))
  | register {b : Place} {ids : List String} {r : Registry Place} (before : p.stake = .fresh b)
      (phase : out.1 = .next (.storing (out.2.taskOf b))) (steady : d.Steady out.2)
      (path : Registry.Path (¬ d.Avoids .unregister) (fun _ => False) none d.registry none r)
      (added : r.add (d.taskOf b).name b ids = .ok out.2.registry)

theorem Advance.progress {p : Phase} {d : Daemon} {out : Outcome} (h : Advance p d out) :
    Progress (fun _ => False) p.stake (out.1.stake Phase.stake p) d out.2 := by
  cases h with
  | move m _ => exact .move m
  | register before phase steady path added =>
      exact .enlist before (by rw [phase]; rfl) steady path added

/-- The task that is registered and not stored yet. -/
def Phase.storing? : Phase → Option Task
  | .storing task => some task
  | _ => none

/-- The creation keeps its backend, and nothing is registered. -/
theorem Advance.keep {p p' : Phase} {d d' : Daemon} (quiet : d.Quiet d')
    (same : p'.stake = p.stake) (unregistered : p'.storing? = none) :
    Advance p d (.next p', d') := by
  refine .move (.of_path (.inl same) quiet.toSteady ?_) fun task h => ?_
  · rw [show (Turn.next p' : Turn Phase Result).stake Phase.stake p = p'.stake from rfl, same]
    exact quiet.path _ _
  · rw [Turn.next.inj h] at unregistered
    cases unregistered

theorem Advance.wait {p : Phase} {d d' : Daemon} (quiet : d.Quiet d') (on : List Wait) :
    Advance p d (.wait on, d') := by
  refine .move (.keep quiet) fun task no => ?_
  cases no

theorem Phase.unguarded (p : Phase) : p.stake.guard? = none := by
  cases p <;> rfl

theorem Advance.done {p : Phase} {d d' : Daemon} (quiet : d.Quiet d') (r : Result) :
    Advance p d (.done r, d') := by
  refine .move (.leave p.unguarded quiet) fun task no => ?_
  cases no

/-- A backend is registered under the name of its task, or goes if the name is taken. -/
theorem register_advance {p : Phase} {b : Place} {d d₁ : Daemon} (fresh : p.stake = .fresh b)
    (quiet : d.Quiet d₁) (inside : b < d.backends.size) : Advance p d (register b d₁) := by
  have called := quiet.trans (d₁.call_aside b .buffer).quiet
  have name : ((d₁.call b .buffer).taskOf b).name = (d.taskOf b).name :=
    called.toSteady.name inside
  unfold register
  simp only
  split
  · exact .keep called fresh.symm rfl
  next registry added =>
    rw [name] at added
    exact .register fresh rfl (called.toSteady.trans (.of_same rfl rfl rfl rfl))
      (called.path _ none) added

theorem rendered_advance {p : Phase} {b : Place} {d d₁ : Daemon} (fresh : p.stake = .fresh b)
    (quiet : d.Quiet d₁) (inside : b < d.backends.size) (goal : Goal) :
    Advance p d (rendered goal b d₁) := by
  have called := quiet.trans (d₁.call_aside b .override).quiet
  unfold rendered
  simp only
  split
  · exact .keep called fresh.symm rfl
  · exact register_advance fresh called inside
  · split
    · exact .keep (called.trans (.of_same rfl rfl rfl rfl rfl)) fresh.symm rfl
    · exact register_advance fresh called inside

theorem render_advance (token : Token) (goal : Goal) (t : Trial) (call : Pending) (d : Daemon)
    (inside : t.backend < d.backends.size) :
    Advance (.rendering t call) d (render token goal t call d) := by
  unfold render
  simp only
  split
  · exact .done (.refl d) _
  split
  · exact .keep (.refl d) rfl rfl
  split
  · exact .keep (d.call_aside t.backend .override).quiet rfl rfl
  · obtain ⟨lines, _, aside⟩ :=
      TimedCall.render.turn_aside TimedCall.render_takes t.backend token call d
    have quiet := aside.quiet
    split <;> rename_i eq <;> rw [eq] at quiet
    · exact .keep quiet rfl rfl
    · exact .wait quiet _
    · exact rendered_advance rfl quiet inside goal
    · exact .keep quiet rfl rfl
    · exact .keep quiet rfl rfl

theorem begin_advance (conf : TaskConfig) (d : Daemon) :
    Advance (.start conf) d (begin conf d) := by
  unfold begin
  simp only
  split
  · exact .done (.refl d) _
  split
  · exact .done (.refl d) _
  split
  · exact .done (.refl d) _
  · exact .keep (.refl d) rfl rfl

/-- `inside` says that the backend the creation knows was made before. -/
theorem turn_advance (token : Token) (goal : Goal) (p : Phase) (d : Daemon)
    (inside : ∀ b, p.stake = .fresh b → b < d.backends.size) :
    Advance p d (turn token goal p d) := by
  cases p with
  | start conf => exact begin_advance conf d
  | making task =>
      simp only [turn]
      split <;> rename_i eq
      · exact .done (Daemon.make_quiet eq) _
      next b d₁ =>
        have quiet := Daemon.make_quiet eq
        obtain ⟨next, label, made, script, after, _⟩ := Daemon.make_eq_ok eq
        refine .move ⟨quiet.toSteady, quiet.path _ none, nofun, nofun, fun b' same => ?_⟩
          (fun task h => by cases h)
        cases same
        refine .inr ⟨next, ?_⟩
        rw [next, after]
        show _ < (d.backends.push _).size
        rw [Array.size_push]
        exact Nat.lt_succ_self _
  | rendering t call => exact render_advance token goal t call d (inside _ rfl)
  | pausing t due =>
      simp only [turn]
      split
      · exact .done (.refl d) _
      · split
        · exact .keep (.refl d) rfl rfl
        · exact .wait (.refl d) _
  | destroying b result => exact .done (d.call_aside b .destroy).quiet _
  | applying b record call =>
      obtain ⟨lines, _, aside⟩ :=
        TimedCall.apply.turn_aside TimedCall.apply_takes b token call d
      have quiet := aside.quiet
      simp only [turn]
      split <;> rename_i eq <;> rw [eq] at quiet
      · exact .keep quiet rfl rfl
      · exact .wait quiet _
      · exact .done quiet _
      · exact .keep (quiet.trans (.of_same rfl rfl rfl rfl rfl)) rfl rfl
  | recording b record =>
      have quiet : d.Quiet (d.addRecord record) := d.write_quiet _ _ _
      exact register_advance rfl (quiet.trans (Daemon.notifyCompletion_quiet _ _)) (inside _ rfl)
  | storing task =>
      have quiet : d.Quiet (d.setTask task.toConfig).2 := d.write_quiet _ _ _
      simp only [turn]
      split <;> rename_i eq <;> rw [eq] at quiet
      next e d₁ => exact .done (quiet.trans (d₁.requestDeletion_quiet task.name)) _
      next d₁ =>
        refine .done (quiet.trans ?_) _
        split
        · exact (d₁.announceSchedule_quiet task.name).trans (.of_same rfl rfl rfl rfl rfl)
        · exact .of_same rfl rfl rfl rfl rfl
  | inspecting b => exact .keep (d.inspect_aside b).quiet rfl rfl

end Creation

end TaskSync
