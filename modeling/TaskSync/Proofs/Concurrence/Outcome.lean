import TaskSync.Proofs.Daemon.Spares

/-!
# What a creation leaves in the store

A creation that fails leaves the store as it was. One that succeeds has stored the canonical
configuration of its task and, if the task is enabled, added one record of a successful run. So as
long as no hook switches tasks, what it leaves under its name is settled by its configuration and by
what was there before, however long it took.
-/

namespace TaskSync

/-- The record of a run that succeeded, but for its identifier and its times. -/
def Task.bareRecord (t : Task) : RunRecord :=
  ⟨.ofSerial 0, t.name, true, none, none, none, .ofTask t⟩

/-- The records of a task after it was created and, if it is enabled, has run. -/
def MemoryStore.recordsAfter (s : MemoryStore) (t : Task) : List RunRecord :=
  if t.enabled then (t.bareRecord :: s.bareRecords t.name).take s.config.eventHistory
  else s.bareRecords t.name

/-- Hooks that switch nothing leave the flag. -/
theorem Backend.flagAfter_of_avoids {hooks : List Hook} (on : Bool) (calls : List CallKind)
    (noEnable : ∀ h ∈ hooks, Action.enable ∉ h.actions)
    (noDisable : ∀ h ∈ hooks, Action.disable ∉ h.actions) : flagAfter hooks on calls = on := by
  have idle (actions : List Action) (flag : Bool) (noEnable : Action.enable ∉ actions)
      (noDisable : Action.disable ∉ actions) : actions.foldl Action.flag flag = flag := by
    induction actions with
    | nil => rfl
    | cons a actions ih =>
        have same : Action.flag flag a = flag := by
          cases a with
          | enable => exact absurd List.mem_cons_self noEnable
          | disable => exact absurd List.mem_cons_self noDisable
          | _ => rfl
        rw [List.foldl_cons, same]
        exact ih (fun here => noEnable (.tail _ here)) fun here => noDisable (.tail _ here)
  induction calls with
  | nil => rfl
  | cons kind calls ih =>
      rw [flagAfter, ih]
      refine idle _ on (fun here => ?_) fun here => ?_
      · obtain ⟨h, chosen, has⟩ := List.mem_flatMap.mp here
        exact noEnable h (List.mem_filter.mp chosen).1 has
      · obtain ⟨h, chosen, has⟩ := List.mem_flatMap.mp here
        exact noDisable h (List.mem_filter.mp chosen).1 has

theorem Leads.and {π ρ : Type} {inv inv' : π → Daemon → Prop} {post post' : ρ → Daemon → Prop}
    {p : π} {out : Turn π ρ × Daemon} (h : Leads inv post p out) (h' : Leads inv' post' p out) :
    Leads (fun p d => inv p d ∧ inv' p d) (fun r d => post r d ∧ post' r d) p out := by
  cases h with
  | next kept =>
      cases h' with
      | next kept' => exact .next ⟨kept, kept'⟩
  | wait kept =>
      cases h' with
      | wait kept' => exact .wait ⟨kept, kept'⟩
  | done shown =>
      cases h' with
      | done shown' => exact .done ⟨shown, shown'⟩

namespace Creation

/-! ### Failures -/

/-- The store is as it was, unless the task is registered already. -/
def Phase.Untouched (d₀ d : Daemon) : Phase → Prop
  | .storing _ => True
  | _ => d.store = d₀.store

section

variable {d₀ d d' : Daemon} {conf : TaskConfig} {p : Phase}
variable {history : Task → List Hook → List CallKind → Prop}

theorem Holds.attended {kinds : List CallKind} (h : Holds d₀ conf d history)
    (attends : d.Attends d₀.backends.size kinds d') : Holds d₀ conf d' fun _ _ _ => True :=
  h.attends attends fun _ _ _ _ => trivial

/-- A backend whose name is free is registered. -/
theorem register_next (h : Holds d₀ conf d history) : ∃ listed, register d₀.backends.size d =
    (.next (.storing ((d.call d₀.backends.size .buffer).taskOf d₀.backends.size)),
      { d.call d₀.backends.size .buffer with registry := listed }) := by
  have called := h.attended (Daemon.call_attends h.unlisted .buffer)
  obtain ⟨task, hooks, kinds, accepts, registry, raised, -⟩ := called
  unfold register
  simp only
  rw [raised.name]
  split
  next e failed =>
    obtain ⟨⟨f, found⟩, -⟩ := Registry.add_eq_error failed
    rw [registry, accepts.free] at found
    cases found
  next listed added => exact ⟨listed, rfl⟩

theorem register_untouched {post : Result → Daemon → Prop} (h : Holds d₀ conf d history) :
    Leads (fun p d => p.Untouched d₀ d) post p (register d₀.backends.size d) := by
  obtain ⟨listed, went⟩ := register_next h
  rw [went]
  exact .next trivial

theorem render_untouched (token : Token) {t : Trial} (call : Pending)
    (tends : (Phase.rendering t call).Tends .runAndAdd d₀ conf d) (untouched : d.store = d₀.store) :
    Leads (fun p d => p.Untouched d₀ d) (fun r d => ∀ e, r = .error e → d.store = d₀.store)
      (.rendering t call) (render token .runAndAdd t call d) := by
  obtain ⟨place, held⟩ := tends
  have attends := TimedCall.render.turn_attends TimedCall.render_takes token call held.unlisted
  have timed := held.attended attends
  have kept : (TimedCall.render.turn d₀.backends.size token call d).2.store = d₀.store :=
    attends.store.trans untouched
  unfold render
  simp only
  split
  · exact .done fun _ _ => untouched
  split
  · exact .next untouched
  split
  · exact .next ((d.call_aside t.backend .override).store.trans untouched)
  · rw [place]
    split <;> rename_i eq <;> rw [eq] at kept timed
    · exact .next kept
    · exact .wait kept
    next d₁ =>
      have called := timed.attended (Daemon.call_attends timed.unlisted .override)
      unfold rendered
      simp only
      split
      · exact .next ((d₁.call_aside d₀.backends.size .override).store.trans kept)
      · exact register_untouched called
    · exact .next kept
    · exact .next kept

theorem turn_untouched (reliable : d₀.Reliable) (token : Token)
    (tends : p.Tends .runAndAdd d₀ conf d) (h : p.Untouched d₀ d) :
    Leads (fun p d => p.Untouched d₀ d) (fun r d => ∀ e, r = .error e → d.store = d₀.store) p
      (turn token .runAndAdd p d) := by
  cases p with
  | start c =>
      simp only [turn, begin]
      split
      · exact .done fun _ _ => h
      split
      · exact .done fun _ _ => h
      split
      · exact .done fun _ _ => h
      · exact .next h
  | making t =>
      simp only [turn]
      split <;> rename_i made <;> obtain ⟨-, -, -, store, -, -⟩ := Daemon.make_made made
      · exact .done fun _ _ => store.trans h
      · exact .next (store.trans h)
  | rendering t call => exact render_untouched token call tends h
  | pausing t due =>
      simp only [turn]
      split
      · exact .done fun _ _ => h
      split
      · exact .next h
      · exact .wait h
  | destroying b result => exact .done fun _ _ => (d.call_aside b .destroy).store.trans h
  | applying b record call =>
      obtain ⟨lines, -, aside⟩ := TimedCall.apply.turn_aside TimedCall.apply_takes b token call d
      have kept := aside.store.trans h
      simp only [turn]
      split <;> rename_i eq <;> rw [eq] at kept
      · exact .next kept
      · exact .wait kept
      · exact .done fun _ _ => kept
      · exact .next kept
  | recording b record =>
      obtain ⟨rfl, held⟩ := tends
      have stored := (Daemon.Unmoved.write d .addRecord record.taskName
        fun s => (rfl : (s.addRecord record).config = s.config)).trans
        (.notifyCompletion _ record.taskName)
      exact register_untouched (held.unmoved stored)
  | storing own =>
      obtain ⟨task', adds, -⟩ := tends
      obtain ⟨hooks, before, -, raised⟩ := adds.raised
      obtain ⟨faults, stored, -⟩ :=
        Daemon.setTask_ok (raised.steady.reliable reliable) own.toConfig
      simp only [turn, stored]
      exact .done fun e failed => by cases failed
  | inspecting b => exact tends.elim

theorem Phase.Untouched.drifts (h : p.Untouched d₀ d) (drift : d.Drifts d') :
    p.Untouched d₀ d' := by
  have store := drift.store
  cases p <;> simp only [Untouched, store] at h ⊢ <;> exact h

/-- A creation that fails leaves the store as it was. -/
theorem untouched_of_finishes (reliable : d₀.Reliable) {token : Token} {e : Failure}
    (h : Finishes (turn token .runAndAdd) (.start conf) d₀ (.error e) d) : d.store = d₀.store := by
  have acts : Goal.runAndAdd ≠ .inspect := by decide
  have ends := h.induct (fun p d => p.Tends .runAndAdd d₀ conf d ∧ p.Untouched d₀ d)
    (fun r d => Ends .runAndAdd d₀ conf d r ∧ ∀ e, r = .error e → d.store = d₀.store)
    (fun p _ inv => (turn_leads acts reliable token p inv.1).and
      (turn_untouched reliable token inv.1 inv.2))
    (fun p d d' inv drift => ⟨inv.1.drifts drift, inv.2.drifts drift⟩)
    ⟨⟨rfl, .refl d₀, rfl⟩, rfl⟩
  exact ends.2 e rfl

end

/-! ### Successes -/

/-- What a creation has stored and recorded on its way to add the task. -/
def Phase.Owes (d₀ : Daemon) (task : Task) (d : Daemon) : Phase → Prop
  | .applying _ record _ =>
    d.store = d₀.store ∧ task.enabled = true ∧
      record.bare = { task.bareRecord with success := false }
  | .recording _ record =>
    d.store = d₀.store ∧ task.enabled = true ∧ record.bare = task.bareRecord
  | .storing own => own = task ∧ d.store.bareRecords task.name = d₀.store.recordsAfter task
  | _ => d.store = d₀.store

/-- What it has stored and recorded when it has added the task. -/
def Pays (d₀ : Daemon) (task : Task) (r : Result) (d : Daemon) : Prop :=
  ∀ c, r = .ok c → d.store.getTask task.name = some task.toConfig ∧
    d.store.bareRecords task.name = d₀.store.recordsAfter task

section

variable {d₀ d d' : Daemon} {conf : TaskConfig} {task : Task} {p : Phase} {token : Token}
variable {history : Task → List Hook → List CallKind → Prop}

theorem Pays.failed (e : Failure) : Pays d₀ task (.error e) d := fun c h => by cases h

variable (accepts : Accepts d₀ conf task) (noEnable : d₀.Avoids .enable)
  (noDisable : d₀.Avoids .disable)

include accepts noEnable noDisable

/-- The backend of the creation has its task as it was made. -/
theorem Holds.taskOf (h : Holds d₀ conf d history) : d.taskOf d₀.backends.size = task := by
  obtain ⟨task', hooks, kinds, accepts', -, raised, -⟩ := h
  obtain rfl : task' = task := Except.ok.inj (accepts'.made.symm.trans accepts.made)
  have avoids (a : Action) (asked : d₀.Avoids a) : ∀ h ∈ hooks, a ∉ h.actions := by
    rw [← raised.script]
    exact (raised.steady.avoids a asked).made _
  rw [raised.taskOf, Backend.flagAfter_of_avoids _ _ (avoids _ noEnable) (avoids _ noDisable)]

theorem register_owes (h : Holds d₀ conf d history)
    (recorded : d.store.bareRecords task.name = d₀.store.recordsAfter task) :
    Leads (fun p d => p.Owes d₀ task d) (Pays d₀ task) p (register d₀.backends.size d) := by
  have attends := Daemon.call_attends h.unlisted .buffer
  obtain ⟨listed, went⟩ := register_next h
  rw [went, (h.attended attends).taskOf accepts noEnable noDisable]
  refine .next ⟨rfl, ?_⟩
  show (d.call d₀.backends.size .buffer).store.bareRecords task.name = _
  rw [attends.store]
  exact recorded

theorem rendered_owes (h : Holds d₀ conf d fun _ _ kinds => Tries kinds)
    (untouched : d.store = d₀.store) :
    Leads (fun p d => p.Owes d₀ task d) (Pays d₀ task) p
      (rendered .runAndAdd d₀.backends.size d) := by
  have attends := Daemon.call_attends h.unlisted .override
  have called := h.attended attends
  have kept : (d.call d₀.backends.size .override).store = d₀.store :=
    attends.store.trans untouched
  unfold rendered
  simp only
  rw [called.taskOf accepts noEnable noDisable]
  split
  next enabled => exact .next ⟨kept, enabled, rfl⟩
  next disabled =>
    refine register_owes accepts noEnable noDisable called ?_
    rw [kept, MemoryStore.recordsAfter, if_neg disabled]

theorem render_owes (token : Token) {t : Trial} (call : Pending)
    (h : (Phase.rendering t call).Tends .runAndAdd d₀ conf d) (untouched : d.store = d₀.store) :
    Leads (fun p d => p.Owes d₀ task d) (Pays d₀ task) (.rendering t call)
      (render token .runAndAdd t call d) := by
  obtain ⟨place, held⟩ := h
  have attends := TimedCall.render.turn_attends TimedCall.render_takes token call held.unlisted
  have held' := held.renders token call
  have kept : (TimedCall.render.turn d₀.backends.size token call d).2.store = d₀.store :=
    attends.store.trans untouched
  unfold render
  simp only
  split
  · exact .done (.failed _)
  split
  · exact .next untouched
  split
  · exact .next ((d.call_aside t.backend .override).store.trans untouched)
  · rw [place]
    split <;> rename_i eq <;> rw [eq] at held' kept
    · exact .next kept
    · exact .wait kept
    · exact rendered_owes accepts noEnable noDisable held' kept
    · exact .next kept
    · exact .next kept

omit accepts noEnable noDisable in
theorem apply_owes (token : Token) {b : Place} {record : RunRecord} (call : Pending)
    (h : (Phase.applying b record call).Owes d₀ task d) :
    Leads (fun p d => p.Owes d₀ task d) (Pays d₀ task) (.applying b record call)
      (turn token .runAndAdd (.applying b record call) d) := by
  obtain ⟨untouched, enabled, same⟩ := h
  obtain ⟨lines, -, aside⟩ := TimedCall.apply.turn_aside TimedCall.apply_takes b token call d
  have kept : (TimedCall.apply.turn b token call d).2.store = d₀.store :=
    aside.store.trans untouched
  simp only [turn]
  split <;> rename_i eq <;> rw [eq] at kept
  · exact .next ⟨kept, enabled, same⟩
  · exact .wait ⟨kept, enabled, same⟩
  · exact .done (.failed _)
  next d' =>
    refine .next ⟨kept, enabled, ?_⟩
    have succeeds : (record.succeed d'.wall).bare =
        { record.bare with success := true, error := none } :=
      rfl
    rw [succeeds, same]
    rfl

theorem record_owes (reliable : d₀.Reliable) (token : Token) {b : Place} {record : RunRecord}
    (h : (Phase.recording b record).Tends .runAndAdd d₀ conf d)
    (owes : (Phase.recording b record).Owes d₀ task d) :
    Leads (fun p d => p.Owes d₀ task d) (Pays d₀ task) (.recording b record)
      (turn token .runAndAdd (.recording b record) d) := by
  obtain ⟨rfl, held⟩ := h
  obtain ⟨untouched, enabled, same⟩ := owes
  have own : d.Reliable := by
    obtain ⟨task, hooks, kinds, -, -, raised, -⟩ := held
    exact raised.steady.reliable reliable
  have about : record.taskName = task.name :=
    (RunRecord.bare_taskName same : _ = task.bareRecord.taskName)
  have stored := (Daemon.Unmoved.write d .addRecord record.taskName
    fun s => (rfl : (s.addRecord record).config = s.config)).trans
    (.notifyCompletion _ record.taskName)
  refine register_owes accepts noEnable noDisable (held.unmoved stored) ?_
  obtain ⟨faults, after, -⟩ := Daemon.addRecord_ok own record
  obtain ⟨c, noted⟩ := (d.addRecord record).notifyCompletion_frame record.taskName
  show ((d.addRecord record).notifyCompletion record.taskName).store.bareRecords task.name = _
  rw [noted]
  show (d.addRecord record).store.bareRecords task.name = _
  rw [after]
  show (d.store.addRecord record).bareRecords task.name = _
  rw [← about, MemoryStore.bareRecords_addRecord, MemoryStore.recordsAfter, if_pos enabled, same,
    about, untouched]

omit accepts noEnable noDisable in
theorem store_owes (reliable : d.Reliable) (token : Token) {own : Task}
    (h : (Phase.storing own).Owes d₀ task d) :
    Leads (fun p d => p.Owes d₀ task d) (Pays d₀ task) (.storing own)
      (turn token .runAndAdd (.storing own) d) := by
  obtain ⟨rfl, recorded⟩ := h
  obtain ⟨faults, stored, -⟩ := Daemon.setTask_ok reliable own.toConfig
  simp only [turn, stored]
  refine .done fun c _ => ⟨?_, ?_⟩
  · rw [(Daemon.Spares.announced own.name _ own _).task]
    exact (MemoryStore.getTask_setTask own.toConfig).trans (if_pos rfl)
  · rw [(Daemon.Spares.announced own.name _ own _).bareRecords]
    exact recorded

theorem turn_owes (reliable : d₀.Reliable) (token : Token) (tends : p.Tends .runAndAdd d₀ conf d)
    (owes : p.Owes d₀ task d) :
    Leads (fun p d => p.Owes d₀ task d) (Pays d₀ task) p (turn token .runAndAdd p d) := by
  cases p with
  | start c =>
      simp only [turn, begin]
      split
      · exact .done (.failed _)
      split
      · exact .done (.failed _)
      split
      · exact .done (.failed _)
      · exact .next owes
  | making t =>
      simp only [turn]
      split
      · exact .done (.failed _)
      next made =>
        obtain ⟨-, -, -, store, -, -⟩ := Daemon.make_made made
        exact .next (store.trans owes)
  | rendering t call => exact render_owes accepts noEnable noDisable token call tends owes
  | pausing t due =>
      simp only [turn]
      split
      · exact .done (.failed _)
      split
      · exact .next owes
      · exact .wait owes
  | destroying b result =>
      obtain ⟨-, ⟨e, rfl⟩, -⟩ := tends
      exact .done (.failed e)
  | applying b record call => exact apply_owes token call owes
  | recording b record => exact record_owes accepts noEnable noDisable reliable token tends owes
  | storing own =>
      obtain ⟨task', adds, -⟩ := tends
      obtain ⟨hooks, before, -, raised⟩ := adds.raised
      exact store_owes (raised.steady.reliable reliable) token owes
  | inspecting b => exact tends.elim

omit accepts noEnable noDisable in
/-- What a creation leaves under its name that succeeds. -/
theorem pays_of_finishes (reliable : d₀.Reliable) (noEnable : d₀.Avoids .enable)
    (noDisable : d₀.Avoids .disable) {c : Created}
    (h : Finishes (turn token .runAndAdd) (.start conf) d₀ (.ok c) d) :
    ∃ task, Accepts d₀ conf task ∧ d.store.getTask task.name = some task.toConfig ∧
      d.store.bareRecords task.name = d₀.store.recordsAfter task := by
  have acts : Goal.runAndAdd ≠ .inspect := by decide
  obtain ⟨task, adds, -⟩ := ends_of_finishes acts reliable h
  have accepts := adds.accepts
  have ends := h.induct (fun p d => p.Tends .runAndAdd d₀ conf d ∧ p.Owes d₀ task d)
    (fun r d => Ends .runAndAdd d₀ conf d r ∧ Pays d₀ task r d)
    (fun p _ inv => (turn_leads acts reliable token p inv.1).and
      (turn_owes accepts noEnable noDisable reliable token inv.1 inv.2))
    (fun p d d' inv drift => ⟨inv.1.drifts drift, ?_⟩) ⟨⟨rfl, .refl d₀, rfl⟩, rfl⟩
  · exact ⟨task, accepts, ends.2 c rfl⟩
  · have owes := inv.2
    have store := drift.store
    cases p <;> simp only [Phase.Owes, store] at owes ⊢ <;> exact owes

end

end Creation

end TaskSync
