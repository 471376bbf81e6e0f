import Mathlib.Data.List.Forall2
import TaskSync.Proofs.Daemon.Traces
import TaskSync.Proofs.Operation.Creates
import TaskSync.Proofs.Traffic.Exclusion

/-!
# What a creation leaves behind

A creation that fails leaves nothing behind, nor does one that inspects its task. The exceptions are
two: a run of the new task stays announced when the name turns out to be taken by then, and a task
that is registered but cannot be stored is left to be deleted. This holds of the turns of the
creation alone, whatever others do between them; and whatever it leaves is about the task that was
asked for.
-/

namespace TaskSync

open Daemon (Imprints)

/-- The turns of an operation from a phase to its end, each with the daemon that it finds and the
one that it leaves. What happens between two turns is left open. -/
inductive Passage {π ρ : Type} (turn : π → Daemon → Turn π ρ × Daemon) :
    π → List (π × Daemon × Daemon) → ρ → Prop where
  | done {p : π} {d d' : Daemon} {r : ρ} (turned : turn p d = (.done r, d')) :
      Passage turn p [(p, d, d')] r
  | next {p p' : π} {d d' : Daemon} {steps : List (π × Daemon × Daemon)} {r : ρ}
      (turned : turn p d = (.next p', d')) (rest : Passage turn p' steps r) :
      Passage turn p ((p, d, d') :: steps) r
  | wait {p : π} {on : List Wait} {d d' : Daemon} {steps : List (π × Daemon × Daemon)} {r : ρ}
      (turned : turn p d = (.wait on, d')) (rest : Passage turn p steps r) :
      Passage turn p ((p, d, d') :: steps) r

theorem Passage.head {π ρ : Type} {turn : π → Daemon → Turn π ρ × Daemon} {p : π}
    {steps : List (π × Daemon × Daemon)} {r : ρ} (h : Passage turn p steps r) :
    ∃ d d' later, steps = (p, d, d') :: later := by
  cases h with
  | done => exact ⟨_, _, _, rfl⟩
  | next => exact ⟨_, _, _, rfl⟩
  | wait => exact ⟨_, _, _, rfl⟩

section Inversion

variable {π ρ : Type} {turn : π → Daemon → Turn π ρ × Daemon} {p p' : π} {d d' d₁ : Daemon}
variable {later : List (π × Daemon × Daemon)} {r r' : ρ}

end Inversion

/-- Turns that do not have to wait and follow one another at once. What all of them keep is kept in
the end. -/
theorem Passage.of_settle {π ρ : Type} {turn : π → Daemon → Turn π ρ × Daemon} {fuel : Nat} {p : π}
    {d d' : Daemon} {r : ρ} (h : settle turn fuel p d = (.ended r, d')) :
    ∃ d₁ later, Passage turn p ((p, d, d₁) :: later) r ∧
      ((p, d, d₁) :: later).IsChain (fun before after => after.2.1 = before.2.2) ∧
      ∀ {α : Type} (f : Daemon → α),
        (∀ step ∈ (p, d, d₁) :: later, f step.2.2 = f step.2.1) → f d' = f d := by
  induction fuel generalizing p d with
  | zero => cases h
  | succ fuel ih =>
      unfold settle at h
      split at h
      next turned =>
        obtain ⟨d₂, later, rest, chain, keeps⟩ := ih h
        refine ⟨_, _, .next turned rest, .cons_cons rfl chain, fun f all => ?_⟩
        obtain ⟨first, others⟩ := List.forall_mem_cons.mp all
        exact (keeps f others).trans first
      · cases h
      next turned =>
        cases h
        exact ⟨_, [], .done turned, .singleton _, fun f all =>
          (List.forall_mem_cons.mp all).1⟩

/-- The task is to be deleted: its entry is marked, and a controller is asked to delete it unless
the mark was there. -/
structure Daemon.Withdraws (task : String) (d d' : Daemon) : Prop where
  marked : ∀ n, d'.registry.find? n =
    (d.registry.find? n).map fun e => { e with marked := e.marked || n == task }
  asked : d'.deletes =
    if d.registry.isMarked task then d.deletes else (d.deletes.offer? task).getD d.deletes

theorem Daemon.requestDeletion_withdraws (d : Daemon) (task : String) :
    d.Withdraws task (d.requestDeletion task) := by
  unfold requestDeletion
  cases marked : d.registry.isMarked task with
  | true =>
      refine ⟨fun n => ?_, by rw [marked]; rfl⟩
      show d.registry.find? n = _
      cases found : d.registry.find? n with
      | none => rfl
      | some e =>
          have same : (e.marked || n == task) = e.marked := by
            by_cases own : n = task
            · subst own
              have here : e.marked = true := by
                simpa only [Registry.isMarked, found, Option.any_some] using marked
              rw [here, Bool.true_or]
            · rw [beq_false_of_ne own, Bool.or_false]
          rw [Option.map_some, same]
  | false =>
      simp only [Bool.false_eq_true, if_false]
      split
      next box offered =>
        exact ⟨fun n => Registry.find?_mark, by rw [marked, offered]; rfl⟩
      next full =>
        exact ⟨fun n => Registry.find?_mark, by rw [marked, full]; rfl⟩

namespace Creation

/-! ### What is left in the end -/

/-- Neither was a task added, nor has the store refused it. -/
def Traceless : Result → Prop
  | .ok (.config _) | .error (.store _) => False
  | _ => True

/-- What storing the task leaves behind. If the store refuses it, its deletion is asked for. -/
inductive Stored (task : Task) : Result → List Trace → Prop where
  | refused (e : StoreError) : Stored task (.error (.store e)) [.deletion task.name]
  | stored : Stored task (.ok (.config task.toConfig))
      (.config task.toConfig :: ((if task.isScheduled then [.schedule task.name] else []) ++
        [.notice (.created task.name task.isScheduled)]))

/-- What is left from the turn on that registers the task. -/
inductive Registering : Result → List Trace → Prop where
  | lost (task : String) : Registering (.error (.alreadyExists task)) []
  | added {task : Task} {r : Result} {xs : List Trace} (b : Place) (templates : List String)
      (stores : Stored task r xs) : Registering r (.entry task.name b templates :: xs)

/-- What the run of a new task leaves behind: its record, unless the store refuses it. -/
inductive Ran : List Trace → Prop where
  | run (record : RunRecord) {kept : List Trace} (keeps : kept = [] ∨ kept = [.record record]) :
      Ran (.notice (.runCompleted record.taskName record.success record.error) ::
        (kept ++ [.completion record.taskName]))

/-- What a creation leaves behind that ends like this. -/
inductive Footprint (goal : Goal) : Result → List Trace → Prop where
  | nothing {r : Result} (traceless : Traceless r) : Footprint goal r []
  | added {r : Result} {xs : List Trace} (adds : goal ≠ .inspect) (registers : Registering r xs) :
      Footprint goal r xs
  | ran {r : Result} {run xs : List Trace} (runs : goal = .runAndAdd) (ran : Ran run)
      (registers : Registering r xs) : Footprint goal r (run ++ xs)

/-- What is left from a phase on. -/
def Phase.Leaves (goal : Goal) (r : Result) (xs : List Trace) : Phase → Prop
  | .start _ | .making _ | .rendering _ _ | .pausing _ _ => Footprint goal r xs
  | .applying _ _ _ => xs = [] ∧ Traceless r ∨
    ∃ run ys, xs = run ++ ys ∧ Ran run ∧ Registering r ys
  | .recording _ record => ∃ kept ys, xs = kept ++ .completion record.taskName :: ys ∧
    (kept = [] ∨ kept = [.record record]) ∧ Registering r ys
  | .storing task => Stored task r xs
  | .inspecting _ => xs = [] ∧ Traceless r
  | .destroying _ result => xs = [] ∧ r = result

/-! ### Turns -/

/-- The backend was made, and what the creation carries is about its task. -/
structure Phase.Apt (d : Daemon) (p : Phase) : Prop where
  inside : ∀ b, p.stake = .fresh b → b < d.backends.size
  names : ∀ name ∈ p.names, name = p.name d

/-- What a turn leaves behind, and what is left behind from its phase on. -/
inductive Marks (goal : Goal) (p : Phase) (d : Daemon) : Outcome → Prop where
  | next {p' : Phase} {d' : Daemon} {xs : List Trace} (left : Imprints p.stake.backend? xs d d')
      (about : p.Apt d → ∀ x ∈ xs, x.task = p.name d)
      (follows : ∀ r ys, p'.Leaves goal r ys → p.Leaves goal r (xs ++ ys)) :
      Marks goal p d (.next p', d')
  | wait {on : List Wait} {d' : Daemon} (left : Imprints p.stake.backend? [] d d') :
      Marks goal p d (.wait on, d')
  | done {r : Result} {d' : Daemon} {xs : List Trace} (left : Imprints p.stake.backend? xs d d')
      (about : p.Apt d → ∀ x ∈ xs, x.task = p.name d)
      (last : p.Leaves goal r xs) : Marks goal p d (.done r, d')

variable {goal : Goal} {p : Phase} {b : Place} {d d' : Daemon} {xs : List Trace}

/-- A turn that leaves nothing behind, with more to come. -/
theorem Marks.onward {p' : Phase} (left : Imprints p.stake.backend? [] d d')
    (follows : ∀ r ys, p'.Leaves goal r ys → p.Leaves goal r ys) :
    Marks goal p d (.next p', d') :=
  .next left (fun _ => List.forall_mem_nil _) follows

/-- A last turn that leaves nothing behind. -/
theorem Marks.over {r : Result} (left : Imprints p.stake.backend? [] d d')
    (last : p.Leaves goal r []) : Marks goal p d (.done r, d') :=
  .done left (fun _ => List.forall_mem_nil _) last

/-- The task is registered, or its name has been taken in the meantime. -/
theorem register_marks (own : p.stake = .fresh b) (before : Imprints (some b) xs d d')
    (steady : d.Steady d') (about : p.Apt d → ∀ x ∈ xs, x.task = p.name d)
    (follows : ∀ r ys, Registering r ys → p.Leaves goal r (xs ++ ys)) :
    Marks goal p d (register b d') := by
  have known : p.stake.backend? = some b := by
    rw [own]
    rfl
  have called := before.trans (.call d' b .buffer)
  rw [List.append_nil, ← known] at called
  unfold register
  simp only
  split
  next e refused =>
    obtain ⟨-, rfl⟩ := Registry.add_eq_error refused
    refine .next called about fun r ys here => ?_
    obtain ⟨rfl, rfl⟩ := here
    exact follows _ _ (.lost _)
  next registry added =>
    obtain ⟨free, -⟩ := Registry.add_eq_ok added
    have left : Imprints p.stake.backend? [.entry ((d'.call b .buffer).taskOf b).name b
        ((d'.call b .buffer).backend b).templates] (d'.call b .buffer) _ :=
      .leaves (Registry.contains_eq_false.mpr free)
    simp only [Trace.leave, added] at left
    refine .next (called.trans left) (fun apt => ?_) fun r ys here => ?_
    · refine List.forall_mem_append.mpr ⟨about apt, List.forall_mem_singleton.mpr ?_⟩
      rw [p.name_of_fresh own]
      exact (steady.trans (d'.call_aside b .buffer).steady).name (apt.inside b own)
    · rw [List.append_assoc]
      exact follows _ _ (.added _ _ here)

/-- The backend has rendered, and the task is run first if it is to be. -/
theorem rendered_marks {t : Trial} {call : Pending} (before : Imprints (some t.backend) [] d d')
    (steady : d.Steady d') : Marks goal (.rendering t call) d (rendered goal t.backend d') := by
  have called := before.trans (.call d' t.backend .override)
  have steady := steady.trans (d'.call_aside t.backend .override).steady
  unfold rendered
  cases goal with
  | inspect =>
      refine .onward called fun r ys here => ?_
      obtain ⟨rfl, traceless⟩ := here
      exact .nothing traceless
  | add =>
      exact register_marks rfl called steady (fun _ => List.forall_mem_nil _)
        fun r ys here => .added nofun here
  | runAndAdd =>
      simp only
      split
      · refine .onward (called.trans (.still ?_)) fun r ys here => ?_
        · exact ⟨⟨rfl, rfl, rfl, rfl, rfl, rfl⟩, fun _ _ => .refl _⟩
        · rcases here with ⟨rfl, traceless⟩ | ⟨run, zs, rfl, ran, registers⟩
          · exact .nothing traceless
          · exact (Footprint.ran rfl ran registers : Footprint .runAndAdd r (run ++ zs))
      · exact register_marks rfl called steady (fun _ => List.forall_mem_nil _)
          fun r ys here => .added nofun here

theorem render_marks (token : Token) (goal : Goal) (t : Trial) (call : Pending) (d : Daemon) :
    Marks goal (.rendering t call) d (render token goal t call d) := by
  have timed := Daemon.Imprints.timed TimedCall.render TimedCall.render_takes t.backend token call d
  obtain ⟨lines, -, aside⟩ :=
    TimedCall.render.turn_aside TimedCall.render_takes t.backend token call d
  unfold render
  simp only
  split
  · exact .over (.refl d) (.nothing trivial)
  split
  · refine .onward (.refl d) fun r ys here => ?_
    obtain ⟨rfl, rfl⟩ := here
    exact .nothing trivial
  split
  · exact .onward (.call d t.backend .override) fun r ys here => here
  · split <;> rename_i eq <;> rw [eq] at timed aside
    · exact .onward timed fun r ys here => here
    · exact .wait timed
    · exact rendered_marks timed aside.steady
    · exact .onward timed fun r ys here => here
    · refine .onward timed fun r ys here => ?_
      obtain ⟨rfl, rfl⟩ := here
      exact .nothing trivial

theorem applying_marks (token : Token) (goal : Goal) (b : Place) (record : RunRecord)
    (call : Pending) (d : Daemon) :
    Marks goal (.applying b record call) d (turn token goal (.applying b record call) d) := by
  have timed := Daemon.Imprints.timed TimedCall.apply TimedCall.apply_takes b token call d
  simp only [turn]
  split <;> rename_i eq <;> rw [eq] at timed
  · exact .onward timed fun r ys here => here
  · exact .wait timed
  · exact .over timed (.inl ⟨rfl, trivial⟩)
  next d' =>
    have announced := timed.trans (.leaves (x := .notice (.runCompleted
      (record.succeed d'.wall).taskName (record.succeed d'.wall).success
      (record.succeed d'.wall).error)) trivial)
    refine .next announced (fun apt => ?_) fun r ys here => .inr ?_
    · exact List.forall_mem_singleton.mpr (apt.names _ List.mem_cons_self)
    · obtain ⟨kept, zs, rfl, keeps, registers⟩ := here
      exact ⟨_, zs, by simp, .run (record.succeed d'.wall) keeps, registers⟩

theorem recording_marks (token : Token) (goal : Goal) (b : Place) (record : RunRecord)
    (d : Daemon) :
    Marks goal (.recording b record) d (turn token goal (.recording b record) d) := by
  obtain ⟨kept, keeps, recorded⟩ := Imprints.addRecord (some b) d record
  have completed := recorded.trans (.leaves (x := .completion record.taskName) trivial)
  have steady : d.Steady (d.addRecord record) := (d.write_quiet _ _ _).toSteady
  refine register_marks rfl completed
    (steady.trans (Daemon.notifyCompletion_quiet _ record.taskName).toSteady) (fun apt => ?_)
    fun r ys here => ⟨kept, ys, by simp, keeps, here⟩
  have name : record.taskName = (Phase.recording b record).name d :=
    apt.names _ List.mem_cons_self
  refine List.forall_mem_append.mpr ⟨?_, List.forall_mem_singleton.mpr name⟩
  rcases keeps with rfl | rfl
  · exact List.forall_mem_nil _
  · exact List.forall_mem_singleton.mpr name

theorem storing_marks (token : Token) (goal : Goal) (task : Task) (d : Daemon) :
    Marks goal (.storing task) d (turn token goal (.storing task) d) := by
  obtain ⟨s, faults, after, how, -⟩ := d.write_frame .setTask task.toConfig.nameOrEmpty
    (·.setTask task.toConfig)
  have after : (d.setTask task.toConfig).2 = _ := after
  simp only [turn]
  split <;> rename_i eq <;> rw [eq] at after
  next e d₁ =>
    rcases how with ⟨ok, -⟩ | ⟨-, rfl⟩
    · cases ok.symm.trans (congrArg Prod.fst eq)
    · have refused : Imprints none [] d d₁ := by
        rw [show d₁ = _ from after]
        exact .unowned ⟨rfl, rfl, rfl, rfl, rfl, rfl⟩
      have asked : Imprints none [.deletion task.name] d₁ (d₁.requestDeletion task.name) :=
        .leaves (x := .deletion task.name) trivial
      exact .done (refused.trans asked) (fun _ => List.forall_mem_singleton.mpr rfl) (.refused e)
  next d₁ =>
    rcases how with ⟨-, rfl⟩ | ⟨⟨e, failed⟩, -⟩
    · have stored : Imprints none [.config task.toConfig] d d₁ := by
        rw [show d₁ = _ from after]
        exact .trace (x := .config task.toConfig) trivial
          (.unowned ⟨rfl, rfl, rfl, rfl, rfl, rfl⟩)
      have announced : Imprints none (if task.isScheduled then [.schedule task.name] else []) d₁
          (if task.isScheduled then d₁.announceSchedule task.name else d₁) := by
        split
        · exact .leaves (x := .schedule task.name) trivial
        · exact .refl _
      have published := announced.trans
        (.leaves (x := .notice (.created task.name task.isScheduled)) trivial)
      refine .done (stored.trans published) (fun _ => ?_) (@Stored.stored task)
      refine List.forall_mem_append.mpr ⟨List.forall_mem_singleton.mpr rfl,
        List.forall_mem_append.mpr ⟨?_, List.forall_mem_singleton.mpr rfl⟩⟩
      split
      · exact List.forall_mem_singleton.mpr rfl
      · exact List.forall_mem_nil _
    · cases failed.symm.trans (congrArg Prod.fst eq)

/-- What every turn of a creation leaves behind. -/
theorem turn_marks (token : Token) (goal : Goal) (p : Phase) (d : Daemon) :
    Marks goal p d (turn token goal p d) := by
  cases p with
  | start conf =>
      simp only [turn, begin]
      split
      · exact .over (.refl d) (.nothing trivial)
      split
      · exact .over (.refl d) (.nothing trivial)
      split
      · exact .over (.refl d) (.nothing trivial)
      · exact .onward (.refl d) fun r ys here => here
  | making task =>
      simp only [turn]
      split
      next e d' failed =>
        obtain ⟨label, made, rfl⟩ := Daemon.make_eq_error failed
        exact .over (.unowned ⟨rfl, rfl, rfl, rfl, rfl, rfl⟩) (.nothing trivial)
      next b d' made =>
        obtain ⟨-, label, counts, script, rfl, -⟩ := Daemon.make_eq_ok made
        exact .onward (.unowned ⟨rfl, rfl, rfl, rfl, rfl, rfl⟩) fun r ys here => here
  | rendering t call => exact render_marks token goal t call d
  | pausing t due =>
      simp only [turn]
      split
      · exact .over (.refl d) (.nothing trivial)
      split
      · exact .onward (.refl d) fun r ys here => here
      · exact .wait (.refl d)
  | destroying b result => exact .over (.call d b .destroy) ⟨rfl, rfl⟩
  | applying b record call => exact applying_marks token goal b record call d
  | recording b record => exact recording_marks token goal b record d
  | storing task => exact storing_marks token goal task d
  | inspecting b =>
      refine .onward (.call d b .inspect) fun r ys here => ?_
      obtain ⟨rfl, rfl⟩ := here
      refine ⟨rfl, ?_⟩
      show Traceless (((d.inspect b).1.map Created.plan).mapError Failure.backend)
      cases (d.inspect b).1 with
      | error e => exact trivial
      | ok plan => exact trivial

/-! ### The name -/

/-- Others leave the creation its task. -/
theorem Phase.Apt.steady (h : p.Apt d) (steady : d.Steady d') :
    p.Apt d' ∧ p.name d' = p.name d := by
  have name := Phase.name_steady steady h.inside
  refine ⟨⟨fun b fresh => Nat.lt_of_lt_of_le (h.inside b fresh) steady.size, fun n here => ?_⟩,
    name⟩
  rw [name]
  exact h.names n here

/-- What comes into hand in a turn is about the same task. -/
theorem Phase.Apt.turn {token : Token} {p' : Phase} (h : p.Apt d)
    (turned : turn token goal p d = (.next p', d')) : p'.Apt d' ∧ p'.name d' = p.name d := by
  have next : (Creation.turn token goal p d).1 = .next p' := congrArg Prod.fst turned
  have advance := turn_advance token goal p d h.inside
  have steady := turn_steady token goal p d h.inside
  have inherits := turn_inherits token goal p d
  have name := turn_name h.inside next
  rw [turned] at advance steady inherits name
  have inside : ∀ b, p'.stake = .fresh b → b < d'.backends.size := by
    intro b fresh
    cases advance with
    | move m =>
        rcases m.fresh b fresh with same | ⟨-, made⟩
        · exact Nat.lt_of_lt_of_le (h.inside b (same.symm.trans fresh)) steady.size
        · exact made
    | register _ phase =>
        rw [← Turn.next.inj phase.symm] at fresh
        cases fresh
  refine ⟨⟨inside, fun n here => ?_⟩, name⟩
  rcases inherits p' rfl n here with ⟨before, -⟩ | ⟨b, known, same⟩
  · rw [name]
    exact h.names n before
  · rw [same]
    have fresh : p'.stake = .fresh b := by
      cases p' <;> cases known <;> rfl
    exact (p'.name_of_fresh fresh d').symm

/-! ### From the first turn to the last -/

/-- A turn has left this behind, apart from what the hooks of the new backend have done. -/
def Imprinted (step : Phase × Daemon × Daemon) (xs : List Trace) : Prop :=
  Imprints step.1.stake.backend? xs step.2.1 step.2.2

theorem imprinted_of_mem {steps : List (Phase × Daemon × Daemon)} {traces : List (List Trace)}
    (h : List.Forall₂ Imprinted steps traces) {step : Phase × Daemon × Daemon}
    (here : step ∈ steps) : ∃ xs ∈ traces, Imprinted step xs := by
  induction h with
  | nil => cases here
  | cons first _ ih =>
      rcases List.mem_cons.mp here with rfl | here
      · exact ⟨_, List.mem_cons_self, first⟩
      · obtain ⟨xs, member, left⟩ := ih here
        exact ⟨xs, List.mem_cons_of_mem _ member, left⟩

/-- From one turn to the next the daemon goes on steadily, as it does while others have theirs. -/
def Steadily (steps : List (Phase × Daemon × Daemon)) : Prop :=
  steps.IsChain fun before after => before.2.2.Steady after.2.1

/-- What is left behind after a turn is about the task that the turn was about. -/
theorem named_later {token : Token} {p' : Phase} {steps : List (Phase × Daemon × Daemon)}
    {r : Result} (rest : Passage (turn token goal) p' steps r)
    (kept : p'.Apt d' ∧ p'.name d' = p.name d) (steadily : Steadily ((p, d, d') :: steps))
    (named : Steadily steps → ∀ step ∈ steps.head?, p'.Apt step.2.1 →
      ∀ x ∈ xs, x.task = p'.name step.2.1) : ∀ x ∈ xs, x.task = p.name d := by
  obtain ⟨d₁, d₂, later, rfl⟩ := rest.head
  obtain ⟨between, steadily⟩ := List.isChain_cons_cons.mp steadily
  obtain ⟨apt, name⟩ := kept.1.steady between
  rw [← kept.2, ← name]
  exact named steadily _ rfl apt

theorem passage_leaves {token : Token} {steps : List (Phase × Daemon × Daemon)} {r : Result}
    (h : Passage (turn token goal) p steps r) :
    ∃ traces, List.Forall₂ Imprinted steps traces ∧ p.Leaves goal r traces.flatten ∧
      (Steadily steps → ∀ step ∈ steps.head?, p.Apt step.2.1 →
        ∀ x ∈ traces.flatten, x.task = p.name step.2.1) := by
  induction h with
  | @done p d d' r turned =>
      have marks := turn_marks token goal p d
      rw [turned] at marks
      cases marks with
      | @done _ _ xs left about last =>
          have all : [xs].flatten = xs := by simp
          refine ⟨[xs], .cons left .nil, by rwa [all], fun _ step here apt => ?_⟩
          cases here
          rw [all]
          exact about apt
  | @next p p' d d' steps r turned rest ih =>
      obtain ⟨traces, left, follows, named⟩ := ih
      have marks := turn_marks token goal p d
      rw [turned] at marks
      cases marks with
      | next first about goes =>
          refine ⟨_, .cons first left, goes r _ follows, fun steadily step here apt => ?_⟩
          cases here
          rw [List.flatten_cons]
          exact List.forall_mem_append.mpr ⟨about apt,
            named_later rest (apt.turn turned) steadily named⟩
  | @wait p on d d' steps r turned rest ih =>
      obtain ⟨traces, left, follows, named⟩ := ih
      have marks := turn_marks token goal p d
      rw [turned] at marks
      cases marks with
      | wait first =>
          refine ⟨_, .cons first left, follows, fun steadily step here apt => ?_⟩
          cases here
          have steady := turn_steady token goal p d apt.inside
          rw [turned] at steady
          exact named_later rest (apt.steady steady) steadily named

/-! ### Failures and inspections -/

theorem Ran.ofRun {run : List Trace} (h : Ran run) : ∀ x ∈ run, x.OfRun := by
  obtain ⟨record, keeps⟩ := h
  rcases keeps with rfl | rfl
  · exact List.forall_mem_cons.mpr ⟨trivial, List.forall_mem_singleton.mpr trivial⟩
  · exact List.forall_mem_cons.mpr ⟨trivial, List.forall_mem_cons.mpr
      ⟨trivial, List.forall_mem_singleton.mpr trivial⟩⟩

/-- A task that is not registered is one whose name was taken in the meantime. -/
theorem Registering.lost_of_error {e : Failure} (h : Registering (.error e) xs)
    (unrefused : ∀ s, e ≠ .store s) : xs = [] ∧ ∃ task, e = .alreadyExists task := by
  cases h with
  | lost task => exact ⟨rfl, task, rfl⟩
  | added b templates stores =>
      cases stores with
      | refused s => exact absurd rfl (unrefused s)

theorem Registering.withdrawn {s : StoreError} (h : Registering (.error (.store s)) xs) :
    ∃ task b templates, xs = [.entry task b templates, .deletion task] := by
  cases h with
  | added b templates stores =>
      cases stores with
      | refused => exact ⟨_, b, templates, rfl⟩

/-- A creation that inspects its task leaves nothing behind, and one that fails nothing but the run
of a task that is no longer wanted, unless the store has refused the task. -/
theorem Footprint.of_failure {r : Result} (h : Footprint goal r xs)
    (fails : goal = .inspect ∨ ∃ e, r = .error e ∧ ∀ s, e ≠ .store s) :
    (∀ x ∈ xs, x.OfRun) ∧ ((∀ task, r ≠ .error (.alreadyExists task)) → xs = []) := by
  cases h with
  | nothing => exact ⟨List.forall_mem_nil _, fun _ => rfl⟩
  | added adds registers =>
      obtain ⟨e, rfl, unrefused⟩ := fails.resolve_left adds
      obtain ⟨rfl, -⟩ := registers.lost_of_error unrefused
      exact ⟨List.forall_mem_nil _, fun _ => rfl⟩
  | ran runs ran registers =>
      obtain ⟨e, rfl, unrefused⟩ := fails.resolve_left fun inspects => by
        rw [runs] at inspects
        cases inspects
      obtain ⟨rfl, task, rfl⟩ := registers.lost_of_error unrefused
      rw [List.append_nil]
      exact ⟨ran.ofRun, fun free => absurd rfl (free task)⟩

/-- A task that the store has refused is left registered, and its deletion is asked for. -/
theorem Footprint.of_refusal {s : StoreError} (h : Footprint goal (.error (.store s)) xs) :
    ∃ run task b templates, xs = run ++ [.entry task b templates, .deletion task] ∧
      (run = [] ∨ goal = .runAndAdd ∧ Ran run) := by
  cases h with
  | nothing traceless => cases traceless
  | added adds registers =>
      obtain ⟨task, b, templates, rfl⟩ := registers.withdrawn
      exact ⟨[], task, b, templates, rfl, .inl rfl⟩
  | ran runs ran registers =>
      obtain ⟨task, b, templates, rfl⟩ := registers.withdrawn
      exact ⟨_, task, b, templates, rfl, .inr ⟨runs, ran⟩⟩

/-- What a creation leaves behind, hooks apart, that fails or inspects its task, whatever happens
between its turns. It is about the configured task alone, if the daemon goes on steadily. Unless the
store refuses the task, there is nothing but the traces of a run, and these only if the name was
taken in the meantime; so the tasks are as they were, and otherwise nothing is told. If the store
refuses the task, the traces of a run may be there too, and the task is left registered and
withdrawn. -/
theorem failures_leave {token : Token} {conf : TaskConfig}
    {steps : List (Phase × Daemon × Daemon)} {r : Result}
    (passage : Passage (turn token goal) (.start conf) steps r) :
    ∃ traces : List (List Trace), List.Forall₂ Imprinted steps traces ∧
      (Steadily steps → ∀ x ∈ traces.flatten, x.task = conf.nameOrEmpty) ∧
      ((goal = .inspect ∨ ∃ e, r = .error e ∧ ∀ s, e ≠ .store s) →
        (∀ x ∈ traces.flatten, x.OfRun) ∧
        ((∀ task, r ≠ .error (.alreadyExists task)) → traces.flatten = []) ∧
        (∀ step ∈ steps, (∀ b, step.1.stake.backend? = some b →
          (step.2.1.backend b).script.Discreet) → step.2.1.Untouched step.2.2) ∧
        ((∀ task, r ≠ .error (.alreadyExists task)) →
          ∀ step ∈ steps, step.2.1.Silent step.2.2)) ∧
      ∀ s, r = .error (.store s) → ∃ run task b templates,
        traces.flatten = run ++ [.entry task b templates, .deletion task] ∧
          (run = [] ∨ goal = .runAndAdd ∧ Ran run) ∧
          ∀ d : Daemon, d.Withdraws task ((Trace.deletion task).leave d) := by
  obtain ⟨traces, left, footprint, named⟩ := passage_leaves passage
  refine ⟨traces, left, fun steadily => ?_, fun fails => ?_, fun s refused => ?_⟩
  · obtain ⟨d, d', later, rfl⟩ := passage.head
    exact named steadily _ rfl ⟨nofun, List.forall_mem_nil _⟩
  · obtain ⟨ofRun, nothing⟩ := footprint.of_failure fails
    refine ⟨ofRun, nothing, fun step here discreet => ?_, fun free step here => ?_⟩
    · obtain ⟨xs, member, imprints⟩ := imprinted_of_mem left here
      exact imprints.untouched (fun x own => ofRun x (List.mem_flatten_of_mem member own)) discreet
    · obtain ⟨xs, member, imprints⟩ := imprinted_of_mem left here
      obtain rfl := List.flatten_eq_nil_iff.mp (nothing free) xs member
      exact imprints.silent
  · subst refused
    obtain ⟨run, task, b, templates, all, ran⟩ := footprint.of_refusal
    exact ⟨run, task, b, templates, all, ran, fun d => d.requestDeletion_withdraws task⟩

/-- A daemon whose store takes no configuration. -/
def refusingDaemon : Daemon :=
  { Traffic.sample.daemon .default with
    setting := ⟨[], .plain, none, [], .quiet⟩
    storeFaults := [(.setTask, .always (some "down"))] }

theorem failures_leave_sample :
    ∃ steps, Passage (turn ⟨0⟩ .runAndAdd) (.start Traffic.sampleTask) steps
        (.error (.store (.unavailable "down"))) ∧ Steadily steps ∧
      ∃ (traces : List (List Trace)) (run : List Trace) (b : Place) (templates : List String),
        List.Forall₂ Imprinted steps traces ∧
        traces.flatten = run ++ [.entry "a" b templates, .deletion "a"] := by
  obtain ⟨d, settled⟩ : ∃ d, settle (turn ⟨0⟩ .runAndAdd) 10 (.start Traffic.sampleTask)
      refusingDaemon = (.ended (.error (.store (.unavailable "down"))), d) := ⟨_, rfl⟩
  obtain ⟨d₁, later, passage, chain, -⟩ := Passage.of_settle settled
  have steadily : Steadily ((.start Traffic.sampleTask, refusingDaemon, d₁) :: later) :=
    chain.imp fun before after same => by
      rw [same]
      exact .refl _
  obtain ⟨traces, left, named, -, refused⟩ := failures_leave passage
  obtain ⟨run, task, b, templates, all, -⟩ := refused _ rfl
  have name : task = "a" := by
    refine named steadily (.entry task b templates) ?_
    rw [all]
    exact List.mem_append_right _ (.head _)
  subst name
  exact ⟨_, passage, steadily, traces, run, b, templates, left, all⟩

/-- A run stays announced, on the bus too, when the store refuses the task. -/
theorem refusal_announced :
    ¬ ∀ (conf : TaskConfig) (steps : List (Phase × Daemon × Daemon)) (s : StoreError),
      Passage (turn ⟨0⟩ .runAndAdd) (.start conf) steps (.error (.store s)) →
        ∀ step ∈ steps, step.2.2.bus = step.2.1.bus := by
  intro never
  obtain ⟨d, settled, announced⟩ : ∃ d, settle (turn ⟨0⟩ .runAndAdd) 10
      (.start Traffic.sampleTask) refusingDaemon =
        (.ended (.error (.store (.unavailable "down"))), d) ∧ d.bus.published = 1 :=
    ⟨_, rfl, rfl⟩
  obtain ⟨d₁, later, passage, -, keeps⟩ := Passage.of_settle settled
  have same := keeps Daemon.bus (never _ _ _ passage)
  rw [same] at announced
  cases announced

end Creation

end TaskSync
