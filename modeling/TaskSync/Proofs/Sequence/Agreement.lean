import TaskSync.Proofs.Operation.Creates
import TaskSync.Proofs.Sequence.Basic

/-!
# The registry and the store agree

Between calls, every registered name is that of its backend's task, and the store has the canonical
configuration of that task under it. Within a call the two may be apart for one name: a creation
registers its task a turn before it stores it, an update switches a task one or two turns before it
stores the switch. `AgreesBut` says which name that is, phase by phase.
-/

namespace TaskSync

namespace Daemon

/-- Registry and store agree about all names but these. -/
structure AgreesBut (d : Daemon) (except : String → Prop) : Prop where
  inside : ∀ n e, d.registry.find? n = some e → e.runner < d.backends.size
  named : ∀ n e, d.registry.find? n = some e → (d.taskOf e.runner).name = n
  stored : ∀ n e, d.registry.find? n = some e → ¬ except n →
    d.store.getTask n = some (d.taskOf e.runner).toConfig

/-- Every registered task is stored as it is, under its name. -/
def Agrees (d : Daemon) : Prop := d.AgreesBut fun _ => False

/-- Nothing is registered that was not there before, under the same name with the same backend. -/
def Sheds (d d' : Daemon) : Prop :=
  ∀ n f, d'.registry.find? n = some f → ∃ e, d.registry.find? n = some e ∧ f.runner = e.runner

theorem Sheds.of_path {loose : Prop} {closing : String → Prop} {g g' : Option Guard}
    {d d' : Daemon} (p : Registry.Path loose closing g d.registry g' d'.registry) : d.Sheds d' := by
  intro n f found
  obtain ⟨e, there, _, runner, _⟩ := p.entry_before found
  exact ⟨e, there, runner⟩

theorem AgreesBut.kept {d d' : Daemon} {except except' : String → Prop} (h : d.AgreesBut except)
    (size : d.backends.size ≤ d'.backends.size) (sheds : d.Sheds d')
    (task : ∀ b, b < d.backends.size → d'.taskOf b = d.taskOf b)
    (stored : ∀ n f, d'.registry.find? n = some f → ¬ except' n →
      ¬ except n ∧ d'.store.getTask n = d.store.getTask n) : d'.AgreesBut except' where
  inside n f found := by
    obtain ⟨e, there, runner⟩ := sheds n f found
    rw [runner]
    exact Nat.lt_of_lt_of_le (h.inside n e there) size
  named n f found := by
    obtain ⟨e, there, runner⟩ := sheds n f found
    rw [runner, task e.runner (h.inside n e there)]
    exact h.named n e there
  stored n f found other := by
    obtain ⟨e, there, runner⟩ := sheds n f found
    obtain ⟨before, same⟩ := stored n f found other
    rw [same, runner, task e.runner (h.inside n e there)]
    exact h.stored n e there before

theorem AgreesBut.weaken {d : Daemon} {except except' : String → Prop} (h : d.AgreesBut except)
    (more : ∀ n, except n → except' n) : d.AgreesBut except' :=
  ⟨h.inside, h.named, fun n e found other => h.stored n e found fun x => other (more n x)⟩

end Daemon

/-! ### Configurations that a turn leaves alone -/

/-- The name whose stored configuration a change may replace or remove. -/
def Write.touches? : Write → Option String
  | config c => c.name
  | noConfig task => some task
  | record _ | noRecords _ | switch _ => none

theorem Write.getTask_apply_of_touches {w : Write} {name : String} (s : MemoryStore)
    (other : w.touches? ≠ some name) : (w.apply s).getTask name = s.getTask name := by
  cases w with
  | config c => exact (MemoryStore.getTask_setTask c).trans (if_neg other)
  | noConfig task =>
      refine MemoryStore.getTask_deleteTask.trans (if_neg ?_)
      rintro rfl
      exact other rfl
  | record r => rfl
  | noRecords task => rfl
  | switch b => rfl

theorem Leaves.getTask_eq {backend? : Option Place} {write? : Option Write} {d d' : Daemon}
    (h : Leaves backend? write? d d') {name : String}
    (other : ∀ w, write? = some w → w.touches? ≠ some name) :
    d'.store.getTask name = d.store.getTask name := by
  rcases h.store with same | ⟨w, write, same⟩
  · rw [same]
  · rw [same]
    exact w.getTask_apply_of_touches d.store (other w write)

/-- The surroundings of sequential calls: hooks that do not switch tasks, a store that does not
fail. -/
structure Daemon.Plain (d : Daemon) : Prop where
  reliable : d.Reliable
  on : d.Avoids .enable
  off : d.Avoids .disable

theorem Daemon.Plain.steady {d d' : Daemon} (h : d.Plain) (steady : d.Steady d') : d'.Plain :=
  ⟨steady.reliable h.reliable, steady.avoids _ h.on, steady.avoids _ h.off⟩

/-- A turn that registers nothing, switches nothing and touches the configuration of no registered
task. -/
theorem Daemon.AgreesBut.turn {d d' : Daemon} {except : String → Prop} {backend? : Option Place}
    {write? : Option Write} (h : d.AgreesBut except) (plain : d.Plain)
    (leaves : Leaves backend? write? d d') (sheds : d.Sheds d')
    (unswitched : ∀ b, write? ≠ some (.switch b))
    (untouched : ∀ n f, d'.registry.find? n = some f → ∀ w, write? = some w →
      w.touches? ≠ some n) : d'.AgreesBut except :=
  h.kept leaves.steady.size sheds
    (fun b inside => leaves.task plain.on plain.off b inside (unswitched b))
    fun n f found other => ⟨other, leaves.getTask_eq (untouched n f found)⟩

/-! ### Runs -/

/-- The changes of a run are records. -/
theorem Run.write_record {p : Phase} {w : Write} (h : p.write? = some w) : ∃ r, w = .record r := by
  cases p with
  | recording held applied result =>
      cases h
      exact ⟨_, rfl⟩
  | start | queued | rendering | applying | backingOff => cases h

theorem Run.turn_agrees (token : Token) (p : Phase) {d : Daemon} (plain : d.Plain) (h : d.Agrees) :
    (turn token p d).2.Agrees := by
  refine h.turn plain (turn_leaves token p d) (.of_path (turn_move token p d).path)
    (fun b switch => ?_) fun n f _ w write => ?_
  · obtain ⟨r, record⟩ := write_record switch
    cases record
  · obtain ⟨r, rfl⟩ := write_record write
    exact nofun

/-! ### Deletions -/

/-- What a deletion takes out of the store is not registered. -/
def Deletion.Phase.Agrees (p : Phase) (d : Daemon) : Prop :=
  d.Agrees ∧ ∀ task g, p = .deletingTask task g → d.registry.find? task = none

theorem Deletion.turn_agrees (token : Token) (p : Phase) {d : Daemon} (plain : d.Plain)
    (h : p.Agrees d) : Keeps Phase.Agrees Daemon.Agrees p (turn token p d) := by
  have agrees : (turn token p d).2.Agrees := by
    have sheds : d.Sheds (turn token p d).2 := .of_path (turn_move token p d).path
    refine h.1.turn plain (turn_leaves token p d) sheds (fun b switch => ?_)
      fun n f found w write => ?_
    · cases p <;> cases switch
    · cases p with
      | deletingTask task g =>
          cases write
          rintro ⟨rfl⟩
          obtain ⟨e, there, _⟩ := sheds _ f found
          rw [h.2 _ g rfl] at there
          cases there
      | deletingRecords task g =>
          cases write
          exact nofun
      | start | queued => cases write
  unfold Keeps
  split
  next p' next =>
    refine ⟨agrees, fun task g same => ?_⟩
    subst same
    exact (turn_next next).2
  next on wait =>
    refine ⟨agrees, fun task g same => ?_⟩
    subst same
    simp only [turn] at wait
    split at wait <;> cases wait
  · exact agrees

/-! ### Creations -/

/-- A task that is registered and not yet stored is that of its backend. -/
def Creation.Phase.Agrees (p : Phase) (d : Daemon) : Prop :=
  (d.AgreesBut fun n => ∃ task, p = .storing task ∧ task.name = n) ∧
    (∀ task, p = .storing task → ∀ e, d.registry.find? task.name = some e →
      d.taskOf e.runner = task) ∧
    ∀ b, p.stake = .fresh b → b < d.backends.size

theorem Creation.unswitched (p : Phase) (b : Place) : p.write? ≠ some (.switch b) := by
  cases p <;> nofun

/-- Up to its last turn a creation touches no configuration. -/
theorem Creation.untouched {p : Phase} (h : ∀ task, p ≠ .storing task) {w : Write}
    (write : p.write? = some w) (n : String) : w.touches? ≠ some n := by
  cases p with
  | recording b record =>
      cases write
      exact nofun
  | storing task => exact absurd rfl (h task)
  | start | making | rendering | pausing | destroying | applying | inspecting => cases write

theorem Creation.storing_agrees (token : Token) (goal : Goal) (task : Task) {d : Daemon}
    (plain : d.Plain) (h : (Phase.storing task).Agrees d) :
    Keeps Phase.Agrees Daemon.Agrees (.storing task) (turn token goal (.storing task) d) := by
  have leaves := turn_leaves token goal (.storing task) d
  have sheds : d.Sheds (turn token goal (.storing task) d).2 := by
    cases turn_advance token goal (.storing task) d nofun with
    | move m _ => exact .of_path m.path
    | register before => cases before
  have ended : ∃ r, (turn token goal (.storing task) d).1 = .done r := by
    simp only [turn]
    split
    · exact ⟨_, rfl⟩
    · exact ⟨_, rfl⟩
  obtain ⟨r, ended⟩ := ended
  unfold Keeps
  rw [ended]
  have store : (turn token goal (.storing task) d).2.store = d.store.setTask task.toConfig :=
    leaves.reliable plain.reliable
  have same : ∀ b, b < d.backends.size →
      (turn token goal (.storing task) d).2.taskOf b = d.taskOf b :=
    fun b inside => leaves.task plain.on plain.off b inside (unswitched _ b)
  have others : (turn token goal (.storing task) d).2.AgreesBut fun n => task.name = n := by
    refine h.1.kept leaves.steady.size sheds same fun n f _ other => ⟨?_, ?_⟩
    · rintro ⟨_, ⟨rfl⟩, named⟩
      exact other named
    · rw [store, MemoryStore.getTask_setTask]
      exact if_neg fun named => other (Option.some.inj named)
  refine ⟨others.inside, others.named, fun n f found _ => ?_⟩
  by_cases mine : task.name = n
  · subst mine
    obtain ⟨e, there, runner⟩ := sheds _ f found
    rw [store, MemoryStore.getTask_setTask, runner, same e.runner (h.1.inside _ e there),
      h.2.1 task rfl e there]
    exact if_pos rfl
  · exact others.stored n f found mine

theorem Creation.turn_agrees (token : Token) (goal : Goal) (p : Phase) {d : Daemon}
    (plain : d.Plain) (h : p.Agrees d) :
    Keeps Phase.Agrees Daemon.Agrees p (turn token goal p d) := by
  by_cases last : ∃ task, p = .storing task
  · obtain ⟨task, rfl⟩ := last
    exact storing_agrees token goal task plain h
  have early : ∀ task, p ≠ .storing task := fun task same => last ⟨task, same⟩
  have agrees : d.Agrees := by
    refine ⟨h.1.inside, h.1.named, fun n e found _ => h.1.stored n e found ?_⟩
    rintro ⟨task, same, _⟩
    exact early task same
  have leaves := turn_leaves token goal p d
  have same : ∀ b, b < d.backends.size → (turn token goal p d).2.taskOf b = d.taskOf b :=
    fun b inside => leaves.task plain.on plain.off b inside (unswitched p b)
  have untouched : ∀ n, (turn token goal p d).2.store.getTask n = d.store.getTask n :=
    fun n => leaves.getTask_eq fun w write => Creation.untouched early write n
  cases turn_advance token goal p d h.2.2 with
  | move m unregistered =>
      have agrees' : (turn token goal p d).2.Agrees :=
        agrees.kept leaves.steady.size (.of_path m.path) same fun n _ _ _ => ⟨id, untouched n⟩
      have still : ∀ p', (∀ task, p' ≠ .storing task) →
          (turn token goal p d).1.stake Phase.stake p = Phase.stake p' →
          Phase.Agrees p' (turn token goal p d).2 := by
        intro p' early' after
        refine ⟨agrees'.weaken fun _ => False.elim, fun task e => absurd e (early' task),
          fun b fresh => ?_⟩
        rcases m.fresh b (after.trans fresh) with old | ⟨_, made⟩
        · rw [after, fresh] at old
          exact Nat.lt_of_lt_of_le (h.2.2 b old.symm) leaves.steady.size
        · exact made
      unfold Keeps
      split
      next p' next =>
        refine still p' (fun task e => unregistered task (by rw [next, e])) ?_
        rw [next]
        rfl
      next on wait =>
        refine still p early ?_
        rw [wait]
        rfl
      · exact agrees'
  | @register b ids r before phase steady path added =>
      have inside := h.2.2 b before
      have name : ((turn token goal p d).2.taskOf b).name = (d.taskOf b).name := by
        rw [same b inside]
      -- what is registered now was registered before, or is the new task
      have entries : ∀ n f, (turn token goal p d).2.registry.find? n = some f →
          n = (d.taskOf b).name ∧ f.runner = b ∨
            n ≠ (d.taskOf b).name ∧ ∃ e, d.registry.find? n = some e ∧ f.runner = e.runner := by
        intro n f found
        rw [Registry.find?_add added] at found
        split at found
        next here =>
          cases found
          exact .inl ⟨here, rfl⟩
        next away =>
          obtain ⟨e, there, _, runner, _⟩ := path.entry_before found
          exact .inr ⟨away, e, there, runner⟩
      unfold Keeps
      rw [phase]
      refine ⟨⟨fun n f found => ?_, fun n f found => ?_, fun n f found other => ?_⟩, ?_, nofun⟩
      · rcases entries n f found with ⟨_, rfl⟩ | ⟨_, e, there, runner⟩
        · exact Nat.lt_of_lt_of_le inside steady.size
        · rw [runner]
          exact Nat.lt_of_lt_of_le (agrees.inside n e there) steady.size
      · rcases entries n f found with ⟨rfl, rfl⟩ | ⟨_, e, there, runner⟩
        · exact name
        · rw [runner, same e.runner (agrees.inside n e there)]
          exact agrees.named n e there
      · rcases entries n f found with ⟨rfl, _⟩ | ⟨_, e, there, runner⟩
        · exact absurd ⟨_, rfl, name⟩ other
        · rw [untouched, runner, same e.runner (agrees.inside n e there)]
          exact agrees.stored n e there id
      · rintro task ⟨rfl⟩ f found
        rcases entries _ f found with ⟨_, runner⟩ | ⟨away, _⟩
        · rw [runner]
        · exact absurd name away

/-! ### Updates -/

namespace Update

/-- The backend that an update holds is the one that is registered for its task, if any is. -/
def Sole (b : Place) (d : Daemon) : Prop :=
  b < d.backends.size ∧ ∀ e, d.registry.find? (d.taskOf b).name = some e → e.runner = b

/-- The backend has switched the task for good. -/
def Switched (h : Held) (result : Except BackendError Plan) : Prop :=
  h.option ≠ .inspect ∧ ∃ plan, result = .ok plan

/-- With the answer of the backend in hand, the store is behind if the task was switched. -/
def Answered (h : Held) (result : Except BackendError Plan) (d : Daemon) : Prop :=
  Sole h.backend d ∧ (Switched h result → (d.taskOf h.backend).enabled = h.enabled) ∧
    d.AgreesBut fun n => Switched h result ∧ n = (d.taskOf h.backend).name

def Phase.Agrees : Phase → Daemon → Prop
  | .start _ _, d => d.Agrees
  | .patching h, d => Sole h.backend d ∧ d.Agrees
  | .recording h _ result, d => Answered h result d
  | .storing h conf _, d =>
    Sole h.backend d ∧ conf = (d.taskOf h.backend).toConfig ∧
      d.AgreesBut fun n => n = (d.taskOf h.backend).name

theorem Sole.kept {b : Place} {d d' : Daemon} (h : Sole b d) (steady : d.Steady d')
    (sheds : d.Sheds d') : Sole b d' := by
  refine ⟨Nat.lt_of_lt_of_le h.1 steady.size, fun f found => ?_⟩
  rw [steady.name h.1] at found
  obtain ⟨e, there, runner⟩ := sheds _ f found
  rw [runner]
  exact h.2 e there

theorem begin_next {conf : TaskConfig} {option : RunOption} {d : Daemon} {p : Phase}
    (next : (begin conf option d).1 = .next p) : ∃ h, p = .patching h := by
  unfold begin at next
  simp only at next
  split at next
  · cases next
  split at next
  · cases next
  split at next
  · cases next
  split at next
  · cases next
  split at next
  · cases next
  · cases next
  · unfold entered at next
    simp only at next
    split at next
    · cases next
      exact ⟨_, rfl⟩
    · cases next
      exact ⟨_, rfl⟩

/-- An update gets hold of the backend that is registered. -/
theorem begin_agrees (conf : TaskConfig) (option : RunOption) {d : Daemon} (plain : d.Plain)
    (h : d.Agrees) :
    Keeps Phase.Agrees Daemon.Agrees (.start conf option) (begin conf option d) := by
  have move := begin_move conf option d (.start conf option)
  have leaves := begin_leaves conf option d
  have sheds : d.Sheds (begin conf option d).2 := .of_path move.path
  have agrees : (begin conf option d).2.Agrees :=
    h.turn plain leaves sheds nofun fun _ _ _ _ write => nomatch write
  unfold Keeps
  split
  next p' next =>
    obtain ⟨held, rfl⟩ := begin_next next
    rw [next] at move
    rcases move.working held.guard held.backend rfl with
      old | ⟨task, e, found, _, runner | queued⟩
    · cases old
    · have sole : Sole held.backend d := by
        rw [← runner]
        refine ⟨h.inside task e found, fun f there => ?_⟩
        rw [h.named task e found, found] at there
        cases there
        rfl
      exact ⟨sole.kept leaves.steady sheds, agrees⟩
    · cases queued
  · exact agrees
  · exact agrees

/-- A patch that succeeds leaves the store behind for the task that was switched, and for no
other: no two names have one backend. -/
theorem patch_answered (h : Held) {d : Daemon} (plain : d.Plain) (sole : Sole h.backend d)
    (agrees : d.Agrees) :
    Answered h (d.patch h.backend h.enabled h.option).1
      (d.patch h.backend h.enabled h.option).2 := by
  have quiet := d.patch_quiet h.backend h.enabled h.option
  have leaves := patch_leaves d h.backend h.enabled h.option
  have sheds : d.Sheds (d.patch h.backend h.enabled h.option).2 :=
    .of_path (quiet.path (fun _ => False) none)
  have unwritten : ∀ n, (d.patch h.backend h.enabled h.option).2.store.getTask n =
      d.store.getTask n := by
    intro n
    refine leaves.getTask_eq fun w write => ?_
    split at write
    · cases write
    · cases write
      exact nofun
  refine ⟨sole.kept quiet.toSteady sheds, ?_, ?_⟩
  · rintro ⟨apply, plan, ok⟩
    obtain ⟨d₁, aside, ⟨e, how⟩ | ⟨plan', how⟩⟩ := d.patch_cases h.backend h.enabled h.option
    · rw [how] at ok
      cases ok
    · rw [how]
      have inside : h.backend < d₁.backends.size := by
        rw [aside.size]
        exact sole.1
      simp only [if_neg apply]
      show ((d₁.setBackend h.backend _).backend h.backend).task.enabled = h.enabled
      rw [Daemon.backend_setBackend, if_pos ⟨rfl, inside⟩]
      rfl
  · by_cases switched : Switched h (d.patch h.backend h.enabled h.option).1
    · have elsewhere : ∀ n f, (d.patch h.backend h.enabled h.option).2.registry.find? n = some f →
          ∃ e, d.registry.find? n = some e ∧ f.runner = e.runner ∧
            (n ≠ (d.taskOf h.backend).name → (d.patch h.backend h.enabled h.option).2.taskOf
              e.runner = d.taskOf e.runner) := by
        intro n f found
        obtain ⟨e, there, runner⟩ := sheds n f found
        refine ⟨e, there, runner, fun other => ?_⟩
        refine leaves.task plain.on plain.off e.runner (agrees.inside n e there) ?_
        rw [if_neg switched.1]
        intro switch
        have same : h.backend = e.runner := Write.switch.inj (Option.some.inj switch)
        exact other (by rw [same, agrees.named n e there])
      refine ⟨fun n f found => ?_, fun n f found => ?_, fun n f found other => ?_⟩
      · obtain ⟨e, there, runner, _⟩ := elsewhere n f found
        rw [runner]
        exact Nat.lt_of_lt_of_le (agrees.inside n e there) quiet.size
      · obtain ⟨e, there, runner, _⟩ := elsewhere n f found
        rw [runner, quiet.toSteady.name (agrees.inside n e there)]
        exact agrees.named n e there
      · obtain ⟨e, there, runner, task⟩ := elsewhere n f found
        have away : n ≠ (d.taskOf h.backend).name := by
          rw [← quiet.toSteady.name sole.1]
          exact fun same => other ⟨switched, same⟩
        rw [unwritten, runner, task away]
        exact agrees.stored n e there id
    · -- nothing was switched
      have task : ∀ b, b < d.backends.size →
          (d.patch h.backend h.enabled h.option).2.taskOf b = d.taskOf b := by
        intro b inside
        obtain ⟨d₁, aside, how⟩ := d.patch_cases h.backend h.enabled h.option
        have kept : d₁.taskOf b = d.taskOf b := by
          show (d₁.backend b).task = (d.backend b).task
          rw [(aside.backend b).task, aside.enabled plain.on plain.off b]
        rcases how with ⟨e, how⟩ | ⟨plan, how⟩
        · rw [how]
          exact kept
        · have inspect : h.option = .inspect := by
            by_contra apply
            exact switched ⟨apply, plan, by rw [how]⟩
          rw [how]
          simp only [if_pos inspect]
          exact kept
      exact agrees.kept quiet.size sheds task fun n f _ _ => ⟨id, unwritten n⟩

/-- What follows the answer: the update ends with nothing to store, or the switch is stored
next. -/
theorem settle_agrees {h : Held} {result : Except BackendError Plan} {d : Daemon} (p : Phase)
    (answered : Answered h result d) :
    Keeps Phase.Agrees Daemon.Agrees p (settle h result d) := by
  obtain ⟨sole, enabled, agrees⟩ := answered
  have released : ∀ r : Result, ¬ Switched h result →
      Keeps Phase.Agrees Daemon.Agrees p (finish h r d) := by
    intro r unswitched
    have sheds : d.Sheds (d.release h.guard) :=
      .of_path (.release (.refl (some h.guard) d.registry) : Registry.Path False (fun _ => False)
        (some h.guard) d.registry none (d.release h.guard).registry)
    show (d.release h.guard).Agrees
    exact agrees.kept (Nat.le_refl _) sheds (fun _ _ => rfl)
      fun n f _ _ => ⟨fun x => unswitched x.1, rfl⟩
  unfold settle
  split
  · refine released _ ?_
    rintro ⟨_, plan, ok⟩
    cases ok
  next plan =>
    split
    next inspect =>
      exact released _ fun switched => switched.1 inspect
    next apply =>
      have switched : Switched h (.ok plan) := ⟨apply, plan, rfl⟩
      refine ⟨sole, ?_, agrees.weaken fun n x => x.2⟩
      rw [← enabled switched]
      rfl

theorem storing_agrees (h : Held) (conf : TaskConfig) (plan : Plan) {d : Daemon} (plain : d.Plain)
    (inv : (Phase.storing h conf plan).Agrees d) :
    Keeps Phase.Agrees Daemon.Agrees (.storing h conf plan) (turn (.storing h conf plan) d) := by
  obtain ⟨sole, rfl, agrees⟩ := inv
  have leaves := turn_leaves (.storing h (d.taskOf h.backend).toConfig plan) d
  have sheds : d.Sheds (turn (.storing h (d.taskOf h.backend).toConfig plan) d).2 :=
    .of_path (turn_move (.storing h (d.taskOf h.backend).toConfig plan) d).path
  have store : (turn (.storing h (d.taskOf h.backend).toConfig plan) d).2.store =
      d.store.setTask (d.taskOf h.backend).toConfig := leaves.reliable plain.reliable
  have same : ∀ b, b < d.backends.size →
      (turn (.storing h (d.taskOf h.backend).toConfig plan) d).2.taskOf b = d.taskOf b :=
    fun b inside => leaves.task plain.on plain.off b inside nofun
  have ended : ∃ r, (turn (.storing h (d.taskOf h.backend).toConfig plan) d).1 = .done r := by
    simp only [turn]
    split
    · exact ⟨_, rfl⟩
    · exact ⟨_, rfl⟩
  obtain ⟨r, ended⟩ := ended
  have others : (turn (.storing h (d.taskOf h.backend).toConfig plan) d).2.AgreesBut
      fun n => n = (d.taskOf h.backend).name := by
    refine agrees.kept leaves.steady.size sheds same fun n f _ other => ⟨other, ?_⟩
    rw [store, MemoryStore.getTask_setTask]
    exact if_neg fun named => other (Option.some.inj named).symm
  unfold Keeps
  rw [ended]
  refine ⟨others.inside, others.named, fun n f found _ => ?_⟩
  by_cases mine : n = (d.taskOf h.backend).name
  · subst mine
    obtain ⟨e, there, runner⟩ := sheds _ f found
    rw [store, MemoryStore.getTask_setTask, runner, sole.2 e there, same h.backend sole.1]
    exact if_pos rfl
  · exact others.stored n f found mine

theorem turn_agrees (p : Phase) {d : Daemon} (plain : d.Plain) (h : p.Agrees d) :
    Keeps Phase.Agrees Daemon.Agrees p (turn p d) := by
  cases p with
  | start conf option => exact begin_agrees conf option plain h
  | patching held =>
      have answered := patch_answered held plain h.1 h.2
      simp only [turn]
      split
      · exact answered
      · exact settle_agrees _ answered
  | recording held record result =>
      refine settle_agrees _ ?_
      obtain ⟨sole, enabled, agrees⟩ := h
      have quiet : d.Quiet (d.addRecord record) := d.write_quiet _ _ _
      have leaves : Leaves (some held.backend) (some (.record record)) d (d.addRecord record) :=
        .of_write d _ _ (.record record) rfl
      have sheds : d.Sheds (d.addRecord record) := .of_path (quiet.path (fun _ => False) none)
      have unswitched : ∀ b, some (Write.record record) ≠ some (.switch b) := by
        rintro b ⟨⟩
      have same := leaves.task plain.on plain.off held.backend sole.1 (unswitched _)
      refine ⟨sole.kept quiet.toSteady sheds, ?_, ?_⟩
      · rw [same]
        exact enabled
      · rw [same]
        refine agrees.turn plain leaves sheds unswitched fun _ _ _ w write => ?_
        cases write
        rintro ⟨⟩
  | storing held conf plan => exact storing_agrees held conf plan plain h

end Update

end TaskSync
