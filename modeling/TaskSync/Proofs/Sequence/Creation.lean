import TaskSync.Proofs.Daemon.Attend
import TaskSync.Proofs.Operation.Creates
import TaskSync.Proofs.Sequence.Basic

/-!
# A creation from its beginning to its end

A creation that nobody interferes with asks for one backend at most, and attends to that backend
alone until it is registered. So everything else is in the end as it was at the beginning, and the
calls of the backend tell what the creation did: it rendered, was applied at most once, and was told
last to use its buffer period.
-/

namespace TaskSync

/-- Turns are taken to the end. Between two of them nothing happens but that time passes and tokens
are canceled. -/
inductive Finishes {π ρ : Type} (turn : π → Daemon → Turn π ρ × Daemon) :
    π → Daemon → ρ → Daemon → Prop where
  | done {p : π} {d d' : Daemon} {r : ρ} (turned : turn p d = (.done r, d')) :
      Finishes turn p d r d'
  | next {p p' : π} {d d₁ d₂ d' : Daemon} {r : ρ} (turned : turn p d = (.next p', d₁))
      (drift : d₁.Drifts d₂) (rest : Finishes turn p' d₂ r d') : Finishes turn p d r d'
  | wait {p : π} {on : List Wait} {d d₁ d₂ d' : Daemon} {r : ρ}
      (turned : turn p d = (.wait on, d₁)) (drift : d₁.Drifts d₂)
      (rest : Finishes turn p d₂ r d') : Finishes turn p d r d'

/-- Turns that do not have to wait. -/
theorem Finishes.of_settle {π ρ : Type} {turn : π → Daemon → Turn π ρ × Daemon} {fuel : Nat}
    {p : π} {d d' : Daemon} {r : ρ} (h : settle turn fuel p d = (.ended r, d')) :
    Finishes turn p d r d' := by
  induction fuel generalizing p d with
  | zero => cases h
  | succ fuel ih =>
      unfold settle at h
      split at h
      next turned => exact .next turned (.refl _) (ih h)
      · cases h
      next turned =>
        cases h
        exact .done turned

/-- A turn keeps an invariant, and the last one turns it into a property of the result. -/
inductive Leads {π ρ : Type} (inv : π → Daemon → Prop) (post : ρ → Daemon → Prop) (p : π) :
    Turn π ρ × Daemon → Prop where
  | next {p' : π} {d : Daemon} (kept : inv p' d) : Leads inv post p (.next p', d)
  | wait {on : List Wait} {d : Daemon} (kept : inv p d) : Leads inv post p (.wait on, d)
  | done {r : ρ} {d : Daemon} (shown : post r d) : Leads inv post p (.done r, d)

theorem Leads.mono {π ρ : Type} {inv inv' : π → Daemon → Prop} {post : ρ → Daemon → Prop} {p : π}
    {out : Turn π ρ × Daemon} (h : Leads inv post p out)
    (weaker : ∀ p d, inv p d → inv' p d) : Leads inv' post p out := by
  cases h with
  | next kept => exact .next (weaker _ _ kept)
  | wait kept => exact .wait (weaker _ _ kept)
  | done shown => exact .done shown

theorem Finishes.induct {π ρ : Type} {turn : π → Daemon → Turn π ρ × Daemon}
    (inv : π → Daemon → Prop) (post : ρ → Daemon → Prop)
    (step : ∀ p d, inv p d → Leads inv post p (turn p d))
    (drift : ∀ p d d', inv p d → d.Drifts d' → inv p d') {p : π} {d d' : Daemon} {r : ρ}
    (h : Finishes turn p d r d') (start : inv p d) : post r d' := by
  induction h with
  | done turned =>
      have led := step _ _ start
      rw [turned] at led
      cases led with
      | done shown => exact shown
  | next turned between _ ih =>
      have led := step _ _ start
      rw [turned] at led
      cases led with
      | next kept => exact ih (drift _ _ _ kept between)
  | wait turned between _ ih =>
      have led := step _ _ start
      rw [turned] at led
      cases led with
      | wait kept => exact ih (drift _ _ _ kept between)

namespace Daemon

/-- A change of neither the registry nor the backends. -/
structure Unmoved (d d' : Daemon) : Prop where
  steady : d.Steady d'
  registry : d'.registry = d.registry
  backends : d'.backends = d.backends
  asked : d'.asked = d.asked
  config : d'.store.config = d.store.config

namespace Unmoved

variable {d d' d'' : Daemon}

theorem refl (d : Daemon) : d.Unmoved d := ⟨.refl d, rfl, rfl, rfl, rfl⟩

theorem trans (h : d.Unmoved d') (h' : d'.Unmoved d'') : d.Unmoved d'' :=
  ⟨h.steady.trans h'.steady, h'.registry.trans h.registry, h'.backends.trans h.backends,
    h'.asked.trans h.asked, h'.config.trans h.config⟩

theorem of_drifts (h : d.Drifts d') : d.Unmoved d' where
  steady := h.quiet.toSteady
  registry := h.registry
  backends := h.backends
  asked := by rw [h.frame]; rfl
  config := by rw [h.store]

theorem backend (h : d.Unmoved d') (b : Place) : d'.backend b = d.backend b := by
  unfold Daemon.backend
  rw [h.backends]

theorem taskOf (h : d.Unmoved d') (b : Place) : d'.taskOf b = d.taskOf b :=
  congrArg Backend.task (h.backend b)

theorem write (d : Daemon) (op : StoreOp) (task : String) {f : MemoryStore → MemoryStore}
    (keeps : ∀ s, (f s).config = s.config) : d.Unmoved (d.write op task f).2 := by
  obtain ⟨s, faults, after, written, -⟩ := write_frame d op task f
  refine ⟨(write_quiet d op task f).toSteady, ?_, ?_, ?_, ?_⟩
  · rw [after]
  · rw [after]
  · rw [after]
    unfold Daemon.asked
    rw [List.reverse_cons, List.filterMap_append]
    exact List.append_nil _
  · rw [after]
    rcases written with ⟨-, rfl⟩ | ⟨-, rfl⟩
    · exact keeps d.store
    · rfl

theorem startRecord (d : Daemon) (t : Task) : d.Unmoved (d.startRecord t).2 :=
  ⟨.of_same rfl rfl rfl rfl, rfl, rfl, rfl, rfl⟩

theorem publish (d : Daemon) (n : Notice) : d.Unmoved (d.publish n) :=
  ⟨.of_same rfl rfl rfl rfl, rfl, rfl, rfl, rfl⟩

theorem notifyCompletion (d : Daemon) (task : String) : d.Unmoved (d.notifyCompletion task) := by
  obtain ⟨c, h⟩ := notifyCompletion_frame d task
  rw [h]
  exact ⟨.of_same rfl rfl rfl rfl, rfl, rfl, rfl, rfl⟩

theorem announceSchedule (d : Daemon) (task : String) : d.Unmoved (d.announceSchedule task) := by
  obtain ⟨box, hs, h⟩ := announceSchedule_frame d task
  rw [h]
  exact ⟨.of_same rfl rfl rfl rfl, rfl, rfl, rfl, rfl⟩

end Unmoved

/-- A backend is asked for, whether or not it can be made. -/
theorem asked_make {d d' : Daemon} {t : Task} {r : Except BackendError Place}
    (h : d.make t = (r, d')) : d'.asked = d.asked ++ [t.name] := by
  have same : ∀ (made : SortedMap Nat) (serial : Nat) (backends : Array Backend),
      ({ d with
        made, backends, journal := .made ⟨t.name, serial⟩ :: d.journal } : Daemon).asked =
        d.asked ++ [t.name] := by
    intro made serial backends
    unfold Daemon.asked
    rw [List.reverse_cons, List.filterMap_append]
    rfl
  unfold make at h
  simp only at h
  split at h
  · cases h
    exact same _ _ _
  · cases h
    exact same _ _ _

theorem make_new {d d' : Daemon} {t : Task} {b : Place} (h : d.make t = (.ok b, d')) :
    ∃ serial script, d'.backend d.backends.size = .new ⟨t.name, serial⟩ t script := by
  unfold make at h
  simp only at h
  split at h
  · cases h
  · cases h
    exact ⟨_, _, (d.backend_push d.backends.size _).trans (if_pos rfl)⟩

end Daemon

namespace Creation

/-- A backend for the task was made in the place next to those before, has hooks and has noted
calls, the last one first. -/
structure Raised (d₀ : Daemon) (task : Task) (hooks : List Hook) (kinds : List CallKind)
    (d : Daemon) : Prop where
  steady : d₀.Steady d
  size : d.backends.size = d₀.backends.size + 1
  others : ∀ c, c ≠ d₀.backends.size → d.backend c = d₀.backend c
  label : (d.backend d₀.backends.size).label.task = task.name
  taskOf : d.taskOf d₀.backends.size =
    { task with enabled := Backend.flagAfter hooks task.enabled kinds }
  script : (d.backend d₀.backends.size).script.hooks = hooks
  calls : (d.backend d₀.backends.size).calls = kinds
  asked : d.asked = d₀.asked ++ [task.name]
  config : d.store.config = d₀.store.config

namespace Raised

variable {d₀ d d' : Daemon} {task : Task} {hooks : List Hook} {kinds more : List CallKind}

theorem name (h : Raised d₀ task hooks kinds d) : (d.taskOf d₀.backends.size).name = task.name := by
  rw [h.taskOf]

theorem enabled (h : Raised d₀ task hooks kinds d) :
    (d.taskOf d₀.backends.size).enabled = Backend.flagAfter hooks task.enabled kinds := by
  rw [h.taskOf]

theorem unlisted (h : Raised d₀ task hooks kinds d) (registry : d.registry = d₀.registry)
    (free : d₀.registry.find? task.name = none) : d.Unlisted d₀.backends.size := by
  refine ⟨?_, ?_⟩
  · rw [h.size]
    exact Nat.lt_succ_self _
  · rw [h.label, registry]
    exact free

theorem attends (h : Raised d₀ task hooks kinds d) (attends : d.Attends d₀.backends.size more d') :
    Raised d₀ task hooks (more ++ kinds) d' := by
  have follows := attends.follows d₀.backends.size
  have hooks' : (d'.backend d₀.backends.size).script.hooks = hooks := follows.hooks.trans h.script
  have calls' : (d'.backend d₀.backends.size).calls = more ++ kinds := by
    rw [attends.calls, h.calls]
  refine ⟨h.steady.trans attends.steady, attends.size.trans h.size,
    fun c other => (attends.others c other).trans (h.others c other), ?_, ?_, hooks', calls',
    attends.asked.trans h.asked, ?_⟩
  · rw [follows.label]
    exact h.label
  · have flagged : (d.backend d₀.backends.size).Flagged task.enabled := by
      show (d.taskOf d₀.backends.size).enabled = _
      rw [h.enabled, h.script, h.calls]
    have flag := attends.flag task.enabled flagged
    rw [Backend.Flagged, hooks', calls'] at flag
    have same : d'.taskOf d₀.backends.size =
        { d.taskOf d₀.backends.size with enabled := (d'.taskOf d₀.backends.size).enabled } :=
      follows.task
    rw [same, h.taskOf]
    show { task with enabled := (d'.backend d₀.backends.size).task.enabled } = _
    rw [flag]
  · rw [attends.store]
    exact h.config

theorem unmoved (h : Raised d₀ task hooks kinds d) (unmoved : d.Unmoved d') :
    Raised d₀ task hooks kinds d' := by
  refine ⟨h.steady.trans unmoved.steady, ?_, fun c other => ?_, ?_, ?_, ?_, ?_,
    unmoved.asked.trans h.asked, unmoved.config.trans h.config⟩
  · rw [unmoved.backends]
    exact h.size
  · rw [unmoved.backend]
    exact h.others c other
  · rw [unmoved.backend]
    exact h.label
  · show (d'.backend _).task = _
    rw [unmoved.backend]
    exact h.taskOf
  · rw [unmoved.backend]
    exact h.script
  · rw [unmoved.backend]
    exact h.calls

theorem of_make (unmoved : d₀.Unmoved d) {b : Place} (made : d.make task = (.ok b, d')) :
    b = d₀.backends.size ∧ d'.registry = d₀.registry ∧
      ∃ hooks, Raised d₀ task hooks [] d' := by
  obtain ⟨next, label, counts, script, after, -⟩ := Daemon.make_eq_ok made
  obtain ⟨serial, script', new⟩ := Daemon.make_new made
  have place : d.backends.size = d₀.backends.size := congrArg Array.size unmoved.backends
  rw [place] at new
  refine ⟨next.trans place, by rw [after]; exact unmoved.registry, script'.hooks,
    unmoved.steady.trans (Daemon.make_quiet made).toSteady, ?_, fun c other => ?_, ?_, ?_, ?_, ?_,
    ?_, ?_⟩
  · rw [after, ← place]
    exact Array.size_push _
  · rw [after]
    show (d.backends.push _).getD c default = _
    rw [Daemon.backend_push, if_neg (place ▸ other), unmoved.backend]
  · rw [new]
    rfl
  · show (d'.backend _).task = _
    rw [new]
    rfl
  · rw [new]
    rfl
  · rw [new]
    rfl
  · rw [Daemon.asked_make made, unmoved.asked]
  · rw [after]
    exact unmoved.config

end Raised

/-! ### Phases -/

/-- The calls of a backend that has to render. -/
def Tries (kinds : List CallKind) : Prop := ∀ k ∈ kinds, k = .render ∨ k = .override

/-- The calls of a backend that is added, the last one first: it has been applied once if the
creation runs the task and the task was enabled when it had rendered. -/
def calls (goal : Goal) (enabled : Bool) (before : List CallKind) : List CallKind :=
  .buffer :: (if goal = .runAndAdd ∧ enabled = true then .apply :: before else before)

/-- The configuration is accepted as that of a task whose name is free. -/
structure Accepts (d₀ : Daemon) (conf : TaskConfig) (task : Task) : Prop where
  valid : (conf.finalize d₀.store.config.globalPeriod d₀.store.config.workingDir).validate = .ok ()
  made : Task.ofConfig (conf.finalize d₀.store.config.globalPeriod d₀.store.config.workingDir) =
    .ok task
  name : task.name = conf.nameOrEmpty
  free : d₀.registry.find? task.name = none

/-- Nothing was added. -/
structure Refuses (d₀ : Daemon) (conf : TaskConfig) (d : Daemon) : Prop where
  steady : d₀.Steady d
  registry : d.registry = d₀.registry
  others : ∀ c, c ≠ d₀.backends.size → d.backend c = d₀.backend c
  config : d.store.config = d₀.store.config
  asked : d.asked = d₀.asked ∨ d.asked = d₀.asked ++ [conf.nameOrEmpty]

/-- The task was added, with the backend in the next place. -/
structure Adds (goal : Goal) (d₀ : Daemon) (conf : TaskConfig) (task : Task) (d : Daemon) :
    Prop where
  accepts : Accepts d₀ conf task
  raised : ∃ hooks before, Tries before ∧
    Raised d₀ task hooks (calls goal (Backend.flagAfter hooks task.enabled before) before) d
  registry : ∃ ids, d₀.registry.add task.name d₀.backends.size ids = .ok d.registry

/-- The backend of the creation is not registered, and has such hooks and calls. -/
def Holds (d₀ : Daemon) (conf : TaskConfig) (d : Daemon)
    (history : Task → List Hook → List CallKind → Prop) : Prop :=
  ∃ task hooks kinds, Accepts d₀ conf task ∧ d.registry = d₀.registry ∧
    Raised d₀ task hooks kinds d ∧ history task hooks kinds

/-- The backend has rendered and its task is enabled; the creation applies it. -/
def Applies (goal : Goal) (call : List CallKind) (task : Task) (hooks : List Hook)
    (kinds : List CallKind) : Prop :=
  goal = .runAndAdd ∧ ∃ before, Tries before ∧
    Backend.flagAfter hooks task.enabled before = true ∧ kinds = call ++ before

/-- Where a creation is that began in the daemon `d₀`. -/
def Phase.Tends (goal : Goal) (d₀ : Daemon) (conf : TaskConfig) (d : Daemon) : Phase → Prop
  | .start c => c = conf ∧ d₀.Unmoved d ∧ d.store = d₀.store
  | .making task => Accepts d₀ conf task ∧ d₀.Unmoved d
  | .rendering t _ | .pausing t _ =>
    t.backend = d₀.backends.size ∧ Holds d₀ conf d fun _ _ kinds => Tries kinds
  | .destroying b r =>
    b = d₀.backends.size ∧ (∃ e, r = .error e) ∧ Holds d₀ conf d fun _ _ _ => True
  | .applying b _ call =>
    b = d₀.backends.size ∧ Holds d₀ conf d (Applies goal (call.made .apply))
  | .recording b _ => b = d₀.backends.size ∧ Holds d₀ conf d (Applies goal [.apply])
  | .storing own => ∃ task, Adds goal d₀ conf task d ∧ own = d.taskOf d₀.backends.size
  | .inspecting _ => False

/-- What a creation has come to that began in the daemon `d₀`. -/
def Ends (goal : Goal) (d₀ : Daemon) (conf : TaskConfig) (d : Daemon) : Result → Prop
  | .error _ => Refuses d₀ conf d
  | .ok c => ∃ task, Adds goal d₀ conf task d ∧ c = .config (d.taskOf d₀.backends.size).toConfig

section

variable {goal : Goal} {d₀ d d' : Daemon} {conf : TaskConfig}
variable {history : Task → List Hook → List CallKind → Prop}

theorem Holds.refuses (h : Holds d₀ conf d history) : Refuses d₀ conf d := by
  obtain ⟨task, hooks, kinds, accepts, registry, raised, -⟩ := h
  exact ⟨raised.steady, registry, raised.others, raised.config,
    .inr (by rw [raised.asked, accepts.name])⟩

theorem Holds.unlisted (h : Holds d₀ conf d history) : d.Unlisted d₀.backends.size := by
  obtain ⟨task, hooks, kinds, accepts, registry, raised, -⟩ := h
  exact raised.unlisted registry accepts.free

theorem Holds.attends {more : List CallKind} {history' : Task → List Hook → List CallKind → Prop}
    (h : Holds d₀ conf d history) (attends : d.Attends d₀.backends.size more d')
    (grows : ∀ task hooks kinds, history task hooks kinds → history' task hooks (more ++ kinds)) :
    Holds d₀ conf d' history' := by
  obtain ⟨task, hooks, kinds, accepts, registry, raised, noted⟩ := h
  exact ⟨task, hooks, more ++ kinds, accepts, attends.registry.trans registry,
    raised.attends attends, grows _ _ _ noted⟩

theorem Holds.unmoved (h : Holds d₀ conf d history) (unmoved : d.Unmoved d') :
    Holds d₀ conf d' history := by
  obtain ⟨task, hooks, kinds, accepts, registry, raised, noted⟩ := h
  exact ⟨task, hooks, kinds, accepts, unmoved.registry.trans registry, raised.unmoved unmoved,
    noted⟩

theorem Holds.mono {history' : Task → List Hook → List CallKind → Prop}
    (h : Holds d₀ conf d history)
    (weaker : ∀ task hooks kinds, history task hooks kinds → history' task hooks kinds) :
    Holds d₀ conf d history' := by
  obtain ⟨task, hooks, kinds, accepts, registry, raised, noted⟩ := h
  exact ⟨task, hooks, kinds, accepts, registry, raised, weaker _ _ _ noted⟩

theorem Adds.unmoved {task : Task} (h : Adds goal d₀ conf task d) (unmoved : d.Unmoved d') :
    Adds goal d₀ conf task d' := by
  obtain ⟨accepts, ⟨hooks, before, tries, raised⟩, registry⟩ := h
  refine ⟨accepts, ⟨hooks, before, tries, raised.unmoved unmoved⟩, ?_⟩
  rw [unmoved.registry]
  exact registry

theorem Tries.cons {k : CallKind} {kinds : List CallKind} (one : k = .render ∨ k = .override)
    (h : Tries kinds) : Tries (k :: kinds) := List.forall_mem_cons.mpr ⟨one, h⟩

theorem Holds.renders (h : Holds d₀ conf d fun _ _ kinds => Tries kinds) (token : Token)
    (call : Pending) : Holds d₀ conf (TimedCall.render.turn d₀.backends.size token call d).2
      fun _ _ kinds => Tries kinds := by
  refine h.attends (TimedCall.render.turn_attends TimedCall.render_takes token call h.unlisted)
    fun task hooks kinds tries => ?_
  cases call with
  | unsent => exact tries.cons (.inl rfl)
  | delayed due => exact tries

/-- The backend is registered: nobody else has the name. -/
theorem register_leads {p : Phase}
    (history' : ∀ task hooks kinds, history task hooks kinds → ∃ before, Tries before ∧
      .buffer :: kinds = calls goal (Backend.flagAfter hooks task.enabled before) before)
    (h : Holds d₀ conf d history) :
    Leads (fun p d => p.Tends goal d₀ conf d) (fun r d => Ends goal d₀ conf d r) p
      (register d₀.backends.size d) := by
  have attends := Daemon.call_attends h.unlisted .buffer
  obtain ⟨task, hooks, kinds, accepts, registry, raised, noted⟩ := h
  obtain ⟨before, tries, calls⟩ := history' task hooks kinds noted
  have raised' := raised.attends attends
  have registry' := attends.registry.trans registry
  unfold register
  simp only
  rw [raised'.name, registry']
  split
  next e failed =>
    obtain ⟨⟨f, found⟩, -⟩ := Registry.add_eq_error failed
    rw [accepts.free] at found
    cases found
  next listed added =>
    refine .next ⟨task, ⟨accepts, ⟨hooks, before, tries, ?_⟩, _, added⟩, rfl⟩
    rw [← calls]
    exact ⟨raised'.steady.trans (.of_same rfl rfl rfl rfl), raised'.size, raised'.others,
      raised'.label, raised'.taskOf, raised'.script, raised'.calls, raised'.asked,
      raised'.config⟩

theorem rendered_leads (acts : goal ≠ .inspect) {p : Phase}
    (h : Holds d₀ conf d fun _ _ kinds => Tries kinds) :
    Leads (fun p d => p.Tends goal d₀ conf d) (fun r d => Ends goal d₀ conf d r) p
      (rendered goal d₀.backends.size d) := by
  have attends := Daemon.call_attends h.unlisted .override
  obtain ⟨task, hooks, kinds, accepts, registry, raised, tries⟩ := h
  have raised' := raised.attends attends
  have tries' : Tries ([.override] ++ kinds) := tries.cons (.inr rfl)
  have registry' := attends.registry.trans registry
  have held : Holds d₀ conf (d.call d₀.backends.size .override) fun task' hooks' kinds' =>
      Tries kinds' ∧ task' = task ∧ hooks' = hooks ∧ kinds' = [.override] ++ kinds :=
    ⟨task, hooks, _, accepts, registry', raised', tries', rfl, rfl, rfl⟩
  unfold rendered
  simp only
  cases goal with
  | inspect => exact absurd rfl acts
  | add =>
    simp only
    refine register_leads (fun task hooks kinds noted => ⟨kinds, noted.1, ?_⟩) held
    rw [calls, if_neg nofun]
  | runAndAdd =>
    simp only
    rw [raised'.enabled]
    split
    next enabled =>
      have started := Daemon.Unmoved.startRecord (d.call d₀.backends.size .override)
        ((d.call d₀.backends.size .override).taskOf d₀.backends.size)
      have applies : Holds d₀ conf (d.call d₀.backends.size .override) (Applies .runAndAdd []) :=
        ⟨task, hooks, _, accepts, registry', raised', rfl, _, tries', enabled, rfl⟩
      exact .next ⟨rfl, applies.unmoved started⟩
    next disabled =>
      refine register_leads (fun task' hooks' kinds' noted => ⟨kinds', noted.1, ?_⟩) held
      obtain ⟨-, rfl, rfl, rfl⟩ := noted
      rw [calls, if_neg fun h => disabled h.2]

theorem render_leads (acts : goal ≠ .inspect) (token : Token) {t : Trial} (call : Pending)
    (h : (Phase.rendering t call).Tends goal d₀ conf d) :
    Leads (fun p d => p.Tends goal d₀ conf d) (fun r d => Ends goal d₀ conf d r)
      (.rendering t call) (render token goal t call d) := by
  obtain ⟨place, held⟩ := h
  unfold render
  simp only
  split
  · exact .done held.refuses
  split
  · exact .next ⟨place, ⟨_, rfl⟩, held.mono fun _ _ _ _ => trivial⟩
  split
  · refine .next ⟨place, ?_⟩
    show Holds d₀ conf (d.call t.backend .override) _
    rw [place]
    exact held.attends (Daemon.call_attends held.unlisted .override) fun _ _ _ tries =>
      tries.cons (.inr rfl)
  · rw [place]
    have held' := held.renders token call
    split <;> rename_i eq <;> rw [eq] at held'
    · exact .next ⟨place, held'⟩
    · exact .wait ⟨place, held'⟩
    · exact rendered_leads acts held'
    · exact .next ⟨place, held'⟩
    · exact .next ⟨rfl, ⟨_, rfl⟩, held'.mono fun _ _ _ _ => trivial⟩

theorem begin_leads (h : (Phase.start conf).Tends goal d₀ conf d) (p : Phase) :
    Leads (fun p d => p.Tends goal d₀ conf d) (fun r d => Ends goal d₀ conf d r) p
      (begin conf d) := by
  obtain ⟨-, unmoved, store⟩ := h
  have refuses : Refuses d₀ conf d :=
    ⟨unmoved.steady, unmoved.registry, fun c _ => unmoved.backend c, unmoved.config,
      .inl unmoved.asked⟩
  unfold begin
  simp only
  rw [store]
  split
  · exact .done refuses
  next valid =>
    split
    · exact .done refuses
    next untaken =>
      split
      · exact .done refuses
      next task made =>
        have name : task.name = conf.nameOrEmpty := (ofConfig_name made).trans rfl
        refine .next ⟨⟨valid, made, name, ?_⟩, unmoved⟩
        rw [name, ← unmoved.registry]
        exact Registry.contains_eq_false.mp (Bool.eq_false_iff.mpr untaken)

theorem make_leads (token : Token) {task : Task} (h : (Phase.making task).Tends goal d₀ conf d) :
    Leads (fun p d => p.Tends goal d₀ conf d) (fun r d => Ends goal d₀ conf d r) (.making task)
      (turn token goal (.making task) d) := by
  obtain ⟨accepts, unmoved⟩ := h
  simp only [turn]
  split
  next e d' failed =>
    have quiet := Daemon.make_quiet failed
    have asked := Daemon.asked_make failed
    obtain ⟨label, made, after⟩ := Daemon.make_eq_error failed
    refine .done ⟨unmoved.steady.trans quiet.toSteady, ?_, fun c _ => ?_, ?_, .inr ?_⟩
    · rw [after]
      exact unmoved.registry
    · rw [after]
      exact unmoved.backend c
    · rw [after]
      exact unmoved.config
    · rw [asked, unmoved.asked, accepts.name]
  next b d' made =>
    obtain ⟨rfl, registry, hooks, raised⟩ := Raised.of_make unmoved made
    exact .next ⟨rfl, task, hooks, [], accepts, registry, raised, fun _ here => by cases here⟩

theorem apply_leads (token : Token) {b : Place} {record : RunRecord} (call : Pending)
    (h : (Phase.applying b record call).Tends goal d₀ conf d) :
    Leads (fun p d => p.Tends goal d₀ conf d) (fun r d => Ends goal d₀ conf d r)
      (.applying b record call) (turn token goal (.applying b record call) d) := by
  obtain ⟨rfl, held⟩ := h
  have attends := TimedCall.apply.turn_attends TimedCall.apply_takes token call held.unlisted
  have applied : Holds d₀ conf (TimedCall.apply.turn d₀.backends.size token call d).2
      (Applies goal [.apply]) := by
    refine held.attends attends ?_
    rintro task hooks kinds ⟨runs, before, tries, enabled, rfl⟩
    refine ⟨runs, before, tries, enabled, ?_⟩
    cases call <;> rfl
  have cases := TimedCall.apply.turn_cases d₀.backends.size token call d
  simp only [turn]
  split <;> rename_i eq <;> rw [eq] at applied cases
  · obtain ⟨rfl, due, same⟩ | ⟨_, _, -, -, no⟩ | ⟨_, no⟩ := cases
    · obtain rfl := Turn.next.inj same
      exact .next ⟨rfl, applied⟩
    · cases no
    · cases no
  · obtain ⟨-, _, no⟩ | ⟨due, _, rfl, -, -⟩ | ⟨_, no⟩ := cases
    · cases no
    · exact .wait ⟨rfl, applied⟩
    · cases no
  · exact .done applied.refuses
  · exact .next ⟨rfl, applied.unmoved (.publish _ _)⟩

theorem record_leads (token : Token) {b : Place} {record : RunRecord}
    (h : (Phase.recording b record).Tends goal d₀ conf d) :
    Leads (fun p d => p.Tends goal d₀ conf d) (fun r d => Ends goal d₀ conf d r)
      (.recording b record) (turn token goal (.recording b record) d) := by
  obtain ⟨rfl, held⟩ := h
  have stored := (Daemon.Unmoved.write d .addRecord record.taskName
    fun s => (rfl : (s.addRecord record).config = s.config)).trans
    (.notifyCompletion _ record.taskName)
  refine register_leads ?_ (held.unmoved stored)
  rintro task hooks _ ⟨runs, before, tries, enabled, rfl⟩
  refine ⟨before, tries, ?_⟩
  rw [calls, if_pos ⟨runs, enabled⟩]
  rfl

theorem store_leads (reliable : d₀.Reliable) (token : Token) {t : Task}
    (h : (Phase.storing t).Tends goal d₀ conf d) :
    Leads (fun p d => p.Tends goal d₀ conf d) (fun r d => Ends goal d₀ conf d r) (.storing t)
      (turn token goal (.storing t) d) := by
  obtain ⟨task, adds, rfl⟩ := h
  have own : d.Reliable := by
    obtain ⟨hooks, before, -, raised⟩ := adds.raised
    exact raised.steady.reliable reliable
  have unmoved : d.Unmoved (d.setTask (d.taskOf d₀.backends.size).toConfig).2 :=
    .write _ _ _ fun _ => rfl
  simp only [turn]
  split <;> rename_i eq
  next e d' =>
    obtain ⟨s, faults, -, -, kept⟩ := d.write_frame .setTask _ (·.setTask _)
    have stored : (d.setTask (d.taskOf d₀.backends.size).toConfig).1 = .ok () := (kept own).1
    rw [eq] at stored
    cases stored
  next d' =>
    rw [eq] at unmoved
    have announced : d'.Unmoved (if (d.taskOf d₀.backends.size).isScheduled then
        d'.announceSchedule (d.taskOf d₀.backends.size).name else d') := by
      split
      · exact .announceSchedule d' _
      · exact .refl d'
    have told := (unmoved.trans announced).trans (.publish _ (.created
      (d.taskOf d₀.backends.size).name (d.taskOf d₀.backends.size).isScheduled))
    exact .done ⟨task, adds.unmoved told,
      congrArg (fun t : Task => Created.config t.toConfig) (told.taskOf _).symm⟩

/-- One turn of a creation that adds its task, in a daemon whose store does not fail. -/
theorem turn_leads (acts : goal ≠ .inspect) (reliable : d₀.Reliable) (token : Token) (p : Phase)
    (h : p.Tends goal d₀ conf d) :
    Leads (fun p d => p.Tends goal d₀ conf d) (fun r d => Ends goal d₀ conf d r) p
      (turn token goal p d) := by
  cases p with
  | start c =>
    have same : c = conf := h.1
    subst same
    exact begin_leads h _
  | making task => exact make_leads token h
  | rendering t call => exact render_leads acts token call h
  | pausing t due =>
    obtain ⟨place, held⟩ := h
    simp only [turn]
    split
    · exact .done held.refuses
    split
    · exact .next ⟨place, held⟩
    · exact .wait ⟨place, held⟩
  | destroying b result =>
    obtain ⟨rfl, ⟨e, rfl⟩, held⟩ := h
    have gone : Holds d₀ conf (d.call d₀.backends.size .destroy) fun _ _ _ => True :=
      held.attends (Daemon.call_attends held.unlisted .destroy) fun _ _ _ _ => trivial
    exact .done gone.refuses
  | applying b record call => exact apply_leads token call h
  | recording b record => exact record_leads token h
  | storing t => exact store_leads reliable token h
  | inspecting b => exact h.elim

theorem Phase.Tends.drifts {p : Phase} (h : p.Tends goal d₀ conf d) (drift : d.Drifts d') :
    p.Tends goal d₀ conf d' := by
  have unmoved := Daemon.Unmoved.of_drifts drift
  cases p with
  | start c => exact ⟨h.1, h.2.1.trans unmoved, drift.store.trans h.2.2⟩
  | making task => exact ⟨h.1, h.2.trans unmoved⟩
  | rendering t call => exact ⟨h.1, h.2.unmoved unmoved⟩
  | pausing t due => exact ⟨h.1, h.2.unmoved unmoved⟩
  | destroying b r => exact ⟨h.1, h.2.1, h.2.2.unmoved unmoved⟩
  | applying b record call => exact ⟨h.1, h.2.unmoved unmoved⟩
  | recording b record => exact ⟨h.1, h.2.unmoved unmoved⟩
  | storing own =>
    obtain ⟨task, adds, same⟩ := h
    refine ⟨task, adds.unmoved unmoved, ?_⟩
    rw [drift.taskOf]
    exact same
  | inspecting b => exact h

/-- What a whole creation comes to: its task is added, with a backend of its own, or nothing is. -/
theorem ends_of_finishes (acts : goal ≠ .inspect) (reliable : d₀.Reliable) {token : Token}
    {r : Result} (h : Finishes (turn token goal) (.start conf) d₀ r d) : Ends goal d₀ conf d r :=
  h.induct (fun p d => p.Tends goal d₀ conf d) (fun r d => Ends goal d₀ conf d r)
    (fun p _ tends => turn_leads acts reliable token p tends) (fun _ _ _ tends => tends.drifts)
    ⟨rfl, .refl d₀, rfl⟩

end

end Creation

end TaskSync
