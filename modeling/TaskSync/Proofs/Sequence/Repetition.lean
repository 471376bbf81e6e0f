import TaskSync.Daemon.Update
import TaskSync.Proofs.Config.Changes
import TaskSync.Proofs.Sequence.Creation
import TaskSync.Proofs.Traffic.Exclusion

/-!
# Updates that repeat a configuration

An update compares the configuration it is given with that of the task as it is, in which variables
are written as JSON and the buffer period is complete. So a configuration that repeats what its task
was created from is refused whenever a variable or the buffer period was written in another form,
and never otherwise.
-/

namespace TaskSync

/-- Which fields change does not depend on the enabled flags. -/
theorem TaskConfig.changedFields_withEnabled (c current : TaskConfig) (on : Bool) :
    (c.withEnabled on).changedFields current = c.changedFields current := rfl

theorem TaskConfig.changedFields_enabled (c : TaskConfig) (t : Task) (on : Bool) :
    c.changedFields ({ t with enabled := on } : Task).toConfig = c.changedFields t.toConfig := rfl

namespace Update

variable {conf : TaskConfig} {option : RunOption} {d : Daemon} {b : Place}

theorem begin_refuses {fields : List String} (named : conf.nameOrEmpty ≠ "")
    (registered : d.registry.get? conf.nameOrEmpty = some b)
    (changed : conf.changedFields (d.taskOf b).toConfig = fields) (some : fields ≠ []) :
    begin conf option d =
      fail (.unsupportedUpdate conf.nameOrEmpty (", ".intercalate fields)) d := by
  obtain ⟨field, fields, rfl⟩ := List.exists_cons_of_ne_nil some
  unfold begin
  simp only [named, registered, changed, if_false]

/-- An update that changes nothing but the enabled flag has the guard of its task, or finds the
task active. -/
theorem begin_enters {on : Bool} (named : conf.nameOrEmpty ≠ "")
    (registered : d.registry.get? conf.nameOrEmpty = some b)
    (unchanged : conf.changedFields (d.taskOf b).toConfig = []) (wanted : conf.enabled = some on) :
    (d.registry.isActive conf.nameOrEmpty = true ∧
      begin conf option d = fail (.busy conf.nameOrEmpty) d) ∨
    ∃ h d', begin conf option d = (.next (.patching h), d') ∧
      h.task = conf.nameOrEmpty ∧ h.enabled = on ∧ h.option = option := by
  obtain ⟨e, found, -⟩ := Registry.get?_eq_some.mp registered
  unfold begin
  simp only [named, registered, unchanged, wanted, if_false]
  unfold Daemon.tryActivate
  cases taken : d.registry.tryActivate conf.nameOrEmpty with
  | error e =>
      obtain ⟨missing, -⟩ := Registry.tryActivate_eq_error taken
      rw [found] at missing
      cases missing
  | ok r =>
      obtain ⟨guard | guard, registry⟩ := r
      · obtain ⟨rfl, e, found, active⟩ := Registry.tryActivate_eq_busy taken
        refine .inl ⟨?_, rfl⟩
        rw [Registry.isActive, found]
        exact active
      · refine .inr ?_
        simp only [Except.map, entered]
        split
        · exact ⟨_, _, rfl, rfl, rfl, rfl⟩
        · exact ⟨_, _, rfl, rfl, rfl, rfl⟩

/-- An update of a registered task that repeats the configuration the task was created from, as it
is found at any time after. -/
theorem repetition {goal : Goal} (acts : goal ≠ .inspect) {token : Token} {c : Created}
    {d₁ d₂ : Daemon} (reliable : d.Reliable)
    (creation : Finishes (Creation.turn token goal) (.start conf) d (.ok c) d₁)
    (later : d₁.Steady d₂)
    (still : d₂.registry.get? conf.nameOrEmpty = d₁.registry.get? conf.nameOrEmpty)
    (on : Bool) (option : RunOption) :
    (conf.rewritten d.store.config.globalPeriod ≠ [] →
      turn (.start (conf.withEnabled on) option) d₂ =
        fail (.unsupportedUpdate conf.nameOrEmpty
          (", ".intercalate (conf.rewritten d.store.config.globalPeriod))) d₂) ∧
    (conf.rewritten d.store.config.globalPeriod = [] →
      (d₂.registry.isActive conf.nameOrEmpty = true ∧
        turn (.start (conf.withEnabled on) option) d₂ = fail (.busy conf.nameOrEmpty) d₂) ∨
      ∃ h d', turn (.start (conf.withEnabled on) option) d₂ = (.next (.patching h), d') ∧
        h.task = conf.nameOrEmpty ∧ h.enabled = on ∧ h.option = option) := by
  obtain ⟨task, ⟨accepts, ⟨hooks, before, -, raised⟩, ids, listed⟩, -⟩ :=
    Creation.ends_of_finishes acts reliable creation
  obtain ⟨name, -, named, nonempty, -⟩ := TaskConfig.exists_of_validate accepts.valid
  have named : conf.nameOrEmpty ≠ "" := by
    have same : conf.name = some name := named
    rw [TaskConfig.nameOrEmpty, same]
    exact nonempty
  have registered : d₂.registry.get? conf.nameOrEmpty = some d.backends.size := by
    rw [still, Registry.get?, Registry.find?_add listed, if_pos accepts.name.symm]
    rfl
  have inside : d.backends.size < d₁.backends.size := by
    rw [raised.size]
    exact Nat.lt_succ_self _
  have runs : d₂.taskOf d.backends.size =
      { task with enabled := (d₂.taskOf d.backends.size).enabled } := by
    have follows := (later.backend _ inside).task
    have made : (d₁.backend d.backends.size).task = _ := raised.taskOf
    rw [made] at follows
    exact follows
  have changed : (conf.withEnabled on).changedFields (d₂.taskOf d.backends.size).toConfig =
      conf.rewritten d.store.config.globalPeriod := by
    rw [runs, TaskConfig.changedFields_withEnabled, TaskConfig.changedFields_enabled]
    exact TaskConfig.changedFields_canonical accepts.made
  have kept : (conf.withEnabled on).nameOrEmpty ≠ "" := named
  exact ⟨begin_refuses kept registered changed,
    fun none => begin_enters kept registered (changed.trans none) rfl⟩

/-- A daemon whose backends render and are applied at once. -/
def sampleDaemon : Daemon :=
  { Traffic.sample.daemon .default with setting := ⟨[], .plain, none, [], .quiet⟩ }

/-- A variable that is plain text. -/
def sampleConfig : TaskConfig := Traffic.sampleTask.withVariable "label" "plain"

theorem repetition_sample :
    sampleConfig.rewritten sampleDaemon.store.config.globalPeriod = ["variables"] ∧
      ∃ c d₁, Finishes (Creation.turn ⟨0⟩ .add) (.start sampleConfig) sampleDaemon (.ok c) d₁ ∧
        turn (.start (sampleConfig.withEnabled false) .default) d₁ =
          fail (.unsupportedUpdate "a" "variables") d₁ := by
  have fields : sampleConfig.rewritten sampleDaemon.store.config.globalPeriod = ["variables"] := by
    decide +kernel
  obtain ⟨c, d₁, created⟩ : ∃ c d₁, TaskSync.settle (Creation.turn ⟨0⟩ .add) 10
      (.start sampleConfig) sampleDaemon = (.ended (.ok c), d₁) := ⟨_, _, rfl⟩
  have finishes := Finishes.of_settle created
  have acts : Goal.add ≠ .inspect := by decide
  have reliable : sampleDaemon.Reliable := nofun
  have repeated := repetition acts reliable finishes (.refl d₁) rfl false .default
  rw [fields] at repeated
  exact ⟨fields, c, d₁, finishes, repeated.1 (by decide)⟩

/-- A task can be created whose own configuration is refused as an update. -/
theorem repetition_refused :
    ¬ ∀ (conf : TaskConfig) (c : Created) (d d₁ : Daemon) (on : Bool) (fields : String),
      Finishes (Creation.turn ⟨0⟩ .add) (.start conf) d (.ok c) d₁ →
        turn (.start (conf.withEnabled on) .default) d₁ ≠
          fail (.unsupportedUpdate conf.nameOrEmpty fields) d₁ := by
  intro never
  obtain ⟨c, d₁, created, refused⟩ : ∃ c d₁, TaskSync.settle (Creation.turn ⟨0⟩ .add) 10
      (.start sampleConfig) sampleDaemon = (.ended (.ok c), d₁) ∧
        turn (.start (sampleConfig.withEnabled false) .default) d₁ =
          fail (.unsupportedUpdate "a" "variables") d₁ := ⟨_, _, rfl, rfl⟩
  exact never sampleConfig c sampleDaemon d₁ false "variables" (.of_settle created) refused

end Update

end TaskSync
