import TaskSync.Proofs.Config.Canonical

/-!
# Repeating a configuration

Which parts of a task's own configuration count as a change of the task. All parts that are stored
as they were written do not; the variables do when one of them is not written the way the writer
of JSON would, and the buffer period does when `finalize` fills one of its parts.
-/

namespace TaskSync

namespace TaskConfig

section Differs

variable {α : Type} [BEq α] [ReflBEq α]

theorem differs_self (x : Option α) : differs x x = false := by
  simp [differs]

theorem differs_filled (x : Option α) (y : α) : differs x (some (x.getD y)) = false := by
  cases x <;> simp [differs]

theorem differs_orElse (x y : Option α) : differs x (x <|> y) = false := by
  cases x <;> simp [differs]

theorem differsList_self (xs : List α) : differsList xs xs = false := by
  simp [differsList]

end Differs

instance : ReflBEq Path where
  rfl := beq_self_eq_true (Path.components _)

theorem differs_some {α : Type} [DecidableEq α] (x : Option α) (y : α) :
    differs x (some y) = decide (∃ w ∈ x, y ≠ w) := by
  cases x with
  | none => simp [differs]
  | some w =>
    have flip : (w == y) = decide (y = w) := by
      rw [Bool.eq_iff_iff, beq_iff_eq, decide_eq_true_eq, eq_comm]
    simp [differs, flip]

/-- What is set of the configuration, its name and its enabled flag aside, is as it is now. -/
structure Repeats (c current : TaskConfig) : Prop where
  description : ∀ x ∈ c.description, current.description = some x
  moduleName : ∀ x ∈ c.moduleName, current.moduleName = some x
  version : ∀ x ∈ c.version, current.version = some x
  providers : c.providers ≠ [] → c.providers = current.providers
  services : c.services ≠ [] → c.services = current.services
  moduleInputs : c.moduleInputs ≠ [] → c.moduleInputs = current.moduleInputs
  bindings : c.bindings ≠ [] → c.bindings = current.bindings
  bufferPeriod : ∀ x ∈ c.bufferPeriod, current.bufferPeriod = some x
  condition : ∀ x ∈ c.condition, current.condition = some x
  /-- Directories are compared by their components. -/
  workingDir : ∀ x ∈ c.workingDir, ∃ y ∈ current.workingDir, x == y

/-- Variables differ from what is made of them when one of them does. -/
theorem differsList_mapValues (f : String → String) (bindings : SortedMap String) :
    differsList bindings (bindings.mapValues f) = decide (∃ e ∈ bindings, f e.2 ≠ e.2) := by
  have same : bindings = bindings.mapValues f ↔ ¬ ∃ e ∈ bindings, f e.2 ≠ e.2 := by
    induction bindings with
    | nil => simp [SortedMap.mapValues]
    | cons e es ih =>
      simp only [SortedMap.mapValues, List.map_cons, List.cons.injEq] at ih ⊢
      rw [ih]
      obtain ⟨k, v⟩ := e
      simp [eq_comm]
  rw [Bool.eq_iff_iff, differsList, Bool.and_eq_true, Bool.not_eq_true', Bool.not_eq_true',
    decide_eq_true_eq, beq_eq_false_iff_ne, Ne, same, Classical.not_not]
  constructor
  · exact fun h => h.2
  · rintro ⟨e, here, changed⟩
    exact ⟨List.isEmpty_eq_false_iff.mpr (List.ne_nil_of_mem here), e, here, changed⟩

/-- The buffer period that a task gets which is configured with this one. -/
def settledPeriod (c : TaskConfig) (p parent : PeriodConfig) : PeriodConfig :=
  if c.isScheduled then .disabled else p.finalize parent

theorem bufferPeriod_finalize {c : TaskConfig} {p : PeriodConfig} (set : p ∈ c.bufferPeriod)
    (period : PeriodConfig) (dir : Path) :
    (c.finalize period dir).bufferPeriod = some (c.settledPeriod p period) := by
  simp only [finalize, settledPeriod, Option.mem_def.mp set, Option.getD_some]

/-- Variables aside, the buffer period is all that a configuration may change of what it is when it
is finalized. -/
theorem changedFields_finalize (c : TaskConfig) (period : PeriodConfig) (dir : Path)
    (bindings : SortedMap String) :
    c.changedFields { c.finalize period dir with bindings } =
      (if differsList c.bindings bindings then ["variables"] else [])
        ++ (if ∃ p ∈ c.bufferPeriod, c.settledPeriod p period ≠ p then ["buffer_period"]
          else []) := by
  have periods : differs c.bufferPeriod (c.finalize period dir).bufferPeriod =
      decide (∃ p ∈ c.bufferPeriod, c.settledPeriod p period ≠ p) := by
    show differs c.bufferPeriod (some _) = _
    rw [differs_some]
    cases c.bufferPeriod <;> simp [settledPeriod]
  unfold changedFields
  simp only [periods]
  simp only [finalize, differs_self, differs_filled, differs_orElse, differsList_self]
  by_cases v : differsList c.bindings bindings = true <;>
    by_cases p : ∃ p ∈ c.bufferPeriod, c.settledPeriod p period ≠ p <;>
    simp only [v, p, decide_true, decide_false, if_true, if_false] <;> rfl

/-- The parts of a configuration that its task has in another form than they were written in. -/
def rewritten (c : TaskConfig) (period : PeriodConfig) : List String :=
  (if ∃ e ∈ c.bindings, Json.write (Task.variableValue e.2) ≠ e.2 then ["variables"] else [])
    ++ (if ∃ p ∈ c.bufferPeriod, c.settledPeriod p period ≠ p then ["buffer_period"] else [])

/-- These parts are what a configuration changes of the task that has been made from it. -/
theorem changedFields_canonical {c : TaskConfig} {t : Task} {period : PeriodConfig} {dir : Path}
    (made : Task.ofConfig (c.finalize period dir) = .ok t) :
    c.changedFields t.toConfig = c.rewritten period := by
  have texts : differsList c.bindings (Task.canonicalBindings c.bindings) =
      decide (∃ e ∈ c.bindings, Json.write (Task.variableValue e.2) ≠ e.2) :=
    differsList_mapValues _ _
  rw [Task.toConfig_of_finalized made, changedFields_finalize, rewritten, texts]
  simp only [decide_eq_true_eq]

end TaskConfig

end TaskSync
