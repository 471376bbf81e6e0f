import TaskSync.Proofs.Config.Validation
import TaskSync.Proofs.Json.RoundTrip
import TaskSync.Task

/-!
# Canonical configurations

A task is stored as its canonical configuration, and made again from it after a restart, when the
common period and directory may be others. The canonical configuration is the finalized one with
its variables written anew: every part is set, so `finalize` finds nothing to fill, and what is
written as JSON is read as the value it was written from.
-/

namespace TaskSync

namespace PeriodConfig

/-- Every part is set: the period is off, or has both waits. -/
def IsSettled (p : PeriodConfig) : Prop := p = disabled ∨ ∃ min max, p = new min max

theorem isSettled_disabled : IsSettled disabled := .inl rfl

theorem isSettled_finalize (p parent : PeriodConfig) : (p.finalize parent).IsSettled := by
  unfold finalize
  split
  · exact .inr ⟨_, _, rfl⟩
  · exact isSettled_disabled

/-- No parent has a say in a period whose parts are set. -/
theorem IsSettled.finalize {p : PeriodConfig} (settled : p.IsSettled) (parent : PeriodConfig) :
    p.finalize parent = p := by
  rcases settled with rfl | ⟨min, max, rfl⟩ <;> rfl

/-- A period that a task keeps is the one it has been made from. -/
theorem IsSettled.periodConfig {p : PeriodConfig} (settled : p.IsSettled) :
    Task.periodConfig (Task.periodOf p) = p := by
  rcases settled with rfl | ⟨min, max, rfl⟩ <;> rfl

end PeriodConfig

namespace TaskConfig

/-- A configuration that is accepted has a name and a module. -/
theorem exists_of_validate {c : TaskConfig} (valid : c.validate = .ok ()) :
    ∃ name moduleName, c.name = some name ∧ name ≠ "" ∧ c.moduleName = some moduleName := by
  have proper := validate_eq_ok_iff.mp valid
  obtain ⟨name, named, nonempty, -⟩ := proper.name
  obtain ⟨moduleName, source, -⟩ := proper.moduleName
  exact ⟨name, moduleName, named, nonempty, source⟩

/-- Variables are not checked. -/
theorem validate_bindings (c : TaskConfig) (bindings : SortedMap String) :
    ({ c with bindings }).validate = c.validate := rfl

theorem isSettled_of_finalize (c : TaskConfig) (period : PeriodConfig) (dir : Path) :
    ∃ p, (c.finalize period dir).bufferPeriod = some p ∧ p.IsSettled := by
  refine ⟨_, rfl, ?_⟩
  split
  · exact PeriodConfig.isSettled_disabled
  · exact PeriodConfig.isSettled_finalize _ _

/-- A finalized configuration has nothing left to fill: a directory that it has none of stays open
for want of a name. -/
theorem finalize_finalize (c : TaskConfig) (period period' : PeriodConfig) (dir dir' : Path) :
    (c.finalize period dir).finalize period' dir' = c.finalize period dir := by
  have home : ((c.workingDir <|> c.name.map dir.join) <|> c.name.map dir'.join) =
      (c.workingDir <|> c.name.map dir.join) := by
    cases c.workingDir <;> cases c.name <;> rfl
  obtain ⟨p, full, settled⟩ := c.isSettled_of_finalize period dir
  have kept : (if c.isScheduled then PeriodConfig.disabled
      else ((c.finalize period dir).bufferPeriod.getD .empty).finalize period') = p := by
    split
    · rename_i scheduled
      simpa [finalize, scheduled] using full
    · rw [full]
      exact settled.finalize period'
  show { c.finalize period dir with
    bufferPeriod := some (if c.isScheduled then PeriodConfig.disabled
      else ((c.finalize period dir).bufferPeriod.getD .empty).finalize period')
    workingDir := (c.workingDir <|> c.name.map dir.join) <|> c.name.map dir'.join } = _
  rw [kept, home, ← full]
  rfl

end TaskConfig

namespace Task

/-- What a variable stands for, written as JSON, stands for the same. -/
theorem variableValue_write {raw : String}
    (floats : ∀ x ∈ (variableValue raw).floats, Json.ReadsBack x) :
    variableValue (Json.write (variableValue raw)) = variableValue raw := by
  have settled : (variableValue raw).canonical = variableValue raw ∧
      (variableValue raw).Fits Json.maxDepth := by
    unfold variableValue
    cases read : Json.readCanonical? raw with
    | none => exact ⟨rfl, trivial⟩
    | some v => exact Json.readCanonical?_eq_some read
  rw [variableValue, Json.readCanonical?_write settled.1 settled.2 floats, Option.getD_some]

/-- The variables of a canonical configuration. -/
def canonicalBindings (bindings : SortedMap String) : SortedMap String :=
  bindings.mapValues fun raw => Json.write (variableValue raw)

theorem canonicalBindings_values {bindings : SortedMap String}
    (floats : ∀ e ∈ bindings, ∀ x ∈ (variableValue e.2).floats, Json.ReadsBack x) :
    (canonicalBindings bindings).mapValues variableValue = bindings.mapValues variableValue := by
  rw [canonicalBindings, SortedMap.mapValues_mapValues]
  exact SortedMap.mapValues_congr fun e here => variableValue_write (floats e here)

variable {c : TaskConfig} {t : Task} {period : PeriodConfig} {dir : Path}

/-- The canonical configuration of a task is the finalized configuration that it has been made
from, its variables aside. -/
theorem toConfig_of_finalized (made : ofConfig (c.finalize period dir) = .ok t) :
    t.toConfig =
      { c.finalize period dir with bindings := canonicalBindings c.bindings } := by
  obtain ⟨p, full, settled⟩ := c.isSettled_of_finalize period dir
  unfold ofConfig at made
  split at made
  · cases made
  · cases made
  · rename_i name moduleName named source
    obtain rfl := (Except.ok.inj made).symm
    have home : ∃ d, (c.finalize period dir).workingDir = some d := by
      have named : c.name = some name := named
      show ∃ d, (c.workingDir <|> c.name.map dir.join) = some d
      rw [named]
      cases c.workingDir with
      | some d => exact ⟨d, rfl⟩
      | none => exact ⟨_, rfl⟩
    obtain ⟨d, home⟩ := home
    have period : some (periodConfig (some p |>.bind periodOf)) = some p :=
      congrArg some settled.periodConfig
    simp only [toConfig, full, home, named, source, Option.getD_some, period,
      SortedMap.mapValues_mapValues]
    rw [← named, ← source, ← full, ← home]
    rfl

/-- Variables only come to lie in the task. -/
theorem ofConfig_bindings (made : ofConfig c = .ok t) (bindings : SortedMap String) :
    ofConfig { c with bindings } = .ok { t with bindings := bindings.mapValues variableValue } := by
  unfold ofConfig at made ⊢
  split at made
  · cases made
  · cases made
  · rename_i named source
    obtain rfl := (Except.ok.inj made).symm
    simp only [named, source]
    rfl

/-- What a task has of a configuration; its variables and its times are read. -/
structure Conveys (t : Task) (c : TaskConfig) : Prop where
  isScheduled : t.isScheduled = c.isScheduled
  condition : t.condition = c.condition
  bufferPeriod : t.bufferPeriod = c.bufferPeriod.bind periodOf
  bindings : t.bindings = c.bindings.mapValues variableValue

theorem conveys_of_ofConfig (made : ofConfig c = .ok t) : t.Conveys c := by
  unfold ofConfig at made
  split at made
  · cases made
  · cases made
  · rw [← Except.ok.inj made]
    refine ⟨?_, rfl, rfl, rfl⟩
    cases c.isScheduled <;> rfl

theorem ofConfig_of_validate (valid : c.validate = .ok ()) : ∃ t, ofConfig c = .ok t := by
  obtain ⟨name, moduleName, named, -, source⟩ := TaskConfig.exists_of_validate valid
  exact ⟨_, by unfold ofConfig; rw [named, source]⟩

/-- A task is made again, the same, from its canonical configuration, and neither the common
period nor the common directory changes anything about it. -/
theorem canonical_stable (c : TaskConfig) (period : PeriodConfig) (dir : Path)
    (valid : (c.finalize period dir).validate = .ok ())
    (floats : ∀ e ∈ c.bindings, ∀ x ∈ (variableValue e.2).floats, Json.ReadsBack x) :
    ∃ t, ofConfig (c.finalize period dir) = .ok t ∧ t.toConfig.validate = .ok () ∧
      ofConfig t.toConfig = .ok t ∧
      ∀ period' dir', t.toConfig.finalize period' dir' = t.toConfig := by
  obtain ⟨t, made⟩ := ofConfig_of_validate valid
  have canonical := toConfig_of_finalized made
  refine ⟨t, made, ?_, ?_, fun period' dir' => ?_⟩
  · rw [canonical, TaskConfig.validate_bindings]
    exact valid
  · have again : (canonicalBindings c.bindings).mapValues variableValue = t.bindings :=
      (canonicalBindings_values floats).trans (conveys_of_ofConfig made).bindings.symm
    rw [canonical, ofConfig_bindings made, again]
  · rw [canonical]
    exact congrArg (fun x : TaskConfig => { x with bindings := canonicalBindings c.bindings })
      (c.finalize_finalize period period' dir dir')

theorem second_fits : 1 < 2 ^ 64 := by decide

/-- Variables that are a plain text and a document that is not written canonically, and half a
buffer period. -/
def sampleVariables : TaskConfig :=
  { ((TaskConfig.named "web").withModule "m").withServices ["api"] with
    bindings := [("label", "plain text"),
      ("limits", "\x7b\"max\": [1.5, -3], \"a\": \x7b\"b\": \"x\\u0009\"\x7d\x7d")]
    bufferPeriod := some ⟨none, some (.ofSecs 1 second_fits), none⟩ }

theorem canonical_stable_sample :
    (sampleVariables.finalize .fallback ⟨"tasks"⟩).validate = .ok () ∧
      ∃ t, ofConfig (sampleVariables.finalize .fallback ⟨"tasks"⟩) = .ok t ∧
        t.toConfig.validate = .ok () ∧ ofConfig t.toConfig = .ok t ∧
        ∀ period' dir', t.toConfig.finalize period' dir' = t.toConfig :=
  ⟨by rfl, canonical_stable sampleVariables .fallback ⟨"tasks"⟩ (by rfl) (by decide +kernel)⟩

end Task

end TaskSync
