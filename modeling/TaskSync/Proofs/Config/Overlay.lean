import Mathlib.Data.List.Nodup
import TaskSync.Proofs.Config.Changes

/-!
# Laying one configuration over another

An update is compared with a task by laying what it sets over the task's configuration: the fields
it is said to change are those in which the result differs. A field that is missing from the
comparison, or compared in another's place, would make an update lose a change without a word.
-/

namespace TaskSync

namespace TaskConfig

/-- The current value, unless something is set instead. -/
def overlayList {α : Type} (wanted current : List α) : List α :=
  if wanted.isEmpty then current else wanted

/-- `current` with every field other than its name and its enabled flag replaced by what is set of
`c`. -/
def overlay (c current : TaskConfig) : TaskConfig where
  name := current.name
  description := c.description <|> current.description
  enabled := current.enabled
  moduleName := c.moduleName <|> current.moduleName
  version := c.version <|> current.version
  providers := overlayList c.providers current.providers
  services := overlayList c.services current.services
  moduleInputs := overlayList c.moduleInputs current.moduleInputs
  bindings := overlayList c.bindings current.bindings
  bufferPeriod := c.bufferPeriod <|> current.bufferPeriod
  condition := c.condition <|> current.condition
  workingDir := c.workingDir <|> current.workingDir

/-- A field, in the order of declaration. -/
inductive Part where
  | name
  | description
  | enabled
  | moduleName
  | version
  | providers
  | services
  | moduleInputs
  | bindings
  | bufferPeriod
  | condition
  | workingDir
  deriving DecidableEq

namespace Part

def all : List Part :=
  [name, description, enabled, moduleName, version, providers, services, moduleInputs, bindings,
    bufferPeriod, condition, workingDir]

/-- What the field is called where configurations are written. -/
def key : Part → String
  | name => "name"
  | description => "description"
  | enabled => "enabled"
  | moduleName => "module"
  | version => "version"
  | providers => "providers"
  | services => "services"
  | moduleInputs => "module_inputs"
  | bindings => "variables"
  | bufferPeriod => "buffer_period"
  | condition => "condition"
  | workingDir => "working_dir"

/-- The configurations have different values in the field; directories are compared by their
components. -/
def Differ (a b : TaskConfig) : Part → Prop
  | name => a.name ≠ b.name
  | description => a.description ≠ b.description
  | enabled => a.enabled ≠ b.enabled
  | moduleName => a.moduleName ≠ b.moduleName
  | version => a.version ≠ b.version
  | providers => a.providers ≠ b.providers
  | services => a.services ≠ b.services
  | moduleInputs => a.moduleInputs ≠ b.moduleInputs
  | bindings => a.bindings ≠ b.bindings
  | bufferPeriod => a.bufferPeriod ≠ b.bufferPeriod
  | condition => a.condition ≠ b.condition
  | workingDir => (a.workingDir == b.workingDir) = false

instance (a b : TaskConfig) : DecidablePred (Differ a b)
  | name => inferInstanceAs (Decidable (a.name ≠ b.name))
  | description => inferInstanceAs (Decidable (a.description ≠ b.description))
  | enabled => inferInstanceAs (Decidable (a.enabled ≠ b.enabled))
  | moduleName => inferInstanceAs (Decidable (a.moduleName ≠ b.moduleName))
  | version => inferInstanceAs (Decidable (a.version ≠ b.version))
  | providers => inferInstanceAs (Decidable (a.providers ≠ b.providers))
  | services => inferInstanceAs (Decidable (a.services ≠ b.services))
  | moduleInputs => inferInstanceAs (Decidable (a.moduleInputs ≠ b.moduleInputs))
  | bindings => inferInstanceAs (Decidable (a.bindings ≠ b.bindings))
  | bufferPeriod => inferInstanceAs (Decidable (a.bufferPeriod ≠ b.bufferPeriod))
  | condition => inferInstanceAs (Decidable (a.condition ≠ b.condition))
  | workingDir => inferInstanceAs (Decidable ((a.workingDir == b.workingDir) = false))

theorem mem_all (f : Part) : f ∈ all := by
  cases f <;> decide

theorem shape_names : shape.fields.map (·.name) = all.map key := rfl

theorem nodup_keys : (all.map key).Nodup := by decide

theorem key_injective {f g : Part} (same : f.key = g.key) : f = g :=
  List.inj_on_of_nodup_map nodup_keys (mem_all f) (mem_all g) same

theorem not_differ_self (c : TaskConfig) (f : Part) : ¬ f.Differ c c := by
  cases f with
  | workingDir => simp [Differ]
  | _ => exact fun other => other rfl

end Part

/-! ### Equality field by field -/

theorem beq_iff {a b : TaskConfig} : (a == b) = true ↔ ∀ f : Part, ¬ f.Differ a b := by
  show (a.name == b.name && _ && _ && _ && _ && _ && _ && _ && _ && _ && _ && _) = true ↔ _
  simp only [Bool.and_eq_true, beq_iff_eq, and_assoc]
  constructor
  · rintro ⟨name, description, enabled, moduleName, version, providers, services, moduleInputs,
      bindings, bufferPeriod, condition, workingDir⟩ f other
    cases f with
    | workingDir => exact Bool.false_ne_true (other.symm.trans workingDir)
    | _ => exact other (by assumption)
  · intro alike
    exact ⟨not_not.mp (alike .name), not_not.mp (alike .description), not_not.mp (alike .enabled),
      not_not.mp (alike .moduleName), not_not.mp (alike .version), not_not.mp (alike .providers),
      not_not.mp (alike .services), not_not.mp (alike .moduleInputs),
      not_not.mp (alike .bindings), not_not.mp (alike .bufferPeriod),
      not_not.mp (alike .condition), (Bool.not_eq_false _).mp (alike .workingDir)⟩

/-! ### One field -/

section Overlay

variable {α : Type}

theorem differs_eq_overlay [BEq α] [LawfulBEq α] [DecidableEq α] (x y : Option α) :
    differs x y = decide ((x <|> y) ≠ y) := by
  cases x with
  | none => simp [differs]
  | some x =>
      rw [differs, Option.isSome_some, Bool.true_and, beq_eq_decide, ← decide_not]
      rfl

theorem differsList_eq_overlay [BEq α] [LawfulBEq α] [DecidableEq α] (xs ys : List α) :
    differsList xs ys = decide (overlayList xs ys ≠ ys) := by
  cases xs with
  | nil => simp [differsList, overlayList]
  | cons x xs =>
      rw [differsList, List.isEmpty_cons, Bool.not_false, Bool.true_and, beq_eq_decide,
        ← decide_not]
      rfl

theorem differs_eq_overlay_beq [BEq α] [ReflBEq α] (x y : Option α) :
    differs x y = decide (((x <|> y) == y) = false) := by
  cases x with
  | none => simp [differs]
  | some x => simp [differs]

theorem orElse_self (x : Option α) : (x <|> x) = x := by
  cases x <;> rfl

theorem overlayList_self (xs : List α) : overlayList xs xs = xs := ite_self xs

theorem orElse_orElse (x y : Option α) : ((x <|> y) <|> y) = (x <|> y) := by
  cases x with
  | none => cases y <;> rfl
  | some x => rfl

theorem overlayList_overlayList (xs ys : List α) :
    overlayList (overlayList xs ys) ys = overlayList xs ys := by
  cases xs with
  | nil => cases ys <;> rfl
  | cons x xs => rfl

end Overlay

theorem overlay_overlay (c current : TaskConfig) :
    (c.overlay current).overlay current = c.overlay current := by
  simp only [overlay, orElse_orElse, overlayList_overlayList]

theorem overlay_self (c : TaskConfig) : c.overlay c = c := by
  simp only [overlay, orElse_self, overlayList_self]

/-- Whether the field is set in `c`, to something else than it is now. -/
def Part.changes (c current : TaskConfig) : Part → Bool
  | name | enabled => false
  | description => differs c.description current.description
  | moduleName => differs c.moduleName current.moduleName
  | version => differs c.version current.version
  | providers => differsList c.providers current.providers
  | services => differsList c.services current.services
  | moduleInputs => differsList c.moduleInputs current.moduleInputs
  | bindings => differsList c.bindings current.bindings
  | bufferPeriod => differs c.bufferPeriod current.bufferPeriod
  | condition => differs c.condition current.condition
  | workingDir => differs c.workingDir current.workingDir

theorem Part.changes_eq (c current : TaskConfig) (f : Part) :
    f.changes c current = decide (f.Differ (c.overlay current) current) := by
  cases f with
  | name | enabled => exact (decide_eq_false (not_not_intro rfl)).symm
  | description | moduleName | version | bufferPeriod | condition =>
      exact differs_eq_overlay _ _
  | providers | services | moduleInputs | bindings => exact differsList_eq_overlay _ _
  | workingDir => exact differs_eq_overlay_beq _ _

/-- What an update is said to change is what laying it over the configuration does. -/
theorem changedFields_eq (c current : TaskConfig) : c.changedFields current =
    (Part.all.filter fun f => f.Differ (c.overlay current) current).map Part.key := by
  have listed : c.changedFields current =
      Part.all.filterMap fun f => if f.changes c current then some f.key else none := rfl
  rw [listed, ← List.filterMap_eq_map, List.filterMap_filter]
  simp only [Part.changes_eq, Function.comp_apply]

theorem changedFields_eq_nil_iff {c current : TaskConfig} :
    c.changedFields current = [] ↔ (c.overlay current == current) = true := by
  rw [changedFields_eq, List.map_eq_nil_iff, List.filter_eq_nil_iff, beq_iff]
  simp only [decide_eq_true_eq, Part.mem_all, true_implies]

/-- The names of changed fields come in their order of declaration and each at most once; they are
those in which the overlay differs. So there are none exactly when the overlay leaves everything as
it was. -/
theorem changedFields_overlay (c current : TaskConfig) :
    (c.changedFields current).Sublist (shape.fields.map (·.name)) ∧
    (c.changedFields current).Nodup ∧
    (∀ f : Part, f.key ∈ c.changedFields current ↔ f.Differ (c.overlay current) current) ∧
    (c.changedFields current = [] ↔ (c.overlay current == current) = true) ∧
    c.changedFields c = [] ∧
    (c.overlay current).changedFields current = c.changedFields current := by
  have declared : (c.changedFields current).Sublist (shape.fields.map (·.name)) := by
    rw [changedFields_eq, Part.shape_names]
    exact List.filter_sublist.map Part.key
  refine ⟨declared, Part.nodup_keys.sublist declared, fun f => ?_, changedFields_eq_nil_iff, ?_, ?_⟩
  · rw [changedFields_eq, List.mem_map]
    constructor
    · rintro ⟨g, differs, same⟩
      rw [Part.key_injective same] at differs
      exact of_decide_eq_true (List.mem_filter.mp differs).2
    · exact fun differs => ⟨f, List.mem_filter.mpr ⟨f.mem_all, decide_eq_true differs⟩, rfl⟩
  · rw [changedFields_eq_nil_iff, overlay_self, beq_iff]
    exact Part.not_differ_self c
  · rw [changedFields_eq, changedFields_eq, overlay_overlay]

end TaskConfig

end TaskSync
