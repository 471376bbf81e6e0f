import TaskSync.Config.TaskConfig
import TaskSync.Proofs.Data.Reading
import TaskSync.Proofs.Duration.Human
import TaskSync.Proofs.Json.RoundTrip

/-!
# Configurations and their values

A configuration is read from the value it is written as. The value leaves out what is open, so the
reader is followed entry by entry: it goes past the entry of a field, which may be missing, with
that field set to what the configuration has there.
-/

namespace TaskSync

/-! ### Records -/

namespace Shape

variable {σ : Type} {s : Shape σ} {d : Dialect} {r r' r'' : σ} {names names' : List String}
  {entries entries' : List (String × Value)}

/-- The reader goes past the entries, which have some of the names, and the record becomes `r'`. -/
def Passes (s : Shape σ) (d : Dialect) (names : List String) (r r' : σ)
    (entries : List (String × Value)) : Prop :=
  ∀ (seen : List String) (more : List (String × Value)), (∀ k ∈ names, k ∉ seen) →
    ∃ seen', (∀ k ∈ seen', k ∈ seen ∨ k ∈ names) ∧
      s.readEntries d seen r (entries ++ more) = s.readEntries d seen' r' more

theorem Passes.nil : s.Passes d names r r [] :=
  fun seen _ _ => ⟨seen, fun _ here => .inl here, rfl⟩

theorem Passes.entry {k : String} {v : Value} {f : Field σ} (set : σ → σ)
    (found : s.fields.find? (·.name == k) = some f) (read : f.read d v = .ok set) :
    s.Passes d [k] r (set r) [(k, v)] := by
  intro seen more fresh
  refine ⟨k :: seen, fun k' here => ?_, ?_⟩
  · exact (List.mem_cons.mp here).elim (fun same => .inr (same ▸ List.mem_singleton_self k)) .inl
  · rw [List.singleton_append, readEntries, found]
    simp only [if_neg (fresh k (List.mem_singleton_self k)), read]
    rfl

/-- The names of later entries must not have been seen before. -/
theorem Passes.append (h : s.Passes d names r r' entries) (h' : s.Passes d names' r' r'' entries')
    (apart : ∀ k ∈ names', k ∉ names) :
    s.Passes d (names ++ names') r r'' (entries ++ entries') := by
  intro seen more fresh
  obtain ⟨seen', within, first⟩ := h seen (entries' ++ more) fun k here =>
    fresh k (List.mem_append_left _ here)
  obtain ⟨seen'', within', second⟩ := h' seen' more fun k here here' =>
    (within k here').elim (fresh k (List.mem_append_right _ here)) (apart k here)
  refine ⟨seen'', fun k here => ?_, ?_⟩
  · rw [List.mem_append, ← or_assoc]
    exact (within' k here).imp_left (within k)
  · rw [List.append_assoc, first, second]

/-- A record without required fields is read from entries that the reader goes past. -/
theorem Passes.read (h : s.Passes d names s.start r entries)
    (free : s.fields.all (·.presence != .required) = true) :
    s.read d (.table entries) = .ok r := by
  obtain ⟨seen, -, read⟩ := h [] [] fun _ _ => List.not_mem_nil
  have full : s.missing? seen = none := by
    rw [missing?, Option.map_eq_none_iff, List.find?_eq_none]
    intro f here
    have optional := List.all_eq_true.mp free f here
    simp only [bne_iff_ne, ne_eq] at optional
    simp [optional]
  rw [List.append_nil] at read
  show s.readTable d entries = _
  have last : readEntries d s seen r [] = .ok (seen, r) := rfl
  rw [readTable, read, last]
  simp only [bind, Except.bind, full]

/-- A part that may be open: the entry is left out when it is. -/
theorem Passes.option {α : Type} (k : String) {p : Presence}
    {reader : Dialect → Value → Decoded (Option α)} (set : Option α → σ → σ) (write : α → Value)
    (x : Option α)
    (found : s.fields.find? (·.name == k) =
      some ⟨k, p, fun d v => reader d v >>= fun x => .ok (set x)⟩)
    (reads : ∀ a ∈ x, reader d (write a) = .ok (some a)) (unset : set none r = r) :
    s.Passes d [k] r (set x r) (x.map fun a => (k, write a)).toList := by
  cases x with
  | none =>
    rw [unset]
    exact .nil
  | some a => exact .entry _ found (by simp only [reads a rfl]; rfl)

/-- A part that is left out when there is nothing in it. -/
theorem Passes.list {α : Type} (k : String) {p : Presence}
    {reader : Dialect → Value → Decoded (List α)} (set : List α → σ → σ) {v : Value}
    (xs : List α)
    (found : s.fields.find? (·.name == k) =
      some ⟨k, p, fun d v => reader d v >>= fun x => .ok (set x)⟩)
    (reads : reader d v = .ok xs) (unset : set [] r = r) :
    s.Passes d [k] r (set xs r) (if xs.isEmpty then [] else [(k, v)]) := by
  cases xs with
  | nil =>
    rw [unset]
    exact .nil
  | cons x xs => exact .entry _ found (by simp only [reads]; rfl)

end Shape

namespace Decode

theorem items_map {α : Type} {read : Value → Decoded α} {write : α → Value} {xs : List α}
    (each : ∀ x ∈ xs, read (write x) = .ok x) : items read (xs.map write) = .ok xs := by
  induction xs with
  | nil => rfl
  | cons x xs ih =>
    rw [List.map_cons, items, each x List.mem_cons_self, ih fun y here => each y (.tail _ here)]
    rfl

theorem texts_list (xs : List String) : texts (.list (xs.map .text)) = .ok xs :=
  items_map fun _ _ => rfl

/-- A map is read back in its order. -/
theorem textMap_table {m : SortedMap String} (ordered : m.Ordered) :
    textMap (.table (m.mapValues .text)) = .ok m := by
  show textEntries [] _ = _
  rw [textEntries_mapValues]
  exact congrArg Except.ok (SortedMap.ofList_of_ordered ordered)

end Decode

/-! ### Values of configurations -/

namespace PeriodConfig

theorem readDuration_human (d : Duration) : readDuration (.text d.human) = .ok d := by
  rw [readDuration, Duration.ofHuman?_human]

theorem read_toValue (d : Dialect) (p : PeriodConfig) : shape.read d p.toValue = .ok p := by
  have wait : ∀ x : Duration, Decode.optional readDuration (.text x.human) = .ok (some x) :=
    fun x => congrArg (Except.map some) (readDuration_human x)
  have enabled := Shape.Passes.option (s := shape) (d := d) (r := empty) "enabled"
    (fun x (r : PeriodConfig) => { r with enabled := x }) .boolean p.enabled rfl
      (fun _ _ => rfl) rfl
  have min := enabled.append (.option "min" (fun x (r : PeriodConfig) => { r with min := x })
    (fun x => .text x.human) p.min rfl (fun x _ => wait x) rfl) (by decide)
  have max := min.append (.option "max" (fun x (r : PeriodConfig) => { r with max := x })
    (fun x => .text x.human) p.max rfl (fun x _ => wait x) rfl) (by decide)
  exact max.read rfl

end PeriodConfig

namespace Condition

theorem read_toValue (d : Dialect) (x : Condition) : read d x.toValue = .ok x := by
  cases x with
  | services names =>
    have passes : servicesShape.Passes d ["names"] (services []) (services names)
        [("names", .list (names.map .text))] := by
      refine .entry (fun _ => services names) rfl ?_
      simp only [Decode.texts_list]
      rfl
    exact passes.read rfl
  | catalogServices regexp => rfl
  | schedule cron => rfl

end Condition

namespace TaskConfig

/-- A configuration is read from its own value. -/
theorem read_toValue (d : Dialect) {c : TaskConfig} (ordered : c.bindings.Ordered) :
    shape.read d c.toValue = .ok c := by
  have period : ∀ p : PeriodConfig,
      Decode.optional (PeriodConfig.shape.read d) p.toValue = .ok (some p) :=
    fun p => congrArg (Except.map some) (PeriodConfig.read_toValue d p)
  have trigger : ∀ x : Condition, Decode.optional (Condition.read d) x.toValue = .ok (some x) := by
    intro x
    have read := congrArg (Except.map some) (Condition.read_toValue d x)
    cases x <;> exact read
  have name := Shape.Passes.option (s := shape) (d := d) (r := empty) "name"
    (fun x (r : TaskConfig) => { r with name := x }) .text c.name rfl (fun _ _ => rfl) rfl
  have description := name.append (.option "description"
    (fun x (r : TaskConfig) => { r with description := x }) .text c.description rfl
      (fun _ _ => rfl) rfl) (by decide)
  have enabled := description.append (.option "enabled"
    (fun x (r : TaskConfig) => { r with enabled := x }) .boolean c.enabled rfl
      (fun _ _ => rfl) rfl) (by decide)
  have moduleName := enabled.append (.option "module"
    (fun x (r : TaskConfig) => { r with moduleName := x }) .text c.moduleName rfl
      (fun _ _ => rfl) rfl) (by decide)
  have version := moduleName.append (.option "version"
    (fun x (r : TaskConfig) => { r with version := x }) .text c.version rfl
      (fun _ _ => rfl) rfl) (by decide)
  have providers := version.append (.list "providers"
    (fun x (r : TaskConfig) => { r with providers := x }) c.providers rfl
      (Decode.texts_list c.providers) rfl) (by decide)
  have services := providers.append (.list "services"
    (fun x (r : TaskConfig) => { r with services := x }) c.services rfl
      (Decode.texts_list c.services) rfl) (by decide)
  have inputs := services.append (.list "module_inputs"
    (fun x (r : TaskConfig) => { r with moduleInputs := x }) c.moduleInputs rfl
      (Decode.texts_list c.moduleInputs) rfl) (by decide)
  have bindings := inputs.append (.list "variables"
    (fun x (r : TaskConfig) => { r with bindings := x }) c.bindings rfl
      (Decode.textMap_table ordered) rfl) (by decide)
  have bufferPeriod := bindings.append (.option "buffer_period"
    (fun x (r : TaskConfig) => { r with bufferPeriod := x }) PeriodConfig.toValue c.bufferPeriod rfl
      (fun p _ => period p) rfl) (by decide)
  have condition := bufferPeriod.append (.option "condition"
    (fun x (r : TaskConfig) => { r with condition := x }) Condition.toValue c.condition rfl
      (fun x _ => trigger x) rfl) (by decide)
  have workingDir := condition.append (.option "working_dir"
    (fun x (r : TaskConfig) => { r with workingDir := x.map Path.mk }) .text
      (c.workingDir.map Path.text) rfl (fun _ _ => rfl) rfl) (by decide)
  have path : (c.workingDir.map Path.text).map Path.mk = c.workingDir := by
    cases c.workingDir <;> rfl
  have whole := workingDir.read rfl
  simp only [path] at whole
  exact whole

end TaskConfig

end TaskSync
