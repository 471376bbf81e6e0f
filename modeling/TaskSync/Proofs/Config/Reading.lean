import TaskSync.Config.Basic
import TaskSync.Proofs.Config.Decoding

/-!
# Configurations as they are read

The parts of a configuration are read in any order, and a configuration that is read can be held:
its variables are sorted and its numbers fit. Such a configuration is read from its own value.
-/

namespace TaskSync

variable (d : Dialect)

/-! ### Any order -/

theorem PeriodConfig.orderless_readDuration : Orderless readDuration := .of_atoms nofun nofun

theorem PeriodConfig.orderly : shape.Orderly d where
  apart := by
    simp only [shape, List.pairwise_cons, List.forall_mem_cons]
    repeat' apply And.intro
    all_goals first | exact Field.apart_of _ _ (fun _ _ _ => rfl) | exact .nil | exact nofun
  orderless := by
    simp only [shape, List.forall_mem_cons]
    exact ⟨Orderless.boolean.optional.bind _, orderless_readDuration.optional.bind _,
      orderless_readDuration.optional.bind _, nofun⟩

namespace Condition

/-- A record of one field is read in any order. -/
theorem orderly_of_single {s : Shape Condition} {f : Field Condition} (single : s.fields = [f])
    (h : Orderless (f.read d)) : s.Orderly d where
  apart := single ▸ List.pairwise_singleton _ _
  orderless := by
    rw [single]
    exact List.forall_mem_singleton.mpr h

theorem orderless : Orderless (read d) := by
  intro v x taken
  obtain ⟨⟨i, content⟩, tag, taken⟩ := of_bind_eq_ok taken
  have services := orderly_of_single d (s := servicesShape) rfl (Orderless.texts.bind _)
  have catalog := orderly_of_single d (s := catalogShape) rfl (Orderless.text.bind _)
  have schedule := orderly_of_single d (s := scheduleShape) rfl (Orderless.text.bind _)
  rw [read, Decode.tagged_canonical tag]
  match i with
  | 0 => exact services.readTagged content x taken
  | 1 => exact catalog.readTagged content x taken
  | _ + 2 => exact schedule.readTagged content x taken

end Condition

theorem TaskConfig.orderly : shape.Orderly d where
  apart := by
    simp only [shape, List.pairwise_cons, List.forall_mem_cons]
    repeat' apply And.intro
    all_goals first | exact Field.apart_of _ _ (fun _ _ _ => rfl) | exact .nil | exact nofun
  orderless := by
    simp only [shape, List.forall_mem_cons]
    exact ⟨Orderless.text.optional.bind _, Orderless.text.optional.bind _,
      Orderless.boolean.optional.bind _, Orderless.text.optional.bind _,
      Orderless.text.optional.bind _, Orderless.texts.bind _, Orderless.texts.bind _,
      Orderless.texts.bind _, Orderless.textMap.bind _,
      (PeriodConfig.orderly d).read.optional.bind _, (Condition.orderless d).optional.bind _,
      Orderless.pathText.optional.bind _, nofun⟩

theorem RetryConfig.orderly : shape.Orderly d where
  apart := by
    simp only [shape, List.pairwise_cons, List.forall_mem_cons]
    repeat' apply And.intro
    all_goals first | exact Field.apart_of _ _ (fun _ _ _ => rfl) | exact .nil | exact nofun
  orderless := by
    simp only [shape, List.forall_mem_cons]
    exact ⟨(Orderless.natural _ _).bind _, PeriodConfig.orderless_readDuration.bind _, nofun⟩

theorem Config.orderly : shape.Orderly d where
  apart := by
    simp only [shape, List.pairwise_cons, List.forall_mem_cons]
    repeat' apply And.intro
    all_goals first | exact Field.apart_of _ _ (fun _ _ _ => rfl) | exact .nil | exact nofun
  orderless := by
    simp only [shape, List.forall_mem_cons]
    exact ⟨Orderless.pathText.optional.bind _, (PeriodConfig.orderly d).read.optional.bind _,
      Orderless.text.optional.bind _, Orderless.text.optional.bind _,
      ((Orderless.choice d _).bind _).bind _, (RetryConfig.orderly d).read.bind _,
      (Orderless.natural _ _).optional.bind _, (TaskConfig.orderly d).read.list.bind _, nofun⟩

/-! ### What is read -/

/-- A configuration as it can be held: the variables of its tasks are sorted, and the number of
events fits a word. -/
structure Config.Formed (c : Config) : Prop where
  bindings : ∀ t ∈ c.tasks, t.bindings.Ordered
  eventHistory : ∀ n ∈ c.eventHistory?, n < 2 ^ 64

/-- The variables are sorted when they are read. -/
theorem TaskConfig.keeps_ordered : shape.Keeps d fun c => c.bindings.Ordered where
  start := SortedMap.ordered_nil
  fields := by
    have sorted : ∀ v m, Decode.textMap v = .ok m → m.Ordered := by
      intro v m taken
      obtain ⟨ts, -, rfl⟩ := Decode.textMap_eq_ok taken
      exact SortedMap.ordered_ofList ts
    simp only [shape, List.forall_mem_cons]
    exact ⟨.of _ fun _ _ _ _ h => h, .of _ fun _ _ _ _ h => h, .of _ fun _ _ _ _ h => h,
      .of _ fun _ _ _ _ h => h, .of _ fun _ _ _ _ h => h, .of _ fun _ _ _ _ h => h,
      .of _ fun _ _ _ _ h => h, .of _ fun _ _ _ _ h => h,
      .of _ fun v m taken _ _ => sorted v m taken,
      .of _ fun _ _ _ _ h => h, .of _ fun _ _ _ _ h => h, .of _ fun _ _ _ _ h => h, nofun⟩

theorem Config.keeps_formed : shape.Keeps d Formed where
  start := ⟨fun _ here => absurd here List.not_mem_nil, fun _ here => nomatch here⟩
  fields := by
    simp only [shape, List.forall_mem_cons]
    refine ⟨.of _ fun _ _ _ _ h => ⟨h.1, h.2⟩, .of _ fun _ _ _ _ h => ⟨h.1, h.2⟩,
      .of _ fun _ _ _ _ h => ⟨h.1, h.2⟩, .of _ fun _ _ _ _ h => ⟨h.1, h.2⟩,
      .of _ fun _ _ _ _ h => ⟨h.1, h.2⟩, .of _ fun _ _ _ _ h => ⟨h.1, h.2⟩,
      .of _ fun _ x taken _ h => ⟨h.1, fun n here => ?_⟩,
      .of _ fun _ xs taken _ h => ⟨fun t here => ?_, h.2⟩, nofun⟩
    · obtain ⟨w, taken⟩ := Decode.exists_of_optional taken n here
      exact Decode.lt_of_natural taken
    · obtain ⟨w, taken⟩ := Decode.exists_of_list taken t here
      exact (TaskConfig.keeps_ordered d).read taken

/-! ### Values that come back -/

theorem PassMode.read_word (m : PassMode) : read d (.text m.word) = .ok m := by
  cases m <;> rfl

/-- A number below the limit is read from its own value. -/
theorem Decode.natural_integer {limit n : Nat} (small : n < limit) (expected : String) :
    natural limit expected (.integer n) = .ok n := by
  rw [natural, if_pos ⟨by omega, by omega⟩, Int.toNat_natCast]

theorem RetryConfig.read_toValue (r : RetryConfig) : shape.read d r.toValue = .ok r := by
  have retries := Decode.natural_integer r.maxRetries.toNat_lt "u32"
  have first : shape.Passes d ["max_retries"] default { default with maxRetries := r.maxRetries }
      [("max_retries", .integer r.maxRetries.toNat)] :=
    .entry (fun (q : RetryConfig) => { q with maxRetries := r.maxRetries }) rfl (by
      simp only [retries, -Nat.reducePow]
      simp only [bind, Except.bind, UInt32.ofNat_toNat])
  have second := first.append (.entry (k := "base_delay") (v := .text r.baseDelay.human)
    (fun (q : RetryConfig) => { q with baseDelay := r.baseDelay }) rfl (by
      simp only [PeriodConfig.readDuration_human]
      rfl)) (by decide)
  exact second.read rfl

/-- A number is written as an integer. -/
theorem Config.historyEntry (x : Option Nat) :
    (do let n ← x; pure (n : Int)).map (fun n => ("event_history", Value.integer n)) =
      x.map fun n : Nat => ("event_history", .integer n) := by
  cases x <;> rfl

/-- A configuration that can be held is read from its own value. -/
theorem Config.read_toValue {c : Config} (formed : c.Formed) : shape.read d c.toValue = .ok c := by
  have period : ∀ p : PeriodConfig,
      Decode.optional (PeriodConfig.shape.read d) p.toValue = .ok (some p) :=
    fun p => congrArg (Except.map some) (PeriodConfig.read_toValue d p)
  have tasks : Decode.list (TaskConfig.shape.read d) (.list (c.tasks.map TaskConfig.toValue)) =
      .ok c.tasks :=
    Decode.items_map fun t here => TaskConfig.read_toValue d (formed.bindings t here)
  have number : ∀ n ∈ c.eventHistory?,
      Decode.optional (Decode.natural (2 ^ 64) "usize") (.integer n) = .ok (some n) := by
    intro n here
    rw [Decode.optional, Decode.natural_integer (formed.eventHistory n here)]
    · rfl
    · exact nofun
  have workingDir := Shape.Passes.option (s := shape) (d := d) (r := default) "working_dir"
    (fun x (r : Config) => { r with workingDir? := x.map Path.mk }) .text
      (c.workingDir?.map Path.text) rfl (fun _ _ => rfl) rfl
  have bufferPeriod := workingDir.append (.option "buffer_period"
    (fun x (r : Config) => { r with bufferPeriod? := x }) PeriodConfig.toValue c.bufferPeriod? rfl
      (fun p _ => period p) rfl) (by decide)
  have databaseUrl := bufferPeriod.append (.option "database_url"
    (fun x (r : Config) => { r with databaseUrl? := x }) .text c.databaseUrl? rfl
      (fun _ _ => rfl) rfl) (by decide)
  have logLevel := databaseUrl.append (.option "log_level"
    (fun x (r : Config) => { r with logLevel? := x }) .text c.logLevel? rfl
      (fun _ _ => rfl) rfl) (by decide)
  have retry := logLevel.append ((Shape.Passes.entry (k := "once_mode") (v := .text c.onceMode.word)
      (fun (r : Config) => { r with onceMode := c.onceMode }) rfl (by
        simp only [PassMode.read_word]
        rfl)).append (.entry (k := "retry") (v := c.retry.toValue)
      (fun (r : Config) => { r with retry := c.retry }) rfl (by
        simp only [RetryConfig.read_toValue]
        rfl)) (by decide)) (by decide)
  have eventHistory := retry.append (.option "event_history"
    (fun x (r : Config) => { r with eventHistory? := x }) (fun n : Nat => .integer n)
      c.eventHistory? rfl number rfl) (by decide)
  have task := eventHistory.append (.list "task"
    (fun x (r : Config) => { r with tasks := x }) c.tasks rfl tasks rfl) (by decide)
  have path : (c.workingDir?.map Path.text).map Path.mk = c.workingDir? := by
    cases c.workingDir? <;> rfl
  have whole := task.read rfl
  simp only [path] at whole
  rw [Config.toValue, historyEntry]
  exact whole

end TaskSync
