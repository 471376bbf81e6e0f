import TaskSync.Proofs.Config.Decoding
import TaskSync.Proofs.Data.Identifiers
import TaskSync.Store.Row

/-!
# What comes back from a row

A configuration comes back as it was. A record comes back with its times floored to milliseconds.
A leap second counts as part of the second that follows it, and the last second of all has none
that follows: a time in a leap second there does not come back.
-/

namespace TaskSync

/-! ### Columns of JSON -/

namespace Json

/-- A value that is read back from its text, where `depth` more containers are allowed. -/
structure Writable (depth : Nat) (v : Value) : Prop where
  fits : v.Fits depth
  floats : v.floats = []

variable {depth : Nat}

theorem Writable.read? {v : Value} (h : Writable maxDepth v) : read? (write v) = some v :=
  read?_write h.fits (by simp [h.floats])

theorem Writable.text (s : String) : Writable depth (.text s) := ⟨trivial, rfl⟩

theorem Writable.boolean (b : Bool) : Writable depth (.boolean b) := ⟨trivial, rfl⟩

theorem floatsOfItems_eq_nil {vs : List Value} (each : ∀ v ∈ vs, v.floats = []) :
    Value.floatsOfItems vs = [] := by
  induction vs with
  | nil => rfl
  | cons v vs ih =>
    rw [Value.floatsOfItems, each v List.mem_cons_self, ih fun w here => each w (.tail _ here)]
    rfl

theorem floatsOfEntries_eq_nil {es : List (String × Value)} (each : ∀ e ∈ es, e.2.floats = []) :
    Value.floatsOfEntries es = [] := by
  induction es with
  | nil => rfl
  | cons e es ih =>
    rw [Value.floatsOfEntries, each e List.mem_cons_self, ih fun f here => each f (.tail _ here)]
    rfl

theorem Writable.list {vs : List Value} (each : ∀ v ∈ vs, Writable depth v) :
    Writable (depth + 1) (.list vs) where
  fits := ⟨Nat.succ_pos _, Value.fitsItems_iff.mpr fun v here => (each v here).fits⟩
  floats := floatsOfItems_eq_nil fun v here => (each v here).floats

theorem Writable.table {es : List (String × Value)} (each : ∀ e ∈ es, Writable depth e.2) :
    Writable (depth + 1) (.table es) where
  fits := ⟨Nat.succ_pos _, Value.fitsEntries_iff.mpr fun e here => (each e here).fits⟩
  floats := floatsOfEntries_eq_nil fun e here => (each e here).floats

theorem Writable.texts (xs : List String) : Writable (depth + 1) (.list (xs.map .text)) := by
  refine .list fun v here => ?_
  obtain ⟨s, -, rfl⟩ := List.mem_map.mp here
  exact .text s

/-- An entry that may be left out. -/
theorem Writable.option {α : Type} {k : String} {write : α → Value}
    (x : Option α) (each : ∀ a ∈ x, Writable depth (write a)) :
    ∀ e ∈ (x.map fun a => (k, write a)).toList, Writable depth e.2 := by
  cases x with
  | none => exact nofun
  | some a =>
    intro e here
    rw [List.mem_singleton.mp here]
    exact each a rfl

theorem Writable.unless {k : String} {v : Value} (h : Writable depth v) (b : Bool) :
    ∀ e ∈ (if b then [] else [(k, v)]), Writable depth e.2 := by
  intro e here
  cases b with
  | true => cases here
  | false =>
    rw [List.mem_singleton.mp here]
    exact h

end Json

open Json

theorem PeriodConfig.writable {depth : Nat} (p : PeriodConfig) :
    Writable (depth + 1) p.toValue := by
  refine .table ?_
  simp only [List.forall_mem_append, and_assoc]
  exact ⟨.option _ fun b _ => .boolean b, .option _ fun _ _ => .text _,
    .option _ fun _ _ => .text _⟩

theorem Condition.writable {depth : Nat} (x : Condition) : Writable (depth + 2) x.toValue := by
  cases x <;> refine .table ?_ <;> simp only [List.forall_mem_cons]
  · exact ⟨.text _, .texts _, nofun⟩
  · exact ⟨.text _, .text _, nofun⟩
  · exact ⟨.text _, .text _, nofun⟩

theorem TaskConfig.writable {depth : Nat} (c : TaskConfig) : Writable (depth + 3) c.toValue := by
  have bindings : ∀ {depth : Nat}, Writable (depth + 1) (.table (c.bindings.mapValues .text)) := by
    refine .table fun e here => ?_
    obtain ⟨f, -, rfl⟩ := List.mem_map.mp here
    exact .text f.2
  refine .table ?_
  simp only [List.forall_mem_append, and_assoc]
  exact ⟨.option _ fun s _ => .text s, .option _ fun s _ => .text s,
    .option _ fun b _ => .boolean b, .option _ fun s _ => .text s,
    .option _ fun s _ => .text s, .unless (.texts _) _, .unless (.texts _) _,
    .unless (.texts _) _, .unless bindings _,
    .option _ fun p _ => p.writable, .option _ fun x _ => x.writable, .option _ fun s _ => .text s⟩

/-! ### Rows of configurations -/

/-- A configuration comes back from its row. -/
theorem ConfigRow.toConfig_ofConfig {c : TaskConfig} (ordered : c.bindings.Ordered) :
    (ofConfig c).toConfig = .ok c := by
  have written : Writable maxDepth c.toValue := c.writable
  simp only [toConfig, ofConfig, written.read?, TaskConfig.read_toValue .json ordered]
  rfl

/-- A configuration comes back from its row whatever is set in it, so that no two are stored as the
same text. Each length of time comes back from the text that the row has for it. -/
theorem ConfigRow.round_trip {c : TaskConfig} (ordered : c.bindings.Ordered) :
    (ofConfig c).toConfig = .ok c ∧
      (∀ other : TaskConfig, other.bindings.Ordered →
        (ofConfig other).config = (ofConfig c).config → other = c) ∧
      ∀ d : Duration, Duration.ofHuman? d.human = some d := by
  refine ⟨toConfig_ofConfig ordered, fun other others same => ?_, Duration.ofHuman?_human⟩
  have back : (ofConfig other).toConfig = (ofConfig c).toConfig := by
    simp only [toConfig, same]
  rw [toConfig_ofConfig others, toConfig_ofConfig ordered] at back
  exact Except.ok.inj back

/-- Texts that are set but empty, characters that are escaped, a variable without a name, and half
a buffer period that is as long as can be. -/
def oddConfig : TaskConfig :=
  { TaskConfig.named "" with
    description := some "\x07\t\"a\\\u2028é😀"
    enabled := some false
    providers := [""]
    bindings := [("", ""), ("a", "\x7b\"b\": [1.50]\x7d")]
    bufferPeriod := some ⟨none, none, some .max⟩
    condition := some (.services [])
    workingDir := some ⟨""⟩ }

theorem ConfigRow.round_trip_sample :
    oddConfig.bindings.Ordered ∧ (ofConfig oddConfig).toConfig = .ok oddConfig ∧
      (∀ other : TaskConfig, other.bindings.Ordered →
        (ofConfig other).config = (ofConfig oddConfig).config → other = oddConfig) ∧
      ∀ d : Duration, Duration.ofHuman? d.human = some d :=
  ⟨by decide, round_trip (by decide)⟩

/-! ### Rows of records -/

namespace Timestamp

/-- An instant that a clock or a text can give: a second in range, and two seconds' worth of
nanoseconds at most, the other one for a leap second. -/
structure Valid (t : Timestamp) : Prop where
  second : inRange t.second = true
  nano : t.nano < 2 * nanosPerSecond

instance (t : Timestamp) : Decidable t.Valid :=
  decidable_of_iff (inRange t.second = true ∧ t.nano < 2 * nanosPerSecond)
    ⟨fun h => ⟨h.1, h.2⟩, fun h => ⟨h.1, h.2⟩⟩

/-- A time in a leap second at the end of the last second in range. -/
def IsLast (t : Timestamp) : Prop :=
  inRange (t.second + 1) = false ∧ nanosPerSecond ≤ t.nano

instance (t : Timestamp) : Decidable t.IsLast :=
  inferInstanceAs (Decidable (_ ∧ _))

/-- The instant floored to milliseconds, if there is one. -/
def floored? (t : Timestamp) : Option Timestamp :=
  if t.IsLast then none
  else some ⟨t.second + (t.nano / nanosPerSecond : Nat), t.nano % nanosPerSecond / 10 ^ 6 * 10 ^ 6⟩

theorem nano_eq (n : Nat) :
    n / 10 ^ 6 = n / nanosPerSecond * 1000 + n % nanosPerSecond / 10 ^ 6 ∧
      n % nanosPerSecond / 10 ^ 6 < 1000 := by
  unfold nanosPerSecond
  omega

theorem ofMillis?_millis {t : Timestamp} (valid : t.Valid) : ofMillis? t.millis = t.floored? := by
  obtain ⟨parts, small⟩ := nano_eq t.nano
  have second : t.millis / 1000 = t.second + (t.nano / nanosPerSecond : Nat) := by
    rw [millis, parts]
    omega
  have milli : (t.millis % 1000).toNat = t.nano % nanosPerSecond / 10 ^ 6 := by
    rw [millis, parts]
    omega
  have last : inRange (t.second + (t.nano / nanosPerSecond : Nat)) = false ↔ t.IsLast := by
    -- only a leap second carries over into the next second, which may be out of range
    by_cases leap : nanosPerSecond ≤ t.nano
    · have one : t.nano / nanosPerSecond = 1 :=
        Nat.div_eq_of_lt_le (by omega) valid.nano
      rw [one]
      exact ⟨fun out => ⟨out, leap⟩, fun h => h.1⟩
    · have zero : t.nano / nanosPerSecond = 0 := Nat.div_eq_of_lt (Nat.lt_of_not_le leap)
      rw [zero, Int.natCast_zero, Int.add_zero, valid.second]
      exact ⟨nofun, fun h => absurd h.2 leap⟩
  rw [ofMillis?, floored?, second, milli]
  by_cases h : t.IsLast
  · rw [if_pos h, last.mpr h, if_neg Bool.false_ne_true]
  · rw [if_neg h, if_pos (Bool.of_not_eq_false fun out => h (last.mp out))]

end Timestamp

namespace RunRecord

/-- The record with its times floored to milliseconds. -/
def floored (r : RunRecord) : RunRecord :=
  { r with
    startTime := r.startTime.bind Timestamp.floored?
    endTime := r.endTime.bind Timestamp.floored? }

/-- The times are instants. -/
structure Timely (r : RunRecord) : Prop where
  startTime : ∀ t ∈ r.startTime, t.Valid
  endTime : ∀ t ∈ r.endTime, t.Valid

instance (r : RunRecord) : Decidable r.Timely :=
  decidable_of_iff ((∀ t ∈ r.startTime, t.Valid) ∧ ∀ t ∈ r.endTime, t.Valid)
    ⟨fun h => ⟨h.1, h.2⟩, fun h => ⟨h.1, h.2⟩⟩

end RunRecord

namespace RunRow

theorem readTexts_textsColumn (xs : List String) : readTexts (textsColumn xs) = .ok xs := by
  have written : Writable maxDepth (.list (xs.map .text)) := .texts xs
  rw [readTexts, textsColumn, written.read?]
  simp only [Decode.texts_list]
  rfl

/-- A record comes back from its row with floored times. -/
theorem toRecord_ofRecord {r : RunRecord} (timely : r.Timely) :
    (ofRecord r).toRecord = .ok r.floored := by
  have time : ∀ {t : Option Timestamp}, (∀ x ∈ t, x.Valid) →
      (t.map Timestamp.millis).bind Timestamp.ofMillis? = t.bind Timestamp.floored? := by
    intro t valid
    cases t with
    | none => rfl
    | some x => exact Timestamp.ofMillis?_millis (valid x rfl)
  simp only [toRecord, ofRecord, readTexts_textsColumn, Uuid.read_text, time timely.startTime,
    time timely.endTime]
  rfl

end RunRow

end TaskSync
