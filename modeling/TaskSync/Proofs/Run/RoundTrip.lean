import TaskSync.Proofs.Config.Reading
import TaskSync.Proofs.Run.Reading
import TaskSync.Proofs.Store.Rows

/-!
# What is written comes back

Configurations, records and notices are read from the values that they are written as, also when
the tables of these values were sorted, and the values from their texts. Nothing is asked of the
durations, the texts or the number of tasks; a time must have a place on a clock, which every time
outside leap seconds has.
-/

namespace TaskSync

open Json

/-- A value written for `x` gives `x` back: as it is, with its tables sorted, and by its text. -/
structure Recovers {α : Type} (read : Value → Decoded α) (v : Value) (x : α) : Prop where
  value : read v = .ok x
  sorted : read v.canonical = .ok x
  text : Json.read? (Json.write v) = some v

/-! ### Texts -/

/-- A whole number of one word. -/
theorem Json.Writable.word {depth n : Nat} (small : n < 2 ^ 64) :
    Writable depth (.integer n) := by
  refine ⟨?_, rfl⟩
  show InRange n
  unfold InRange
  omega

theorem Config.writable {c : Config} (formed : c.Formed) : Writable maxDepth c.toValue := by
  have retries : c.retry.maxRetries.toNat < 2 ^ 64 :=
    Nat.lt_trans c.retry.maxRetries.toNat_lt (by decide)
  have retry : ∀ {depth : Nat}, Writable (depth + 1) c.retry.toValue := by
    refine .table ?_
    simp only [List.forall_mem_cons]
    exact ⟨.word retries, .text _, nofun⟩
  have tasks : ∀ {depth : Nat}, Writable (depth + 4) (.list (c.tasks.map TaskConfig.toValue)) := by
    refine .list fun v here => ?_
    obtain ⟨t, -, rfl⟩ := List.mem_map.mp here
    exact t.writable
  rw [toValue, historyEntry]
  refine .table ?_
  simp only [List.forall_mem_append, List.forall_mem_cons, and_assoc]
  exact ⟨.option _ fun s _ => .text s, .option _ fun p _ => p.writable,
    .option _ fun s _ => .text s, .option _ fun s _ => .text s, .text _, retry, nofun,
    .option _ fun n here => .word (formed.eventHistory n here), .unless tasks _⟩

theorem RunRecord.writable (r : RunRecord) : Writable maxDepth r.toValue := by
  have time : ∀ {depth : Nat} (t : Option Timestamp), Writable depth (timeValue t) := by
    intro depth t
    cases t with
    | none => exact ⟨trivial, rfl⟩
    | some t => exact .text _
  have error : ∀ {depth : Nat} (e : Option String), Writable (depth + 1) (errorValue e) := by
    intro depth e
    cases e with
    | none => exact ⟨trivial, rfl⟩
    | some e => exact .table (List.forall_mem_singleton.mpr (.text e))
  have origin : ∀ {depth : Nat}, Writable (depth + 2) r.origin.toValue := by
    refine .table ?_
    simp only [List.forall_mem_cons]
    exact ⟨.texts _, .texts _, .text _, nofun⟩
  refine .table ?_
  simp only [List.forall_mem_cons]
  exact ⟨.text _, .text _, .boolean _, time _, time _, error _, origin, nofun⟩

theorem Notice.writable (n : Notice) : Writable maxDepth n.toValue := by
  cases n with
  | runCompleted task success error =>
    refine .table ?_
    simp only [List.forall_mem_cons]
    cases error with
    | none => exact ⟨.text _, .text _, .boolean _, ⟨trivial, rfl⟩, nofun⟩
    | some e => exact ⟨.text _, .text _, .boolean _, .text e, nofun⟩
  | created task scheduled =>
    refine .table ?_
    simp only [List.forall_mem_cons]
    exact ⟨.text _, .text _, .boolean _, nofun⟩
  | updated task enabled =>
    refine .table ?_
    simp only [List.forall_mem_cons]
    exact ⟨.text _, .text _, .boolean _, nofun⟩
  | deleted task =>
    refine .table ?_
    simp only [List.forall_mem_cons]
    exact ⟨.text _, .text _, nofun⟩

/-! ### Values -/

theorem Config.recovers {c : Config} (formed : c.Formed) :
    Recovers (shape.read .json) c.toValue c where
  value := read_toValue .json formed
  sorted := (orderly .json).read _ _ (read_toValue .json formed)
  text := (writable formed).read?

theorem RunRecord.recovers {r : RunRecord} (clocked : r.Clocked) :
    Recovers (shape.read .json) r.toValue r where
  value := read_toValue .json clocked
  sorted := (orderly .json).read _ _ (read_toValue .json clocked)
  text := r.writable.read?

theorem Notice.recovers (n : Notice) : Recovers (read .json) n.toValue n where
  value := read_toValue .json n
  sorted := orderless .json _ _ (read_toValue .json n)
  text := n.writable.read?

/-- Configurations, records and notices come back from what they are written as, and so does
whatever was read as one of them: what is written for it is a canonical form that is read as the
same. -/
theorem serialized_values_read_back :
    (∀ c : Config, c.Formed → Recovers (Config.shape.read .json) c.toValue c) ∧
    (∀ r : RunRecord, r.Clocked → Recovers (RunRecord.shape.read .json) r.toValue r) ∧
    (∀ n : Notice, Recovers (Notice.read .json) n.toValue n) ∧
    (∀ v c, Config.shape.read .json v = .ok c →
      c.Formed ∧ Recovers (Config.shape.read .json) c.toValue c) ∧
    (∀ v r, RunRecord.shape.read .json v = .ok r →
      r.Clocked ∧ Recovers (RunRecord.shape.read .json) r.toValue r) ∧
    ∀ v n, Notice.read .json v = .ok n → Recovers (Notice.read .json) n.toValue n := by
  refine ⟨fun c formed => Config.recovers formed, fun r clocked => RunRecord.recovers clocked,
    Notice.recovers, fun v c taken => ?_, fun v r taken => ?_, fun _ n _ => n.recovers⟩
  · have formed := (Config.keeps_formed .json).read taken
    exact ⟨formed, Config.recovers formed⟩
  · have clocked := (RunRecord.keeps_clocked .json).read taken
    exact ⟨clocked, RunRecord.recovers clocked⟩

/-- A task of odd parts, no wait between tries, and the largest number of events. -/
def oddProcess : Config :=
  { Config.default with
    bufferPeriod? := some ⟨none, some .zero, some .max⟩
    logLevel? := some ""
    onceMode := .concurrent
    retry := ⟨4294967295, .zero⟩
    eventHistory? := some 18446744073709551615
    tasks := [oddConfig, oddConfig] }

/-- A run from the first seconds of the first year to the end of a leap second. -/
def oddRecord : RunRecord where
  id := .nil
  taskName := ""
  success := true
  startTime := some ⟨-8334601228799, 1⟩
  endTime := some ⟨1483228799, 1999999999⟩
  error := some ""
  origin := ⟨[""], [], "é"⟩

theorem serialized_values_read_back_sample :
    (oddProcess.Formed ∧ Recovers (Config.shape.read .json) oddProcess.toValue oddProcess) ∧
    (oddRecord.Clocked ∧ Recovers (RunRecord.shape.read .json) oddRecord.toValue oddRecord) ∧
    (Config.shape.read .json (.table [("other", .null)]) = .ok .default ∧
      Recovers (Config.shape.read .json) Config.default.toValue .default) ∧
    Notice.read .json (.table [("task_name", .text "a"), ("type", .text "task.deleted")]) =
        .ok (.deleted "a") ∧
      Recovers (Notice.read .json) (Notice.deleted "a").toValue (.deleted "a") := by
  have formed : oddProcess.Formed :=
    ⟨by decide, fun n here => by cases here; decide⟩
  have clocked : oddRecord.Clocked := by decide
  have empty : Config.shape.read .json (.table [("other", .null)]) = .ok .default := rfl
  have notice : Notice.read .json (.table [("task_name", .text "a"),
      ("type", .text "task.deleted")]) = .ok (.deleted "a") := rfl
  obtain ⟨config, record, -, read, -, other⟩ := serialized_values_read_back
  exact ⟨⟨formed, config _ formed⟩, ⟨clocked, record _ clocked⟩, ⟨empty, (read _ _ empty).2⟩,
    notice, other _ _ notice⟩

end TaskSync
