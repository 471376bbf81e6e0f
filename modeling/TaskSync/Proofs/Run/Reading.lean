import TaskSync.Proofs.Data.Identifiers
import TaskSync.Proofs.Config.Decoding
import TaskSync.Proofs.Time.Rfc3339
import TaskSync.Run.Notice
import TaskSync.Run.Record

/-!
# Records and notices as they are read

The parts of a record and of a notice are read in any order, and the times of a record that is read
have a place on a clock. Such a record, and every notice, is read from its own value.
-/

namespace TaskSync

variable (d : Dialect)

/-! ### Any order -/

theorem RunOrigin.orderly : shape.Orderly d where
  apart := by
    simp only [shape, List.pairwise_cons, List.forall_mem_cons]
    repeat' apply And.intro
    all_goals first | exact Field.apart_of _ _ (fun _ _ _ => rfl) | exact .nil | exact nofun
  orderless := by
    simp only [shape, List.forall_mem_cons]
    exact ⟨Orderless.texts.bind _, Orderless.texts.bind _, Orderless.text.bind _, nofun⟩

namespace RunRecord

theorem orderless_readUuid : Orderless readUuid := .of_atoms nofun nofun

theorem orderless_readTime : Orderless readTime := .of_atoms nofun nofun

theorem orderly_error : errorShape.Orderly d where
  apart := List.pairwise_singleton _ _
  orderless := List.forall_mem_singleton.mpr (Orderless.text.bind _)

theorem orderly : shape.Orderly d where
  apart := by
    simp only [shape, List.pairwise_cons, List.forall_mem_cons]
    repeat' apply And.intro
    all_goals first | exact Field.apart_of _ _ (fun _ _ _ => rfl) | exact .nil | exact nofun
  orderless := by
    simp only [shape, List.forall_mem_cons]
    exact ⟨orderless_readUuid.bind _, Orderless.text.bind _, Orderless.boolean.bind _,
      orderless_readTime.optional.bind _, orderless_readTime.optional.bind _,
      (orderly_error d).read.optional.bind _, (RunOrigin.orderly d).read.bind _, nofun⟩

end RunRecord

namespace Notice

theorem apart_name_flag (flag : String) :
    (nameField withName).Apart d (flagField flag withFlag) :=
  Field.apart_of (fun s n => withName n s) (fun b n => withFlag n b) fun _ _ n => by
    cases n <;> rfl

/-- A notice of a task and a flag. -/
theorem orderly_of_pair {s : Shape Notice} {flag : String}
    (pair : s.fields = [nameField withName, flagField flag withFlag]) : s.Orderly d where
  apart := by
    rw [pair]
    exact List.pairwise_pair.mpr (apart_name_flag d flag)
  orderless := by
    rw [pair]
    simp only [List.forall_mem_cons]
    exact ⟨Orderless.text.bind _, Orderless.boolean.bind _, nofun⟩

theorem orderly_deleted : deletedShape.Orderly d where
  apart := List.pairwise_singleton _ _
  orderless := List.forall_mem_singleton.mpr (Orderless.text.bind _)

theorem orderly_runCompleted : runCompletedShape.Orderly d where
  apart := by
    have name : (nameField withName).Apart d ⟨"error", .optional, fun _ v => do
        let e ← Decode.optional Decode.text v
        .ok fun n => withError n e⟩ :=
      Field.apart_of (fun s n => withName n s) (fun e n => withError n e) fun _ _ n => by
        cases n <;> rfl
    have success : (flagField "success" withFlag).Apart d ⟨"error", .optional, fun _ v => do
        let e ← Decode.optional Decode.text v
        .ok fun n => withError n e⟩ :=
      Field.apart_of (fun b n => withFlag n b) (fun e n => withError n e) fun _ _ n => by
        cases n <;> rfl
    exact .cons (List.forall_mem_cons.mpr ⟨apart_name_flag d _, List.forall_mem_singleton.mpr name⟩)
      (List.pairwise_pair.mpr success)
  orderless := by
    show ∀ f ∈ [nameField withName, flagField "success" withFlag, _], _
    simp only [List.forall_mem_cons]
    exact ⟨Orderless.text.bind _, Orderless.boolean.bind _, Orderless.text.optional.bind _, nofun⟩

theorem orderless : Orderless (read d) := by
  intro v x taken
  obtain ⟨⟨i, content⟩, tag, taken⟩ := of_bind_eq_ok taken
  rw [read, Decode.tagged_canonical tag]
  match i with
  | 0 => exact (orderly_of_pair d rfl).readTagged content x taken
  | 1 => exact (orderly_of_pair d rfl).readTagged content x taken
  | 2 => exact (orderly_deleted d).readTagged content x taken
  | _ + 3 => exact (orderly_runCompleted d).readTagged content x taken

end Notice

/-! ### What is read -/

namespace RunRecord

/-- The times have a place on a clock. -/
structure Clocked (r : RunRecord) : Prop where
  startTime : ∀ t ∈ r.startTime, t.Clocked
  endTime : ∀ t ∈ r.endTime, t.Clocked

instance (r : RunRecord) : Decidable r.Clocked :=
  decidable_of_iff ((∀ t ∈ r.startTime, t.Clocked) ∧ ∀ t ∈ r.endTime, t.Clocked)
    ⟨fun h => ⟨h.1, h.2⟩, fun h => ⟨h.1, h.2⟩⟩

theorem clocked_of_readTime {v : Value} {t : Timestamp} (taken : readTime v = .ok t) :
    t.Clocked := by
  cases v with
  | text s =>
    rw [readTime] at taken
    cases read : Timestamp.read s with
    | error e =>
      rw [read] at taken
      cases taken
    | ok u =>
      rw [read] at taken
      cases taken
      exact Timestamp.clocked_of_read read
  | _ => cases taken

theorem keeps_clocked : shape.Keeps d Clocked where
  start := ⟨fun _ here => (nomatch here), fun _ here => (nomatch here)⟩
  fields := by
    have times : ∀ v x, Decode.optional readTime v = .ok x → ∀ t ∈ x, t.Clocked := by
      intro v x taken t here
      obtain ⟨w, taken⟩ := Decode.exists_of_optional taken t here
      exact clocked_of_readTime taken
    simp only [shape, List.forall_mem_cons]
    exact ⟨.of _ fun _ _ _ _ h => ⟨h.1, h.2⟩, .of _ fun _ _ _ _ h => ⟨h.1, h.2⟩,
      .of _ fun _ _ _ _ h => ⟨h.1, h.2⟩, .of _ fun v x taken _ h => ⟨times v x taken, h.2⟩,
      .of _ fun v x taken _ h => ⟨h.1, times v x taken⟩, .of _ fun _ _ _ _ h => ⟨h.1, h.2⟩,
      .of _ fun _ _ _ _ h => ⟨h.1, h.2⟩, nofun⟩

end RunRecord

/-! ### Values that come back -/

open Shape in
theorem RunOrigin.read_toValue (o : RunOrigin) : shape.read d o.toValue = .ok o := by
  refine readTable_eq_ok.mpr ⟨["source", "services", "providers"], ?_, rfl⟩
  refine readEntries_cons.mpr (.inr ⟨_, fun r => { r with providers := o.providers }, rfl,
    by decide, ?_, ?_⟩)
  · simp only [Decode.texts_list]
    rfl
  refine readEntries_cons.mpr (.inr ⟨_, fun r => { r with services := o.services }, rfl,
    by decide, ?_, ?_⟩)
  · simp only [Decode.texts_list]
    rfl
  exact readEntries_cons.mpr (.inr ⟨_, fun r => { r with source := o.source }, rfl,
    by decide, rfl, rfl⟩)

namespace RunRecord

theorem read_timeValue {t : Option Timestamp} (clocked : ∀ x ∈ t, x.Clocked) :
    Decode.optional readTime (timeValue t) = .ok t := by
  cases t with
  | none => rfl
  | some x =>
    have read : readTime (.text x.text) = .ok x := by
      rw [readTime, (clocked x rfl).read_text]
      rfl
    rw [timeValue, Decode.optional, read]
    · rfl
    · exact nofun

theorem read_errorValue (e : Option String) :
    Decode.optional (errorShape.read d) (errorValue e) = .ok e := by
  cases e <;> rfl

theorem readUuid_text (u : Uuid) : readUuid (.text u.text) = .ok u := by
  rw [readUuid, Uuid.read_text]
  rfl

open Shape in
/-- A record of clocked times is read from its own value. -/
theorem read_toValue {r : RunRecord} (clocked : r.Clocked) : shape.read d r.toValue = .ok r := by
  refine readTable_eq_ok.mpr ⟨["config", "error", "end_time", "start_time", "success",
    "task_name", "id"], ?_, rfl⟩
  refine readEntries_cons.mpr (.inr ⟨_, fun q => { q with id := r.id }, rfl, by decide, ?_, ?_⟩)
  · simp only [readUuid_text]
    rfl
  refine readEntries_cons.mpr (.inr ⟨_, fun q => { q with taskName := r.taskName }, rfl,
    by decide, rfl, ?_⟩)
  refine readEntries_cons.mpr (.inr ⟨_, fun q => { q with success := r.success }, rfl,
    by decide, rfl, ?_⟩)
  refine readEntries_cons.mpr (.inr ⟨_, fun q => { q with startTime := r.startTime }, rfl,
    by decide, ?_, ?_⟩)
  · simp only [read_timeValue clocked.startTime]
    rfl
  refine readEntries_cons.mpr (.inr ⟨_, fun q => { q with endTime := r.endTime }, rfl,
    by decide, ?_, ?_⟩)
  · simp only [read_timeValue clocked.endTime]
    rfl
  refine readEntries_cons.mpr (.inr ⟨_, fun q => { q with error := r.error }, rfl,
    by decide, ?_, ?_⟩)
  · simp only [read_errorValue]
    rfl
  refine readEntries_cons.mpr (.inr ⟨_, fun q => { q with origin := r.origin }, rfl,
    by decide, ?_, rfl⟩)
  simp only [RunOrigin.read_toValue]
  rfl

end RunRecord

theorem Notice.read_toValue (n : Notice) : read d n.toValue = .ok n := by
  cases n with
  | runCompleted task success error => cases error <;> rfl
  | _ => rfl

end TaskSync
