import TaskSync.Proofs.Lookup
import TaskSync.Proofs.Store.Rows
import TaskSync.Store.Table

/-!
# Tables that hold lists

Each change to a table is a change to the list that its rows are made from: a row that is replaced
stands for a configuration that is, and what eviction leaves of a task's rows, oldest first, stands
for the front of its records, newest first.
-/

namespace TaskSync

/-! ### Configurations -/

namespace TaskConfig

variable {c t : TaskConfig}

/-- The name in a row is the name of the configuration, if that has one. -/
theorem nameOrEmpty_eq_iff (named : c.name.isSome) {name : String} :
    c.nameOrEmpty = name ↔ c.name = some name := by
  obtain ⟨own, eq⟩ := Option.isSome_iff_exists.mp named
  rw [nameOrEmpty, eq, Option.getD_some, Option.some.injEq]

theorem nameOrEmpty_eq_nameOrEmpty (named : c.name.isSome) (named' : t.name.isSome) :
    t.nameOrEmpty = c.nameOrEmpty ↔ t.name = c.name := by
  obtain ⟨own, eq⟩ := Option.isSome_iff_exists.mp named
  rw [nameOrEmpty_eq_iff named', nameOrEmpty, eq, Option.getD_some]

end TaskConfig

namespace MemoryStore

variable {s : MemoryStore} {c : TaskConfig} {name : String}

theorem mem_replaceFirst {test : TaskConfig → Bool} {t : TaskConfig} {tasks : List TaskConfig}
    (here : t ∈ replaceFirst test c tasks) : t = c ∨ t ∈ tasks := by
  induction tasks with
  | nil => exact .inl (List.mem_singleton.mp here)
  | cons u us ih =>
    rw [replaceFirst] at here
    split at here
    · exact (List.mem_cons.mp here).imp_right (List.mem_cons_of_mem u)
    · rcases List.mem_cons.mp here with rfl | later
      · exact .inr List.mem_cons_self
      · exact (ih later).imp_right (List.mem_cons_of_mem u)

theorem replaceFirst_of_none {test : TaskConfig → Bool} {tasks : List TaskConfig}
    (none : ∀ t ∈ tasks, test t = false) : replaceFirst test c tasks = tasks ++ [c] := by
  induction tasks with
  | nil => rfl
  | cons t ts ih =>
    rw [replaceFirst, none t List.mem_cons_self, if_neg Bool.false_ne_true,
      ih fun u here => none u (.tail _ here), List.cons_append]

/-- A configuration that is replaced keeps its place. -/
theorem tasks_setTask_of_mem (here : c.name ∈ s.tasks.map (·.name)) :
    ∃ before old after, s.tasks = before ++ old :: after ∧ old.name = c.name ∧
      (s.setTask c).tasks = before ++ c :: after := by
  show ∃ before old after, s.tasks = before ++ old :: after ∧ old.name = c.name ∧
    replaceFirst (fun t => t.name == c.name) c s.tasks = before ++ c :: after
  generalize s.tasks = tasks at here
  induction tasks with
  | nil => cases here
  | cons t ts ih =>
    rw [replaceFirst]
    by_cases same : t.name = c.name
    · rw [if_pos (beq_iff_eq.mpr same)]
      exact ⟨[], t, ts, rfl, same, rfl⟩
    · rw [if_neg fun h => same (beq_iff_eq.mp h)]
      rw [List.map_cons] at here
      have later := (List.mem_cons.mp here).resolve_left fun e => same e.symm
      obtain ⟨before, old, after, parts, named, replaced⟩ := ih later
      exact ⟨t :: before, old, after, congrArg (t :: ·) parts, named, congrArg (t :: ·) replaced⟩

/-- A configuration that is deleted and set again goes last. -/
theorem tasks_setTask_deleteTask (named : c.name = some name) :
    ((s.deleteTask name).setTask c).tasks = (s.deleteTask name).tasks ++ [c] := by
  refine replaceFirst_of_none fun t here => ?_
  have other := (List.mem_filter.mp here).2
  rw [named]
  simpa using other

end MemoryStore

namespace Database

/-! ### Reading -/

theorem readConfig_ofConfig {c : TaskConfig} (ordered : c.bindings.Ordered) :
    readConfig (.ofConfig c) = .ok c := by
  rw [readConfig, ConfigRow.toConfig_ofConfig ordered]
  rfl

theorem readRun_ofRecord {r : RunRecord} (timely : r.Timely) :
    readRun (.ofRecord r) = .ok r.floored := by
  rw [readRun, RunRow.toRecord_ofRecord timely]
  rfl

/-- Rows that can be read one by one are read in their order. -/
theorem mapM_rows {α β γ : Type} {row : α → β} {read : β → Except StoreError γ} {value : α → γ}
    {xs : List α} (each : ∀ x ∈ xs, read (row x) = .ok (value x)) :
    (xs.map row).mapM read = .ok (xs.map value) := by
  induction xs with
  | nil => rfl
  | cons x xs ih =>
    rw [List.map_cons, List.mapM_cons, each x List.mem_cons_self,
      ih fun y here => each y (.tail _ here)]
    rfl

/-! ### Rows of configurations -/

variable {c : TaskConfig} {tasks : List TaskConfig}

theorem find?_map_ofConfig (named : ∀ t ∈ tasks, t.name.isSome) (name : String) :
    (tasks.map ConfigRow.ofConfig).find? (·.name == name) =
      (tasks.find? fun t => t.name == some name).map .ofConfig := by
  induction tasks with
  | nil => rfl
  | cons t ts ih =>
    have own : t.nameOrEmpty = name ↔ t.name = some name :=
      TaskConfig.nameOrEmpty_eq_iff (named t List.mem_cons_self)
    rw [List.map_cons, List.find?_cons, List.find?_cons, ih fun u here => named u (.tail _ here)]
    by_cases h : t.name = some name
    · simp only [beq_iff_eq.mpr h, show ((ConfigRow.ofConfig t).name == name) = true from
        beq_iff_eq.mpr (own.mpr h), Option.map_some]
    · simp only [beq_eq_false_iff_ne.mpr h, show ((ConfigRow.ofConfig t).name == name) = false from
        beq_eq_false_iff_ne.mpr fun e => h (own.mp e)]

theorem upsertRow_map_ofConfig (named : ∀ t ∈ tasks, t.name.isSome) (own : c.name.isSome) :
    upsertRow (.ofConfig c) (tasks.map .ofConfig) =
      (MemoryStore.replaceFirst (fun t => t.name == c.name) c tasks).map .ofConfig := by
  induction tasks with
  | nil => rfl
  | cons t ts ih =>
    have rest := ih fun u here => named u (.tail _ here)
    have same : (ConfigRow.ofConfig t).name = (ConfigRow.ofConfig c).name ↔ t.name = c.name :=
      TaskConfig.nameOrEmpty_eq_nameOrEmpty own (named t List.mem_cons_self)
    rw [List.map_cons, upsertRow, MemoryStore.replaceFirst]
    by_cases h : t.name = c.name
    · rw [if_pos (beq_iff_eq.mpr h), if_pos (same.mpr h), List.map_cons]
    · rw [if_neg fun e => h (beq_iff_eq.mp e), if_neg fun e => h (same.mp e), List.map_cons, rest]

theorem filter_map_ofConfig (named : ∀ t ∈ tasks, t.name.isSome) (name : String) :
    (tasks.map ConfigRow.ofConfig).filter (fun r => r.name != name) =
      (tasks.filter fun t => t.name != some name).map .ofConfig := by
  rw [List.filter_map]
  refine congrArg (List.map _) (List.filter_congr fun t here => ?_)
  show (t.nameOrEmpty != name) = (t.name != some name)
  rw [Bool.eq_iff_iff, bne_iff_ne, bne_iff_ne]
  exact not_congr (TaskConfig.nameOrEmpty_eq_iff (named t here))

/-- Configurations of different names get rows in their order. -/
theorem foldl_upsert (named : ∀ t ∈ tasks, t.name.isSome) {earlier : List TaskConfig}
    (earlierNamed : ∀ t ∈ earlier, t.name.isSome)
    (distinct : ((earlier ++ tasks).map TaskConfig.nameOrEmpty).Nodup) (runs : List RunRow) :
    tasks.foldl upsert ⟨earlier.map .ofConfig, runs⟩ =
      ⟨(earlier ++ tasks).map .ofConfig, runs⟩ := by
  -- by the tasks without a row so far; those of `earlier` have theirs
  induction tasks generalizing earlier with
  | nil => rw [List.append_nil]; rfl
  | cons t ts ih =>
    have own := named t List.mem_cons_self
    have fresh : ∀ u ∈ earlier, (u.name == t.name) = false := by
      intro u here
      rw [List.map_append, List.map_cons] at distinct
      have apart := (List.nodup_append.mp distinct).2.2 _ (List.mem_map_of_mem here) _
        List.mem_cons_self
      rw [Bool.eq_false_iff]
      intro same
      refine apart ?_
      rw [TaskConfig.nameOrEmpty, TaskConfig.nameOrEmpty, beq_iff_eq.mp same]
    have row : upsert ⟨earlier.map .ofConfig, runs⟩ t = ⟨(earlier ++ [t]).map .ofConfig, runs⟩ := by
      rw [← MemoryStore.replaceFirst_of_none fresh, ← upsertRow_map_ofConfig earlierNamed own]
      rfl
    have whole : earlier ++ t :: ts = earlier ++ [t] ++ ts := List.append_cons ..
    rw [List.foldl_cons, row, whole]
    refine ih (fun u here => named u (.tail _ here)) (fun u here => ?_) (whole ▸ distinct)
    rcases List.mem_append.mp here with here | here
    · exact earlierNamed u here
    · exact List.mem_singleton.mp here ▸ own

/-! ### Rows of records -/

variable {name other : String}

theorem filter_deleteRuns (d : Database) :
    (d.deleteRuns name).2.runs.filter (·.taskName == other) =
      if other = name then [] else d.runs.filter (·.taskName == other) := by
  show (d.runs.filter fun r => r.taskName != name).filter (·.taskName == other) = _
  rw [List.filter_filter]
  split
  next same =>
    rw [List.filter_eq_nil_iff]
    intro r _
    simp [same]
  next apart =>
    refine List.filter_congr fun r _ => ?_
    by_cases own : r.taskName = other
    · simp [own, apart]
    · simp [own]

/-- Dropping the oldest rows of a task leaves its newer ones. -/
theorem filter_dropFirst (n : Nat) (runs : List RunRow) :
    (evict.dropFirst name n runs).filter (·.taskName == name) =
      (runs.filter (·.taskName == name)).drop n := by
  induction runs generalizing n with
  | nil => cases n <;> rfl
  | cons r rs ih =>
    cases n with
    | zero => rfl
    | succ n =>
      rw [evict.dropFirst]
      by_cases own : r.taskName = name
      · rw [if_pos own, ih, List.filter_cons, if_pos (beq_iff_eq.mpr own), List.drop_succ_cons]
      · have skip : ¬ (r.taskName == name) = true := fun h => own (beq_iff_eq.mp h)
        rw [if_neg own, List.filter_cons, List.filter_cons, if_neg skip, if_neg skip, ih]

theorem filter_dropFirst_other (apart : other ≠ name) (n : Nat) (runs : List RunRow) :
    (evict.dropFirst name n runs).filter (·.taskName == other) =
      runs.filter (·.taskName == other) := by
  induction runs generalizing n with
  | nil => cases n <;> rfl
  | cons r rs ih =>
    cases n with
    | zero => rfl
    | succ n =>
      rw [evict.dropFirst]
      by_cases own : r.taskName = name
      · have skip : ¬ (r.taskName == other) = true := fun h =>
          apart ((beq_iff_eq.mp h).symm.trans own)
        rw [if_pos own, ih, List.filter_cons, if_neg skip]
      · rw [if_neg own, List.filter_cons, List.filter_cons, ih]

theorem insertBounded_of_fresh {d : Database} {r : RunRecord} (limit : Nat)
    (fresh : d.runs.any (·.id == (RunRow.ofRecord r).id) = false) :
    d.insertBounded r limit =
      .ok { d with runs := evict limit r.taskName (d.runs ++ [.ofRecord r]) } := by
  rw [insertBounded]
  simp only [fresh]
  rfl

theorem insertBounded_of_taken {d : Database} {r : RunRecord} (limit : Nat)
    (taken : d.runs.any (·.id == (RunRow.ofRecord r).id) = true) :
    d.insertBounded r limit = .error uniqueViolation := by
  rw [insertBounded]
  simp only [taken]
  rfl

/-- Inserting a row leaves other tasks alone. -/
theorem filter_insert_other {r : RunRecord} (apart : other ≠ r.taskName) (limit : Nat)
    (runs : List RunRow) :
    (evict limit r.taskName (runs ++ [.ofRecord r])).filter (·.taskName == other) =
      runs.filter (·.taskName == other) := by
  have skip : ¬ ((RunRow.ofRecord r).taskName == other) = true := fun same =>
    apart (beq_iff_eq.mp same).symm
  have added : (runs ++ [RunRow.ofRecord r]).filter (·.taskName == other) =
      runs.filter (·.taskName == other) := by
    rw [List.filter_append, List.filter_cons, if_neg skip, List.filter_nil, List.append_nil]
  unfold evict
  split
  · exact added
  · exact (filter_dropFirst_other apart _ _).trans added

/-- A task has its newest rows after an insertion, as many as the limit allows. A limit that is
none allows `2 ^ 63` at least. -/
theorem filter_insert {r : RunRecord} {limit : Nat} {runs : List RunRow}
    {records : List RunRecord}
    (rows : runs.filter (·.taskName == r.taskName) = records.reverse.map .ofRecord)
    (room : limit < 2 ^ 63 ∨ records.length + 1 ≤ 2 ^ 63) :
    (evict limit r.taskName (runs ++ [RunRow.ofRecord r])).filter (·.taskName == r.taskName) =
      ((r :: records).take limit).reverse.map .ofRecord := by
  have own : ((RunRow.ofRecord r).taskName == r.taskName) = true := beq_self_eq_true _
  have added : (runs ++ [RunRow.ofRecord r]).filter (·.taskName == r.taskName) =
      (r :: records).reverse.map .ofRecord := by
    rw [List.filter_append, List.filter_cons, if_pos own, List.filter_nil, rows, List.reverse_cons,
      List.map_append, List.map_singleton]
  unfold evict
  split
  next high =>
    -- no row is dropped, and with so few records no record is
    rw [List.take_of_length_le (by rw [List.length_cons]; omega)]
    exact added
  · rw [filter_dropFirst, added, List.length_map, List.length_reverse, List.reverse_take,
      List.map_drop]

/-- The table of records holds the rows of these records. Rows of different tasks may be in any
order. -/
structure Lists (d : Database) (records : String → List RunRecord) : Prop where
  timely : ∀ name, ∀ r ∈ records name, r.Timely
  rows : ∀ name, d.runs.filter (·.taskName == name) = (records name).reverse.map .ofRecord

namespace Lists

variable {d : Database} {records : String → List RunRecord}

theorem runsOf (h : d.Lists records) (name : String) :
    d.runsOf name = .ok ((records name).map RunRecord.floored) := by
  show (d.runs.filter (·.taskName == name)).reverse.mapM readRun = _
  rw [h.rows, ← List.map_reverse, List.reverse_reverse]
  exact mapM_rows fun r here => readRun_ofRecord (h.timely name r here)

theorem deleteRuns (h : d.Lists records) (task : String) :
    (d.deleteRuns task).2.Lists fun name => if name = task then [] else records name where
  timely name r here := by
    split at here
    · cases here
    · exact h.timely name r here
  rows name := by
    rw [filter_deleteRuns, h.rows]
    split <;> rfl

/-- A row has an identifier if one of the records does. -/
theorem any_id (h : d.Lists records) (u : Uuid) :
    d.runs.any (·.id == u.text) = true ↔ ∃ name, ∃ r ∈ records name, r.id = u := by
  rw [List.any_eq_true]
  constructor
  · rintro ⟨row, here, same⟩
    have own : row ∈ d.runs.filter (·.taskName == row.taskName) :=
      List.mem_filter.mpr ⟨here, beq_self_eq_true _⟩
    rw [h.rows] at own
    obtain ⟨r, stored, rfl⟩ := List.mem_map.mp own
    exact ⟨_, r, List.mem_reverse.mp stored, Uuid.text_inj (beq_iff_eq.mp same)⟩
  · rintro ⟨name, r, here, rfl⟩
    have stored : RunRow.ofRecord r ∈ d.runs.filter (·.taskName == name) := by
      rw [h.rows]
      exact List.mem_map_of_mem (List.mem_reverse.mpr here)
    exact ⟨_, (List.mem_filter.mp stored).1, beq_self_eq_true _⟩

/-- A record whose identifier is new goes in front of those of its task. -/
theorem insertBounded (h : d.Lists records) {r : RunRecord} {limit : Nat} (timely : r.Timely)
    (fresh : ∀ name, ∀ x ∈ records name, x.id ≠ r.id)
    (room : limit < 2 ^ 63 ∨ (records r.taskName).length + 1 ≤ 2 ^ 63) :
    ∃ runs, d.insertBounded r limit = .ok { d with runs } ∧
      Lists { d with runs } fun name =>
        if name = r.taskName then (r :: records r.taskName).take limit else records name := by
  have free : d.runs.any (·.id == r.id.text) = false := by
    rw [Bool.eq_false_iff]
    intro taken
    obtain ⟨name, x, here, same⟩ := (h.any_id r.id).mp taken
    exact fresh name x here same
  refine ⟨_, insertBounded_of_fresh limit free, fun name x here => ?_, fun name => ?_⟩
  · split at here
    · rcases List.mem_cons.mp (List.mem_of_mem_take here) with rfl | here
      · exact timely
      · exact h.timely _ x here
    · exact h.timely name x here
  · split
    next own =>
      subst own
      exact filter_insert (h.rows _) room
    next apart => exact (filter_insert_other apart _ _).trans (h.rows name)

end Lists

end Database

end TaskSync
