import TaskSync.Proofs.Config.Canonical
import TaskSync.Proofs.Store.Tables

/-!
# Two stores that answer alike

A store in tables answers as the store in memory does, call by call: its tables hold the rows of
what the other one holds. The answers differ in the times of records, which a row holds in
milliseconds, and there is one time that no row gives back (`Timestamp.floored?`).
-/

namespace TaskSync

/-! ### Calls and answers -/

/-- A call to a store. -/
inductive StoreCall where
  | getTask (name : String)
  | allTasks
  | setTask (c : TaskConfig)
  | deleteTask (name : String)
  | addRecord (r : RunRecord)
  | recordsOf (name : String)
  | deleteRecords (name : String)

/-- What a store answers. -/
inductive StoreAnswer where
  | done
  | task (found : Option TaskConfig)
  | tasks (all : List TaskConfig)
  | records (all : List RunRecord)
  | failed (e : StoreError)

namespace StoreAnswer

def ofExcept {α : Type} (answer : α → StoreAnswer) : Except StoreError α → StoreAnswer
  | .ok x => answer x
  | .error e => failed e

/-- The answer with the times of its records floored to milliseconds. -/
def floored : StoreAnswer → StoreAnswer
  | records all => records (all.map RunRecord.floored)
  | other => other

/-- The times in an answer, in whole milliseconds. -/
def millis : StoreAnswer → List (Option Int × Option Int)
  | records all =>
    all.map fun r => (r.startTime.map Timestamp.millis, r.endTime.map Timestamp.millis)
  | _ => []

end StoreAnswer

def MemoryStore.serve (s : MemoryStore) : StoreCall → StoreAnswer × MemoryStore
  | .getTask name => (.task (s.getTask name), s)
  | .allTasks => (.tasks s.allTasks, s)
  | .setTask c => (.done, s.setTask c)
  | .deleteTask name => (.done, s.deleteTask name)
  | .addRecord r => (.done, s.addRecord r)
  | .recordsOf name => (.records (s.recordsOf name), s)
  | .deleteRecords name => (.done, s.deleteRecords name)

/-- A call that fails leaves the tables as they were. -/
def TableStore.serve (s : TableStore) : StoreCall → StoreAnswer × TableStore
  | .getTask name => (.ofExcept .task (s.getTask name), s)
  | .allTasks => (.ofExcept .tasks s.allTasks, s)
  | .setTask c => (.done, s.setTask c)
  | .deleteTask name => (.done, s.deleteTask name)
  | .addRecord r => (.ofExcept (fun _ => .done) (s.addRecord r), (s.addRecord r).toOption.getD s)
  | .recordsOf name => (.ofExcept .records (s.recordsOf name), s)
  | .deleteRecords name => (.done, s.deleteRecords name)

namespace StoreCall

/-- The answers to calls that are made one after the other. -/
def answers {σ : Type} (serve : σ → StoreCall → StoreAnswer × σ) (s : σ) :
    List StoreCall → List StoreAnswer
  | [] => []
  | c :: cs => (serve s c).1 :: answers serve (serve s c).2 cs

/-- The identifier of the record that a call adds. -/
def added? : StoreCall → Option Uuid
  | addRecord r => some r.id
  | _ => none

theorem filterMap_addRecord (r : RunRecord) (calls : List StoreCall) :
    (addRecord r :: calls).filterMap added? = r.id :: calls.filterMap added? := rfl

end StoreCall

/-- A configuration that a row can stand for: it has a name, and its variables are a map. -/
structure TaskConfig.Storable (c : TaskConfig) : Prop where
  named : c.name.isSome
  ordered : c.bindings.Ordered

instance (c : TaskConfig) : Decidable c.Storable :=
  decidable_of_iff (c.name.isSome ∧ c.bindings.Ordered) ⟨fun h => ⟨h.1, h.2⟩, fun h => ⟨h.1, h.2⟩⟩

/-- What is handed over can be stored. -/
def StoreCall.Proper : StoreCall → Prop
  | setTask c => c.Storable
  | addRecord r => r.Timely
  | _ => True

instance : DecidablePred StoreCall.Proper
  | .setTask c => inferInstanceAs (Decidable c.Storable)
  | .addRecord r => inferInstanceAs (Decidable r.Timely)
  | .getTask _ | .allTasks | .deleteTask _ | .recordsOf _ | .deleteRecords _ => isTrue trivial

/-! ### Tables that mirror a store in memory -/

/-- The tables hold the rows of what a store in memory holds. Run records of different tasks may be
in any order. -/
structure TableStore.Mirrors (t : TableStore) (s : MemoryStore) : Prop where
  config : t.config = s.config
  storable : ∀ c ∈ s.tasks, c.Storable
  configs : t.database.configs = s.tasks.map .ofConfig
  timely : ∀ name, ∀ r ∈ s.recordsOf name, r.Timely
  runs : ∀ name, t.database.runs.filter (·.taskName == name) =
    (s.recordsOf name).reverse.map .ofRecord

/-- The calls that are still to come can be served: no record that they add has the identifier of
another one, and no task gets more records than a limit of 63 bits could hold back. -/
structure MemoryStore.Admits (s : MemoryStore) (calls : List StoreCall) : Prop where
  proper : ∀ c ∈ calls, c.Proper
  distinct : (calls.filterMap StoreCall.added?).Nodup
  fresh : ∀ name, ∀ r ∈ s.recordsOf name, r.id ∉ calls.filterMap StoreCall.added?
  room : s.config.eventHistory < 2 ^ 63 ∨
    ∀ name, (s.recordsOf name).length + (calls.filterMap StoreCall.added?).length ≤ 2 ^ 63

namespace MemoryStore

variable {s s' : MemoryStore} {call : StoreCall} {calls : List StoreCall}

/-- A call that adds nothing may only take records away. -/
theorem Admits.quiet (h : s.Admits (call :: calls)) (adds : call.added? = none)
    (config : s'.config = s.config)
    (shrinks : ∀ name, (s'.recordsOf name).Sublist (s.recordsOf name)) : s'.Admits calls where
  proper c here := h.proper c (.tail _ here)
  distinct := by
    have distinct := h.distinct
    rwa [List.filterMap_cons_none adds] at distinct
  fresh name r here := by
    have fresh := h.fresh name r ((shrinks name).subset here)
    rwa [List.filterMap_cons_none adds] at fresh
  room := by
    refine h.room.imp (fun low => config.symm ▸ low) fun few name => ?_
    have few := few name
    rw [List.filterMap_cons_none adds] at few
    exact Nat.le_trans (Nat.add_le_add_right (shrinks name).length_le _) few

theorem mem_recordsOf_addRecord {r r' : RunRecord} {name : String}
    (here : r' ∈ (s.addRecord r).recordsOf name) : r' = r ∨ r' ∈ s.recordsOf name := by
  rw [recordsOf_addRecord] at here
  split at here
  next own => exact own ▸ List.mem_cons.mp (List.mem_of_mem_take here)
  · exact .inr here

theorem Admits.addRecord {r : RunRecord} (h : s.Admits (.addRecord r :: calls)) :
    (s.addRecord r).Admits calls := by
  have distinct := h.distinct
  rw [StoreCall.filterMap_addRecord, List.nodup_cons] at distinct
  refine ⟨fun c here => h.proper c (.tail _ here), distinct.2, fun name r' here => ?_, ?_⟩
  · rcases mem_recordsOf_addRecord here with rfl | here
    · exact distinct.1
    · have fresh := h.fresh name r' here
      rw [StoreCall.filterMap_addRecord] at fresh
      exact fun later => fresh (.tail _ later)
  · refine h.room.imp id fun few name => ?_
    have few := few name
    rw [StoreCall.filterMap_addRecord, List.length_cons] at few
    rw [recordsOf_addRecord]
    split
    next own =>
      rw [List.length_take, List.length_cons, ← own]
      omega
    · omega

end MemoryStore

namespace TableStore.Mirrors

variable {t : TableStore} {s : MemoryStore} {calls : List StoreCall}

theorem named (h : t.Mirrors s) : ∀ c ∈ s.tasks, c.name.isSome := fun c here =>
  (h.storable c here).named

theorem getTask (h : t.Mirrors s) (name : String) : t.getTask name = .ok (s.getTask name) := by
  show t.database.findConfig name = _
  rw [Database.findConfig, h.configs, Database.find?_map_ofConfig h.named]
  show _ = Except.ok (s.tasks.find? fun t => t.name == some name)
  cases found : s.tasks.find? fun t => t.name == some name with
  | none => rfl
  | some c =>
    have stored := (h.storable c (List.mem_of_find?_eq_some found)).ordered
    simp only [Option.map_some, Database.readConfig_ofConfig stored]
    rfl

theorem allTasks (h : t.Mirrors s) : t.allTasks = .ok s.tasks := by
  show t.database.configs.mapM Database.readConfig = _
  have each : ∀ c ∈ s.tasks, Database.readConfig (.ofConfig c) = .ok (id c) := fun c here =>
    Database.readConfig_ofConfig (h.storable c here).ordered
  rw [h.configs, Database.mapM_rows each, List.map_id]

theorem lists (h : t.Mirrors s) : t.database.Lists s.recordsOf := ⟨h.timely, h.runs⟩

theorem recordsOf (h : t.Mirrors s) (name : String) :
    t.recordsOf name = .ok ((s.recordsOf name).map RunRecord.floored) :=
  h.lists.runsOf name

theorem setTask (h : t.Mirrors s) {c : TaskConfig} (storable : c.Storable) :
    (t.setTask c).Mirrors (s.setTask c) where
  config := h.config
  storable u here := (MemoryStore.mem_replaceFirst here).elim (fun same => same ▸ storable)
    (h.storable u)
  configs := by
    show Database.upsertRow (.ofConfig c) t.database.configs = _
    rw [h.configs]
    exact Database.upsertRow_map_ofConfig h.named storable.named
  timely := h.timely
  runs := h.runs

theorem deleteTask (h : t.Mirrors s) (name : String) :
    (t.deleteTask name).Mirrors (s.deleteTask name) where
  config := h.config
  storable u here := h.storable u (List.mem_filter.mp here).1
  configs := by
    show t.database.configs.filter (fun r => r.name != name) = _
    rw [h.configs]
    exact Database.filter_map_ofConfig h.named name
  timely := h.timely
  runs := h.runs

theorem deleteRecords (h : t.Mirrors s) (name : String) :
    (t.deleteRecords name).Mirrors (s.deleteRecords name) := by
  have lists := h.lists.deleteRuns name
  rw [← funext fun _ => MemoryStore.recordsOf_deleteRecords] at lists
  exact ⟨h.config, h.storable, h.configs, lists.timely, lists.rows⟩

theorem addRecord (h : t.Mirrors s) {r : RunRecord}
    (admits : s.Admits (.addRecord r :: calls)) :
    ∃ t', t.addRecord r = .ok t' ∧ t'.Mirrors (s.addRecord r) := by
  have fresh : ∀ name, ∀ x ∈ s.recordsOf name, x.id ≠ r.id := fun name x here same =>
    admits.fresh name x here (same ▸ List.mem_cons_self)
  have room : s.config.eventHistory < 2 ^ 63 ∨ (s.recordsOf r.taskName).length + 1 ≤ 2 ^ 63 := by
    refine admits.room.imp_right fun few => ?_
    have few := few r.taskName
    rw [StoreCall.filterMap_addRecord, List.length_cons] at few
    omega
  obtain ⟨runs, added, lists⟩ :=
    h.lists.insertBounded (admits.proper _ List.mem_cons_self) fresh room
  rw [← funext fun _ => MemoryStore.recordsOf_addRecord r] at lists
  refine ⟨{ t with database := { t.database with runs } }, ?_, h.config, h.storable, h.configs,
    lists.timely, lists.rows⟩
  rw [TableStore.addRecord, h.config, added]
  rfl

/-- One call: the answers agree, and the tables go on to mirror the other store. -/
theorem serve (h : t.Mirrors s) {call : StoreCall} (admits : s.Admits (call :: calls)) :
    (t.serve call).1 = (s.serve call).1.floored ∧
      (t.serve call).2.Mirrors (s.serve call).2 ∧ (s.serve call).2.Admits calls := by
  -- for the calls that only look
  have still : call.added? = none → s.Admits calls := fun adds =>
    admits.quiet adds rfl fun _ => .refl _
  cases call with
  | getTask name => exact ⟨by rw [TableStore.serve, h.getTask]; rfl, h, still rfl⟩
  | allTasks => exact ⟨by rw [TableStore.serve, h.allTasks]; rfl, h, still rfl⟩
  | setTask c =>
    exact ⟨rfl, h.setTask (admits.proper _ List.mem_cons_self),
      admits.quiet rfl rfl fun _ => .refl _⟩
  | deleteTask name => exact ⟨rfl, h.deleteTask name, admits.quiet rfl rfl fun _ => .refl _⟩
  | addRecord r =>
    obtain ⟨t', added, mirrors⟩ := h.addRecord admits
    rw [TableStore.serve, added]
    exact ⟨rfl, mirrors, admits.addRecord⟩
  | recordsOf name => exact ⟨by rw [TableStore.serve, h.recordsOf]; rfl, h, still rfl⟩
  | deleteRecords name =>
    refine ⟨rfl, h.deleteRecords name, admits.quiet rfl rfl fun other => ?_⟩
    show (s.deleteRecords name |>.recordsOf other).Sublist _
    rw [MemoryStore.recordsOf_deleteRecords]
    split
    · exact List.nil_sublist _
    · exact .refl _

/-- Any number of calls. -/
theorem answers (h : t.Mirrors s) (admits : s.Admits calls) :
    StoreCall.answers TableStore.serve t calls =
      (StoreCall.answers MemoryStore.serve s calls).map StoreAnswer.floored := by
  induction calls generalizing t s with
  | nil => rfl
  | cons call calls ih =>
    obtain ⟨same, mirrors, admits⟩ := h.serve admits
    rw [StoreCall.answers, StoreCall.answers, List.map_cons, same, ih mirrors admits]

end TableStore.Mirrors

/-! ### From the start -/

theorem TableStore.mirrors_openOn {config : Config} (valid : config.validate = .ok ())
    (ordered : ∀ c ∈ config.tasks, c.bindings.Ordered) :
    (openOn config .empty).Mirrors (.new config) := by
  have accepted := Config.validate_eq_ok_iff.mp valid
  have named : ∀ c ∈ config.tasks, c.name.isSome := fun c here =>
    Option.isSome_iff_exists.mpr ⟨_, (accepted.tasks c here).name_eq⟩
  have rows : (openOn config .empty).database = ⟨config.tasks.map .ofConfig, []⟩ :=
    Database.foldl_upsert named (fun _ here => absurd here List.not_mem_nil) accepted.names []
  refine ⟨rfl, fun c here => ⟨named c here, ordered c here⟩, ?_, fun _ r here => ?_, fun _ => ?_⟩
  · rw [rows]
    rfl
  · exact absurd here List.not_mem_nil
  · rw [rows]
    rfl

/-- A store in tables answers as the store in memory does, with floored times. Both keep their
configurations in the order in which those came: one that is replaced keeps its place, one that is
deleted and set again goes last. -/
theorem TableStore.answers_agree (config : Config) (calls : List StoreCall)
    (valid : config.validate = .ok ()) (ordered : ∀ c ∈ config.tasks, c.bindings.Ordered)
    (proper : ∀ c ∈ calls, c.Proper) (distinct : (calls.filterMap StoreCall.added?).Nodup)
    (room : config.eventHistory < 2 ^ 63 ∨
      (calls.filterMap StoreCall.added?).length ≤ 2 ^ 63) :
    StoreCall.answers TableStore.serve (openOn config .empty) calls =
        (StoreCall.answers MemoryStore.serve (.new config) calls).map StoreAnswer.floored ∧
      (∀ (s : MemoryStore) (c : TaskConfig), c.name ∈ s.tasks.map (·.name) →
        ∃ before old after, s.tasks = before ++ old :: after ∧ old.name = c.name ∧
          (s.setTask c).tasks = before ++ c :: after) ∧
      ∀ (s : MemoryStore) (c : TaskConfig) (name : String), c.name = some name →
        ((s.deleteTask name).setTask c).tasks = (s.deleteTask name).tasks ++ [c] := by
  refine ⟨?_, fun _ _ => MemoryStore.tasks_setTask_of_mem,
    fun _ _ _ => MemoryStore.tasks_setTask_deleteTask⟩
  have none : ∀ name, (MemoryStore.new config).recordsOf name = [] := fun _ => rfl
  refine (mirrors_openOn valid ordered).answers ⟨proper, distinct, fun name r here => ?_, ?_⟩
  · rw [none] at here
    exact absurd here List.not_mem_nil
  · refine room.imp_right fun few name => ?_
    rw [none, List.length_nil, Nat.zero_add]
    exact few

/-- Two tasks, and one record to be kept of each. -/
def sampleStored : Config :=
  { Config.default with
    eventHistory? := some 1
    tasks := ["web", "api"].map fun name =>
      ((TaskConfig.named name).withModule "m").withServices ["db"] }

/-- The first task is replaced, the second one deleted and set again with a variable. Both records
of the first task begin in a leap second. -/
def sampleCalls : List StoreCall :=
  let record (id : Uuid) : RunRecord :=
    (RunRecord.new id "web" ⟨["p"], [], "m"⟩).start ⟨1483228799, 1500750000⟩
  [.setTask ((TaskConfig.named "web").withCondition (.schedule "0 * * * * *")), .deleteTask "api",
    .setTask ((TaskConfig.named "api").withVariable "k" "v"), .addRecord (record ⟨1, by decide⟩),
    .addRecord (record ⟨2, by decide⟩), .recordsOf "web", .getTask "web", .allTasks]

theorem TableStore.answers_agree_sample :
    sampleStored.validate = .ok () ∧ (∀ c ∈ sampleStored.tasks, c.bindings.Ordered) ∧
      (∀ c ∈ sampleCalls, c.Proper) ∧ (sampleCalls.filterMap StoreCall.added?).Nodup ∧
      StoreCall.answers TableStore.serve (openOn sampleStored .empty) sampleCalls =
        (StoreCall.answers MemoryStore.serve (.new sampleStored) sampleCalls).map
          StoreAnswer.floored :=
  ⟨by rfl, by decide, by decide +kernel, by decide,
    (answers_agree sampleStored sampleCalls (by rfl) (by decide) (by decide +kernel) (by decide)
      (.inl (by decide))).1⟩

/-- A record that begins in a leap second at the very end of the last second, and a look at it. -/
def lastCalls : List StoreCall :=
  [.addRecord ((RunRecord.new ⟨1, by decide⟩ "web" ⟨[], ["api"], "m"⟩).start
    ⟨8210266876799, 1500000000⟩), .recordsOf "web"]

/-- Only one of the stores still knows when that record began. -/
theorem TableStore.answers_differ :
    Config.default.validate = .ok () ∧ (∀ c ∈ lastCalls, c.Proper) ∧
      (lastCalls.filterMap StoreCall.added?).Nodup ∧
      (StoreCall.answers TableStore.serve (openOn .default .empty) lastCalls).map
          StoreAnswer.millis ≠
        (StoreCall.answers MemoryStore.serve (.new .default) lastCalls).map StoreAnswer.millis :=
  ⟨by rfl, by decide +kernel, by decide, by decide +kernel⟩

end TaskSync
