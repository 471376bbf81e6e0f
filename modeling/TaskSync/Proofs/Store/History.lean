import Mathlib.Data.List.Induction
import TaskSync.Proofs.Store.Agreement

/-!
# Which records are kept

Of each task the newest records are kept, as many as the limit of its last insertion allows. The
insertions may have different limits, and those of other tasks may come in between: a table of
records is the history of each task, and both stores have the front of what was added since the
last deletion.
-/

namespace TaskSync

/-! ### Changes to a table of records -/

/-- A change to a table of records. -/
inductive RunChange where
  | insert (r : RunRecord) (limit : Nat)
  | delete (task : String)

namespace RunChange

/-- The records of a task, the newest first, after changes of which the last one comes first. -/
def history (name : String) : List RunChange → List RunRecord
  | [] => []
  | insert r limit :: earlier =>
    if name = r.taskName then (r :: history name earlier).take limit else history name earlier
  | delete task :: earlier => if name = task then [] else history name earlier

/-- What is inserted has instants for its times. -/
def Timely : RunChange → Prop
  | insert r _ => r.Timely
  | delete _ => True

/-- The limit is less than 63 bits. -/
def Limited : RunChange → Prop
  | insert _ limit => limit < 2 ^ 63
  | delete _ => True

instance : DecidablePred Timely
  | insert r _ => inferInstanceAs (Decidable r.Timely)
  | delete _ => isTrue trivial

instance : DecidablePred Limited
  | insert _ limit => inferInstanceAs (Decidable (limit < 2 ^ 63))
  | delete _ => isTrue trivial

theorem length_history (name : String) (changes : List RunChange) :
    (history name changes).length ≤ changes.length := by
  induction changes with
  | nil => exact Nat.le_refl 0
  | cons c earlier ih =>
    cases c with
    | insert r limit =>
      rw [history, List.length_cons]
      split
      · rw [List.length_take, List.length_cons]
        omega
      · omega
    | delete task =>
      rw [history, List.length_cons]
      split
      · exact Nat.zero_le _
      · omega

end RunChange

open RunChange (history)

namespace Database

def change (d : Database) : RunChange → Except StoreError Database
  | .insert r limit => d.insertBounded r limit
  | .delete task => .ok (d.deleteRuns task).2

/-- Makes a change. If it fails, the tables stay as they are; else it is noted. -/
def attempt (s : Database × List RunChange) (c : RunChange) : Database × List RunChange :=
  match s.1.change c with
  | .ok d => (d, c :: s.2)
  | .error _ => s

/-- The tables after changes that are made one after the other, and which of them succeeded, the
last one first. -/
def attempts (d : Database) (changes : List RunChange) : Database × List RunChange :=
  changes.foldl attempt (d, [])

/-- The identifier is that of a record that is kept. -/
def Taken (done : List RunChange) (u : Uuid) : Prop := ∃ name, ∃ r ∈ history name done, r.id = u

variable {d : Database} {done : List RunChange}

/-- An insertion fails if the identifier is taken, and only then. -/
theorem change_insert (h : d.Lists fun name => history name done) {r : RunRecord} {limit : Nat}
    (timely : r.Timely) (room : limit < 2 ^ 63 ∨ done.length < 2 ^ 63) :
    (Taken done r.id ∧ d.change (.insert r limit) = .error uniqueViolation) ∨
      ¬ Taken done r.id ∧ ∃ runs, d.change (.insert r limit) = .ok { d with runs } ∧
        Lists { d with runs } fun name => history name (.insert r limit :: done) := by
  by_cases taken : Taken done r.id
  · exact .inl ⟨taken, insertBounded_of_taken limit ((h.any_id r.id).mpr taken)⟩
  · refine .inr ⟨taken, ?_⟩
    have fits : limit < 2 ^ 63 ∨ (history r.taskName done).length + 1 ≤ 2 ^ 63 :=
      room.imp_right fun few =>
        Nat.le_trans (Nat.succ_le_succ (RunChange.length_history r.taskName done)) few
    obtain ⟨runs, inserted, lists⟩ :=
      h.insertBounded timely (fun name x here same => taken ⟨name, x, here, same⟩) fits
    refine ⟨runs, inserted, ?_⟩
    refine cast (congrArg (Lists _) (funext fun name => ?_)) lists
    rw [history]
    split
    next own => rw [own]
    · rfl

/-- After one more change the table has the history of those that succeeded. -/
theorem attempt_lists {s : Database × List RunChange} {c : RunChange}
    (h : s.1.Lists fun name => history name s.2) (timely : c.Timely)
    (room : c.Limited ∨ s.2.length < 2 ^ 63) :
    ((attempt s c).1.Lists fun name => history name (attempt s c).2) ∧
      (attempt s c).2.length ≤ s.2.length + 1 := by
  cases c with
  | delete task => exact ⟨h.deleteRuns task, Nat.le_refl _⟩
  | insert r limit =>
    unfold attempt
    obtain ⟨-, refused⟩ | ⟨-, runs, inserted, lists⟩ := change_insert h timely room
    · rw [refused]
      exact ⟨h, Nat.le_succ _⟩
    · rw [inserted]
      exact ⟨lists, Nat.le_refl _⟩

theorem foldl_attempt_lists {changes : List RunChange} {s : Database × List RunChange}
    (h : s.1.Lists fun name => history name s.2) (timely : ∀ c ∈ changes, c.Timely)
    (room : (∀ c ∈ changes, c.Limited) ∨ s.2.length + changes.length ≤ 2 ^ 63) :
    (changes.foldl attempt s).1.Lists fun name => history name (changes.foldl attempt s).2 := by
  induction changes generalizing s with
  | nil => exact h
  | cons c rest ih =>
    rw [List.length_cons] at room
    obtain ⟨lists, length⟩ := attempt_lists h (timely c List.mem_cons_self)
      (room.imp (fun limited => limited c List.mem_cons_self) fun few => by omega)
    refine ih lists (fun c' here => timely c' (.tail _ here)) (room.imp ?_ fun few => ?_)
    · exact fun limited c' here => limited c' (.tail _ here)
    · omega

end Database

/-! ### Stores with a fixed limit -/

namespace StoreCall

/-- The records of each task that were added since they were last deleted, the newest first. -/
def adds (added : String → List RunRecord) : StoreCall → String → List RunRecord
  | .addRecord r => fun name => if name = r.taskName then r :: added r.taskName else added name
  | .deleteRecords task => fun name => if name = task then [] else added name
  | _ => added

def since (calls : List StoreCall) : String → List RunRecord := calls.foldl adds fun _ => []

/-- The store after calls that are made one after the other. -/
def after {σ : Type} (serve : σ → StoreCall → StoreAnswer × σ) (s : σ) (calls : List StoreCall) :
    σ :=
  calls.foldl (fun s c => (serve s c).2) s

/-- What a store does to the records of each task that keeps so many of each. -/
def keeps (limit : Nat) (records : String → List RunRecord) : StoreCall → String → List RunRecord
  | .addRecord r => fun name =>
    if name = r.taskName then (r :: records r.taskName).take limit else records name
  | .deleteRecords task => fun name => if name = task then [] else records name
  | _ => records

/-- Keeping the newest records of those that were kept before loses none of the newest. -/
theorem keeps_take (limit : Nat) (added : String → List RunRecord) (c : StoreCall) :
    c.keeps limit (fun name => (added name).take limit) =
      fun name => (c.adds added name).take limit := by
  cases c with
  | addRecord r =>
    funext name
    show (if _ then _ else _) = (if _ then _ else _ : List RunRecord).take limit
    split
    · cases limit with
      | zero => rfl
      | succ n => rw [List.take_succ_cons, List.take_succ_cons, List.take_take,
          Nat.min_eq_left (Nat.le_succ n)]
    · rfl
  | deleteRecords task =>
    funext name
    show (if _ then _ else _) = (if _ then _ else _ : List RunRecord).take limit
    split
    · rw [List.take_nil]
    · rfl
  | getTask | allTasks | setTask | deleteTask | recordsOf => rfl

theorem since_append (calls : List StoreCall) (c : StoreCall) :
    since (calls ++ [c]) = c.adds (since calls) := List.foldl_append ..

theorem after_append {σ : Type} (serve : σ → StoreCall → StoreAnswer × σ) (s : σ)
    (calls : List StoreCall) (c : StoreCall) :
    after serve s (calls ++ [c]) = (serve (after serve s calls) c).2 := List.foldl_append ..

/-- A record that was added has its identifier among those of the calls, and each call has added
one at most. -/
theorem since_added (calls : List StoreCall) (name : String) :
    (∀ r ∈ since calls name, r.id ∈ calls.filterMap added?) ∧
      (since calls name).length ≤ (calls.filterMap added?).length := by
  induction calls using List.reverseRecOn with
  | nil => exact ⟨nofun, Nat.le_refl 0⟩
  | append_singleton calls c ih =>
    rw [since_append, List.filterMap_append, List.length_append]
    obtain ⟨ids, length⟩ := ih
    have old : ∀ r ∈ since calls name, r.id ∈ calls.filterMap added? ++ [c].filterMap added? :=
      fun r here => List.mem_append_left _ (ids r here)
    cases c with
    | addRecord r =>
      show (∀ x ∈ if name = r.taskName then r :: since calls r.taskName else since calls name, _) ∧
        (if name = r.taskName then r :: since calls r.taskName else since calls name).length ≤ _
      split
      next own =>
        refine ⟨fun x here => ?_, ?_⟩
        · rcases List.mem_cons.mp here with rfl | here
          · exact List.mem_append_right _ List.mem_cons_self
          · exact old x (own ▸ here)
        · rw [← own, List.length_cons]
          exact Nat.succ_le_succ length
      · exact ⟨old, Nat.le_trans length (Nat.le_add_right _ _)⟩
    | deleteRecords task =>
      show (∀ x ∈ if name = task then [] else since calls name, _) ∧
        (if name = task then [] else since calls name).length ≤ _
      split
      · exact ⟨nofun, Nat.zero_le _⟩
      · exact ⟨old, Nat.le_trans length (Nat.le_add_right _ _)⟩
    | getTask | allTasks | setTask | deleteTask | recordsOf =>
      exact ⟨old, Nat.le_trans length (Nat.le_add_right _ _)⟩

end StoreCall

open StoreCall (since after)

namespace MemoryStore

theorem serve_keeps (s : MemoryStore) (c : StoreCall) :
    (s.serve c).2.config = s.config ∧
      (s.serve c).2.recordsOf = c.keeps s.config.eventHistory s.recordsOf := by
  cases c with
  | addRecord r => exact ⟨rfl, funext fun _ => recordsOf_addRecord r⟩
  | deleteRecords task => exact ⟨rfl, funext fun _ => recordsOf_deleteRecords⟩
  | getTask | allTasks | setTask | deleteTask | recordsOf => exact ⟨rfl, rfl⟩

/-- The store in memory has the newest of the records that were added. -/
theorem recordsOf_after (config : Config) (calls : List StoreCall) :
    (after serve (.new config) calls).config = config ∧
      (after serve (.new config) calls).recordsOf =
        fun name => (since calls name).take config.eventHistory := by
  induction calls using List.reverseRecOn with
  | nil => exact ⟨rfl, funext fun _ => (List.take_nil).symm⟩
  | append_singleton calls c ih =>
    obtain ⟨same, kept⟩ := ih
    obtain ⟨config', records⟩ := serve_keeps (after serve (.new config) calls) c
    rw [StoreCall.after_append, StoreCall.since_append]
    refine ⟨config'.trans same, records.trans ?_⟩
    rw [same, kept, StoreCall.keeps_take]

end MemoryStore

namespace TableStore

theorem serve_lists {t : TableStore} {records : String → List RunRecord} {c : StoreCall}
    (h : t.database.Lists records) (timely : ∀ r, c = .addRecord r → r.Timely)
    (fresh : ∀ u ∈ c.added?, ∀ name, ∀ x ∈ records name, x.id ≠ u)
    (room : t.config.eventHistory < 2 ^ 63 ∨
      ∀ u ∈ c.added?, ∀ name, (records name).length + 1 ≤ 2 ^ 63) :
    (t.serve c).2.config = t.config ∧
      (t.serve c).2.database.Lists (c.keeps t.config.eventHistory records) := by
  cases c with
  | addRecord r =>
    obtain ⟨runs, added, lists⟩ := h.insertBounded (timely r rfl) (fresh r.id rfl)
      (room.imp_right fun few => few r.id rfl r.taskName)
    show ((t.addRecord r).toOption.getD t).config = _ ∧
      Database.Lists ((t.addRecord r).toOption.getD t).database _
    rw [TableStore.addRecord, added]
    exact ⟨rfl, lists⟩
  | deleteRecords task => exact ⟨rfl, h.deleteRuns task⟩
  | setTask c => exact ⟨rfl, h.timely, h.rows⟩
  | deleteTask name => exact ⟨rfl, h.timely, h.rows⟩
  | getTask | allTasks | recordsOf => exact ⟨rfl, h⟩

theorem runs_openOn (config : Config) (d : Database) :
    (openOn config d).database.runs = d.runs := by
  show (config.tasks.foldl Database.upsert d).runs = d.runs
  generalize config.tasks = tasks
  induction tasks generalizing d with
  | nil => rfl
  | cons t ts ih => exact ih (d.upsert t)

/-- So has the store in tables, as long as the identifiers of the records are distinct. -/
theorem lists_after {config : Config} {d : Database} (empty : d.runs = [])
    {calls : List StoreCall} (timely : ∀ r, .addRecord r ∈ calls → r.Timely)
    (distinct : (calls.filterMap StoreCall.added?).Nodup)
    (room : config.eventHistory < 2 ^ 63 ∨
      (calls.filterMap StoreCall.added?).length ≤ 2 ^ 63) :
    (after serve (openOn config d) calls).config = config ∧
      (after serve (openOn config d) calls).database.Lists
        fun name => (since calls name).take config.eventHistory := by
  induction calls using List.reverseRecOn with
  | nil =>
    refine ⟨rfl, fun name r here => ?_, fun name => ?_⟩
    · rw [show since [] name = [] from rfl, List.take_nil] at here
      cases here
    · rw [show (after serve (openOn config d) []).database.runs = [] from
        (runs_openOn config d).trans empty]
      rw [show since [] name = [] from rfl, List.take_nil]
      rfl
  | append_singleton calls c ih =>
    rw [List.filterMap_append] at distinct room
    rw [List.length_append] at room
    obtain ⟨distinct, -, apart⟩ := List.nodup_append.mp distinct
    obtain ⟨same, lists⟩ := ih (fun r here => timely r (List.mem_append_left _ here)) distinct
      (room.imp_right fun few => Nat.le_trans (Nat.le_add_right _ _) few)
    have kept : ∀ name, ∀ x ∈ (since calls name).take config.eventHistory,
        x.id ∈ calls.filterMap StoreCall.added? := fun name x here =>
      (StoreCall.since_added calls name).1 x (List.mem_of_mem_take here)
    have adds : ∀ u ∈ c.added?, [c].filterMap StoreCall.added? = [u] := fun u here =>
      List.filterMap_cons_some here
    have last : ∀ r, c = .addRecord r → r.Timely := fun r same =>
      timely r (same ▸ List.mem_append_right _ List.mem_cons_self)
    have served := serve_lists lists last (fun u here name x there same => ?_) ?_
    · rw [same] at served
      rw [StoreCall.after_append, StoreCall.since_append, ← StoreCall.keeps_take]
      exact served
    · refine apart _ (kept name x there) u ?_ same
      rw [adds u here]
      exact List.mem_singleton_self u
    · rw [same]
      refine room.imp_right fun few u here name => ?_
      have length := (StoreCall.since_added calls name).2
      rw [adds u here, List.length_singleton] at few
      rw [List.length_take]
      omega

end TableStore

/-! ### The law -/

namespace Database

/-- Of each task a table has the records that were inserted, the newest first, cut by the limit of
each insertion, since the last deletion, with floored times. An insertion fails if its identifier is
taken, and then all is as it was; nothing else fails. So both stores have the newest of the records
that were added since the last deletion, as many as the configuration says. (A table does not take
more than `2 ^ 63` rows in its life. Up to then a limit of 63 bits, which is none, keeps as many
records as it says.) -/
theorem history_law (d : Database) (empty : d.runs = []) (changes : List RunChange)
    (timely : ∀ c ∈ changes, c.Timely)
    (room : (∀ c ∈ changes, c.Limited) ∨ changes.length ≤ 2 ^ 63) :
    (∀ name, (d.attempts changes).1.runsOf name =
      .ok ((history name (d.attempts changes).2).map RunRecord.floored)) ∧
    (∀ r limit, Taken (d.attempts changes).2 r.id →
      (d.attempts changes).1.insertBounded r limit = .error uniqueViolation ∧
        d.attempts (changes ++ [.insert r limit]) = d.attempts changes) ∧
    (∀ r limit, ¬ Taken (d.attempts changes).2 r.id →
      (d.attempts (changes ++ [.insert r limit])).2 =
        .insert r limit :: (d.attempts changes).2) ∧
    (∀ task, (d.attempts (changes ++ [.delete task])).2 =
      .delete task :: (d.attempts changes).2) ∧
    ∀ (config : Config) (calls : List StoreCall),
      (∀ r, .addRecord r ∈ calls → r.Timely) → (calls.filterMap StoreCall.added?).Nodup →
      (config.eventHistory < 2 ^ 63 ∨ (calls.filterMap StoreCall.added?).length ≤ 2 ^ 63) →
      ∀ name,
        (after MemoryStore.serve (.new config) calls).recordsOf name =
            (since calls name).take config.eventHistory ∧
          (after TableStore.serve (.openOn config d) calls).recordsOf name =
            .ok (((since calls name).take config.eventHistory).map RunRecord.floored) := by
  have start : d.Lists fun name => history name [] := by
    refine ⟨fun name => nofun, fun name => ?_⟩
    rw [empty]
    rfl
  have lists : (d.attempts changes).1.Lists fun name => history name (d.attempts changes).2 :=
    foldl_attempt_lists start timely (room.imp_right fun few => by simpa using few)
  have next : ∀ c, d.attempts (changes ++ [c]) = attempt (d.attempts changes) c :=
    fun c => List.foldl_append ..
  refine ⟨lists.runsOf, fun r limit taken => ?_, fun r limit free => ?_, fun task => ?_, ?_⟩
  · have refused := insertBounded_of_taken limit ((lists.any_id r.id).mpr taken)
    refine ⟨refused, ?_⟩
    rw [next, attempt, change, refused]
  · have fresh : (d.attempts changes).1.runs.any (·.id == r.id.text) = false :=
      Bool.eq_false_iff.mpr fun there => free ((lists.any_id r.id).mp there)
    rw [next, attempt, change, insertBounded_of_fresh limit fresh]
  · rw [next, attempt, change]
  · intro config calls timely distinct room name
    refine ⟨congrFun (MemoryStore.recordsOf_after config calls).2 name, ?_⟩
    exact (TableStore.lists_after empty timely distinct room).2.runsOf name

/-- A record of a run that began a microsecond after a full second. -/
def sampleRecord (serial : Nat) (task : String) : RunRecord :=
  (RunRecord.new (.ofSerial serial) task ⟨["p"], ["api"], "m"⟩).start ⟨1736942400, 1000⟩

/-- The limits shrink and grow, an identifier comes twice, and other tasks come in between. -/
def sampleChanges : List RunChange :=
  [.insert (sampleRecord 1 "web") 3, .insert (sampleRecord 2 "web") 3,
    .insert (sampleRecord 3 "db") 0, .insert (sampleRecord 4 "web") 2,
    .insert (sampleRecord 4 "db") 1, .delete "db",
    .insert (sampleRecord 5 "web") 18446744073709551615]

theorem history_law_sample :
    Database.empty.runs = [] ∧ (∀ c ∈ sampleChanges, c.Timely) ∧ sampleChanges.length ≤ 2 ^ 63 ∧
      (empty.attempts sampleChanges).1.runsOf "web" =
        .ok ((history "web" (empty.attempts sampleChanges).2).map RunRecord.floored) ∧
      (∀ r, .addRecord r ∈ sampleCalls → r.Timely) ∧
      (sampleCalls.filterMap StoreCall.added?).Nodup ∧ sampleStored.eventHistory < 2 ^ 63 ∧
      (after TableStore.serve (.openOn sampleStored .empty) sampleCalls).recordsOf "web" =
        .ok (((since sampleCalls "web").take sampleStored.eventHistory).map
          RunRecord.floored) := by
  have timely : ∀ c ∈ sampleChanges, c.Timely := by decide +kernel
  have proper : ∀ c ∈ sampleCalls, c.Proper := by decide +kernel
  have instants : ∀ r, .addRecord r ∈ sampleCalls → r.Timely := fun r here => proper _ here
  have law := history_law .empty rfl sampleChanges timely (.inr (by decide))
  exact ⟨rfl, timely, by decide, law.1 "web", instants, by decide, by decide,
    (law.2.2.2.2 sampleStored sampleCalls instants (by decide) (.inl (by decide)) "web").2⟩

/-- What comes back is not always what was inserted: the table does not keep the microsecond. -/
theorem history_floors :
    (empty.attempts [.insert (sampleRecord 1 "web") 5]).2 =
        [.insert (sampleRecord 1 "web") 5] ∧
      (empty.attempts [.insert (sampleRecord 1 "web") 5]).1.runsOf "web" ≠
        .ok [sampleRecord 1 "web"] := by
  refine ⟨rfl, ?_⟩
  decide +kernel

end Database

end TaskSync
