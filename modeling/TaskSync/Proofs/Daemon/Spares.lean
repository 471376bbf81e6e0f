import TaskSync.Proofs.Lookup
import TaskSync.Proofs.Sequence.Creation
import TaskSync.Proofs.Store.Tables

/-!
# What a change leaves to a name

A daemon keeps things by the name of their task: an entry in the registry, a configuration, run
records, backends and how many of them were asked for. `Retains` says that of one name all of this
is as it was, the backends aside, and `Spares` includes the backends. What one creation does spares
every name but its own. Of run records, only what they say of their run is compared anywhere, not
their identifiers and times.
-/

namespace TaskSync

/-! ### Records but for their identifiers and times -/

/-- A record but for its identifier and its times. -/
def RunRecord.bare (r : RunRecord) : RunRecord :=
  { r with id := .ofSerial 0, startTime := none, endTime := none }

theorem RunRecord.bare_taskName {r r' : RunRecord} (same : r.bare = r'.bare) :
    r.taskName = r'.taskName := by
  have named : r.bare.taskName = r'.bare.taskName := by rw [same]
  exact named

theorem RunRecord.bare_succeed {r r' : RunRecord} (same : r.bare = r'.bare) (now : Timestamp) :
    (r.succeed now).bare = (r'.succeed now).bare := by
  have bare (r : RunRecord) :
      (r.succeed now).bare = { r.bare with success := true, error := none } :=
    rfl
  rw [bare, bare, same]

namespace MemoryStore

/-- The records of a task but for their identifiers and times. -/
def bareRecords (s : MemoryStore) (name : String) : List RunRecord :=
  (s.recordsOf name).map RunRecord.bare

theorem bareRecords_addRecord (s : MemoryStore) (r : RunRecord) :
    (s.addRecord r).bareRecords r.taskName =
      (r.bare :: s.bareRecords r.taskName).take s.config.eventHistory := by
  unfold bareRecords
  rw [recordsOf_addRecord, if_pos rfl, List.map_take, List.map_cons]

end MemoryStore

/-! ### What belongs to a name -/

namespace Daemon

/-- What belongs to the name is as it was, the backends aside, and so is what all names share: the
setting, the time of day, the configuration and which names are stored in which order. -/
structure Retains (name : String) (d d' : Daemon) : Prop where
  setting : d'.setting = d.setting
  wall : d'.wall = d.wall
  config : d'.store.config = d.store.config
  reliable : d.Reliable → d'.Reliable
  names : d'.store.tasks.map (·.name) = d.store.tasks.map (·.name)
  entry : d'.registry.find? name = d.registry.find? name
  made : d'.made.get? name = d.made.get? name
  task : d'.store.getTask name = d.store.getTask name
  records : d'.store.recordsOf name = d.store.recordsOf name

/-- Nothing that belongs to the name has changed. -/
structure Spares (name : String) (d d' : Daemon) : Prop extends Retains name d d' where
  size : d.backends.size ≤ d'.backends.size
  backend : ∀ b, b < d.backends.size → (d.backend b).label.task = name →
    d'.backend b = d.backend b

variable {name : String} {d d' d'' : Daemon} {b : Place}

namespace Retains

theorem trans (h : Retains name d d') (h' : Retains name d' d'') : Retains name d d'' where
  setting := h'.setting.trans h.setting
  wall := h'.wall.trans h.wall
  config := h'.config.trans h.config
  reliable reliable := h'.reliable (h.reliable reliable)
  names := h'.names.trans h.names
  entry := h'.entry.trans h.entry
  made := h'.made.trans h.made
  task := h'.task.trans h.task
  records := h'.records.trans h.records

theorem bareRecords (h : Retains name d d') :
    d'.store.bareRecords name = d.store.bareRecords name :=
  congrArg (List.map RunRecord.bare) h.records

/-- A change that attends to a backend retains what belongs to any name. -/
theorem of_attends {kinds : List CallKind} (h : d.Attends b kinds d') : Retains name d d' := by
  obtain ⟨lines, aside, -⟩ := h.aside
  refine ⟨aside.setting, aside.wall, ?_, aside.steady.reliable, ?_, ?_, ?_, ?_, ?_⟩
  · rw [h.store]
  · rw [h.store]
  · rw [h.registry]
  · rw [aside.frame]
  · rw [h.store]
  · rw [h.store]

end Retains

namespace Spares

theorem trans (h : Spares name d d') (h' : Spares name d' d'') : Spares name d d'' where
  toRetains := h.toRetains.trans h'.toRetains
  size := Nat.le_trans h.size h'.size
  backend b inside named := by
    have kept := h.backend b inside named
    rw [← kept] at named
    exact (h'.backend b (Nat.lt_of_lt_of_le inside h.size) named).trans kept

/-- A change of other fields. -/
theorem of_same (setting : d'.setting = d.setting) (wall : d'.wall = d.wall)
    (store : d'.store = d.store) (faults : d.Reliable → d'.Reliable)
    (registry : d'.registry = d.registry) (made : d'.made = d.made)
    (backends : d'.backends = d.backends) : Spares name d d' where
  setting := setting
  wall := wall
  config := by rw [store]
  reliable := faults
  names := by rw [store]
  entry := by rw [registry]
  made := by rw [made]
  task := by rw [store]
  records := by rw [store]
  size := Nat.le_of_eq (congrArg Array.size backends.symm)
  backend b _ _ := by
    unfold Daemon.backend
    rw [backends]

theorem refl (name : String) (d : Daemon) : Spares name d d :=
  .of_same rfl rfl rfl id rfl rfl rfl

theorem of_drifts (h : d.Drifts d') : Spares name d d' :=
  .of_same h.quiet.setting (by rw [h.frame]) h.store h.quiet.reliable h.registry (by rw [h.frame])
    h.backends

theorem of_attends {kinds : List CallKind} (h : d.Attends b kinds d')
    (foreign : (d.backend b).label.task ≠ name) : Spares name d d' where
  toRetains := .of_attends h
  size := Nat.le_of_eq h.size.symm
  backend c _ named := h.others c fun same => foreign (same ▸ named)

theorem startRecord (d : Daemon) (t : Task) : Spares name d (d.startRecord t).2 :=
  .of_same rfl rfl rfl id rfl rfl rfl

theorem publish (d : Daemon) (n : Notice) : Spares name d (d.publish n) :=
  .of_same rfl rfl rfl id rfl rfl rfl

theorem notifyCompletion (d : Daemon) (task : String) :
    Spares name d (d.notifyCompletion task) := by
  obtain ⟨c, h⟩ := notifyCompletion_frame d task
  rw [h]
  exact .of_same rfl rfl rfl id rfl rfl rfl

theorem announceSchedule (d : Daemon) (task : String) :
    Spares name d (d.announceSchedule task) := by
  obtain ⟨box, hs, h⟩ := announceSchedule_frame d task
  rw [h]
  exact .of_same rfl rfl rfl id rfl rfl rfl

/-- A new task is announced. -/
theorem announced (name : String) (d : Daemon) (t : Task) (n : Notice) :
    Spares name d ((if t.isScheduled then d.announceSchedule t.name else d).publish n) := by
  have announced : Spares name d (if t.isScheduled then d.announceSchedule t.name else d) := by
    split
    · exact announceSchedule d t.name
    · exact refl name d
  exact announced.trans (publish _ n)

/-- A task is registered under another name. -/
theorem register {other : String} {ids : List String} {r : Registry Place}
    (added : d.registry.add other b ids = .ok r) (apart : name ≠ other) :
    Spares name d { d with registry := r } where
  setting := rfl
  wall := rfl
  config := rfl
  reliable := id
  names := rfl
  entry := by rw [Registry.find?_add added, if_neg apart]
  made := rfl
  task := rfl
  records := rfl
  size := Nat.le_refl _
  backend _ _ _ := rfl

end Spares

/-! ### Making backends -/

/-- The next backend of the name is asked for, and the store and the registry stay. -/
theorem make_made {t : Task} {r : Except BackendError Place} (h : d.make t = (r, d')) :
    d'.made = d.made.put t.name ((d.made.get? t.name).getD 0 + 1) ∧ d'.setting = d.setting ∧
      d'.wall = d.wall ∧ d'.store = d.store ∧ d'.storeFaults = d.storeFaults ∧
      d'.registry = d.registry := by
  unfold make at h
  simp only at h
  split at h
  · cases h
    exact ⟨rfl, rfl, rfl, rfl, rfl, rfl⟩
  · cases h
    exact ⟨rfl, rfl, rfl, rfl, rfl, rfl⟩

theorem Spares.make {t : Task} {r : Except BackendError Place} (h : d.make t = (r, d'))
    (apart : name ≠ t.name) : Spares name d d' := by
  have steady := (make_quiet h).toSteady
  obtain ⟨made, setting, wall, store, -, registry⟩ := make_made h
  refine ⟨⟨setting, wall, by rw [store], steady.reliable, by rw [store], by rw [registry], ?_,
    by rw [store], by rw [store]⟩, steady.size, fun b inside _ => ?_⟩
  · rw [made, SortedMap.get?_put, if_neg apart]
  · cases r with
    | error e =>
        obtain ⟨label, made, rfl⟩ := make_eq_error h
        rfl
    | ok place =>
        obtain ⟨-, label, made, script, rfl, -⟩ := make_eq_ok h
        exact (backend_push d b _).trans (if_neg (Nat.ne_of_lt inside))

/-! ### Writing -/

/-- A store that does not fail has what was written. -/
theorem write_ok (reliable : d.Reliable) (op : StoreOp) (task : String)
    (f : MemoryStore → MemoryStore) :
    (d.write op task f).1 = .ok () ∧ ∃ faults, (d.write op task f).2 =
        { d with
          store := f d.store, storeFaults := faults, journal := .written op task :: d.journal } ∧
      ∀ e ∈ faults, e.2.Silent := by
  obtain ⟨s, faults, after, -, kept⟩ := write_frame d op task f
  obtain ⟨succeeds, rfl, silent⟩ := kept reliable
  exact ⟨succeeds, faults, after, silent⟩

theorem addRecord_ok (reliable : d.Reliable) (r : RunRecord) : ∃ faults, d.addRecord r =
      { d with
        store := d.store.addRecord r, storeFaults := faults
        journal := .written .addRecord r.taskName :: d.journal } ∧
    ∀ e ∈ faults, e.2.Silent :=
  (write_ok reliable .addRecord r.taskName (·.addRecord r)).2

theorem setTask_ok (reliable : d.Reliable) (c : TaskConfig) : ∃ faults, d.setTask c = (.ok (),
      { d with
        store := d.store.setTask c, storeFaults := faults
        journal := .written .setTask c.nameOrEmpty :: d.journal }) ∧
    ∀ e ∈ faults, e.2.Silent := by
  obtain ⟨succeeds, faults, after, silent⟩ :=
    write_ok reliable .setTask c.nameOrEmpty (·.setTask c)
  exact ⟨faults, Prod.ext succeeds after, silent⟩

theorem Spares.addRecord (reliable : d.Reliable) (r : RunRecord) (apart : name ≠ r.taskName) :
    Spares name d (d.addRecord r) := by
  obtain ⟨faults, after, silent⟩ := addRecord_ok reliable r
  rw [after]
  refine ⟨⟨rfl, rfl, rfl, fun _ => silent, rfl, rfl, rfl, rfl, ?_⟩, Nat.le_refl _,
    fun _ _ _ => rfl⟩
  exact (MemoryStore.recordsOf_addRecord r).trans (if_neg apart)

/-- A configuration that is set again keeps its place among the names. -/
theorem names_setTask {s : MemoryStore} {c : TaskConfig} (here : c.name ∈ s.tasks.map (·.name)) :
    (s.setTask c).tasks.map (·.name) = s.tasks.map (·.name) := by
  obtain ⟨before, old, after, parts, named, replaced⟩ := MemoryStore.tasks_setTask_of_mem here
  rw [replaced, parts, List.map_append, List.map_append, List.map_cons, List.map_cons, named]

theorem Spares.setTask (reliable : d.Reliable) {c : TaskConfig}
    (here : c.name ∈ d.store.tasks.map (·.name)) (apart : c.name ≠ some name) :
    Spares name d (d.setTask c).2 := by
  obtain ⟨faults, after, silent⟩ := setTask_ok reliable c
  rw [after]
  refine ⟨⟨rfl, rfl, rfl, fun _ => silent, names_setTask here, rfl, rfl, ?_, rfl⟩, Nat.le_refl _,
    fun _ _ _ => rfl⟩
  exact (MemoryStore.getTask_setTask c).trans (if_neg apart)

end Daemon

end TaskSync
