import TaskSync.Store.Memory

/-!
# What a look-up finds

Equations for looking a key up after a change, in sorted maps and in the store in memory. None of
them needs the map to be in order: `put` only passes over entries of other keys, so even a list
that was never sorted answers as a map does.
-/

namespace TaskSync

namespace SortedMap

variable {α β : Type}

theorem get?_cons (key k : String) (value : α) (rest : SortedMap α) :
    get? key ((k, value) :: rest) = if key = k then some value else get? key rest := by
  by_cases h : key = k
  · simp [get?, h]
  · have hb : (key == k) = false := by simpa using h
    simp [get?, List.lookup_cons, h, hb]

theorem get?_put (key other : String) (value : α) (m : SortedMap α) :
    get? other (put key value m) = if other = key then some value else get? other m := by
  induction m with
  | nil => exact get?_cons other key value []
  | cons entry rest ih =>
    obtain ⟨k, v⟩ := entry
    by_cases less : key < k
    · simp [put, less, get?_cons]
    · by_cases same : key = k
      · subst same
        by_cases h : other = key <;> simp [put, get?_cons, h]
      · by_cases h : other = k
        · subst h
          have apart : other ≠ key := fun e => same e.symm
          simp [put, less, same, get?_cons, apart]
        · simp [put, less, same, get?_cons, h, ih]

theorem get?_erase (key other : String) (m : SortedMap α) :
    get? other (erase key m) = if other = key then none else get? other m := by
  induction m with
  | nil => simp [erase, get?]
  | cons entry rest ih =>
    obtain ⟨k, v⟩ := entry
    by_cases same : k = key
    · subst same
      have step : erase k ((k, v) :: rest) = erase k rest := by simp [erase]
      rw [step, ih, get?_cons]
      by_cases h : other = k <;> simp [h]
    · have step : erase key ((k, v) :: rest) = (k, v) :: erase key rest := by
        simp [erase, same]
      rw [step, get?_cons, ih, get?_cons]
      by_cases h : other = k
      · simp [h, same]
      · simp [h]

/-- Changing values and leaving keys alone changes what each key finds. -/
theorem get?_map_values (f : String → α → β) (key : String) (m : SortedMap α) :
    get? key (m.map fun e => (e.1, f e.1 e.2)) = (get? key m).map (f key) := by
  induction m with
  | nil => rfl
  | cons entry rest ih =>
    obtain ⟨k, v⟩ := entry
    rw [List.map_cons, get?_cons, get?_cons, ih]
    by_cases h : key = k <;> simp [h]

end SortedMap

namespace MemoryStore

variable {s : MemoryStore} {name other : String}

theorem find?_replaceFirst (c : TaskConfig) (tasks : List TaskConfig) :
    (replaceFirst (fun t => t.name == c.name) c tasks).find? (fun t => t.name == some other) =
      if c.name = some other then some c else tasks.find? fun t => t.name == some other := by
  induction tasks with
  | nil =>
    by_cases e : c.name = some other <;> simp [replaceFirst, e]
  | cons t ts ih =>
    by_cases same : t.name = c.name
    · by_cases e : c.name = some other <;> simp [replaceFirst, same, e]
    · have step : replaceFirst (fun t => t.name == c.name) c (t :: ts) =
          t :: replaceFirst (fun t => t.name == c.name) c ts := by
        simp [replaceFirst, same]
      rw [step, List.find?_cons, List.find?_cons, ih]
      by_cases found : t.name = some other
      · have apart : ¬ c.name = some other := fun e => same (found.trans e.symm)
        have hit : (t.name == some other) = true := by simpa using found
        simp only [hit, if_neg apart]
      · have miss : (t.name == some other) = false := by simpa using found
        simp only [miss]

/-- A configuration without a name is found under none. -/
theorem getTask_setTask (c : TaskConfig) :
    (s.setTask c).getTask other = if c.name = some other then some c else s.getTask other :=
  find?_replaceFirst c s.tasks

theorem getTask_deleteTask :
    (s.deleteTask name).getTask other = if other = name then none else s.getTask other := by
  show (s.tasks.filter _).find? _ = _
  rw [List.find?_filter]
  by_cases e : other = name
  · subst e
    rw [if_pos rfl, List.find?_eq_none]
    intro t _
    by_cases h : t.name = some other <;> simp [h]
  · rw [if_neg e]
    refine congrArg (fun test => s.tasks.find? test) (funext fun t => ?_)
    by_cases h : t.name = some other <;> simp [h, e]

theorem recordsOf_addRecord (r : RunRecord) :
    (s.addRecord r).recordsOf other =
      if other = r.taskName then (r :: s.recordsOf r.taskName).take s.config.eventHistory
      else s.recordsOf other := by
  simp only [recordsOf, addRecord, SortedMap.get?_put]
  by_cases e : other = r.taskName <;> simp [e]

theorem recordsOf_deleteRecords :
    (s.deleteRecords name).recordsOf other = if other = name then [] else s.recordsOf other := by
  simp only [recordsOf, deleteRecords, SortedMap.get?_erase]
  by_cases e : other = name <;> simp [e]

end MemoryStore

end TaskSync
