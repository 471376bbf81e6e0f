import TaskSync.Proofs.Lookup
import TaskSync.Registry

/-!
# Entries of the registry

What each operation of the registry does to the entry of a name and to the owner of a template.
Everything that is said later about registrations rests on these equations; none of the operations
is unfolded again.
-/

namespace TaskSync.Registry

variable {δ : Type} {r s : Registry δ} {name other : String}

theorem get?_eq_some {b : δ} :
    r.get? name = some b ↔ ∃ e, r.find? name = some e ∧ e.runner = b := by
  simp [get?]

theorem get?_eq_none : r.get? name = none ↔ r.find? name = none := by
  simp [get?]

theorem contains_of_get? {b : δ} (h : r.get? name = some b) : r.contains name = true := by
  obtain ⟨e, found, -⟩ := get?_eq_some.mp h
  rw [contains, found]
  rfl

theorem contains_eq_false : r.contains name = false ↔ r.find? name = none := by
  simp [contains]

theorem find?_update (test : String → Entry δ → Bool) (change : Entry δ → Entry δ) :
    (r.update test change).find? name =
      (r.find? name).map fun e => if test name e then change e else e := by
  have values : (r.update test change).tasks =
      r.tasks.map fun e => (e.1, if test e.1 e.2 then change e.2 else e.2) := by
    refine List.map_congr_left fun e _ => ?_
    by_cases h : test e.1 e.2 = true <;> simp [h]
  rw [find?, values, SortedMap.get?_map_values fun k e => if test k e then change e else e]
  rfl

theorem find?_mark :
    (r.mark name).find? other =
      (r.find? other).map fun e => { e with marked := e.marked || other == name } := by
  rw [mark, find?_update]
  congr 1
  funext e
  by_cases h : other = name
  · simp [h]
  · have apart : (other == name) = false := by simpa using h
    simp [apart]

theorem get?_mark : (r.mark name).get? other = r.get? other := by
  unfold get?
  rw [find?_mark, Option.map_map]
  rfl

theorem find?_release (g : Guard) :
    (r.release g).find? name =
      (r.find? name).map fun e => { e with active := e.active && e.id != g.entry } := by
  rw [release, find?_update]
  congr 1
  funext e
  by_cases h : e.id = g.entry
  · simp [h]
  · have apart : (e.id == g.entry) = false := by simpa using h
    simp [apart, bne]

/-- A guard is had only of an entry that nobody holds, and it is that entry's. -/
theorem tryActivate_eq_some {g : Guard} (h : r.tryActivate name = .ok (some g, s)) :
    ∃ e, r.find? name = some e ∧ e.active = false ∧ g = ⟨e.id⟩ ∧
      s = r.update (fun n _ => n == name) fun e => { e with active := true } := by
  unfold tryActivate at h
  split at h
  · cases h
  next e found =>
    by_cases active : e.active = true
    · simp [active] at h
    · simp only [active] at h
      cases h
      exact ⟨e, found, by simpa using active, rfl, rfl⟩

theorem tryActivate_eq_busy (h : r.tryActivate name = .ok (none, s)) :
    s = r ∧ ∃ e, r.find? name = some e ∧ e.active = true := by
  unfold tryActivate at h
  split at h
  · cases h
  next e found =>
    by_cases active : e.active = true
    · simp only [active] at h
      cases h
      exact ⟨rfl, e, found, active⟩
    · simp [active] at h

theorem tryActivate_eq_error {e : Failure} (h : r.tryActivate name = .error e) :
    r.find? name = none ∧ e = .notFound name := by
  unfold tryActivate at h
  split at h
  next missing =>
    cases h
    exact ⟨missing, rfl⟩
  next e found =>
    by_cases active : e.active = true <;> simp [active] at h

theorem find?_activate :
    (r.update (fun n _ => n == name) fun e => { e with active := true }).find? other =
      (r.find? other).map fun e => { e with active := e.active || other == name } := by
  rw [find?_update]
  congr 1
  funext e
  by_cases h : other = name
  · simp [h]
  · have apart : (other == name) = false := by simpa using h
    simp [apart]

/-! ### Registration and removal -/

theorem delete_eq_ok (h : r.delete name = .ok s) :
    ∃ e, r.find? name = some e ∧
      s = { r with
            tasks := r.tasks.erase name
            templates := disclaim name e.templates r.templates } := by
  unfold delete at h
  split at h
  · cases h
  next e found =>
    cases h
    exact ⟨e, found, rfl⟩

theorem delete_eq_error {e : Failure} (h : r.delete name = .error e) : r.find? name = none := by
  unfold delete at h
  split at h
  next missing => exact missing
  · cases h

theorem find?_delete (h : r.delete name = .ok s) :
    s.find? other = if other = name then none else r.find? other := by
  obtain ⟨e, _, rfl⟩ := delete_eq_ok h
  exact SortedMap.get?_erase name other r.tasks

theorem nextId_delete (h : r.delete name = .ok s) : s.nextId = r.nextId := by
  obtain ⟨e, _, rfl⟩ := delete_eq_ok h
  rfl

variable {b : δ} {ids : List String}

theorem add_eq_ok (h : r.add name b ids = .ok s) :
    r.find? name = none ∧
      s = { tasks := r.tasks.put name ⟨r.nextId, b, ids, false, false⟩
            templates := claim name ids r.templates
            nextId := r.nextId + 1 } := by
  unfold add at h
  by_cases taken : r.contains name = true
  · simp [taken] at h
  · simp only [taken] at h
    cases h
    exact ⟨contains_eq_false.mp (by simpa using taken), rfl⟩

theorem add_eq_error {e : Failure} (h : r.add name b ids = .error e) :
    (∃ f, r.find? name = some f) ∧ e = .alreadyExists name := by
  unfold add at h
  by_cases taken : r.contains name = true
  · simp only [taken] at h
    cases h
    exact ⟨Option.isSome_iff_exists.mp taken, rfl⟩
  · simp [taken] at h

theorem find?_add (h : r.add name b ids = .ok s) :
    s.find? other =
      if other = name then some ⟨r.nextId, b, ids, false, false⟩ else r.find? other := by
  obtain ⟨_, rfl⟩ := add_eq_ok h
  exact SortedMap.get?_put name other _ r.tasks

theorem nextId_add (h : r.add name b ids = .ok s) : s.nextId = r.nextId + 1 := by
  obtain ⟨_, rfl⟩ := add_eq_ok h
  rfl

/-! ### Owners of templates -/

theorem get?_claim (id : String) (index : SortedMap String) :
    (claim name ids index).get? id = if id ∈ ids then some name else index.get? id := by
  induction ids generalizing index with
  | nil => simp [claim]
  | cons x xs ih =>
    show (claim name xs (index.put x name)).get? id = _
    rw [ih, SortedMap.get?_put]
    by_cases h : id ∈ xs
    · simp [h]
    · by_cases e : id = x <;> simp [h, e]

theorem get?_disclaim (id : String) (index : SortedMap String) :
    (disclaim name ids index).get? id =
      if id ∈ ids ∧ index.get? id = some name then none else index.get? id := by
  induction ids generalizing index with
  | nil => simp [disclaim]
  | cons x xs ih =>
    show (disclaim name xs (if index.get? x = some name then index.erase x else index)).get? id = _
    rw [ih]
    by_cases owned : index.get? x = some name
    · rw [if_pos owned, SortedMap.get?_erase]
      by_cases e : id = x
      · subst e
        simp [owned]
      · simp [e]
    · rw [if_neg owned]
      by_cases e : id = x
      · subst e
        simp [owned]
      · simp [e]

/-- Every template that the index knows belongs to a registered task that has it. -/
def Indexed (r : Registry δ) : Prop :=
  ∀ id n, r.templates.get? id = some n → ∃ e, r.find? n = some e ∧ id ∈ e.templates

theorem indexed_empty : (empty : Registry δ).Indexed := by
  intro id n h
  simp [empty, SortedMap.get?] at h

theorem Indexed.add (hr : r.Indexed) (h : r.add name b ids = .ok s) : s.Indexed := by
  obtain ⟨free, rfl⟩ := add_eq_ok h
  intro id n owner
  rw [find?_add h]
  rw [get?_claim] at owner
  by_cases member : id ∈ ids
  · rw [if_pos member] at owner
    cases owner
    exact ⟨_, if_pos rfl, member⟩
  · rw [if_neg member] at owner
    obtain ⟨e, found, has⟩ := hr id n owner
    have apart : n ≠ name := by
      rintro rfl
      rw [free] at found
      cases found
    exact ⟨e, by rw [if_neg apart, found], has⟩

theorem Indexed.delete (hr : r.Indexed) (h : r.delete name = .ok s) : s.Indexed := by
  obtain ⟨e, found, rfl⟩ := delete_eq_ok h
  intro id n owner
  rw [find?_delete h]
  rw [get?_disclaim] at owner
  split at owner
  · cases owner
  next kept =>
    obtain ⟨f, there, has⟩ := hr id n owner
    have apart : n ≠ name := by
      rintro rfl
      rw [found] at there
      cases there
      exact kept ⟨has, owner⟩
    exact ⟨f, by rw [if_neg apart, there], has⟩

/-- Changes of flags are none of the index. -/
theorem Indexed.update (hr : r.Indexed) {test : String → Entry δ → Bool}
    {change : Entry δ → Entry δ} (same : ∀ e, (change e).templates = e.templates) :
    (r.update test change).Indexed := by
  intro id n owner
  obtain ⟨e, found, has⟩ := hr id n owner
  rw [find?_update, found]
  by_cases h : test n e = true
  · exact ⟨_, rfl, by simpa [h, same] using has⟩
  · exact ⟨_, rfl, by simpa [h] using has⟩

end TaskSync.Registry
