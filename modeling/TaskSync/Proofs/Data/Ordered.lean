import TaskSync.Data.SortedMap

/-!
# Maps in order

A list of associations is a map when its keys ascend. `put` keeps that order, so `ofList` always
ends in a map, and a map is built from itself: two readers that sort the same associations agree.
-/

namespace TaskSync

namespace SortedMap

variable {α β : Type}

/-- The keys ascend; in particular no key comes twice. -/
def Ordered (m : SortedMap α) : Prop := m.Pairwise fun a b => a.1 < b.1

instance (m : SortedMap α) : Decidable (Ordered m) :=
  inferInstanceAs (Decidable (m.Pairwise fun a b => a.1 < b.1))

theorem ordered_nil : Ordered ([] : SortedMap α) := List.Pairwise.nil

theorem key_lt_of_not_lt {a b : String} (notLess : ¬ a < b) (apart : ¬ a = b) : b < a :=
  Classical.byContradiction fun h =>
    apart (String.le_antisymm (String.not_lt.mp h) (String.not_lt.mp notLess))

/-- `put` brings in its own association and nothing else. -/
theorem mem_put {key : String} {value : α} {e : String × α} {m : SortedMap α}
    (here : e ∈ put key value m) : e = (key, value) ∨ e ∈ m := by
  induction m with
  | nil => simpa [put] using here
  | cons entry rest ih =>
    obtain ⟨k, v⟩ := entry
    rw [put] at here
    split at here
    · simpa using here
    · split at here
      · rcases List.mem_cons.mp here with h | h
        · exact .inl h
        · exact .inr (List.mem_cons_of_mem _ h)
      · rcases List.mem_cons.mp here with h | h
        · exact .inr (h ▸ List.mem_cons_self)
        · exact (ih h).imp id (List.mem_cons_of_mem _)

theorem Ordered.put {m : SortedMap α} (ordered : Ordered m) (key : String) (value : α) :
    Ordered (put key value m) := by
  induction m with
  | nil => exact List.pairwise_singleton _ _
  | cons entry rest ih =>
    obtain ⟨k, v⟩ := entry
    obtain ⟨above, tail⟩ := List.pairwise_cons.mp ordered
    rw [SortedMap.put]
    split
    · rename_i less
      refine List.pairwise_cons.mpr ⟨fun e here => ?_, ordered⟩
      rcases List.mem_cons.mp here with rfl | here
      · exact less
      · exact String.lt_trans less (above e here)
    · rename_i notLess
      split
      · rename_i same
        subst same
        exact List.pairwise_cons.mpr ⟨above, tail⟩
      · rename_i apart
        refine List.pairwise_cons.mpr ⟨fun e here => ?_, ih tail⟩
        rcases mem_put here with rfl | here
        · exact key_lt_of_not_lt notLess apart
        · exact above e here

theorem foldl_put_ordered (entries : List (String × α)) {m : SortedMap α} (ordered : Ordered m) :
    Ordered (entries.foldl (fun m e => SortedMap.put e.1 e.2 m) m) := by
  induction entries generalizing m with
  | nil => exact ordered
  | cons e es ih => exact ih (ordered.put e.1 e.2)

theorem ordered_ofList (entries : List (String × α)) : Ordered (ofList entries) :=
  foldl_put_ordered entries ordered_nil

theorem mem_foldl_put {entries : List (String × α)} {m : SortedMap α} {e : String × α}
    (here : e ∈ entries.foldl (fun m e => put e.1 e.2 m) m) : e ∈ entries ∨ e ∈ m := by
  induction entries generalizing m with
  | nil => exact .inr here
  | cons f fs ih =>
    rcases ih here with h | h
    · exact .inl (List.mem_cons_of_mem _ h)
    · rcases mem_put h with rfl | h
      · exact .inl List.mem_cons_self
      · exact .inr h

/-- Sorting invents no association. -/
theorem mem_ofList {entries : List (String × α)} {e : String × α} (here : e ∈ ofList entries) :
    e ∈ entries :=
  (mem_foldl_put here).elim id nofun

/-- A key beyond all others goes to the end. -/
theorem put_of_above {key : String} {value : α} {m : SortedMap α} (above : ∀ e ∈ m, e.1 < key) :
    put key value m = m ++ [(key, value)] := by
  induction m with
  | nil => rfl
  | cons entry rest ih =>
    obtain ⟨k, v⟩ := entry
    have below : k < key := above (k, v) List.mem_cons_self
    have notLess : ¬ key < k := fun h => String.lt_irrefl _ (String.lt_trans h below)
    have apart : ¬ key = k := fun h => String.lt_irrefl k (h ▸ below)
    rw [put, if_neg notLess, if_neg apart, ih fun e here => above e (List.mem_cons_of_mem _ here),
      List.cons_append]

theorem foldl_put_of_above {entries m : SortedMap α} (ordered : Ordered entries)
    (above : ∀ e ∈ m, ∀ f ∈ entries, e.1 < f.1) :
    entries.foldl (fun m e => put e.1 e.2 m) m = m ++ entries := by
  induction entries generalizing m with
  | nil => simp
  | cons f fs ih =>
    obtain ⟨least, tail⟩ := List.pairwise_cons.mp ordered
    rw [List.foldl_cons, put_of_above fun e here => above e here f List.mem_cons_self, ih tail]
    · simp
    · intro e here g later
      rcases List.mem_append.mp here with here | here
      · exact above e here g (List.mem_cons_of_mem _ later)
      · rw [List.mem_singleton.mp here]
        exact least g later

/-- A map is what is built from its associations. -/
theorem ofList_of_ordered {m : SortedMap α} (ordered : Ordered m) : ofList m = m :=
  (foldl_put_of_above ordered fun _ here => absurd here List.not_mem_nil).trans
    (List.nil_append m)

theorem mapValues_put (f : α → β) (key : String) (value : α) (m : SortedMap α) :
    mapValues f (put key value m) = put key (f value) (mapValues f m) := by
  induction m with
  | nil => rfl
  | cons entry rest ih =>
    obtain ⟨k, v⟩ := entry
    simp only [mapValues, put, List.map_cons] at ih ⊢
    split
    · rfl
    · split
      · rfl
      · rw [List.map_cons, ih]

/-- Values may be changed before or after sorting. -/
theorem mapValues_ofList (f : α → β) (entries : List (String × α)) :
    mapValues f (ofList entries) = ofList (mapValues f entries) := by
  suffices ∀ m : SortedMap α,
      mapValues f (entries.foldl (fun m e => put e.1 e.2 m) m) =
        (mapValues f entries).foldl (fun m e => put e.1 e.2 m) (mapValues f m) from this []
  induction entries with
  | nil => exact fun _ => rfl
  | cons e es ih =>
    intro m
    rw [List.foldl_cons, ih, mapValues_put]
    rfl

theorem mapValues_mapValues {γ : Type} (f : α → β) (g : β → γ) (m : SortedMap α) :
    mapValues g (mapValues f m) = mapValues (fun x => g (f x)) m := by
  simp [mapValues]

/-- What is put in front of a map that has only greater keys. -/
theorem put_of_below {key : String} {value : α} {m : SortedMap α} (below : ∀ e ∈ m, key < e.1) :
    put key value m = (key, value) :: m := by
  cases m with
  | nil => rfl
  | cons entry rest => rw [put, if_pos (below entry List.mem_cons_self)]

/-- Some of the keys of a map may be left out before or after another is put in. -/
theorem filter_put (p : String → Bool) (key : String) (value : α) {m : SortedMap α}
    (ordered : Ordered m) :
    (put key value m).filter (fun e => p e.1) =
      if p key then put key value (m.filter fun e => p e.1) else m.filter fun e => p e.1 := by
  induction m with
  | nil => cases h : p key <;> simp [put, h]
  | cons entry rest ih =>
    obtain ⟨k, v⟩ := entry
    obtain ⟨above, tail⟩ := List.pairwise_cons.mp ordered
    by_cases less : key < k
    · have below : ∀ e ∈ ((k, v) :: rest).filter fun e => p e.1, key < e.1 := by
        intro e here
        rcases List.mem_cons.mp (List.mem_filter.mp here).1 with rfl | later
        · exact less
        · exact String.lt_trans less (above e later)
      rw [put, if_pos less, put_of_below below, List.filter_cons]
    · by_cases same : key = k
      · subst same
        cases h : p key <;> simp [put, h]
      · rw [put, if_neg less, if_neg same]
        simp only [List.filter_cons, ih tail]
        cases p k <;> cases p key <;> simp [put, less, same]

theorem filter_foldl_put (p : String → Bool) (entries : List (String × α)) {m : SortedMap α}
    (ordered : Ordered m) :
    (entries.foldl (fun m e => put e.1 e.2 m) m).filter (fun e => p e.1) =
      (entries.filter fun e => p e.1).foldl (fun m e => put e.1 e.2 m)
        (m.filter fun e => p e.1) := by
  induction entries generalizing m with
  | nil => rfl
  | cons e es ih =>
    rw [List.foldl_cons, ih (ordered.put e.1 e.2), filter_put p e.1 e.2 ordered]
    cases h : p e.1 <;> simp [h]

/-- Some of the keys may be left out before or after sorting. -/
theorem filter_ofList (p : String → Bool) (entries : List (String × α)) :
    (ofList entries).filter (fun e => p e.1) = ofList (entries.filter fun e => p e.1) :=
  filter_foldl_put p entries ordered_nil

theorem perm_put {key : String} (value : α) {m : SortedMap α} (fresh : key ∉ m.map (·.1)) :
    List.Perm (put key value m) ((key, value) :: m) := by
  induction m with
  | nil => exact .refl _
  | cons entry rest ih =>
    obtain ⟨k, v⟩ := entry
    have apart : key ≠ k := fun same => fresh (same ▸ List.mem_cons_self)
    by_cases less : key < k
    · rw [put, if_pos less]
    · rw [put, if_neg less, if_neg apart]
      exact ((ih fun here => fresh (List.mem_cons_of_mem _ here)).cons _).trans (.swap _ _ _)

theorem perm_foldl_put {entries : List (String × α)} {m : SortedMap α}
    (once : (entries.map (·.1)).Nodup) (fresh : ∀ k ∈ entries.map (·.1), k ∉ m.map (·.1)) :
    List.Perm (entries.foldl (fun m e => put e.1 e.2 m) m) (entries ++ m) := by
  induction entries generalizing m with
  | nil => exact .refl _
  | cons e es ih =>
    obtain ⟨apart, once⟩ := List.nodup_cons.mp once
    have put := perm_put e.2 (fresh e.1 List.mem_cons_self)
    have later : ∀ k ∈ es.map (·.1), k ∉ (SortedMap.put e.1 e.2 m).map (·.1) := by
      intro k here within
      rcases List.mem_cons.mp ((put.map (·.1)).mem_iff.mp within) with rfl | within
      · exact apart here
      · exact fresh k (List.mem_cons_of_mem _ here) within
    exact (ih once later).trans ((put.append_left es).trans List.perm_middle)

/-- Sorting associations of different keys only moves them. -/
theorem perm_ofList {entries : List (String × α)} (once : (entries.map (·.1)).Nodup) :
    List.Perm (ofList entries) entries := by
  have perm := perm_foldl_put once (m := []) fun _ _ => List.not_mem_nil
  rwa [List.append_nil] at perm

theorem mapValues_congr {f g : α → β} {m : SortedMap α} (agree : ∀ e ∈ m, f e.2 = g e.2) :
    mapValues f m = mapValues g m :=
  List.map_congr_left fun e here => by rw [agree e here]

end SortedMap

end TaskSync
