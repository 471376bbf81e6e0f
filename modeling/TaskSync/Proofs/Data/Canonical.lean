import TaskSync.Proofs.Data.Ordered
import TaskSync.Data.Value

/-!
# Canonical values

Sorting the tables of a value twice is sorting them once, because `SortedMap.ofList` leaves a map
alone and commutes with a change of the values.
-/

namespace TaskSync

namespace Value

/-- Induction over values: a container has what its parts have. -/
@[elab_as_elim]
theorem induct {motive : Value → Prop} (null : motive null) (boolean : ∀ b, motive (boolean b))
    (integer : ∀ n, motive (integer n)) (float : ∀ x, motive (float x))
    (text : ∀ s, motive (text s))
    (list : ∀ items, (∀ v ∈ items, motive v) → motive (list items))
    (table : ∀ entries, (∀ e ∈ entries, motive e.2) → motive (table entries)) :
    ∀ v, motive v :=
  @Value.rec motive (fun vs => ∀ v ∈ vs, motive v) (fun es => ∀ e ∈ es, motive e.2)
    (fun e => motive e.2) null boolean integer float text list table nofun
    (fun _ _ head tail => List.forall_mem_cons.mpr ⟨head, tail⟩) nofun
    (fun _ _ head tail => List.forall_mem_cons.mpr ⟨head, tail⟩) (fun _ _ value => value)

theorem canonicalItems_eq (vs : List Value) : canonicalItems vs = vs.map canonical := by
  induction vs with
  | nil => rfl
  | cons v vs ih => rw [canonicalItems, ih, List.map_cons]

theorem canonicalEntries_eq (es : List (String × Value)) :
    canonicalEntries es = SortedMap.mapValues canonical es := by
  induction es with
  | nil => rfl
  | cons e es ih =>
    obtain ⟨k, v⟩ := e
    rw [canonicalEntries, ih]
    rfl

theorem canonical_canonical (v : Value) : v.canonical.canonical = v.canonical := by
  induction v using Value.induct with
  | null | boolean _ | integer _ | float _ | text _ => rfl
  | list items each =>
    simp only [canonical, canonicalItems_eq, List.map_map, list.injEq]
    exact List.map_congr_left each
  | table entries each =>
    -- sorting commutes with the step into the entries, so both steps meet and both sortings do
    simp only [canonical, canonicalEntries_eq, SortedMap.mapValues_ofList,
      SortedMap.mapValues_mapValues, table.injEq]
    rw [SortedMap.mapValues_congr each]
    exact SortedMap.ofList_of_ordered (SortedMap.ordered_ofList _)

end Value

end TaskSync
