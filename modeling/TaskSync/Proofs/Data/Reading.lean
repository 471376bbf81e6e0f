import TaskSync.Data.Decode
import TaskSync.Proofs.Data.Canonical
import Mathlib.Data.List.Pairwise

/-!
# Reading in any order

A reader takes from a canonical value what it takes from the value as written: it passes over
entries that it does not know, refuses a field that comes twice, and fields that are read one after
the other change different parts of the record. So it does not matter in which order they come.
-/

namespace TaskSync

/-- What was done before a success. -/
theorem of_bind_eq_ok {ε α β : Type} {x : Except ε α} {f : α → Except ε β} {b : β}
    (h : x >>= f = .ok b) : ∃ a, x = .ok a ∧ f a = .ok b := by
  cases x with
  | error e => cases h
  | ok a => exact ⟨a, rfl, h⟩

theorem of_map_eq_ok {ε α β : Type} {x : Except ε α} {f : α → β} {b : β} (h : x.map f = .ok b) :
    ∃ a, x = .ok a ∧ f a = b := by
  cases x with
  | error e => cases h
  | ok a => exact ⟨a, rfl, Except.ok.inj h⟩

/-- What the reader takes from a value it takes from the canonical value too. -/
def Orderless {α : Type} (read : Value → Decoded α) : Prop :=
  ∀ v x, read v = .ok x → read v.canonical = .ok x

/-! ### Records -/

/-- Two fields change different parts of a record. -/
def Field.Apart {σ : Type} (d : Dialect) (f g : Field σ) : Prop :=
  ∀ v w set set', f.read d v = .ok set → g.read d w = .ok set' → ∀ r, set (set' r) = set' (set r)

instance {σ : Type} {d : Dialect} : Std.Symm (Field.Apart (σ := σ) d) where
  symm _ _ apart v w set set' read read' r := (apart w v set' set read' read r).symm

/-- Fields that each set a part of their own. -/
theorem Field.apart_of {σ α β : Type} {d : Dialect} {k k' : String} {p p' : Presence}
    {reader : Dialect → Value → Decoded α} {reader' : Dialect → Value → Decoded β}
    (set : α → σ → σ) (set' : β → σ → σ)
    (commute : ∀ x y r, set x (set' y r) = set' y (set x r)) :
    Field.Apart d ⟨k, p, fun d v => reader d v >>= fun x => .ok (set x)⟩
      ⟨k', p', fun d v => reader' d v >>= fun y => .ok (set' y)⟩ := by
  intro v w f g read read' r
  obtain ⟨x, -, made⟩ := of_bind_eq_ok read
  obtain ⟨y, -, made'⟩ := of_bind_eq_ok read'
  cases made
  cases made'
  exact commute x y r

/-- Whatever is read into the field, the record keeps what holds of it. -/
def Field.Keeps {σ : Type} (d : Dialect) (P : σ → Prop) (f : Field σ) : Prop :=
  ∀ v set, f.read d v = .ok set → ∀ r, P r → P (set r)

theorem Field.Keeps.of {σ α : Type} {d : Dialect} {P : σ → Prop} {k : String} {p : Presence}
    {reader : Dialect → Value → Decoded α} (set : α → σ → σ)
    (keep : ∀ v x, reader d v = .ok x → ∀ r, P r → P (set x r)) :
    Field.Keeps d P ⟨k, p, fun d v => reader d v >>= fun x => .ok (set x)⟩ := by
  intro v f read
  obtain ⟨x, value, made⟩ := of_bind_eq_ok read
  cases made
  exact keep v x value

namespace Shape

variable {σ : Type} {s : Shape σ} {d : Dialect} {r r' : σ} {seen seen' out : List String}
  {entries entries' : List (String × Value)}

/-- The fields change different parts of the record, and each is read from canonical values. -/
structure Orderly (s : Shape σ) (d : Dialect) : Prop where
  apart : s.fields.Pairwise (Field.Apart d)
  orderless : ∀ f ∈ s.fields, Orderless (f.read d)

/-- How the first entry is read. -/
theorem readEntries_cons {k : String} {v : Value} :
    s.readEntries d seen r ((k, v) :: entries) = .ok (out, r') ↔
      (s.fields.find? (·.name == k) = none ∧ s.readEntries d seen r entries = .ok (out, r')) ∨
      ∃ f set, s.fields.find? (·.name == k) = some f ∧ k ∉ seen ∧ f.read d v = .ok set ∧
        s.readEntries d (k :: seen) (set r) entries = .ok (out, r') := by
  rw [readEntries]
  cases found : s.fields.find? (·.name == k) with
  | none => simp
  | some f =>
    by_cases again : k ∈ seen
    · simp [again]
    · cases read : f.read d v <;> simp [again, read, bind, Except.bind]

/-- Which names were seen matters, not when. -/
theorem readEntries_seen (same : ∀ k, k ∈ seen ↔ k ∈ seen')
    (read : s.readEntries d seen r entries = .ok (out, r')) :
    ∃ out', s.readEntries d seen' r entries = .ok (out', r') ∧ ∀ k, k ∈ out ↔ k ∈ out' := by
  induction entries generalizing seen seen' r with
  | nil =>
    obtain ⟨rfl, rfl⟩ := Prod.mk.inj (Except.ok.inj read)
    exact ⟨seen', rfl, same⟩
  | cons e es ih =>
    obtain ⟨k, v⟩ := e
    rcases readEntries_cons.mp read with ⟨unknown, rest⟩ | ⟨f, set, found, fresh, value, rest⟩
    · obtain ⟨out', rest, same⟩ := ih same rest
      exact ⟨out', readEntries_cons.mpr (.inl ⟨unknown, rest⟩), same⟩
    · have same' : ∀ k', k' ∈ k :: seen ↔ k' ∈ k :: seen' := fun k' => by
        rw [List.mem_cons, List.mem_cons, same]
      obtain ⟨out', rest, same'⟩ := ih same' rest
      exact ⟨out', readEntries_cons.mpr
        (.inr ⟨f, set, found, fun here => fresh ((same k).mpr here), value, rest⟩), same'⟩

theorem Orderly.commute (h : s.Orderly d) {k k' : String} (differ : k ≠ k') {f g : Field σ}
    (found : s.fields.find? (·.name == k) = some f)
    (found' : s.fields.find? (·.name == k') = some g) : f.Apart d g := by
  have name : f.name = k := by simpa using List.find?_some found
  have name' : g.name = k' := by simpa using List.find?_some found'
  have other : f ≠ g := by
    rintro rfl
    exact differ (name.symm.trans name')
  exact h.apart.forall (List.mem_of_find?_eq_some found) (List.mem_of_find?_eq_some found') other

/-- Entries may be read in any order. -/
theorem Orderly.readEntries_perm (h : s.Orderly d) (perm : entries.Perm entries')
    (read : s.readEntries d seen r entries = .ok (out, r')) :
    ∃ out', s.readEntries d seen r entries' = .ok (out', r') ∧ ∀ k, k ∈ out ↔ k ∈ out' := by
  induction perm generalizing seen r out with
  | nil => exact ⟨out, read, fun _ => .rfl⟩
  | cons e _ ih =>
    rcases readEntries_cons.mp read with ⟨unknown, rest⟩ | ⟨f, set, found, fresh, value, rest⟩
    · obtain ⟨out', rest, same⟩ := ih rest
      exact ⟨out', readEntries_cons.mpr (.inl ⟨unknown, rest⟩), same⟩
    · obtain ⟨out', rest, same⟩ := ih rest
      exact ⟨out', readEntries_cons.mpr (.inr ⟨f, set, found, fresh, value, rest⟩), same⟩
  | swap e e' es =>
    obtain ⟨k, v⟩ := e
    obtain ⟨k', v'⟩ := e'
    rcases readEntries_cons.mp read with
        ⟨unknown', rest⟩ | ⟨g, set', found', fresh', value', rest⟩ <;>
      rcases readEntries_cons.mp rest with ⟨unknown, rest⟩ | ⟨f, set, found, fresh, value, rest⟩
    · exact ⟨out, readEntries_cons.mpr (.inl ⟨unknown,
        readEntries_cons.mpr (.inl ⟨unknown', rest⟩)⟩), fun _ => .rfl⟩
    · exact ⟨out, readEntries_cons.mpr (.inr ⟨f, set, found, fresh, value,
        readEntries_cons.mpr (.inl ⟨unknown', rest⟩)⟩), fun _ => .rfl⟩
    · exact ⟨out, readEntries_cons.mpr (.inl ⟨unknown,
        readEntries_cons.mpr (.inr ⟨g, set', found', fresh', value', rest⟩)⟩), fun _ => .rfl⟩
    · have differ : k ≠ k' := fun same => fresh (same ▸ List.mem_cons_self)
      rw [h.commute differ found found' v v' set set' value value'] at rest
      have swapped : ∀ x, x ∈ k :: k' :: seen ↔ x ∈ k' :: k :: seen := fun x => by
        simp only [List.mem_cons]
        exact or_left_comm
      obtain ⟨out', rest, same⟩ := readEntries_seen swapped rest
      refine ⟨out', readEntries_cons.mpr (.inr ⟨f, set, found, fun here =>
        fresh (List.mem_cons_of_mem _ here), value, readEntries_cons.mpr (.inr ⟨g, set', found',
          fun here => ?_, value', rest⟩)⟩), same⟩
      exact (List.mem_cons.mp here).elim (fun same => differ same.symm) fresh'
  | trans _ _ ih ih' =>
    obtain ⟨out', read, same⟩ := ih read
    obtain ⟨out'', read, same'⟩ := ih' read
    exact ⟨out'', read, fun k => (same k).trans (same' k)⟩

/-- Whether the record has a field of the name. -/
def knows (s : Shape σ) (k : String) : Bool := (s.fields.find? (·.name == k)).isSome

/-- Entries of other names are passed over. -/
theorem readEntries_filter :
    s.readEntries d seen r (entries.filter fun e => s.knows e.1) = .ok (out, r') ↔
      s.readEntries d seen r entries = .ok (out, r') := by
  induction entries generalizing seen r with
  | nil => rfl
  | cons e es ih =>
    obtain ⟨k, v⟩ := e
    cases found : s.fields.find? (·.name == k) with
    | none =>
      have unknown : ¬ s.knows k = true := by simp [knows, found]
      rw [List.filter_cons, if_neg unknown, ih, readEntries_cons]
      simp [found]
    | some f =>
      have known : s.knows k = true := by simp [knows, found]
      rw [List.filter_cons, if_pos known, readEntries_cons, readEntries_cons]
      simp only [ih]

/-- Fields that were read come once. -/
theorem nodup_of_readEntries (read : s.readEntries d seen r entries = .ok (out, r')) :
    ((entries.filter fun e => s.knows e.1).map (·.1)).Nodup ∧
      ∀ k ∈ (entries.filter fun e => s.knows e.1).map (·.1), k ∉ seen := by
  induction entries generalizing seen r with
  | nil => exact ⟨.nil, nofun⟩
  | cons e es ih =>
    obtain ⟨k, v⟩ := e
    rcases readEntries_cons.mp read with ⟨unknown, rest⟩ | ⟨f, set, found, fresh, value, rest⟩
    · have unknown : ¬ s.knows k = true := by simp [knows, unknown]
      rw [List.filter_cons, if_neg unknown]
      exact ih rest
    · have known : s.knows k = true := by simp [knows, found]
      obtain ⟨once, apart⟩ := ih rest
      rw [List.filter_cons, if_pos known, List.map_cons]
      refine ⟨List.nodup_cons.mpr ⟨fun here => apart k here List.mem_cons_self, once⟩, ?_⟩
      intro k' here seen
      rcases List.mem_cons.mp here with rfl | later
      · exact fresh seen
      · exact apart k' later (List.mem_cons_of_mem _ seen)

theorem Orderly.readEntries_mapValues (h : s.Orderly d)
    (read : s.readEntries d seen r entries = .ok (out, r')) :
    s.readEntries d seen r (SortedMap.mapValues Value.canonical entries) = .ok (out, r') := by
  induction entries generalizing seen r with
  | nil => exact read
  | cons e es ih =>
    obtain ⟨k, v⟩ := e
    refine readEntries_cons.mpr ?_
    rcases readEntries_cons.mp read with ⟨unknown, rest⟩ | ⟨f, set, found, fresh, value, rest⟩
    · exact .inl ⟨unknown, ih rest⟩
    · exact .inr ⟨f, set, found, fresh,
        h.orderless f (List.mem_of_find?_eq_some found) v set value, ih rest⟩

/-- Entries are read as well when they are in canonical form and sorted. -/
theorem Orderly.readEntries_ofList (h : s.Orderly d)
    (read : s.readEntries d seen r entries = .ok (out, r')) :
    ∃ out', s.readEntries d seen r
        (SortedMap.ofList (SortedMap.mapValues Value.canonical entries)) = .ok (out', r') ∧
      ∀ k, k ∈ out ↔ k ∈ out' := by
  have canonical := h.readEntries_mapValues read
  have perm := SortedMap.perm_ofList (nodup_of_readEntries canonical).1
  obtain ⟨out', sorted, same⟩ :=
    h.readEntries_perm perm.symm (readEntries_filter.mpr canonical)
  rw [← SortedMap.filter_ofList] at sorted
  exact ⟨out', readEntries_filter.mp sorted, same⟩

theorem missing?_congr (same : ∀ k, k ∈ seen ↔ k ∈ out) : s.missing? seen = s.missing? out := by
  have contains : ∀ k, seen.contains k = out.contains k := fun k => by
    rw [Bool.eq_iff_iff, List.contains_iff_mem, List.contains_iff_mem, same]
  simp only [missing?, contains]

theorem readTable_eq_ok : s.readTable d entries = .ok r ↔
    ∃ seen, s.readEntries d [] s.start entries = .ok (seen, r) ∧ s.missing? seen = none := by
  constructor
  · intro read
    obtain ⟨⟨seen, r'⟩, read, full⟩ := of_bind_eq_ok read
    simp only at full
    cases missing : s.missing? seen with
    | some name =>
      rw [missing] at full
      cases full
    | none =>
      rw [missing] at full
      cases full
      exact ⟨seen, read, missing⟩
  · rintro ⟨seen, read, full⟩
    simp only [readTable, read, bind, Except.bind, full]

theorem Orderly.readTable (h : s.Orderly d) (read : s.readTable d entries = .ok r) :
    s.readTable d (SortedMap.ofList (SortedMap.mapValues Value.canonical entries)) = .ok r := by
  obtain ⟨seen, read, full⟩ := readTable_eq_ok.mp read
  obtain ⟨seen', sorted, same⟩ := h.readEntries_ofList read
  exact readTable_eq_ok.mpr ⟨seen', sorted, (missing?_congr same).symm.trans full⟩

theorem Orderly.readItems (h : s.Orderly d) {i : Nat} {fields : List (Field σ)}
    (among : ∀ f ∈ fields, f ∈ s.fields) {vs rest : List Value}
    (read : s.readItems d i fields r vs = .ok (r', rest)) :
    s.readItems d i fields r (vs.map Value.canonical) = .ok (r', rest.map Value.canonical) := by
  induction fields generalizing i r vs with
  | nil =>
    obtain ⟨rfl, rfl⟩ := Prod.mk.inj (Except.ok.inj read)
    rfl
  | cons f fs ih =>
    have later : ∀ g ∈ fs, g ∈ s.fields := fun g here => among g (List.mem_cons_of_mem _ here)
    cases vs with
    | nil =>
      rw [Shape.readItems] at read
      rw [List.map_nil, Shape.readItems]
      split at read
      next default =>
        rw [if_pos default]
        exact ih later read
      next => cases read
    | cons v vs =>
      obtain ⟨set, value, read⟩ := of_bind_eq_ok read
      rw [List.map_cons, Shape.readItems, h.orderless f (among f List.mem_cons_self) v set value]
      exact ih later read

theorem Orderly.read (h : s.Orderly d) : Orderless (s.read d) := by
  intro v r read
  cases v with
  | table entries =>
    rw [Value.canonical, Value.canonicalEntries_eq]
    exact h.readTable read
  | list vs =>
    obtain ⟨⟨r', rest⟩, items, fits⟩ := of_bind_eq_ok read
    rw [Value.canonical, Value.canonicalItems_eq]
    have canonical := h.readItems (fun _ here => here) items
    simp only [Shape.read, canonical, bind, Except.bind, List.length_map, ne_eq,
      List.map_eq_nil_iff]
    exact fits
  | _ => cases read

theorem Orderly.readTagged (h : s.Orderly d) : Orderless (s.readTagged d) := by
  intro v r read
  cases v with
  | table entries =>
    rw [Value.canonical, Value.canonicalEntries_eq]
    exact h.readTable read
  | list vs =>
    obtain ⟨⟨r', rest⟩, items, fits⟩ := of_bind_eq_ok read
    rw [Value.canonical, Value.canonicalItems_eq]
    have canonical := h.readItems (fun _ here => here) items
    simp only [Shape.readTagged, canonical, bind, Except.bind, List.length_map, List.map_eq_nil_iff]
    exact fits
  | _ => cases read

/-! ### What holds of every record that is read -/

section

variable {P : σ → Prop}

/-- What holds of the record at the start, and is kept by every field, holds of what is read. -/
structure Keeps (s : Shape σ) (d : Dialect) (P : σ → Prop) : Prop where
  start : P s.start
  fields : ∀ f ∈ s.fields, f.Keeps d P

theorem Keeps.readEntries (h : s.Keeps d P) (now : P r)
    (read : s.readEntries d seen r entries = .ok (out, r')) : P r' := by
  induction entries generalizing seen r with
  | nil =>
    obtain ⟨rfl, rfl⟩ := Prod.mk.inj (Except.ok.inj read)
    exact now
  | cons e es ih =>
    obtain ⟨k, v⟩ := e
    rcases readEntries_cons.mp read with ⟨-, rest⟩ | ⟨f, set, found, -, value, rest⟩
    · exact ih now rest
    · exact ih (h.fields f (List.mem_of_find?_eq_some found) v set value r now) rest

theorem Keeps.readItems (h : s.Keeps d P) {i : Nat} {fields : List (Field σ)}
    (among : ∀ f ∈ fields, f ∈ s.fields) (now : P r) {vs rest : List Value}
    (read : s.readItems d i fields r vs = .ok (r', rest)) : P r' := by
  induction fields generalizing i r vs with
  | nil =>
    obtain ⟨rfl, rfl⟩ := Prod.mk.inj (Except.ok.inj read)
    exact now
  | cons f fs ih =>
    have later : ∀ g ∈ fs, g ∈ s.fields := fun g here => among g (List.mem_cons_of_mem _ here)
    cases vs with
    | nil =>
      rw [Shape.readItems] at read
      split at read
      · exact ih later now read
      · cases read
    | cons v vs =>
      obtain ⟨set, value, read⟩ := of_bind_eq_ok read
      exact ih later (h.fields f (among f List.mem_cons_self) v set value r now) read

theorem Keeps.read (h : s.Keeps d P) {v : Value} (read : s.read d v = .ok r) : P r := by
  cases v with
  | table entries =>
    obtain ⟨seen, entries, -⟩ := readTable_eq_ok.mp read
    exact h.readEntries h.start entries
  | list vs =>
    obtain ⟨⟨r', rest⟩, items, fits⟩ := of_bind_eq_ok read
    simp only at fits
    split at fits
    · cases fits
    · obtain rfl := Except.ok.inj fits
      exact h.readItems (fun _ here => here) h.start items
  | _ => cases read

end

end Shape

/-! ### Values -/

namespace Decode

/-- A part that is set was read. -/
theorem exists_of_optional {α : Type} {read : Value → Decoded α} {v : Value} {x : Option α}
    (taken : optional read v = .ok x) : ∀ a ∈ x, ∃ w, read w = .ok a := by
  rintro a rfl
  cases v with
  | null => cases taken
  | _ =>
    obtain ⟨b, value, same⟩ := of_map_eq_ok taken
    cases same
    exact ⟨_, value⟩

theorem exists_of_items {α : Type} {read : Value → Decoded α} {vs : List Value} {xs : List α}
    (taken : items read vs = .ok xs) : ∀ x ∈ xs, ∃ w, read w = .ok x := by
  induction vs generalizing xs with
  | nil =>
    cases taken
    exact nofun
  | cons v vs ih =>
    obtain ⟨x, value, taken⟩ := of_bind_eq_ok taken
    obtain ⟨ys, values, taken⟩ := of_bind_eq_ok taken
    cases taken
    exact List.forall_mem_cons.mpr ⟨⟨v, value⟩, ih values⟩

theorem exists_of_list {α : Type} {read : Value → Decoded α} {v : Value} {xs : List α}
    (taken : list read v = .ok xs) : ∀ x ∈ xs, ∃ w, read w = .ok x := by
  cases v with
  | list vs => exact exists_of_items taken
  | _ => cases taken

theorem lt_of_natural {limit n : Nat} {expected : String} {v : Value}
    (taken : natural limit expected v = .ok n) : n < limit := by
  cases v with
  | integer i =>
    simp only [natural] at taken
    split at taken
    · cases taken
      omega
    · cases taken
  | _ => cases taken

theorem textEntries_mapValues (entries m : SortedMap String) :
    textEntries m (entries.mapValues .text) =
      .ok (entries.foldl (fun m e => SortedMap.put e.1 e.2 m) m) := by
  induction entries generalizing m with
  | nil => rfl
  | cons e es ih => exact ih (SortedMap.put e.1 e.2 m)

theorem textEntries_eq_ok {entries : List (String × Value)} {m m' : SortedMap String}
    (taken : textEntries m entries = .ok m') :
    ∃ ts : SortedMap String, entries = ts.mapValues .text ∧
      m' = ts.foldl (fun m e => SortedMap.put e.1 e.2 m) m := by
  induction entries generalizing m with
  | nil => exact ⟨[], rfl, (Except.ok.inj taken).symm⟩
  | cons e es ih =>
    obtain ⟨k, v⟩ := e
    obtain ⟨t, value, taken⟩ := of_bind_eq_ok taken
    obtain ⟨ts, rfl, rfl⟩ := ih taken
    cases v with
    | text s =>
      obtain rfl := Except.ok.inj value
      exact ⟨(k, s) :: ts, rfl, rfl⟩
    | _ => cases value

theorem textMap_eq_ok {v : Value} {m : SortedMap String} (taken : textMap v = .ok m) :
    ∃ ts : SortedMap String, v = .table (ts.mapValues .text) ∧ m = SortedMap.ofList ts := by
  cases v with
  | table entries =>
    obtain ⟨ts, rfl, rfl⟩ := textEntries_eq_ok taken
    exact ⟨ts, rfl, rfl⟩
  | _ => cases taken

/-- Whether an entry is the tag. -/
def isTag (k : String) : Bool := decide (k = "type")

/-- What the entries under the tag's name say. -/
def TagIs (known : List String) (tags : List (String × Value)) : Option Nat → Prop
  | none => tags = []
  | some i => ∃ v, tags = [("type", v)] ∧ tagIndex known v = .ok i

/-- The tag of a table is its only entry of that name, and the others stay as they are. -/
theorem splitTag_eq_ok {known : List String} {entries rest : List (String × Value)}
    {tag : Option Nat} : splitTag known entries = .ok (tag, rest) ↔
      rest = entries.filter (fun e => !isTag e.1) ∧
        TagIs known (entries.filter fun e => isTag e.1) tag := by
  induction entries generalizing tag rest with
  | nil =>
    constructor
    · intro split
      cases split
      exact ⟨rfl, rfl⟩
    · rintro ⟨rfl, tags⟩
      cases tag with
      | none => rfl
      | some i =>
        obtain ⟨v, tags, -⟩ := tags
        cases tags
  | cons e es ih =>
    obtain ⟨k, v⟩ := e
    by_cases here : k = "type"
    · subst here
      have kept : (("type", v) :: es).filter (fun e => !isTag e.1) =
        es.filter (fun e => !isTag e.1) := rfl
      have taken : (("type", v) :: es).filter (fun e => isTag e.1) =
        ("type", v) :: es.filter (fun e => isTag e.1) := rfl
      rw [kept, taken, splitTag, if_pos rfl]
      constructor
      · intro split
        obtain ⟨i, index, split⟩ := of_bind_eq_ok split
        obtain ⟨⟨tag', rest'⟩, others, split⟩ := of_bind_eq_ok split
        obtain ⟨rfl, tags⟩ := ih.mp others
        cases tag' with
        | some j => cases split
        | none =>
          cases split
          refine ⟨rfl, v, ?_, index⟩
          rw [show es.filter (fun e => isTag e.1) = [] from tags]
      · rintro ⟨rfl, tags⟩
        cases tag with
        | none => cases tags
        | some i =>
          obtain ⟨w, tags, index⟩ := tags
          obtain ⟨same, others⟩ := List.cons.inj tags
          obtain rfl := (Prod.mk.inj same).2
          have split := ih.mpr ⟨rfl, (show TagIs known _ none from others)⟩
          simp only [index, bind, Except.bind, split]
    · have other : isTag k = false := decide_eq_false here
      rw [List.filter_cons, List.filter_cons, if_pos (by simp [other]), if_neg (by simp [other]),
        splitTag, if_neg here]
      constructor
      · intro split
        obtain ⟨⟨tag', rest'⟩, others, split⟩ := of_bind_eq_ok split
        obtain ⟨rfl, tags⟩ := ih.mp others
        cases split
        exact ⟨rfl, tags⟩
      · rintro ⟨rfl, tags⟩
        simp only [ih.mpr ⟨rfl, tags⟩, bind, Except.bind]

theorem tagIndex_canonical {known : List String} {v : Value} {i : Nat}
    (taken : tagIndex known v = .ok i) : v.canonical = v := by
  cases v with
  | text s => rfl
  | _ => cases taken

/-- A canonical value has the same tag, and what is left of it is canonical. -/
theorem tagged_canonical {title : String} {known : List String} {v content : Value} {i : Nat}
    (taken : tagged title known v = .ok (i, content)) :
    tagged title known v.canonical = .ok (i, content.canonical) := by
  cases v with
  | table entries =>
    obtain ⟨⟨tag, rest⟩, split, taken⟩ := of_bind_eq_ok taken
    obtain ⟨rfl, tags⟩ := splitTag_eq_ok.mp split
    cases tag with
    | none => cases taken
    | some j =>
      cases taken
      obtain ⟨w, only, index⟩ := tags
      have filtered : ∀ p : String → Bool,
          (SortedMap.ofList (SortedMap.mapValues Value.canonical entries)).filter (fun e => p e.1) =
            SortedMap.ofList (SortedMap.mapValues Value.canonical
              (entries.filter fun e => p e.1)) := by
        intro p
        rw [SortedMap.filter_ofList, SortedMap.mapValues, List.filter_map]
        rfl
      have tagOnly : (SortedMap.ofList (SortedMap.mapValues Value.canonical entries)).filter
          (fun e => isTag e.1) = [("type", w)] := by
        rw [filtered isTag, only]
        show [("type", w.canonical)] = _
        rw [tagIndex_canonical index]
      have split : splitTag known
          (SortedMap.ofList (SortedMap.mapValues Value.canonical entries)) =
            .ok (some i, SortedMap.ofList (SortedMap.mapValues Value.canonical
              (entries.filter fun e => !isTag e.1))) :=
        splitTag_eq_ok.mpr ⟨(filtered fun k => !isTag k).symm, w, tagOnly, index⟩
      rw [Value.canonical, Value.canonicalEntries_eq, Value.canonical, Value.canonicalEntries_eq]
      simp only [tagged, split, bind, Except.bind]
  | list vs =>
    cases vs with
    | nil => cases taken
    | cons v vs =>
      obtain ⟨j, index, taken⟩ := of_bind_eq_ok taken
      cases taken
      rw [Value.canonical, Value.canonicalItems, Value.canonical, tagIndex_canonical index]
      simp only [tagged, index, bind, Except.bind]
  | _ => cases taken

end Decode

namespace Orderless

variable {α β : Type}

/-- What is made of a value that was read. -/
theorem bind {read : Value → Decoded α} (h : Orderless read) (f : α → Decoded β) :
    Orderless fun v => read v >>= f := by
  intro v y made
  obtain ⟨x, value, made⟩ := of_bind_eq_ok made
  simp only [h v x value]
  exact made

/-- A reader that takes nothing from containers. -/
theorem of_atoms {read : Value → Decoded α}
    (list : ∀ vs x, read (.list vs) ≠ .ok x) (table : ∀ es x, read (.table es) ≠ .ok x) :
    Orderless read := by
  intro v x taken
  cases v with
  | list vs => exact absurd taken (list vs x)
  | table es => exact absurd taken (table es x)
  | _ => exact taken

theorem optional {read : Value → Decoded α} (h : Orderless read) :
    Orderless (Decode.optional read) := by
  intro v x taken
  cases v with
  | list vs =>
    obtain ⟨y, value, rfl⟩ := of_map_eq_ok taken
    exact congrArg (Except.map some) (h _ y value)
  | table es =>
    obtain ⟨y, value, rfl⟩ := of_map_eq_ok taken
    exact congrArg (Except.map some) (h _ y value)
  | _ => exact taken

theorem items {read : Value → Decoded α} (h : Orderless read) {vs : List Value} {xs : List α}
    (taken : Decode.items read vs = .ok xs) :
    Decode.items read (vs.map Value.canonical) = .ok xs := by
  induction vs generalizing xs with
  | nil => exact taken
  | cons v vs ih =>
    obtain ⟨x, value, taken⟩ := of_bind_eq_ok taken
    obtain ⟨ys, values, taken⟩ := of_bind_eq_ok taken
    rw [List.map_cons, Decode.items, h v x value, ih values]
    exact taken

theorem list {read : Value → Decoded α} (h : Orderless read) : Orderless (Decode.list read) := by
  intro v xs taken
  cases v with
  | list vs =>
    rw [Value.canonical, Value.canonicalItems_eq]
    exact h.items taken
  | _ => cases taken

theorem text : Orderless Decode.text := of_atoms nofun nofun

theorem pathText : Orderless Decode.pathText := of_atoms nofun nofun

theorem boolean : Orderless Decode.boolean := of_atoms nofun nofun

theorem natural (limit : Nat) (expected : String) : Orderless (Decode.natural limit expected) :=
  of_atoms nofun nofun

theorem texts : Orderless Decode.texts := text.list

/-- A table of texts is sorted when it is read. -/
theorem textMap : Orderless Decode.textMap := by
  intro v m taken
  obtain ⟨ts, rfl, rfl⟩ := Decode.textMap_eq_ok taken
  have sorted : (Value.table (ts.mapValues .text)).canonical =
      .table ((SortedMap.ofList ts).mapValues .text) := by
    rw [Value.canonical, Value.canonicalEntries_eq, SortedMap.mapValues_mapValues,
      SortedMap.mapValues_ofList]
    rfl
  rw [sorted]
  exact (Decode.textEntries_mapValues _ _).trans
    (congrArg Except.ok (SortedMap.ofList_of_ordered (SortedMap.ordered_ofList ts)))

/-- A choice is a word, or a table with a single key. -/
theorem choice (d : Dialect) (known : List String) : Orderless (Decode.choice d known) := by
  intro v i taken
  cases v with
  | list vs => cases d <;> cases taken
  | table entries =>
    match entries with
    | [] => exact taken
    | [(k, v)] =>
      -- what stands under the key is nothing, or an empty container
      have empty : v.canonical = v := by
        cases d with
        | json =>
          obtain ⟨j, -, unit⟩ := of_bind_eq_ok taken
          cases v with
          | null => rfl
          | _ => cases unit
        | toml =>
          obtain ⟨j, -, unit⟩ := of_bind_eq_ok taken
          match v with
          | .list [] | .table [] => rfl
          | .list (_ :: _) | .table (_ :: _) => cases unit
          | .null | .boolean _ | .integer _ | .float _ | .text _ => cases unit
      have same : (Value.table [(k, v)]).canonical = .table [(k, v.canonical)] := rfl
      rw [same, empty]
      exact taken
    | _ :: _ :: _ => cases d <;> cases taken
  | _ => exact taken

end Orderless

end TaskSync
