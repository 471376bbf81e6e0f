import TaskSync.Proofs.Registry.History

/-!
# What a registry says of a name

After any history, a registry speaks of the entry that a name has now. The number of an entry ties
the guards to it: guards that were had under the name since its last add bear that number, and no
other guard does, be it one of an earlier entry of the name or one of another name.
-/

namespace TaskSync.Registry

variable {δ : Type} {history : List (Change δ)} {name : String} {g : Guard} {place : Nat}

section Entries

variable {b : δ} {ids : List String} {since earlier : List (Change δ)}

/-- A guard that was had under a name while an entry of it was there is that entry's, whatever has
become of the entry since. -/
theorem Registered.guard_number {later middle : List (Change δ)}
    (h : Registered middle name b ids since earlier) (split : history = later ++ middle)
    (alive : Alive history name place g) (grown : earlier.length < place)
    (within : place < middle.length) : g = ⟨(after earlier).registry.nextId⟩ := by
  obtain ⟨later', before, r, split', rfl, taken, -⟩ := alive
  have old : before <:+ history := ⟨later' ++ [.tryActivate name], by simp [split']⟩
  obtain ⟨between, rfl⟩ : before <:+ middle :=
    List.suffix_of_suffix_length_le old ⟨later, split.symm⟩ (Nat.le_of_lt within)
  obtain ⟨since', -, then'⟩ := h.cut rfl grown
  obtain ⟨e, there, -, -, number, -⟩ := then'.find?
  obtain ⟨f, there', -, own, -⟩ := tryActivate_eq_some taken
  obtain rfl : f = e := Option.some.inj (there'.symm.trans there)
  rw [own, number]

/-- Nobody had a guard at a place that is still to come. -/
theorem Alive.place_lt (alive : Alive history name place g) : place < history.length := by
  obtain ⟨later, before, r, rfl, rfl, -, -⟩ := alive
  simp only [List.length_append, List.length_cons]
  omega

/-- A guard that was had under a name since its last add. -/
def GuardSince (history : List (Change δ)) (name : String) (earlier : List (Change δ))
    (place : Nat) : Prop :=
  ∃ g, Alive history name place g ∧ earlier.length < place

/-- The guards of the entry that a name has now are those that were had under the name since it
was added. -/
theorem Registered.guards (h : Registered history name b ids since earlier) :
    (after history).live place = some ⟨(after earlier).registry.nextId⟩ ↔
      GuardSince history name earlier place := by
  constructor
  · intro held
    obtain ⟨n, later, before, r, split, at', taken, kept⟩ := (live_after.2 _ _).mp held
    obtain ⟨f, there, -, own, -⟩ := tryActivate_eq_some taken
    have number : (after earlier).registry.nextId = f.id := congrArg Guard.entry own
    have grown : earlier.length < before.length := by
      by_contra short
      -- the guard would be older than the number it bears
      have old : before <:+ history := ⟨later ++ [.tryActivate n], by simp [split]⟩
      have first : earlier <:+ history := ⟨since ++ [.add name b ids], by simp [h.split]⟩
      obtain ⟨between, rfl⟩ : before <:+ earlier :=
        List.suffix_of_suffix_length_le old first (by omega)
      have issued := (exclusive_after before).issued n f there
      have monotone := nextId_after between before
      omega
    have split' : history = (later ++ [.tryActivate n]) ++ before := by simp [split]
    obtain ⟨since', -, then'⟩ := h.cut split' grown
    obtain ⟨e, there', -, -, number', -⟩ := then'.find?
    have mine : n = name :=
      (exclusive_after before).apart n name f e there there' (by omega)
    subst mine
    exact ⟨_, ⟨later, before, r, split, at', taken, kept⟩, at' ▸ grown⟩
  · rintro ⟨g, alive, grown⟩
    have own := h.guard_number (show history = [] ++ history from rfl) alive grown alive.place_lt
    exact (live_after.2 _ _).mpr ⟨name, own ▸ alive⟩

/-- Over any time in which an entry is there, no two guards of it are had that are alive now. -/
theorem Registered.single {later middle : List (Change δ)} {q : Nat} {x : Guard}
    (h : Registered middle name b ids since earlier) (split : history = later ++ middle)
    (mine : Alive history name place g) (yours : Alive history name q x)
    (grown : earlier.length < place) (within : place < middle.length)
    (grown' : earlier.length < q) (within' : q < middle.length) : place = q := by
  have own := h.guard_number split mine grown within
  have own' := h.guard_number split yours grown' within'
  subst own own'
  exact (exclusive_after history).once _ _ _ ((live_after.2 _ _).mpr ⟨name, mine⟩)
    ((live_after.2 _ _).mpr ⟨name, yours⟩)

/-- The flag of an entry is up while a guard that was had since it was added is alive. -/
theorem Registered.active (h : Registered history name b ids since earlier) :
    (after history).registry.isActive name = true ↔
      ∃ place, GuardSince history name earlier place := by
  obtain ⟨e, found, -, -, number, -⟩ := h.find?
  have flag := (exclusive_after history).flag name e found
  rw [number] at flag
  rw [isActive, found]
  exact flag.trans (exists_congr fun _ => h.guards)

/-- A guard is to be had exactly when none is alive; otherwise the task is busy. -/
theorem Registered.tryActivate (h : Registered history name b ids since earlier) :
    ((∃ g r, (after history).registry.tryActivate name = .ok (some g, r)) ↔
      ∀ place, ¬ GuardSince history name earlier place) ∧
    ((after history).registry.tryActivate name = .ok (none, (after history).registry) ↔
      ∃ place, GuardSince history name earlier place) := by
  have flag := h.active
  obtain ⟨e, found, -⟩ := h.find?
  rw [isActive, found, Option.any_some] at flag
  rw [← not_exists, ← flag, Registry.tryActivate, found]
  by_cases active : e.active = true <;> simp [active]

/-- Dropping a guard that was not had since the last add leaves the entry alone. -/
theorem find?_drop
    (foreign : ∀ b ids since earlier, Registered history name b ids since earlier →
      ¬ GuardSince history name earlier place) :
    (after (.drop place :: history)).registry.find? name =
      (after history).registry.find? name := by
  cases alive : (after history).live place with
  | none => simp [after, Standing.change, alive]
  | some g =>
      simp only [after, Standing.change, alive]
      rw [find?_release]
      cases found : (after history).registry.find? name with
      | none => rfl
      | some e =>
          obtain ⟨since, earlier, h⟩ := registered_of_find? found
          obtain ⟨f, there, -, -, number, -⟩ := h.find?
          obtain rfl : f = e := Option.some.inj (there.symm.trans found)
          have apart : (f.id != g.entry) = true := by
            rw [bne_iff_ne]
            intro same
            refine foreign _ _ since earlier h (h.guards.mp ?_)
            rw [alive, ← number, same]
          simp only [Option.map_some, apart, Bool.and_true]

end Entries

/-- What a registry says of a name after a history. -/
structure Answers (history : List (Change δ)) (name : String) : Prop where
  /-- A name is there while its last add is later than its last removal, with what that add
  brought. -/
  present : ∀ b, (after history).registry.get? name = some b ↔
    ∃ ids since earlier, Registered history name b ids since earlier
  /-- An add is carried out when the name is not there. Otherwise it changes nothing. -/
  accepted : ∀ b ids, Accepts history name b ids ↔ (after history).registry.get? name = none
  rejected : ∀ b ids e, (after history).registry.add name b ids = .error e →
    e = .alreadyExists name ∧ after (.add name b ids :: history) = after history
  /-- The flag is up while a guard of the entry that the name has now is alive. -/
  active : (after history).registry.isActive name = true ↔
    ∃ b ids since earlier place,
      Registered history name b ids since earlier ∧ GuardSince history name earlier place
  /-- A guard is to be had of a name that is there exactly when no guard of its entry is alive. -/
  activates : ∀ b ids since earlier, Registered history name b ids since earlier →
    ((∃ g r, (after history).registry.tryActivate name = .ok (some g, r)) ↔
      ∀ place, ¬ GuardSince history name earlier place) ∧
    ((after history).registry.tryActivate name = .ok (none, (after history).registry) ↔
      ∃ place, GuardSince history name earlier place)
  unknown : (after history).registry.get? name = none →
    (after history).registry.tryActivate name = .error (.notFound name)
  /-- No entry has two guards alive, be it there or gone. -/
  single : ∀ later middle b ids since earlier p q g x, history = later ++ middle →
    Registered middle name b ids since earlier →
    Alive history name p g → Alive history name q x →
    earlier.length < p → p < middle.length → earlier.length < q → q < middle.length → p = q
  /-- A mark is one that was set since the entry was added. -/
  marked : (after history).registry.isMarked name = true ↔
    ∃ b ids since earlier, Registered history name b ids since earlier ∧ .mark name ∈ since
  /-- Dropping any guard but one of the entry that the name has now leaves that entry alone. -/
  stale : ∀ place, (∀ b ids since earlier, Registered history name b ids since earlier →
      ¬ GuardSince history name earlier place) →
    (after (.drop place :: history)).registry.find? name = (after history).registry.find? name

theorem flags_follow_entry (history : List (Change δ)) (name : String) :
    Answers history name where
  present b := by
    rw [get?_eq_some]
    constructor
    · rintro ⟨e, found, rfl⟩
      obtain ⟨since, earlier, h⟩ := registered_of_find? found
      exact ⟨e.templates, since, earlier, h⟩
    · rintro ⟨ids, since, earlier, h⟩
      obtain ⟨e, found, runner, -⟩ := h.find?
      exact ⟨e, found, runner⟩
  accepted b ids := accepts_iff.trans get?_eq_none.symm
  rejected b ids e refused := by
    refine ⟨(add_eq_error refused).2, ?_⟩
    simp only [after, Standing.change, refused]
  active := by
    constructor
    · intro active
      obtain ⟨e, found, -⟩ := (Option.any_eq_true _ _).mp active
      obtain ⟨since, earlier, h⟩ := registered_of_find? found
      obtain ⟨place, held⟩ := h.active.mp active
      exact ⟨_, _, since, earlier, place, h, held⟩
    · rintro ⟨b, ids, since, earlier, place, h, held⟩
      exact h.active.mpr ⟨place, held⟩
  activates b ids since earlier h := h.tryActivate
  unknown missing := by
    rw [Registry.tryActivate, get?_eq_none.mp missing]
  single later middle b ids since earlier p q g x split h := h.single split
  marked := by
    constructor
    · intro marked
      obtain ⟨e, found, set⟩ := (Option.any_eq_true _ _).mp marked
      obtain ⟨since, earlier, h⟩ := registered_of_find? found
      obtain ⟨f, there, -, -, -, sets⟩ := h.find?
      obtain rfl : f = e := Option.some.inj (there.symm.trans found)
      exact ⟨_, _, since, earlier, h, sets.mp set⟩
    · rintro ⟨b, ids, since, earlier, h, set⟩
      obtain ⟨e, found, -, -, -, sets⟩ := h.find?
      rw [isMarked, found]
      exact sets.mpr set
  stale place foreign := find?_drop foreign

end TaskSync.Registry
