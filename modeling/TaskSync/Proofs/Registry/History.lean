import TaskSync.Proofs.Registry.Path

/-!
# Histories of a registry

A registry answers for the entry that a name has now, not for the name. Here its answers after any
history of changes are read off the history: a name is there while its last add that was carried
out is later than its last removal, its flag is up while a guard that was had since that add is
alive, and its mark was set since that add.

A history lists its changes with the latest first, so what came before a change is the rest of the
list, and the length of the rest is the place of the change. A guard is known by the place where it
was had. It is dropped once, at any time after that, also when its entry is long gone. Look-ups
change nothing, so they are no part of a history.
-/

namespace TaskSync.Registry

variable {δ : Type}

/-- What is done to a registry. -/
inductive Change (δ : Type) where
  | add (name : String) (runner : δ) (templates : List String)
  | delete (name : String)
  | reset
  | tryActivate (name : String)
  | mark (name : String)
  /-- The guard that was had at a place of the history is dropped. -/
  | drop (place : Nat)

/-- A registry, and the guards that are alive, each at the place where it was had. -/
structure Standing (δ : Type) where
  registry : Registry δ
  live : Nat → Option Guard

/-- One more change, at its place. A change that is refused leaves everything as it is, and what is
no longer alive is not dropped again. -/
def Standing.change (s : Standing δ) (place : Nat) : Change δ → Standing δ
  | .add name b ids =>
    match s.registry.add name b ids with
    | .ok r => { s with registry := r }
    | .error _ => s
  | .delete name =>
    match s.registry.delete name with
    | .ok r => { s with registry := r }
    | .error _ => s
  | .reset => { s with registry := s.registry.reset }
  | .tryActivate name =>
    match s.registry.tryActivate name with
    | .ok (some g, r) => ⟨r, Function.update s.live place (some g)⟩
    | .ok (none, r) => { s with registry := r }
    | .error _ => s
  | .mark name => { s with registry := s.registry.mark name }
  | .drop p =>
    match s.live p with
    | some g => ⟨s.registry.release g, Function.update s.live p none⟩
    | none => s

/-- What a history leads to. -/
def after : List (Change δ) → Standing δ
  | [] => ⟨empty, fun _ => none⟩
  | c :: earlier => (after earlier).change earlier.length c

/-! ### One change -/

/-- A change for which nothing happens. -/
def Standing.Refuses (s : Standing δ) : Change δ → Prop
  | .add name _ _ => ∃ e, s.registry.find? name = some e
  | .delete name => s.registry.find? name = none
  | .tryActivate name => ∀ e, s.registry.find? name = some e → e.active = true
  | .drop p => s.live p = none
  | .reset => False
  | .mark _ => False

/-- Everything that a change can do. -/
inductive Standing.Changes (s : Standing δ) (place : Nat) : Change δ → Standing δ → Prop where
  | refused {c : Change δ} (why : s.Refuses c) : Changes s place c s
  | add {name : String} {b : δ} {ids : List String} {r : Registry δ}
      (added : s.registry.add name b ids = .ok r) : Changes s place (.add name b ids) ⟨r, s.live⟩
  | delete {name : String} {r : Registry δ} (removed : s.registry.delete name = .ok r) :
      Changes s place (.delete name) ⟨r, s.live⟩
  | reset : Changes s place .reset ⟨s.registry.reset, s.live⟩
  | tryActivate {name : String} {g : Guard} {r : Registry δ}
      (taken : s.registry.tryActivate name = .ok (some g, r)) :
      Changes s place (.tryActivate name) ⟨r, Function.update s.live place (some g)⟩
  | mark (name : String) : Changes s place (.mark name) ⟨s.registry.mark name, s.live⟩
  | drop {p : Nat} {g : Guard} (alive : s.live p = some g) :
      Changes s place (.drop p) ⟨s.registry.release g, Function.update s.live p none⟩

theorem Standing.changes (s : Standing δ) (place : Nat) (c : Change δ) :
    s.Changes place c (s.change place c) := by
  cases c with
  | add name b ids =>
      cases added : s.registry.add name b ids with
      | error _ => simpa only [change, added] using .refused (add_eq_error added).1
      | ok r => simpa only [change, added] using .add added
  | delete name =>
      cases removed : s.registry.delete name with
      | error _ => simpa only [change, removed] using .refused (delete_eq_error removed)
      | ok r => simpa only [change, removed] using .delete removed
  | reset => exact .reset
  | tryActivate name =>
      rcases taken : s.registry.tryActivate name with _ | ⟨_ | g, r⟩
      · have missing := (tryActivate_eq_error taken).1
        simpa only [change, taken] using .refused fun e found => by simp [missing] at found
      · obtain ⟨rfl, e, found, active⟩ := tryActivate_eq_busy taken
        have held : ∀ f, s.registry.find? name = some f → f.active = true := by
          intro f there
          obtain rfl : f = e := Option.some.inj (there.symm.trans found)
          exact active
        simpa only [change, taken] using .refused held
      · simpa only [change, taken] using .tryActivate taken
  | mark name => exact .mark name
  | drop p =>
      cases alive : s.live p with
      | none => simpa only [change, alive] using .refused alive
      | some g => simpa only [change, alive] using .drop alive

namespace Standing.Changes

variable {s t : Standing δ} {place : Nat} {c : Change δ} {name : String}

/-- An entry stays until its name is deleted or everything is reset, and of what it was registered
with nothing changes. -/
theorem keeps (h : s.Changes place c t) {e : Entry δ}
    (found : s.registry.find? name = some e) (undeleted : c ≠ .delete name)
    (unreset : c ≠ .reset) :
    ∃ f, t.registry.find? name = some f ∧ f.id = e.id ∧ f.runner = e.runner ∧
      f.templates = e.templates ∧ (f.marked = true ↔ e.marked = true ∨ c = .mark name) := by
  cases h with
  | refused why =>
      have unmarked : c ≠ .mark name := by
        rintro rfl
        exact why
      exact ⟨e, found, rfl, rfl, rfl, by simp [unmarked]⟩
  | @add n b ids r added =>
      have apart : name ≠ n := by
        rintro rfl
        rw [(add_eq_ok added).1] at found
        cases found
      exact ⟨e, by rw [find?_add added, if_neg apart]; exact found, rfl, rfl, rfl, by simp⟩
  | @delete n r removed =>
      have apart : name ≠ n := by
        rintro rfl
        exact undeleted rfl
      exact ⟨e, by rw [find?_delete removed, if_neg apart]; exact found, rfl, rfl, rfl, by simp⟩
  | reset => exact absurd rfl unreset
  | @tryActivate n g r taken =>
      obtain ⟨_, _, _, _, rfl⟩ := tryActivate_eq_some taken
      refine ⟨{ e with active := e.active || name == n }, ?_, rfl, rfl, rfl, by simp⟩
      rw [find?_activate, found]
      rfl
  | mark n =>
      refine ⟨{ e with marked := e.marked || name == n }, ?_, rfl, rfl, rfl, ?_⟩
      · rw [find?_mark, found]
        rfl
      · simp only [Bool.or_eq_true, beq_iff_eq, Change.mark.injEq, eq_comm (a := n)]
  | @drop p g alive =>
      refine ⟨{ e with active := e.active && e.id != g.entry }, ?_, rfl, rfl, rfl, by simp⟩
      rw [find?_release, found]
      rfl

/-- An entry that is there after a change was there before, or was added by it. -/
theorem before (h : s.Changes place c t) {f : Entry δ}
    (found : t.registry.find? name = some f) :
    (∃ e, s.registry.find? name = some e ∧ c ≠ .delete name ∧ c ≠ .reset) ∨
      s.registry.find? name = none ∧ c = .add name f.runner f.templates := by
  cases h with
  | refused why =>
      refine .inl ⟨f, found, ?_, ?_⟩
      · rintro rfl
        rw [show s.registry.find? name = none from why] at found
        cases found
      · rintro rfl
        exact why
  | add added =>
      rw [find?_add added] at found
      split at found
      next same =>
        cases found
        subst same
        exact .inr ⟨(add_eq_ok added).1, rfl⟩
      · exact .inl ⟨f, found, by simp, by simp⟩
  | delete removed =>
      rw [find?_delete removed] at found
      split at found
      · cases found
      next apart => exact .inl ⟨f, found, by simpa using Ne.symm apart, by simp⟩
  | reset => cases found
  | tryActivate taken =>
      obtain ⟨_, _, _, _, rfl⟩ := tryActivate_eq_some taken
      rw [find?_activate] at found
      obtain ⟨e, there, -⟩ := Option.map_eq_some_iff.mp found
      exact .inl ⟨e, there, by simp, by simp⟩
  | mark n =>
      rw [find?_mark] at found
      obtain ⟨e, there, -⟩ := Option.map_eq_some_iff.mp found
      exact .inl ⟨e, there, by simp, by simp⟩
  | drop alive =>
      rw [find?_release] at found
      obtain ⟨e, there, -⟩ := Option.map_eq_some_iff.mp found
      exact .inl ⟨e, there, by simp, by simp⟩

/-- Numbers are never given back. -/
theorem nextId_le (h : s.Changes place c t) : s.registry.nextId ≤ t.registry.nextId := by
  cases h with
  | add added => exact Nat.le_trans (Nat.le_succ _) (Nat.le_of_eq (nextId_add added).symm)
  | delete removed => exact Nat.le_of_eq (nextId_delete removed).symm
  | tryActivate taken =>
      obtain ⟨_, _, _, _, rfl⟩ := tryActivate_eq_some taken
      exact Nat.le_refl _
  | refused why => exact Nat.le_refl _
  | reset => exact Nat.le_refl _
  | mark n => exact Nat.le_refl _
  | drop alive => exact Nat.le_refl _

/-- The guards that are alive after a change: the one that was had by it, and those from before
that were not dropped. -/
theorem live_iff (h : s.Changes place c t) (fresh : s.live place = none) {p : Nat} {g : Guard} :
    t.live p = some g ↔
      (∃ n r, c = .tryActivate n ∧ p = place ∧ s.registry.tryActivate n = .ok (some g, r)) ∨
        s.live p = some g ∧ c ≠ .drop p := by
  cases h with
  | refused why =>
      constructor
      · intro there
        refine .inr ⟨there, ?_⟩
        rintro rfl
        rw [show s.live p = none from why] at there
        cases there
      · rintro (⟨n, r, rfl, -, taken⟩ | ⟨there, -⟩)
        · obtain ⟨e, found, free, -⟩ := tryActivate_eq_some taken
          rw [why e found] at free
          cases free
        · exact there
  | @tryActivate n x r taken =>
      by_cases here : p = place
      · subst here
        simp [taken, fresh]
      · simp [here]
  | @drop q x alive =>
      by_cases here : p = q
      · simp [here]
      · simp [here, Ne.symm here]
  | add added => simp
  | delete removed => simp
  | reset => simp
  | mark n => simp

theorem exclusive (h : s.Changes place c t) (fresh : s.live place = none)
    (held : s.registry.Exclusive s.live) : t.registry.Exclusive t.live := by
  cases h with
  | refused why => exact held
  | add added => exact held.add added
  | delete removed => exact held.delete removed
  | reset => exact held.of_entries rfl fun n f found => by cases found
  | tryActivate taken =>
      have free : Function.update s.live place none = s.live :=
        Function.update_eq_self_iff.mpr fresh.symm
      exact Exclusive.activate (free.symm ▸ held) taken
  | mark n => exact held.mark
  | @drop p g alive =>
      have mine : Function.update s.live p (some g) = s.live :=
        Function.update_eq_self_iff.mpr alive.symm
      exact Exclusive.release (mine.symm ▸ held)

end Standing.Changes

theorem after_changes (c : Change δ) (earlier : List (Change δ)) :
    (after earlier).Changes earlier.length c (after (c :: earlier)) :=
  (after earlier).changes earlier.length c

/-! ### Guards along a history -/

variable {history : List (Change δ)} {name : String} {g : Guard} {place : Nat}

/-- A guard that was had under a name at a place of the history, and was not dropped since. -/
def Alive (history : List (Change δ)) (name : String) (place : Nat) (g : Guard) : Prop :=
  ∃ later before r, history = later ++ .tryActivate name :: before ∧ before.length = place ∧
    (after before).registry.tryActivate name = .ok (some g, r) ∧ .drop place ∉ later

theorem alive_cons {c : Change δ} :
    Alive (c :: history) name place g ↔
      (c = .tryActivate name ∧ place = history.length ∧
        ∃ r, (after history).registry.tryActivate name = .ok (some g, r)) ∨
      Alive history name place g ∧ c ≠ .drop place := by
  constructor
  · rintro ⟨later, before, r, split, at', taken, kept⟩
    cases later with
    | nil =>
        obtain ⟨rfl, rfl⟩ := List.cons.inj split
        exact .inl ⟨rfl, at'.symm, r, taken⟩
    | cons d later =>
        obtain ⟨rfl, rfl⟩ := List.cons.inj split
        obtain ⟨first, others⟩ := not_or.mp (mt List.mem_cons.mpr kept)
        exact .inr ⟨⟨later, before, r, rfl, at', taken, others⟩, fun e => first e.symm⟩
  · rintro (⟨rfl, rfl, r, taken⟩ | ⟨⟨later, before, r, rfl, at', taken, kept⟩, other⟩)
    · exact ⟨[], history, r, rfl, rfl, taken, by simp⟩
    · refine ⟨c :: later, before, r, rfl, at', taken, ?_⟩
      simp only [List.mem_cons, not_or]
      exact ⟨fun e => other e.symm, kept⟩

/-- The guards in hand are those that the history tells of. Places that are still to come have
none. -/
theorem live_after :
    (∀ p, history.length ≤ p → (after history).live p = none) ∧
      ∀ p g, (after history).live p = some g ↔ ∃ n, Alive history n p g := by
  induction history with
  | nil =>
      refine ⟨fun _ _ => rfl, fun p g => ?_⟩
      simp [after, Alive]
  | cons c earlier ih =>
      obtain ⟨fresh, tells⟩ := ih
      have here := fresh earlier.length (Nat.le_refl _)
      have grown : ∀ p g, (after (c :: earlier)).live p = some g ↔
          ∃ n, Alive (c :: earlier) n p g := by
        intro p g
        rw [(after_changes c earlier).live_iff here, tells]
        simp only [alive_cons, exists_or, exists_and_right]
        refine or_congr ⟨?_, ?_⟩ Iff.rfl
        · rintro ⟨n, r, rfl, at', taken⟩
          exact ⟨n, rfl, at', r, taken⟩
        · rintro ⟨n, rfl, at', r, taken⟩
          exact ⟨n, r, rfl, at', taken⟩
      refine ⟨fun p beyond => ?_, grown⟩
      -- a guard of the history was had at a place inside it
      refine Option.eq_none_iff_forall_ne_some.mpr fun x there => ?_
      obtain ⟨n, later, before, r, split, at', -, -⟩ := (grown p x).mp there
      have size := congrArg List.length split
      simp only [List.length_append, List.length_cons] at size beyond
      omega

theorem exclusive_after (history : List (Change δ)) :
    (after history).registry.Exclusive (after history).live := by
  induction history with
  | nil => exact (idle_of_no_entry fun _ => rfl).exclusive
  | cons c earlier ih =>
      exact (after_changes c earlier).exclusive (live_after.1 _ (Nat.le_refl _)) ih

theorem nextId_after (later history : List (Change δ)) :
    (after history).registry.nextId ≤ (after (later ++ history)).registry.nextId := by
  induction later with
  | nil => exact Nat.le_refl _
  | cons c later ih => exact Nat.le_trans ih (after_changes c _).nextId_le

/-! ### Entries along a history -/

/-- An add that was carried out: the registry took the name. -/
def Accepts (history : List (Change δ)) (name : String) (b : δ) (ids : List String) : Prop :=
  ∃ r, (after history).registry.add name b ids = .ok r

theorem accepts_iff {b : δ} {ids : List String} :
    Accepts history name b ids ↔ (after history).registry.find? name = none := by
  constructor
  · rintro ⟨r, added⟩
    exact (add_eq_ok added).1
  · intro missing
    cases added : (after history).registry.add name b ids with
    | error _ =>
        obtain ⟨⟨e, found⟩, -⟩ := add_eq_error added
        rw [missing] at found
        cases found
    | ok r => exact ⟨r, added⟩

/-- The last add of a name that was carried out, with what was done since and what was before. -/
structure LastAdd (history : List (Change δ)) (name : String) (b : δ) (ids : List String)
    (since earlier : List (Change δ)) : Prop where
  split : history = since ++ .add name b ids :: earlier
  accepted : Accepts earlier name b ids
  last : ∀ later b' ids' before, history = later ++ .add name b' ids' :: before →
    Accepts before name b' ids' → before.length ≤ earlier.length

/-- The last add of a name that was carried out is later than its last deletion and reset. -/
structure Registered (history : List (Change δ)) (name : String) (b : δ) (ids : List String)
    (since earlier : List (Change δ)) : Prop extends LastAdd history name b ids since earlier where
  undeleted : .delete name ∉ since
  unreset : .reset ∉ since

section Entries

variable {b : δ} {ids : List String} {since earlier : List (Change δ)}

/-- At any time after the add and before now, the same add was the last one. -/
theorem Registered.cut (h : Registered history name b ids since earlier)
    {later before : List (Change δ)} (split : history = later ++ before)
    (grown : earlier.length < before.length) :
    ∃ since', since = later ++ since' ∧ Registered before name b ids since' earlier := by
  have added : .add name b ids :: earlier <:+ history := ⟨since, h.split.symm⟩
  have tail : .add name b ids :: earlier <:+ before := by
    refine List.suffix_of_suffix_length_le added ⟨later, split.symm⟩ ?_
    simp only [List.length_cons]
    omega
  obtain ⟨since', rfl⟩ := tail
  have whole : since = later ++ since' := by
    have joined : since ++ .add name b ids :: earlier =
        (later ++ since') ++ .add name b ids :: earlier := by
      rw [← h.split, split, List.append_assoc]
    exact List.append_cancel_right joined
  refine ⟨since', whole, ⟨rfl, h.accepted, ?_⟩, ?_, ?_⟩
  · intro later' b' ids' before' split' accepted
    refine h.last (later ++ later') b' ids' before' ?_ accepted
    rw [split, split', List.append_assoc]
  · exact fun member => h.undeleted (whole ▸ List.mem_append_right _ member)
  · exact fun member => h.unreset (whole ▸ List.mem_append_right _ member)

/-- What is registered is found, with what it was added with and a number that was new at the time,
and it is marked if it was marked since. -/
theorem Registered.find? (h : Registered history name b ids since earlier) :
    ∃ e, (after history).registry.find? name = some e ∧ e.runner = b ∧ e.templates = ids ∧
      e.id = (after earlier).registry.nextId ∧ (e.marked = true ↔ .mark name ∈ since) := by
  induction since generalizing history with
  | nil =>
      obtain ⟨r, added⟩ := h.accepted
      rw [h.split]
      refine ⟨⟨(after earlier).registry.nextId, b, ids, false, false⟩, ?_, rfl, rfl, rfl, by simp⟩
      simp only [List.nil_append, after, Standing.change, added]
      rw [find?_add added, if_pos rfl]
  | cons c rest ih =>
      have split : history = [c] ++ (rest ++ .add name b ids :: earlier) := h.split
      obtain ⟨rest', whole, before⟩ := h.cut split (by simp; omega)
      obtain rfl : rest = rest' := by simpa using whole
      obtain ⟨e, found, runner, templates, number, marked⟩ := ih before
      have undeleted : c ≠ .delete name := fun e => h.undeleted (by simp [e])
      have unreset : c ≠ .reset := fun e => h.unreset (by simp [e])
      obtain ⟨f, there, number', runner', templates', marked'⟩ :=
        (after_changes c _).keeps found undeleted unreset
      rw [h.split]
      refine ⟨f, there, runner'.trans runner, templates'.trans templates, number'.trans number, ?_⟩
      rw [marked', marked, List.mem_cons, or_comm, eq_comm]

theorem registered_add (accepted : Accepts earlier name b ids) :
    Registered (.add name b ids :: earlier) name b ids [] earlier := by
  refine ⟨⟨rfl, accepted, ?_⟩, by simp, by simp⟩
  intro later b' ids' before split _
  have size := congrArg List.length split
  simp only [List.length_append, List.length_cons] at size
  omega

theorem Registered.cons (h : Registered history name b ids since earlier) {c : Change δ}
    (undeleted : c ≠ .delete name) (unreset : c ≠ .reset) :
    Registered (c :: history) name b ids (c :: since) earlier := by
  refine ⟨⟨by rw [h.split]; rfl, h.accepted, ?_⟩, ?_, ?_⟩
  · intro later b' ids' before split accepted
    cases later with
    | nil =>
        -- the name was taken, so an add of it was not carried out
        obtain ⟨rfl, rfl⟩ := List.cons.inj split
        obtain ⟨e, found, -⟩ := h.find?
        rw [accepts_iff.mp accepted] at found
        cases found
    | cons d later =>
        obtain ⟨-, split⟩ := List.cons.inj split
        exact h.last later b' ids' before split accepted
  · simp only [List.mem_cons, not_or]
    exact ⟨undeleted.symm, h.undeleted⟩
  · simp only [List.mem_cons, not_or]
    exact ⟨unreset.symm, h.unreset⟩

/-- While a name is not taken out, no other add of it is carried out. -/
theorem registered_of_kept (accepted : Accepts earlier name b ids)
    (undeleted : .delete name ∉ since) (unreset : .reset ∉ since) :
    Registered (since ++ .add name b ids :: earlier) name b ids since earlier := by
  induction since with
  | nil => exact registered_add accepted
  | cons c rest ih =>
      simp only [List.mem_cons, not_or] at undeleted unreset
      exact (ih undeleted.2 unreset.2).cons (Ne.symm undeleted.1) (Ne.symm unreset.1)

/-- What is found was registered. -/
theorem registered_of_find? {e : Entry δ} (found : (after history).registry.find? name = some e) :
    ∃ since earlier, Registered history name e.runner e.templates since earlier := by
  induction history generalizing e with
  | nil => cases found
  | cons c earlier ih =>
      rcases (after_changes c earlier).before found with
        ⟨f, there, undeleted, unreset⟩ | ⟨missing, rfl⟩
      · obtain ⟨since, first, known⟩ := ih there
        obtain ⟨e', found', -, runner, templates, -⟩ :=
          (after_changes c earlier).keeps there undeleted unreset
        obtain rfl : e' = e := Option.some.inj (found'.symm.trans found)
        rw [runner, templates]
        exact ⟨c :: since, first, known.cons undeleted unreset⟩
      · exact ⟨[], earlier, registered_add (accepts_iff.mpr missing)⟩

end Entries

end TaskSync.Registry
