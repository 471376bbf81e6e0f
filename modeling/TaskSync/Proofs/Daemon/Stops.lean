import Mathlib.Data.List.Dedup
import TaskSync.Proofs.Daemon.Deeds

/-!
# Stops and who holds them

Every stop that is registered gets the next number and a token of its own, under a name that is
free. `Admits` says that stops are registered and that nothing else becomes of them. `Rota` ties
the stops that were ever registered, those that are registered now and those that timers hold: a
timer whose stop is not canceled finds its own under its name. It lasts when timers are cut off,
when a timer gives its stop back, and when stops are registered.
-/

namespace TaskSync

/-- Stops are registered in this order, and nothing else becomes of the stops. -/
structure Daemon.Admits (xs : List (String × Stop)) (d d' : Daemon) : Prop where
  nextStop : d'.nextStop = d.nextStop + .ofNat xs.length
  numbers : ∀ k x, xs[k]? = some x → x.2.number = d.nextStop + .ofNat k
  tokens : d.tokens.states.length ≤ d'.tokens.states.length
  canceled : ∀ t, d.isCanceled t = true → d'.isCanceled t = true
  places : ∀ x ∈ xs, d.tokens.states.length ≤ x.2.token.place ∧
    x.2.token.place < d'.tokens.states.length
  once : (xs.map Prod.fst).Nodup
  free : ∀ x ∈ xs, d.stops.get? x.1 = none
  stops : ∀ n s, d'.stops.get? n = some s ↔ d.stops.get? n = some s ∨ (n, s) ∈ xs

namespace Daemon.Admits

variable {xs ys : List (String × Stop)} {d d₁ d₂ : Daemon}

theorem of_same (stops : d₁.stops = d.stops) (nextStop : d₁.nextStop = d.nextStop)
    (tokens : d₁.tokens = d.tokens) : Admits [] d d₁ where
  nextStop := by simp [nextStop]
  numbers := nofun
  tokens := Nat.le_of_eq (by rw [tokens])
  canceled t before := by
    unfold isCanceled
    rw [tokens]
    exact before
  places := nofun
  once := .nil
  free := nofun
  stops n s := by simp [stops]

theorem refl (d : Daemon) : Admits [] d d := .of_same rfl rfl rfl

theorem trans (h : Admits xs d d₁) (h' : Admits ys d₁ d₂) : Admits (xs ++ ys) d d₂ where
  nextStop := by
    rw [h'.nextStop, h.nextStop, List.length_append, UInt64.ofNat_add, UInt64.add_assoc]
  numbers k x found := by
    rw [List.getElem?_append] at found
    split at found
    · exact h.numbers k x found
    next beyond =>
      rw [h'.numbers _ x found, h.nextStop, UInt64.add_assoc, ← UInt64.ofNat_add]
      congr 2
      omega
  tokens := Nat.le_trans h.tokens h'.tokens
  canceled t before := h'.canceled t (h.canceled t before)
  places x member := by
    rcases List.mem_append.mp member with old | new
    · exact ⟨(h.places x old).1, Nat.lt_of_lt_of_le (h.places x old).2 h'.tokens⟩
    · exact ⟨Nat.le_trans h.tokens (h'.places x new).1, (h'.places x new).2⟩
  once := by
    rw [List.map_append]
    refine List.nodup_append.mpr ⟨h.once, h'.once, ?_⟩
    rintro _ old _ new rfl
    obtain ⟨x, member, name⟩ := List.mem_map.mp old
    obtain ⟨y, member', same⟩ := List.mem_map.mp new
    have there : d₁.stops.get? x.1 = some x.2 := (h.stops x.1 x.2).mpr (.inr member)
    have free := h'.free y member'
    rw [same, ← name, there] at free
    cases free
  free x member := by
    rcases List.mem_append.mp member with old | new
    · exact h.free x old
    · cases found : d.stops.get? x.1 with
      | none => rfl
      | some s =>
          have free := h'.free x new
          rw [(h.stops x.1 s).mpr (.inl found)] at free
          cases free
  stops n s := by rw [h'.stops, h.stops, List.mem_append, or_assoc]

/-- A name that is free gets a stop. -/
theorem registerStop (d : Daemon) (task : String) :
    Admits ((d.registerStop task).1.toList.map (task, ·)) d (d.registerStop task).2 := by
  unfold Daemon.registerStop
  split
  · exact .refl d
  next free =>
    have free : d.stops.get? task = none := by simpa using free
    refine ⟨rfl, ?_, ?_, ?_, ?_, ?_, ?_, ?_⟩
    · intro k x found
      obtain ⟨first, rfl⟩ : k = 0 ∧ x = (task, ⟨d.nextStop, (d.tokens.fresh).1⟩) := by
        cases k with
        | zero => exact ⟨rfl, (Option.some.inj found).symm⟩
        | succ k => cases found
      rw [first]
      simp
    · exact Nat.le_of_lt (Nat.lt_of_lt_of_eq (Nat.lt_succ_self _)
        (Tokens.length_push d.tokens _).symm)
    · exact fun t before => Tokens.isCanceled_push before _
    · intro x member
      cases List.mem_singleton.mp member
      refine ⟨Nat.le_refl _, ?_⟩
      exact Nat.lt_of_lt_of_eq (Nat.lt_succ_self _) (Tokens.length_push d.tokens _).symm
    · exact List.nodup_singleton task
    · intro x member
      cases List.mem_singleton.mp member
      exact free
    · intro n s
      show SortedMap.get? n (SortedMap.put task _ d.stops) = some s ↔ _
      rw [SortedMap.get?_put]
      by_cases same : n = task
      · subst same
        rw [if_pos rfl, free]
        simp [eq_comm]
      · rw [if_neg same]
        simp [same]

end Daemon.Admits

/-- The entries that a later daemon has and this one has not, each of them once. -/
def Daemon.newStops (d d' : Daemon) : List (String × Stop) :=
  (d'.stops.filter fun x => decide (d'.stops.get? x.1 = some x.2 ∧
    d.stops.get? x.1 ≠ some x.2)).dedup

theorem Daemon.nodup_newStops (d d' : Daemon) : (d.newStops d').Nodup := List.nodup_dedup _

theorem Daemon.mem_newStops {d d' : Daemon} {x : String × Stop} :
    x ∈ d.newStops d' ↔ d'.stops.get? x.1 = some x.2 ∧ d.stops.get? x.1 ≠ some x.2 := by
  unfold newStops
  rw [List.mem_dedup, List.mem_filter, decide_eq_true_iff]
  constructor
  · exact And.right
  · intro new
    obtain ⟨before, after, entries, -⟩ := List.lookup_eq_some_iff.mp new.1
    refine ⟨?_, new⟩
    rw [entries]
    exact List.mem_append_right before List.mem_cons_self

/-- What is left when a stop is given back. -/
theorem Daemon.get?_releaseStop {d : Daemon} {task n : String} {stop s : Stop} :
    (d.releaseStop task stop).stops.get? n = some s ↔
      d.stops.get? n = some s ∧ ¬ (n = task ∧ s.number = stop.number) := by
  unfold releaseStop
  split
  next own =>
    obtain ⟨mine, there, number⟩ := (Option.any_eq_true _ _).mp own
    show SortedMap.get? n (SortedMap.erase task d.stops) = some s ↔ _
    rw [SortedMap.get?_erase]
    by_cases same : n = task
    · subst same
      rw [if_pos rfl, there]
      constructor
      · nofun
      · rintro ⟨found, apart⟩
        cases found
        exact absurd ⟨rfl, by simpa using number⟩ apart
    · rw [if_neg same]
      simp [same]
  next other =>
    constructor
    · intro found
      refine ⟨found, ?_⟩
      rintro ⟨rfl, number⟩
      refine other ?_
      rw [found]
      simp [number]
    · exact And.left

/-- The stops that were registered from the number `first` on, the ones that timers hold, and the
ones that are registered now. -/
structure Rota (first : UInt64) (xs held : List (String × Stop)) (d : Daemon) : Prop where
  nextStop : d.nextStop = first + .ofNat xs.length
  numbers : ∃ ys : List (String × Stop), ys.Perm xs ∧
    ∀ k x, ys[k]? = some x → x.2.number = first + .ofNat k
  places : ∀ x ∈ xs, x.2.token.place < d.tokens.states.length
  entered : ∀ n s, d.stops.get? n = some s → (n, s) ∈ xs
  known : ∀ x ∈ held, x ∈ xs
  once : held.Nodup
  owned : ∀ x ∈ held, d.isCanceled x.2.token = false → d.stops.get? x.1 = some x.2

namespace Rota

variable {first : UInt64} {xs ys zs held : List (String × Stop)} {x y : String × Stop}
variable {d d₁ d' : Daemon}

/-- Before the first registration. -/
theorem empty (none : d.stops = []) : Rota d.nextStop [] [] d where
  nextStop := by simp
  numbers := ⟨[], .refl _, nofun⟩
  places := nofun
  entered n s found := by
    rw [none] at found
    cases found
  known := nofun
  once := .nil
  owned := nofun

/-- No number is given twice, unless all of them were given. -/
theorem distinct (h : Rota first xs held d) (few : xs.length ≤ 2 ^ 64) :
    (xs.map (·.2.number)).Nodup := by
  obtain ⟨ys, same, numbers⟩ := h.numbers
  have length := same.length_eq
  refine (same.map _).nodup_iff.mp (List.nodup_iff_getElem?_ne_getElem?.mpr ?_)
  intro i j less inside equal
  rw [List.length_map] at inside
  have earlier : i < ys.length := Nat.lt_trans less inside
  rw [List.getElem?_map, List.getElem?_map, List.getElem?_eq_getElem inside,
    List.getElem?_eq_getElem earlier] at equal
  have clash : ys[i].2.number = ys[j].2.number := Option.some.inj equal
  rw [numbers i _ (List.getElem?_eq_getElem earlier),
    numbers j _ (List.getElem?_eq_getElem inside)] at clash
  have places := congrArg UInt64.toNat ((UInt64.add_right_inj first).mp clash)
  rw [UInt64.toNat_ofNat', UInt64.toNat_ofNat'] at places
  omega

/-- The number tells the stop. -/
theorem eq_of_number (h : Rota first xs held d) (few : xs.length ≤ 2 ^ 64) (hx : x ∈ xs)
    (hy : y ∈ xs) (same : x.2.number = y.2.number) : x = y :=
  List.inj_on_of_nodup_map (h.distinct few) hx hy same

/-- It does not matter in which order the holders come. -/
theorem perm (h : Rota first xs held d) {held' : List (String × Stop)} (same : held.Perm held') :
    Rota first xs held' d where
  nextStop := h.nextStop
  numbers := h.numbers
  places := h.places
  entered := h.entered
  known x member := h.known x (same.mem_iff.mpr member)
  once := same.nodup_iff.mp h.once
  owned x member := h.owned x (same.mem_iff.mpr member)

/-- Timers are cut off. -/
theorem cuts (h : Rota first xs held d) (cuts : d.Cuts d₁) : Rota first xs held d₁ where
  nextStop := cuts.nextStop.trans h.nextStop
  numbers := h.numbers
  places x member := Nat.lt_of_lt_of_le (h.places x member) cuts.tokens
  entered n s found := h.entered n s (cuts.stops n s found)
  known := h.known
  once := h.once
  owned x member live := by
    have before : d.isCanceled x.2.token = false := by
      cases canceled : d.isCanceled x.2.token with
      | false => rfl
      | true => exact (cuts.canceled _ canceled).symm.trans live
    rcases cuts.gone x.1 x.2 (h.owned x member before) (h.places x (h.known x member)) with
      kept | canceled
    · exact kept
    · rw [canceled] at live
      cases live

/-- A timer gives its stop back. -/
theorem release (h : Rota first xs (x :: held) d) (few : xs.length ≤ 2 ^ 64) :
    Rota first xs held (d.releaseStop x.1 x.2) := by
  have mine : x ∈ xs := h.known x List.mem_cons_self
  obtain ⟨stops, frame⟩ := d.releaseStop_frame x.1 x.2
  have tokens : (d.releaseStop x.1 x.2).tokens = d.tokens := by rw [frame]
  refine ⟨?_, h.numbers, ?_, ?_, ?_, (List.nodup_cons.mp h.once).2, ?_⟩
  · rw [frame]
    exact h.nextStop
  · intro y member
    rw [tokens]
    exact h.places y member
  · intro n s found
    exact h.entered n s (Daemon.get?_releaseStop.mp found).1
  · exact fun y member => h.known y (List.mem_cons_of_mem x member)
  · intro y member live
    have live : d.isCanceled y.2.token = false := by
      unfold Daemon.isCanceled at live ⊢
      rw [← tokens]
      exact live
    have there := h.owned y (List.mem_cons_of_mem x member) live
    refine Daemon.get?_releaseStop.mpr ⟨there, ?_⟩
    rintro ⟨-, number⟩
    have same := h.eq_of_number few (h.known y (List.mem_cons_of_mem x member)) mine number
    subst same
    exact (List.nodup_cons.mp h.once).1 member

/-- What a release takes away is the stop that is given back. -/
theorem released (h : Rota first xs held d) (few : xs.length ≤ 2 ^ 64) (mine : x ∈ held)
    {n : String} {s : Stop} (there : d.stops.get? n = some s) :
    (d.releaseStop x.1 x.2).stops.get? n = some s ∨ (n, s) = x := by
  by_cases own : n = x.1 ∧ s.number = x.2.number
  · exact .inr (h.eq_of_number few (h.entered n s there) (h.known x mine) own.2)
  · exact .inl (Daemon.get?_releaseStop.mpr ⟨there, own⟩)

/-- The new entries are those of the stops that were registered. -/
theorem newStops_perm (h : Rota first xs held d)
    (fewer : ∀ n s, d₁.stops.get? n = some s → d.stops.get? n = some s)
    (tokens : d.tokens.states.length ≤ d₁.tokens.states.length) (admits : d₁.Admits zs d') :
    (d.newStops d').Perm zs := by
  refine (List.perm_ext_iff_of_nodup (d.nodup_newStops d') admits.once.of_map).mpr fun x => ?_
  rw [Daemon.mem_newStops, admits.stops]
  constructor
  · rintro ⟨old | registered, none⟩
    · exact absurd (fewer x.1 x.2 old) none
    · exact registered
  · intro registered
    refine ⟨.inr registered, fun old => ?_⟩
    have before := h.places x (h.entered x.1 x.2 old)
    have after := (admits.places x registered).1
    omega

/-- Stops are registered, and some of them go to timers. -/
theorem admits (h : Rota first xs held d) (admits : d.Admits zs d') (same : ys.Perm zs)
    {new : List (String × Stop)} (once : new.Nodup) (among : ∀ x ∈ new, x ∈ zs) :
    Rota first (xs ++ ys) (held ++ new) d' where
  nextStop := by
    rw [admits.nextStop, h.nextStop, List.length_append, same.length_eq, UInt64.ofNat_add,
      UInt64.add_assoc]
  numbers := by
    obtain ⟨ws, perm, numbers⟩ := h.numbers
    refine ⟨ws ++ zs, perm.append same.symm, ?_⟩
    intro k x found
    rw [List.getElem?_append] at found
    split at found
    · exact numbers k x found
    next beyond =>
      rw [admits.numbers _ x found, h.nextStop, UInt64.add_assoc, ← UInt64.ofNat_add,
        ← perm.length_eq]
      congr 2
      omega
  places x member := by
    rcases List.mem_append.mp member with old | new
    · exact Nat.lt_of_lt_of_le (h.places x old) admits.tokens
    · exact (admits.places x (same.mem_iff.mp new)).2
  entered n s found := by
    rcases (admits.stops n s).mp found with old | new
    · exact List.mem_append_left _ (h.entered n s old)
    · exact List.mem_append_right _ (same.mem_iff.mpr new)
  known x member := by
    rcases List.mem_append.mp member with old | new
    · exact List.mem_append_left _ (h.known x old)
    · exact List.mem_append_right _ (same.mem_iff.mpr (among x new))
  once := by
    refine List.nodup_append.mpr ⟨h.once, once, ?_⟩
    rintro x old _ new rfl
    -- a new stop has a token that was not there before
    have before := h.places x (h.known x old)
    have after := (admits.places x (among x new)).1
    omega
  owned x member live := by
    rcases List.mem_append.mp member with old | new
    · have before : d.isCanceled x.2.token = false := by
        cases canceled : d.isCanceled x.2.token with
        | false => rfl
        | true => exact (admits.canceled _ canceled).symm.trans live
      exact (admits.stops x.1 x.2).mpr (.inl (h.owned x old before))
    · exact (admits.stops x.1 x.2).mpr (.inr (among x new))

end Rota

end TaskSync
