import TaskSync.Proofs.Registry.History

/-!
# Who a template belongs to

Several tasks may list a template. After any history, the index has the last one that was added
with it since everything was last reset, as long as that task has not been deleted. It never goes
back to one that listed the template before: once the last one is deleted nobody has the template,
even if an earlier task that lists it is still there.
-/

namespace TaskSync.Registry

variable {δ : Type}

/-! ### One change -/

namespace Standing.Changes

variable {s t : Standing δ} {place : Nat} {c : Change δ} {name id : String}

theorem indexed (h : s.Changes place c t) (hs : s.registry.Indexed) : t.registry.Indexed := by
  cases h with
  | refused why => exact hs
  | add added => exact hs.add added
  | delete removed => exact hs.delete removed
  | reset =>
      intro id n owner
      cases owner
  | tryActivate taken =>
      obtain ⟨_, _, _, _, rfl⟩ := tryActivate_eq_some taken
      exact hs.update fun _ => rfl
  | mark n => exact hs.update fun _ => rfl
  | drop alive => exact hs.update fun _ => rfl

/-- A template is passed on by an add that lists it, and by nothing else. -/
theorem keeps_owner (h : s.Changes place c t) (owned : s.registry.templates.get? id = some name)
    (undeleted : c ≠ .delete name) (unreset : c ≠ .reset)
    (unlisted : ∀ n b ids, c = .add n b ids → s.registry.find? n = none → id ∉ ids) :
    t.registry.templates.get? id = some name := by
  cases h with
  | refused why => exact owned
  | @add n b ids r added =>
      obtain ⟨free, rfl⟩ := add_eq_ok added
      show (claim n ids s.registry.templates).get? id = some name
      rw [get?_claim, if_neg (unlisted n b ids rfl free)]
      exact owned
  | @delete n r removed =>
      obtain ⟨e, found, rfl⟩ := delete_eq_ok removed
      show (disclaim n e.templates s.registry.templates).get? id = some name
      have apart : name ≠ n := by
        rintro rfl
        exact undeleted rfl
      rw [get?_disclaim, owned, if_neg]
      rintro ⟨-, same⟩
      exact apart (Option.some.inj same)
  | reset => exact absurd rfl unreset
  | tryActivate taken =>
      obtain ⟨_, _, _, _, rfl⟩ := tryActivate_eq_some taken
      exact owned
  | mark n => exact owned
  | drop alive => exact owned

/-- Whoever has a template after a change had it before, or got it by the change. -/
theorem owner_before (h : s.Changes place c t) (hs : s.registry.Indexed)
    (owned : t.registry.templates.get? id = some name) :
    (∃ b ids, c = .add name b ids ∧ s.registry.find? name = none ∧ id ∈ ids) ∨
      s.registry.templates.get? id = some name ∧ c ≠ .delete name ∧ c ≠ .reset ∧
        ∀ n b ids, c = .add n b ids → s.registry.find? n = none → id ∉ ids := by
  cases h with
  | refused why =>
      obtain ⟨e, found, -⟩ := hs id name owned
      refine .inr ⟨owned, ?_, ?_, ?_⟩
      · rintro rfl
        rw [show s.registry.find? name = none from why] at found
        cases found
      · rintro rfl
        exact why
      · rintro n b ids rfl free
        obtain ⟨f, there⟩ := why
        rw [free] at there
        cases there
  | @add n b ids r added =>
      obtain ⟨free, rfl⟩ := add_eq_ok added
      replace owned : (claim n ids s.registry.templates).get? id = some name := owned
      rw [get?_claim] at owned
      split at owned
      next listed =>
        obtain rfl : n = name := Option.some.inj owned
        exact .inl ⟨b, ids, rfl, free, listed⟩
      next unlisted =>
        refine .inr ⟨owned, by simp, by simp, ?_⟩
        rintro _ _ _ same -
        obtain ⟨-, -, rfl⟩ := Change.add.inj same
        exact unlisted
  | @delete n r removed =>
      obtain ⟨e, found, rfl⟩ := delete_eq_ok removed
      replace owned : (disclaim n e.templates s.registry.templates).get? id = some name := owned
      rw [get?_disclaim] at owned
      split at owned
      · cases owned
      next kept =>
        refine .inr ⟨owned, ?_, by simp, by simp⟩
        rintro same
        obtain rfl := Change.delete.inj same
        obtain ⟨f, there, listed⟩ := hs id n owned
        obtain rfl : f = e := Option.some.inj (there.symm.trans found)
        exact kept ⟨listed, owned⟩
  | reset => cases owned
  | tryActivate taken =>
      obtain ⟨_, _, _, _, rfl⟩ := tryActivate_eq_some taken
      exact .inr ⟨owned, by simp, by simp, by simp⟩
  | mark n => exact .inr ⟨owned, by simp, by simp, by simp⟩
  | drop alive => exact .inr ⟨owned, by simp, by simp, by simp⟩

end Standing.Changes

/-! ### Along a history -/

variable {history since earlier : List (Change δ)} {id name : String} {b : δ} {ids : List String}

theorem indexed_after (history : List (Change δ)) : (after history).registry.Indexed := by
  induction history with
  | nil => exact indexed_empty
  | cons c earlier ih => exact (after_changes c earlier).indexed ih

/-- The last add that was carried out with a template since everything was last reset. -/
structure LastListing (history : List (Change δ)) (id name : String) (b : δ) (ids : List String)
    (since earlier : List (Change δ)) : Prop where
  split : history = since ++ .add name b ids :: earlier
  accepted : Accepts earlier name b ids
  listed : id ∈ ids
  unreset : .reset ∉ since
  last : ∀ later n b' ids' before, history = later ++ .add n b' ids' :: before →
    Accepts before n b' ids' → id ∈ ids' → before.length ≤ earlier.length

theorem lastListing_add (accepted : Accepts earlier name b ids) (listed : id ∈ ids) :
    LastListing (.add name b ids :: earlier) id name b ids [] earlier := by
  refine ⟨rfl, accepted, listed, by simp, ?_⟩
  intro later n b' ids' before split _ _
  have size := congrArg List.length split
  simp only [List.length_append, List.length_cons] at size
  omega

namespace LastListing

theorem cons (h : LastListing history id name b ids since earlier) {c : Change δ}
    (unreset : c ≠ .reset)
    (unlisted : ∀ n b ids, c = .add n b ids → Accepts history n b ids → id ∉ ids) :
    LastListing (c :: history) id name b ids (c :: since) earlier := by
  refine ⟨by rw [h.split]; rfl, h.accepted, h.listed, ?_, ?_⟩
  · simp only [List.mem_cons, not_or]
    exact ⟨unreset.symm, h.unreset⟩
  · intro later n b' ids' before split accepted listed
    cases later with
    | nil =>
        obtain ⟨rfl, rfl⟩ := List.cons.inj split
        exact absurd listed (unlisted n b' ids' rfl accepted)
    | cons d later =>
        obtain ⟨-, split⟩ := List.cons.inj split
        exact h.last later n b' ids' before split accepted listed

/-- Without its latest change, the history has the same last listing, unless that change was it. -/
theorem of_cons {c : Change δ} {rest : List (Change δ)}
    (h : LastListing history id name b ids (c :: rest) earlier) :
    LastListing (rest ++ .add name b ids :: earlier) id name b ids rest earlier ∧ c ≠ .reset ∧
      ∀ n b' ids', c = .add n b' ids' →
        Accepts (rest ++ .add name b ids :: earlier) n b' ids' → id ∉ ids' := by
  have unreset := mt List.mem_cons.mpr h.unreset
  simp only [not_or] at unreset
  refine ⟨⟨rfl, h.accepted, h.listed, unreset.2, ?_⟩, Ne.symm unreset.1, ?_⟩
  · intro later n b' ids' before split accepted listed
    refine h.last (c :: later) n b' ids' before ?_ accepted listed
    rw [h.split, List.cons_append, split, List.cons_append]
  · rintro n b' ids' rfl accepted listed
    have size := h.last [] n b' ids' (rest ++ .add name b ids :: earlier) h.split accepted listed
    simp only [List.length_append, List.length_cons] at size
    omega

/-- There is only one. -/
theorem unique (h : LastListing history id name b ids since earlier) {name' : String} {b' : δ}
    {ids' : List String} {since' earlier' : List (Change δ)}
    (h' : LastListing history id name' b' ids' since' earlier') :
    name = name' ∧ since = since' := by
  have first := h.last since' name' b' ids' earlier' h'.split h'.accepted h'.listed
  have second := h'.last since name b ids earlier h.split h.accepted h.listed
  have both : since ++ .add name b ids :: earlier = since' ++ .add name' b' ids' :: earlier' :=
    h.split.symm.trans h'.split
  obtain ⟨front, back⟩ := List.append_inj' both (by simp only [List.length_cons]; omega)
  obtain ⟨same, -⟩ := Change.add.inj (List.cons.inj back).1
  exact ⟨same, front⟩

/-- Until it is deleted, the task that listed a template last has it. -/
theorem owner (h : LastListing history id name b ids since earlier)
    (undeleted : .delete name ∉ since) :
    (after history).registry.templates.get? id = some name := by
  induction since generalizing history with
  | nil =>
      obtain ⟨r, added⟩ := h.accepted
      rw [h.split]
      simp only [List.nil_append, after, Standing.change, added]
      obtain ⟨-, rfl⟩ := add_eq_ok added
      show (claim name ids _).get? id = some name
      rw [get?_claim, if_pos h.listed]
  | cons c rest ih =>
      obtain ⟨before, unreset, unlisted⟩ := h.of_cons
      simp only [List.mem_cons, not_or] at undeleted
      rw [h.split]
      refine (after_changes c _).keeps_owner (ih before undeleted.2) (Ne.symm undeleted.1)
        unreset ?_
      exact fun n b' ids' same free => unlisted n b' ids' same (accepts_iff.mpr free)

theorem registered (h : LastListing history id name b ids since earlier)
    (undeleted : .delete name ∉ since) : Registered history name b ids since earlier :=
  h.split ▸ registered_of_kept h.accepted undeleted h.unreset

end LastListing

/-- Whoever has a template listed it last, and has not been deleted. -/
theorem lastListing_of_owner (owned : (after history).registry.templates.get? id = some name) :
    ∃ b ids since earlier,
      LastListing history id name b ids since earlier ∧ .delete name ∉ since := by
  induction history with
  | nil => cases owned
  | cons c earlier ih =>
      rcases (after_changes c earlier).owner_before (indexed_after earlier) owned with
        ⟨b, ids, rfl, free, listed⟩ | ⟨before, undeleted, unreset, unlisted⟩
      · exact ⟨b, ids, [], earlier, lastListing_add (accepts_iff.mpr free) listed, by simp⟩
      · obtain ⟨b, ids, since, first, h, kept⟩ := ih before
        refine ⟨b, ids, c :: since, first, h.cons unreset ?_, ?_⟩
        · exact fun n b ids same accepted => unlisted n b ids same (accepts_iff.mp accepted)
        · simp only [List.mem_cons, not_or]
          exact ⟨undeleted.symm, kept⟩

/-- Once a template is listed, there is one who listed it last. -/
theorem exists_lastListing (accepted : Accepts earlier name b ids) (listed : id ∈ ids)
    (unreset : .reset ∉ since) :
    ∃ n b' ids' since' earlier',
      LastListing (since ++ .add name b ids :: earlier) id n b' ids' since' earlier' := by
  induction since with
  | nil => exact ⟨name, b, ids, [], earlier, lastListing_add accepted listed⟩
  | cons c rest ih =>
      simp only [List.mem_cons, not_or] at unreset
      obtain ⟨n, b', ids', since', earlier', h⟩ := ih unreset.2
      by_cases passed : ∃ m x l, c = .add m x l ∧
          Accepts (rest ++ .add name b ids :: earlier) m x l ∧ id ∈ l
      · obtain ⟨m, x, l, rfl, taken, there⟩ := passed
        exact ⟨m, x, l, [], _, lastListing_add taken there⟩
      · refine ⟨n, b', ids', c :: since', earlier', h.cons (Ne.symm unreset.1) ?_⟩
        intro m x l same taken there
        exact passed ⟨m, x, l, same, taken, there⟩

/-- With no task there is no template either. -/
theorem templates_eq_nil {r : Registry δ} (hr : r.Indexed) (none : ∀ n, r.find? n = none) :
    r.templates = [] := by
  cases held : r.templates with
  | nil => rfl
  | cons entry rest =>
      obtain ⟨e, found, -⟩ := hr entry.1 entry.2 (by rw [held, SortedMap.get?_cons, if_pos rfl])
      rw [none] at found
      cases found

/-- Where a registry routes a template after a history. -/
structure Routes (history : List (Change δ)) (id : String) : Prop where
  /-- To what the last add since the last reset brought that lists it, while it is registered. -/
  latest : ∀ b, (after history).registry.getByTemplate? id = some b ↔
    ∃ name ids since earlier, LastListing history id name b ids since earlier ∧
      Registered history name b ids since earlier
  /-- Never to what is not registered or does not list it. -/
  listed : ∀ b, (after history).registry.getByTemplate? id = some b →
    ∃ name e, (after history).registry.find? name = some e ∧ e.runner = b ∧ id ∈ e.templates
  /-- Without tasks, as after a reset, the index is empty. -/
  emptied : (∀ name, (after history).registry.get? name = none) →
    (after history).registry.templates = []
  reset : (after (.reset :: history)).registry.templates = []

theorem routes_latest (history : List (Change δ)) (id : String) : Routes history id where
  latest b := by
    constructor
    · intro routed
      obtain ⟨name, owned, there⟩ := Option.bind_eq_some_iff.mp routed
      obtain ⟨b', ids, since, earlier, h, undeleted⟩ := lastListing_of_owner owned
      have registered := h.registered undeleted
      obtain ⟨e, found, runner, -⟩ := registered.find?
      obtain ⟨e', found', runner'⟩ := get?_eq_some.mp there
      obtain rfl : e' = e := Option.some.inj (found'.symm.trans found)
      obtain rfl : b' = b := runner.symm.trans runner'
      exact ⟨name, ids, since, earlier, h, registered⟩
    · rintro ⟨name, ids, since, earlier, h, registered⟩
      obtain ⟨e, found, runner, -⟩ := registered.find?
      rw [getByTemplate?, h.owner registered.undeleted]
      exact get?_eq_some.mpr ⟨e, found, runner⟩
  listed b routed := by
    obtain ⟨name, owned, there⟩ := Option.bind_eq_some_iff.mp routed
    obtain ⟨e, found, runner⟩ := get?_eq_some.mp there
    obtain ⟨e', found', listed⟩ := indexed_after history id name owned
    obtain rfl : e' = e := Option.some.inj (found'.symm.trans found)
    exact ⟨name, e', found, runner, listed⟩
  emptied none := templates_eq_nil (indexed_after history) fun n => get?_eq_none.mp (none n)
  reset := rfl

/-- While a task lists a template, the template leads to a task that lists it, unless the last one
that was added with it has been deleted. Then it leads nowhere. -/
theorem owner_reached {history : List (Change δ)} {id : String}
    (owner : ∃ name e, (after history).registry.find? name = some e ∧ id ∈ e.templates) :
    ∃ name b ids since earlier, LastListing history id name b ids since earlier ∧
      (.delete name ∉ since →
        (after history).registry.getByTemplate? id = some b ∧
          ∃ e, (after history).registry.find? name = some e ∧ e.runner = b ∧ id ∈ e.templates) ∧
      (.delete name ∈ since → (after history).registry.getByTemplate? id = none) := by
  obtain ⟨m, f, there, has⟩ := owner
  obtain ⟨since, earlier, registered⟩ := registered_of_find? there
  obtain ⟨name, b, ids, since', earlier', h⟩ :=
    exists_lastListing registered.accepted has registered.unreset
  rw [← registered.split] at h
  refine ⟨name, b, ids, since', earlier', h, ?_, ?_⟩
  · intro undeleted
    obtain ⟨e, found, runner, templates, -⟩ := (h.registered undeleted).find?
    refine ⟨?_, e, found, runner, templates ▸ h.listed⟩
    rw [getByTemplate?, h.owner undeleted]
    exact get?_eq_some.mpr ⟨e, found, runner⟩
  · intro deleted
    rw [getByTemplate?]
    cases owned : (after history).registry.templates.get? id with
    | none => rfl
    | some n =>
        obtain ⟨b', ids', since'', earlier'', h', undeleted⟩ := lastListing_of_owner owned
        obtain ⟨rfl, rfl⟩ := h.unique h'
        exact absurd deleted undeleted

/-- Two tasks that list the same template. -/
def sharedTemplate : List (Change String) := [.add "b" "B" ["t"], .add "a" "A" ["t"]]

theorem owner_reached_sample :
    ∃ name b ids since earlier, LastListing sharedTemplate "t" name b ids since earlier ∧
      (.delete name ∉ since →
        (after sharedTemplate).registry.getByTemplate? "t" = some b ∧
          ∃ e, (after sharedTemplate).registry.find? name = some e ∧ e.runner = b ∧
            "t" ∈ e.templates) ∧
      (.delete name ∈ since → (after sharedTemplate).registry.getByTemplate? "t" = none) :=
  owner_reached ⟨"b", ⟨1, "B", ["t"], false, false⟩, by rfl, by simp⟩

/-- The later of two owners is deleted. The earlier one is still there, and its template leads
nowhere. -/
theorem shared_template_lost :
    (∃ e, (after (.delete "b" :: sharedTemplate)).registry.find? "a" = some e ∧
      "t" ∈ e.templates) ∧
      (after (.delete "b" :: sharedTemplate)).registry.getByTemplate? "t" = none :=
  ⟨⟨⟨0, "A", ["t"], false, false⟩, by rfl, by simp⟩, by rfl⟩

end TaskSync.Registry
