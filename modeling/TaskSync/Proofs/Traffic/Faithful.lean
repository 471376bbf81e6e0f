import TaskSync.Proofs.Operation.Names
import TaskSync.Proofs.Traffic.Sound

/-!
# Work under the guard

As long as tasks leave the registry by deletions only, whoever calls a backend or stores something
on its behalf holds the guard of the entry that is registered under the name of the backend's
task. A deletion takes an entry out only with its guard in hand, so it never takes an entry from
under a call.
-/

namespace TaskSync

/-- A deletion never works on a backend. -/
theorem Operation.May.ne_working {o : Operation} {p : Deletion.Phase} {d : Daemon}
    {out : Operation.Outcome} (may : o.May d out) (deletion : o.deletion? = some p) (g : Guard)
    (b : Place) : out.1.stake Operation.stake o ≠ .working g b := by
  have idle (p : Deletion.Phase) : p.stake ≠ .working g b := by cases p <;> nofun
  obtain ⟨token, -, deletes⟩ := may.deletes deletion
  cases turned : (Deletion.turn token p d).1 with
  | next p' =>
      obtain ⟨o', next, deletion'⟩ := deletes.next p' turned
      rw [next]
      show o'.stake ≠ .working g b
      rw [Operation.stake_of_deletion deletion']
      exact idle p'
  | wait on =>
      rw [deletes.wait on turned]
      show o.stake ≠ .working g b
      rw [Operation.stake_of_deletion deletion]
      exact idle p
  | done r =>
      obtain ⟨r', done⟩ := deletes.done r turned
      rw [done]
      nofun

theorem Stake.known?_of_backend? {s : Stake} {b : Place} (h : s.backend? = some b) :
    s.known? = some b := by
  cases s <;> first | exact h | cases h

/-- Who deletes nothing takes out nothing. -/
theorem Operation.entry_after {o : Operation} {d d' : Daemon} (none : o.deletion? = none)
    (loyal : d.Avoids .unregister) {g g' : Option Guard}
    (path : Registry.Path (¬ d.Avoids .unregister) o.Closes g d.registry g' d'.registry)
    {name : String} {e : Entry Place} (found : d.registry.find? name = some e) :
    ∃ f, d'.registry.find? name = some f ∧ f.id = e.id :=
  path.entry_after (fun asked => asked loyal) (Operation.not_closes none name) found

/-- A turn of another call leaves an entry in hand where it is. -/
theorem Progress.entry_after {closing : String → Prop} {stake : Nat → Stake} {i j : Nat}
    {new : Stake} {d d' : Daemon} (sound : Sound d stake) (loyal : d.Avoids .unregister)
    (p : Progress closing (stake i) new d d') (apart : j ≠ i) {name : String} {e : Entry Place}
    (found : d.registry.find? name = some e) (hj : (stake j).guard? = some ⟨e.id⟩) :
    ∃ f, d'.registry.find? name = some f ∧ f.id = e.id := by
  have exclusive : d.registry.Exclusive
      (Function.update (fun k => (stake k).guard?) i (stake i).guard?) := by
    rw [Function.update_eq_self]
    exact sound.exclusive
  cases p with
  | move m => exact exclusive.entry_after m.path (fun asked => asked loyal) apart found hj
  | @enlist b ids r before after steady path added =>
      rw [before] at exclusive
      obtain ⟨f, there, same⟩ :=
        exclusive.entry_after path (fun asked => asked loyal) apart found hj
      have away : name ≠ (d.taskOf b).name := by
        rintro rfl
        rw [(Registry.add_eq_ok added).1] at there
        cases there
      exact ⟨f, by rw [Registry.find?_add added, if_neg away]; exact there, same⟩

namespace Traffic

/-- Who works on a task has its entry in hand, and stores under its name only. -/
structure Faithful (t : Traffic) : Prop where
  sound : t.Sound
  loyal : t.daemon.Avoids .unregister
  rightful : ∀ i g b, t.stake i = .working g b →
    ∃ e, t.daemon.registry.find? (t.daemon.taskOf b).name = some e ∧ g = ⟨e.id⟩
  apt : ∀ i o, t.going? i = some o → ∀ name ∈ o.names, ∀ b, o.stake.backend? = some b →
    name = (t.daemon.taskOf b).name

theorem opening_faithful {d : Daemon} (rest : d.AtRest) (loyal : d.Avoids .unregister) :
    (opening d).Faithful where
  sound := opening_sound rest
  loyal := ⟨loyal.made, loyal.named, loyal.otherwise⟩
  rightful i g b h := by
    have nothing : (opening d).stake i = .nothing := rfl
    rw [nothing] at h
    cases h
  apt i o h := by
    have none : (opening d).going? i = none := rfl
    rw [none] at h
    cases h

theorem ofWork_names (crew : Place) (w : Work) :
    (Operation.errand crew (.ofWork w)).names = [] := by
  cases w <;> rfl

theorem request_names (q : Request) : q.operation.names = [] := by
  cases q <;> rfl

/-- What takes no part in any call keeps calls faithful. -/
theorem Faithful.quiet {t t' : Traffic} (h : t.Faithful) (quiet : t.daemon.Quiet t'.daemon)
    (stake : t'.stake = t.stake)
    (going : ∀ i o, t'.going? i = some o → t.going? i = some o ∨ o.names = []) :
    t'.Faithful where
  sound := by
    unfold Sound
    rw [stake]
    exact TaskSync.Sound.quiet h.sound quiet
  loyal := quiet.avoids _ h.loyal
  rightful i g b hb := by
    rw [stake] at hb
    obtain ⟨e, found, rfl⟩ := h.rightful i g b hb
    rw [quiet.toSteady.name (h.sound.known i b (by rw [hb]; rfl))]
    obtain ⟨f, there, same⟩ := (quiet.path (fun _ => False) none).entry_after
      (fun asked => asked h.loyal) id found
    exact ⟨f, there, by rw [same]⟩
  apt i o found name member b hb := by
    rcases going i o found with old | none
    · have inside := h.sound.known i b (by
        rw [stake_of_going old]
        exact Stake.known?_of_backend? hb)
      rw [quiet.toSteady.name inside]
      exact h.apt i o old name member b hb
    · rw [none] at member
      cases member

theorem Faithful.take {t : Traffic} (h : t.Faithful) {i : Nat} {o : Operation}
    {out : Operation.Outcome} (going : t.going? i = some o) (may : o.May t.daemon out) :
    (t.take i out).Faithful := by
  have progress := h.sound.progress going may
  have steady := progress.steady
  refine ⟨h.sound.take going may, (h.sound.steady_goes (.choice going may)).avoids _ h.loyal, ?_,
    ?_⟩
  · intro j g b hb
    show ∃ f, out.2.registry.find? (out.2.taskOf b).name = some f ∧ g = ⟨f.id⟩
    by_cases same : j = i
    · subst same
      have open' : o.deletion? = none := by
        by_contra deletes
        obtain ⟨p, deletion⟩ := Option.ne_none_iff_exists'.mp deletes
        refine may.ne_working deletion g b ?_
        rw [← hb, stake_take going, Function.update_self]
      rw [hb] at progress
      cases progress with
      | enlist before after => cases after
      | move m =>
          rcases m.working g b rfl with old | ⟨task, e, found, rfl, known⟩
          · obtain ⟨e, found, rfl⟩ := h.rightful j g b old.symm
            rw [steady.name (h.sound.known j b (by rw [← old]; rfl))]
            obtain ⟨f, there, same⟩ := o.entry_after open' h.loyal m.path found
            exact ⟨f, there, by rw [same]⟩
          · have name : (t.daemon.taskOf b).name = task ∧ b < t.daemon.backends.size := by
              rcases known with rfl | queued
              · exact ⟨h.sound.named task e found, h.sound.inside task e found⟩
              · exact ⟨h.sound.queued j task b queued, h.sound.known j b (by rw [queued]; rfl)⟩
            rw [steady.name name.2, name.1]
            obtain ⟨f, there, same⟩ := o.entry_after open' h.loyal m.path found
            exact ⟨f, there, by rw [same]⟩
    · rw [stake_take going, Function.update_of_ne same] at hb
      obtain ⟨e, found, rfl⟩ := h.rightful j g b hb
      rw [steady.name (h.sound.known j b (by rw [hb]; rfl))]
      obtain ⟨f, there, same⟩ := progress.entry_after h.sound h.loyal same found (by rw [hb]; rfl)
      exact ⟨f, there, by rw [same]⟩
  · intro j o' found name member b hb
    show name = (out.2.taskOf b).name
    have inside : ∀ o', t.going? j = some o' → o'.stake.backend? = some b →
        b < t.daemon.backends.size := fun o' old backend => h.sound.known j b (by
      rw [stake_of_going old]
      exact Stake.known?_of_backend? backend)
    rcases going?_take_cases going found with
      ⟨rfl, next | ⟨-, rfl⟩⟩ | ⟨-, old⟩ | ⟨-, crew, w, rfl, -⟩
    · rcases may.inherits o' next name member with ⟨old, backend⟩ | ⟨c, hc, name⟩
      · rw [backend] at hb
        rw [steady.name (inside o going hb)]
        exact h.apt j o going name old b hb
      · rw [hc] at hb
        cases hb
        exact name
    · rw [steady.name (inside o' going hb)]
      exact h.apt j o' going name member b hb
    · rw [steady.name (inside o' old hb)]
      exact h.apt j o' old name member b hb
    · rw [ofWork_names] at member
      cases member

/-- No event but one that forgets all tasks takes an entry from under a call. -/
theorem Faithful.goes {t t' : Traffic} (h : t.Faithful) (goes : GoesBy (· ≠ .start) t t') :
    t'.Faithful := by
  refine goes.elim (fun q _ => ?_) (fun e kept => ?_) fun _ _ _ going may => h.take going may
  · refine h.quiet (.refl _) (stake_call t q) fun i o going => ?_
    exact (going?_call going).imp_right fun new => by rw [new, request_names]
  · exact h.quiet (affect_quiet kept t.daemon) rfl fun _ _ going => .inl going

theorem Faithful.goesOn {t t' : Traffic} (h : t.Faithful) (goes : GoesOnBy (· ≠ .start) t t') :
    t'.Faithful := by
  induction goes with
  | refl => exact h
  | tail _ last ih => exact ih.goes last

end Traffic

end TaskSync
