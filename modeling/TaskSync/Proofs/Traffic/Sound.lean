import TaskSync.Proofs.Daemon.Deeds
import TaskSync.Proofs.Traffic.Choice

/-!
# What holds between any two turns

`Sound` is about a daemon and the stakes of all calls. Guards and active flags agree; every
registered backend was made for the task it is registered under; and a backend that a call knows
is registered, if at all, where the call would look for it. One lemma says that a move keeps this,
one that a registration does, and so it holds however calls take their turns.
-/

namespace TaskSync

/-- The backend that an operation made or has looked up. -/
def Stake.known? : Stake → Option Place
  | fresh b | queued _ b | working _ b => some b
  | nothing | removing _ => none

/-- The backend that is known after a move was known before it, was registered, or was made. -/
theorem Move.known {closing : String → Prop} {old new : Stake} {d d' : Daemon} {b : Place}
    (m : Move closing old new d d') (hb : new.known? = some b) :
    old.known? = some b ∨
      (∃ n e, d.registry.find? n = some e ∧ e.runner = b) ∨
      b = d.backends.size ∧ b < d'.backends.size := by
  cases new with
  | nothing => cases hb
  | removing g => cases hb
  | fresh b' =>
      cases hb
      rcases m.fresh b rfl with same | made
      · exact .inl (by rw [← same]; rfl)
      · exact .inr (.inr made)
  | queued task b' =>
      cases hb
      rcases m.queued task b rfl with same | ⟨e, found, runner⟩
      · exact .inl (by rw [← same]; rfl)
      · exact .inr (.inl ⟨task, e, found, runner⟩)
  | working g b' =>
      cases hb
      rcases m.working g b rfl with same | ⟨task, e, found, _, runner | same⟩
      · exact .inl (by rw [← same]; rfl)
      · exact .inr (.inl ⟨task, e, found, runner⟩)
      · exact .inl (by rw [same]; rfl)

theorem Progress.steady {closing : String → Prop} {old new : Stake} {d d' : Daemon}
    (p : Progress closing old new d d') : d.Steady d' := by
  cases p with
  | move m => exact m.steady
  | enlist before after steady path added => exact steady

/-- A daemon on which no call is under way. -/
structure Daemon.AtRest (d : Daemon) : Prop where
  idle : d.registry.Idle
  indexed : d.registry.Indexed
  inside : ∀ n e, d.registry.find? n = some e → e.runner < d.backends.size
  named : ∀ n e, d.registry.find? n = some e → (d.taskOf e.runner).name = n

theorem Daemon.atRest_of_empty {d : Daemon} (h : d.registry = .empty) : d.AtRest where
  idle := Registry.idle_of_no_entry fun n => by rw [h]; rfl
  indexed := h ▸ Registry.indexed_empty
  inside n e found := by
    rw [h] at found
    cases found
  named n e found := by
    rw [h] at found
    cases found

/-- The stakes of the calls fit the registry. -/
structure Sound (d : Daemon) (stake : Nat → Stake) : Prop where
  exclusive : d.registry.Exclusive fun i => (stake i).guard?
  indexed : d.registry.Indexed
  inside : ∀ n e, d.registry.find? n = some e → e.runner < d.backends.size
  named : ∀ n e, d.registry.find? n = some e → (d.taskOf e.runner).name = n
  known : ∀ i b, (stake i).known? = some b → b < d.backends.size
  fresh : ∀ i b, stake i = .fresh b →
    (∀ n e, d.registry.find? n = some e → e.runner ≠ b) ∧
      ∀ j, (stake j).known? = some b → j = i
  queued : ∀ i task b, stake i = .queued task b → (d.taskOf b).name = task
  working : ∀ i g b, stake i = .working g b →
    ∀ n e, d.registry.find? n = some e → e.runner = b → e.id = g.entry

namespace Sound

open Registry (Path)

variable {d d' : Daemon} {stake : Nat → Stake}

theorem of_atRest (h : d.AtRest) : Sound d fun _ => .nothing where
  exclusive := h.idle.exclusive
  indexed := h.indexed
  inside := h.inside
  named := h.named
  known := nofun
  fresh := nofun
  queued := nofun
  working := nofun

/-- No backend is registered twice. -/
theorem runners (h : Sound d stake) {n m : String} {e f : Entry Place}
    (hn : d.registry.find? n = some e) (hm : d.registry.find? m = some f)
    (same : e.runner = f.runner) : n = m := by
  rw [← h.named n e hn, ← h.named m f hm, same]

/-- Entries that stay as they are and stakes that stay as they are go on to fit. -/
theorem of_entries (h : Sound d stake) (steady : d.Steady d')
    (nextId : d'.registry.nextId = d.registry.nextId) (indexed : d'.registry.Indexed)
    (kept : ∀ n f, d'.registry.find? n = some f → ∃ e, d.registry.find? n = some e ∧
      f.id = e.id ∧ f.runner = e.runner ∧ f.active = e.active) : Sound d' stake where
  exclusive := h.exclusive.of_entries nextId fun n f found => by
    obtain ⟨e, there, id, _, active⟩ := kept n f found
    exact ⟨e, there, id, active⟩
  indexed := indexed
  inside n f found := by
    obtain ⟨e, there, _, runner, _⟩ := kept n f found
    rw [runner]
    exact Nat.lt_of_lt_of_le (h.inside n e there) steady.size
  named n f found := by
    obtain ⟨e, there, _, runner, _⟩ := kept n f found
    rw [runner, steady.name (h.inside n e there)]
    exact h.named n e there
  known i b hb := Nat.lt_of_lt_of_le (h.known i b hb) steady.size
  fresh i b hb := by
    refine ⟨fun n f found => ?_, (h.fresh i b hb).2⟩
    obtain ⟨e, there, _, runner, _⟩ := kept n f found
    rw [runner]
    exact (h.fresh i b hb).1 n e there
  queued i task b hb := by
    rw [steady.name (h.known i b (by rw [hb]; rfl))]
    exact h.queued i task b hb
  working i g b hb n f found same := by
    obtain ⟨e, there, id, runner, _⟩ := kept n f found
    rw [id]
    exact h.working i g b hb n e there (runner ▸ same)

/-- Forgetting all tasks leaves nothing that could fail to fit. -/
theorem reset (h : Sound d stake) (steady : d.Steady d')
    (registry : d'.registry = d.registry.reset) : Sound d' stake := by
  have none : ∀ n, d'.registry.find? n = none := by
    intro n
    rw [registry]
    rfl
  refine h.of_entries steady (by rw [registry]; rfl) ?_ fun n f found => ?_
  · intro id n owner
    rw [registry] at owner
    cases owner
  · rw [none n] at found
    cases found

theorem guard_update (stake : Nat → Stake) (i : Nat) (new : Stake) :
    (fun j => (Function.update stake i new j).guard?) =
      Function.update (fun j => (stake j).guard?) i new.guard? := by
  funext j
  by_cases same : j = i
  · subst same
    rw [Function.update_self, Function.update_self]
  · rw [Function.update_of_ne same, Function.update_of_ne same]

/-- A turn that is a move keeps everything in its place. -/
theorem move {closing : String → Prop} {i : Nat} {new : Stake} (h : Sound d stake)
    (m : Move closing (stake i) new d d') : Sound d' (Function.update stake i new) where
  exclusive := by
    rw [guard_update]
    refine .path ?_ m.path
    rw [Function.update_eq_self]
    exact h.exclusive
  indexed := m.path.indexed h.indexed
  inside n f found := by
    obtain ⟨e, there, _, runner, _⟩ := m.path.entry_before found
    rw [runner]
    exact Nat.lt_of_lt_of_le (h.inside n e there) m.steady.size
  named n f found := by
    obtain ⟨e, there, _, runner, _⟩ := m.path.entry_before found
    rw [runner, m.steady.name (h.inside n e there)]
    exact h.named n e there
  known j b hb := by
    by_cases same : j = i
    · subst same
      rw [Function.update_self] at hb
      rcases m.known hb with old | ⟨n, e, found, rfl⟩ | ⟨_, placed⟩
      · exact Nat.lt_of_lt_of_le (h.known j b old) m.steady.size
      · exact Nat.lt_of_lt_of_le (h.inside n e found) m.steady.size
      · exact placed
    · rw [Function.update_of_ne same] at hb
      exact Nat.lt_of_lt_of_le (h.known j b hb) m.steady.size
  fresh j b hb := by
    by_cases same : j = i
    · subst same
      rw [Function.update_self] at hb
      subst hb
      rcases m.fresh b rfl with old | ⟨place, _⟩
      · obtain ⟨unregistered, alone⟩ := h.fresh j b old.symm
        refine ⟨fun n f found => ?_, fun k hk => ?_⟩
        · obtain ⟨e, there, _, runner, _⟩ := m.path.entry_before found
          rw [runner]
          exact unregistered n e there
        · by_cases apart : k = j
          · exact apart
          · rw [Function.update_of_ne apart] at hk
            exact alone k hk
      · -- the backend was made in this turn, so nobody can know it
        refine ⟨fun n f found => ?_, fun k hk => ?_⟩
        · obtain ⟨e, there, _, runner, _⟩ := m.path.entry_before found
          rw [runner, place]
          exact Nat.ne_of_lt (h.inside n e there)
        · by_cases apart : k = j
          · exact apart
          · rw [Function.update_of_ne apart] at hk
            exact absurd (h.known k b hk) (by rw [place]; exact Nat.lt_irrefl _)
    · rw [Function.update_of_ne same] at hb
      obtain ⟨unregistered, alone⟩ := h.fresh j b hb
      refine ⟨fun n f found => ?_, fun k hk => ?_⟩
      · obtain ⟨e, there, _, runner, _⟩ := m.path.entry_before found
        rw [runner]
        exact unregistered n e there
      · by_cases mine : k = i
        · subst mine
          rw [Function.update_self] at hk
          rcases m.known hk with old | ⟨n, e, found, runner⟩ | ⟨place, _⟩
          · exact alone k old
          · exact absurd runner (unregistered n e found)
          · exact absurd (h.known j b (by rw [hb]; rfl)) (by rw [place]; exact Nat.lt_irrefl _)
        · rw [Function.update_of_ne mine] at hk
          exact alone k hk
  queued j task b hb := by
    by_cases same : j = i
    · subst same
      rw [Function.update_self] at hb
      subst hb
      rcases m.queued task b rfl with old | ⟨e, looked, rfl⟩
      · rw [m.steady.name (h.known j b (by rw [← old]; rfl))]
        exact h.queued j task b old.symm
      · rw [m.steady.name (h.inside task e looked)]
        exact h.named task e looked
    · rw [Function.update_of_ne same] at hb
      rw [m.steady.name (h.known j b (by rw [hb]; rfl))]
      exact h.queued j task b hb
  working j g b hb n f found runner := by
    obtain ⟨e, there, number, runner', _⟩ := m.path.entry_before found
    rw [runner'] at runner
    rw [number]
    by_cases same : j = i
    · subst same
      rw [Function.update_self] at hb
      subst hb
      rcases m.working g b rfl with old | ⟨task, e', taken, rfl, known⟩
      · exact h.working j g b old.symm n e there runner
      · have here : n = task := by
          rcases known with runner'' | queued
          · exact h.runners there taken (runner.trans runner''.symm)
          · rw [← h.queued j task b queued, ← runner, h.named n e there]
        subst here
        rw [there] at taken
        cases taken
        rfl
    · rw [Function.update_of_ne same] at hb
      exact h.working j g b hb n e there runner

/-- A backend that nobody else knows is registered under the name of its task. -/
theorem add {i : Nat} {b : Place} {ids : List String} (h : Sound d stake)
    (mine : stake i = .fresh b) (steady : d.Steady d')
    (added : d.registry.add (d.taskOf b).name b ids = .ok d'.registry) :
    Sound d' (Function.update stake i .nothing) := by
  have placed : b < d.backends.size := h.known i b (by rw [mine]; rfl)
  have alone : ∀ j, j ≠ i → (stake j).known? ≠ some b :=
    fun j apart known => apart ((h.fresh i b mine).2 j known)
  have others : ∀ j s, Function.update stake i .nothing j = s → s ≠ .nothing →
      j ≠ i ∧ stake j = s := by
    intro j s hj some
    by_cases same : j = i
    · subst same
      rw [Function.update_self] at hj
      exact absurd hj.symm some
    · rw [Function.update_of_ne same] at hj
      exact ⟨same, hj⟩
  have entries : ∀ n f, d'.registry.find? n = some f →
      n = (d.taskOf b).name ∧ f.runner = b ∨ d.registry.find? n = some f := by
    intro n f found
    rw [Registry.find?_add added] at found
    split at found
    next here =>
      cases found
      exact .inl ⟨here, rfl⟩
    · exact .inr found
  refine ⟨?_, h.indexed.add added, ?_, ?_, ?_, ?_, ?_, ?_⟩
  · have same : (fun j => (Function.update stake i .nothing j).guard?) =
        fun j => (stake j).guard? := by
      rw [guard_update]
      have none : Stake.nothing.guard? = (stake i).guard? := by rw [mine]; rfl
      rw [none, Function.update_eq_self]
    rw [same]
    exact h.exclusive.add added
  · intro n f found
    rcases entries n f found with ⟨_, rfl⟩ | there
    · exact Nat.lt_of_lt_of_le placed steady.size
    · exact Nat.lt_of_lt_of_le (h.inside n f there) steady.size
  · intro n f found
    rcases entries n f found with ⟨rfl, rfl⟩ | there
    · exact steady.name placed
    · rw [steady.name (h.inside n f there)]
      exact h.named n f there
  · intro j c hc
    by_cases same : j = i
    · subst same
      rw [Function.update_self] at hc
      cases hc
    · rw [Function.update_of_ne same] at hc
      exact Nat.lt_of_lt_of_le (h.known j c hc) steady.size
  · intro j c hc
    obtain ⟨apart, hj⟩ := others j _ hc nofun
    obtain ⟨unregistered, only⟩ := h.fresh j c hj
    refine ⟨fun n f found => ?_, fun k hk => ?_⟩
    · rcases entries n f found with ⟨_, rfl⟩ | there
      · rintro rfl
        exact alone j apart (by rw [hj]; rfl)
      · exact unregistered n f there
    · by_cases same : k = i
      · subst same
        rw [Function.update_self] at hk
        cases hk
      · rw [Function.update_of_ne same] at hk
        exact only k hk
  · intro j task c hc
    obtain ⟨_, hj⟩ := others j _ hc nofun
    rw [steady.name (h.known j c (by rw [hj]; rfl))]
    exact h.queued j task c hj
  · intro j g c hc n f found runner
    obtain ⟨apart, hj⟩ := others j _ hc nofun
    rcases entries n f found with ⟨_, rfl⟩ | there
    · exact absurd (by rw [hj, runner]; rfl) (alone j apart)
    · exact h.working j g c hj n f there runner

/-- The turn of an operation, whichever it is. -/
theorem progress {closing : String → Prop} {i : Nat} {new : Stake} (h : Sound d stake)
    (p : Progress closing (stake i) new d d') : Sound d' (Function.update stake i new) := by
  cases p with
  | move m => exact h.move m
  | enlist before after steady path added =>
      rename_i b ids r
      -- first what was done on the side, then the registration
      have side : Move closing (stake i) (stake i) d { d with registry := r } := by
        refine .of_path (.inl rfl) (.of_same rfl rfl rfl rfl) ?_
        rw [before]
        exact path
      have sound := h.move side
      rw [Function.update_eq_self] at sound
      rw [after]
      have back : Daemon.Steady { d with registry := r } d := .of_same rfl rfl rfl rfl
      exact sound.add before (back.trans steady) added

/-- What takes no part in any call. -/
theorem quiet (h : Sound d stake) (quiet : d.Quiet d') : Sound d' stake := by
  have move : Move (fun _ => False) (stake 0) (stake 0) d d' := .keep quiet
  have kept := h.move move
  rw [Function.update_eq_self] at kept
  exact kept

end Sound

/-! ### Calls side by side -/

namespace Traffic

/-- The calls that are under way fit the daemon. -/
def Sound (t : Traffic) : Prop := TaskSync.Sound t.daemon t.stake

theorem opening_sound {d : Daemon} (h : d.AtRest) : (opening d).Sound :=
  .of_atRest ⟨h.idle, h.indexed, h.inside, h.named⟩

theorem start_frame (d : Daemon) :
    ∃ lines, d.start.2 =
      { d with registry := d.registry.reset, journal := lines ++ d.journal } := by
  unfold Daemon.start Daemon.startFactory
  simp only
  split
  · exact ⟨[], rfl⟩
  · exact ⟨[.factoryStarted], rfl⟩

theorem listen_frame (d : Daemon) :
    ∃ faults c, d.listen.2 = { d with storeFaults := faults, completions := c } ∧
      (d.Reliable → ∀ e ∈ faults, e.2.Silent) := by
  obtain ⟨faults, after, reliable⟩ := d.access_frame .getAllTasks
  unfold Daemon.listen Daemon.tasks Daemon.look
  simp only
  cases h : d.access .getAllTasks with
  | mk r d₁ =>
      rw [h] at after reliable
      cases after
      cases r with
      | error e => exact ⟨faults, d.completions, rfl, fun h => (reliable h).2⟩
      | ok u => exact ⟨faults, _, rfl, fun h => (reliable h).2⟩

theorem affect_quiet {e : Event} (kept : e ≠ .start) (d : Daemon) : d.Quiet (e.affect d) := by
  cases e with
  | call q => exact .refl d
  | turn i => exact .refl d
  | start => exact absurd rfl kept
  | requestDeletion task => exact d.requestDeletion_quiet task
  | cancel token => exact d.cancel_quiet token
  | listen =>
      obtain ⟨faults, c, h, reliable⟩ := listen_frame d
      rw [show Event.listen.affect d = d.listen.2 from rfl, h]
      exact .of_registry (.of_backends rfl rfl rfl (fun _ => .refl _) reliable) rfl
  | trigger template =>
      simp only [Event.affect]
      split
      · exact .of_same rfl rfl rfl rfl rfl
      · exact .refl d
  | pass ms => exact .of_same rfl rfl rfl rfl rfl
  | wall now => exact .of_same rfl rfl rfl rfl rfl

theorem affect_steady (e : Event) (d : Daemon) : d.Steady (e.affect d) := by
  by_cases start : e = .start
  · subst start
    obtain ⟨lines, frame⟩ := start_frame d
    rw [show Event.start.affect d = d.start.2 from rfl, frame]
    exact .of_same rfl rfl rfl rfl
  · exact (affect_quiet start d).toSteady

/-- What happens outside of all calls leaves the store alone. -/
theorem affect_store (e : Event) (d : Daemon) : (e.affect d).store = d.store := by
  cases e with
  | call q => rfl
  | turn i => rfl
  | start =>
      obtain ⟨lines, h⟩ := start_frame d
      rw [show Event.start.affect d = d.start.2 from rfl, h]
  | requestDeletion task =>
      obtain ⟨r, box, hs, h, _⟩ := d.requestDeletion_frame task
      rw [show (Event.requestDeletion task).affect d = d.requestDeletion task from rfl, h]
  | cancel token =>
      obtain ⟨ts, hs, h⟩ := d.cancel_frame token
      rw [show (Event.cancel token).affect d = d.cancel token from rfl, h]
  | listen =>
      obtain ⟨faults, c, h, _⟩ := listen_frame d
      rw [show Event.listen.affect d = d.listen.2 from rfl, h]
  | trigger template =>
      simp only [Event.affect]
      split
      · rfl
      · rfl
  | pass ms => rfl
  | wall now => rfl

/-- What happens outside of all calls calls no backend and cuts timers off at most. -/
theorem affect_between {backend? : Option Place} (e : Event) (d : Daemon) :
    ({} : Deeds).Between backend? d (e.affect d) := by
  cases e with
  | call | turn => exact .refl d
  | start =>
      obtain ⟨lines, frame⟩ := start_frame d
      rw [show Event.start.affect d = d.start.2 from rfl, frame]
      exact .of_same rfl rfl rfl rfl rfl
  | requestDeletion task => exact .requestDeletion d task
  | cancel token => exact .cancel d token
  | listen =>
      obtain ⟨faults, c, frame, -⟩ := listen_frame d
      rw [show Event.listen.affect d = d.listen.2 from rfl, frame]
      exact .of_same rfl rfl rfl rfl rfl
  | trigger template =>
      simp only [Event.affect]
      split
      · exact .of_same rfl rfl rfl rfl rfl
      · exact .refl d
  | pass ms => exact .of_same rfl rfl rfl rfl rfl
  | wall now => exact .of_same rfl rfl rfl rfl rfl

theorem affect_sound {stake : Nat → Stake} {d : Daemon} (h : TaskSync.Sound d stake) (e : Event) :
    TaskSync.Sound (e.affect d) stake := by
  by_cases start : e = .start
  · subst start
    obtain ⟨lines, frame⟩ := start_frame d
    rw [show Event.start.affect d = d.start.2 from rfl, frame]
    exact h.reset (.of_same rfl rfl rfl rfl) rfl
  · exact h.quiet (affect_quiet start d)

/-- What a turn that a call may take does to the daemon and to its stake. -/
theorem Sound.progress {t : Traffic} (h : t.Sound) {i : Nat} {o : Operation}
    {out : Operation.Outcome} (going : t.going? i = some o) (may : o.May t.daemon out) :
    Progress o.Closes (t.stake i) ((t.take i out).stake i) t.daemon out.2 := by
  have same := stake_of_going going
  rw [stake_take going, Function.update_self, same]
  exact may.progress fun b fresh => h.known i b (by rw [same, fresh]; rfl)

theorem Sound.take {t : Traffic} (h : t.Sound) {i : Nat} {o : Operation} {out : Operation.Outcome}
    (going : t.going? i = some o) (may : o.May t.daemon out) : (t.take i out).Sound := by
  have sound := TaskSync.Sound.progress h (h.progress going may)
  rw [stake_take going, Function.update_self] at sound
  unfold Sound
  rw [stake_take going]
  exact sound.quiet (.of_same rfl rfl rfl rfl rfl)

theorem Sound.goes {t t' : Traffic} (h : t.Sound) (goes : Goes t t') : t'.Sound := by
  refine goes.elim (fun q => ?_) (fun e => affect_sound h e) fun _ _ _ going may =>
    h.take going may
  unfold Sound
  rw [stake_call]
  exact h

/-- The invariant of calls side by side. -/
theorem Sound.goesOn {t t' : Traffic} (h : t.Sound) (goes : GoesOn t t') : t'.Sound := by
  induction goes with
  | refl => exact h
  | tail _ last ih => exact ih.goes last

/-- Nothing lasting is lost. -/
theorem Sound.steady_goes {t t' : Traffic} (h : t.Sound) (goes : Goes t t') :
    t.daemon.Steady t'.daemon := by
  refine goes.elim (fun _ => .refl _) (fun e => affect_steady e t.daemon) fun _ _ _ going may => ?_
  exact (h.progress going may).steady.trans (.of_same rfl rfl rfl rfl)

theorem Sound.steady_goesOn {t t' : Traffic} (h : t.Sound) (goes : GoesOn t t') :
    t.daemon.Steady t'.daemon := by
  induction goes with
  | refl => exact .refl _
  | tail before last ih => exact ih.trans ((h.goesOn before).steady_goes last)

/-- A backend that a call has for itself was made before. -/
theorem Sound.fresh_inside {t : Traffic} (h : t.Sound) {i : Nat} {b : Place}
    (fresh : t.stake i = .fresh b) : b < t.daemon.backends.size :=
  h.known i b (by rw [fresh]; rfl)

theorem Sound.made {t : Traffic} (h : t.Sound) {i : Nat} {token : Token} {goal : Goal}
    {p : Creation.Phase} (going : t.going? i = some (.create token goal p)) (b : Place)
    (stake : p.stake = .fresh b) : b < t.daemon.backends.size :=
  h.fresh_inside ((stake_of_going going).trans stake)

end Traffic

end TaskSync
