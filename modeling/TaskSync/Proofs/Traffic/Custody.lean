import TaskSync.Proofs.Operation.Creates
import TaskSync.Proofs.Operation.Deeds
import TaskSync.Proofs.Traffic.Numbers
import TaskSync.Proofs.Traffic.Staff

/-!
# What becomes of a backend that a creation made

Up to the turn in which a creation registers its backend, nobody else knows of it, so the creation
has to see to it that the backend is torn down if it is not registered. It does so once, in a turn
of its own, after every failure but two: when the caller gives up, and when the task cannot be
applied.
-/

namespace TaskSync

/-- The backend is registered under the name of its task. -/
def Daemon.Registered (d : Daemon) (b : Place) : Prop :=
  d.registry.get? (d.taskOf b).name = some b

/-- No task is registered with the backend. -/
def Daemon.Unregistered (d : Daemon) (b : Place) : Prop := ∀ n, d.registry.get? n ≠ some b

namespace Creation

/-- What a turn of a creation comes to that has a backend. -/
inductive Handling (p : Phase) (b : Place) : Turn Phase Result → Prop where
  | keeps {p' : Phase} (fresh : p'.stake = .fresh b) : Handling p b (.next p')
  | waits (on : List Wait) : Handling p b (.wait on)
  | registers (task : Task) : Handling p b (.next (.storing task))
  | canceled : Handling p b (.done (.error .canceled))
  | applyFailed (task : String) (e : BackendError) :
      Handling p b (.done (.error (.applyFailed task 1 e)))
  | tornDown {r : Result} (last : p = .destroying b r) : Handling p b (.done r)

theorem register_handling (p : Phase) (b : Place) (d : Daemon) :
    Handling p b (register b d).1 := by
  unfold register
  simp only
  split
  · exact .keeps rfl
  · exact .registers _

theorem rendered_handling (p : Phase) (goal : Goal) (b : Place) (d : Daemon) :
    Handling p b (rendered goal b d).1 := by
  unfold rendered
  simp only
  split
  · exact .keeps rfl
  · exact register_handling p b _
  · split
    · exact .keeps rfl
    · exact register_handling p b _

theorem render_handling (p : Phase) (token : Token) (goal : Goal) (t : Trial) (call : Pending)
    (d : Daemon) : Handling p t.backend (render token goal t call d).1 := by
  unfold render
  simp only
  split
  · exact .canceled
  split
  · exact .keeps rfl
  split
  · exact .keeps rfl
  split
  · exact .keeps rfl
  · exact .waits _
  · exact rendered_handling p goal _ _
  · exact .keeps rfl
  · exact .keeps rfl

/-- A creation that has a backend keeps it, registers it or tears it down, unless it is canceled or
the backend cannot be applied. -/
theorem turn_handling (token : Token) (goal : Goal) {p : Phase} {b : Place} (d : Daemon)
    (fresh : p.stake = .fresh b) : Handling p b (turn token goal p d).1 := by
  cases p with
  | start | making | storing => cases fresh
  | rendering t call =>
      cases fresh
      exact render_handling _ token goal t call d
  | pausing t due =>
      cases fresh
      simp only [turn]
      split
      · exact .canceled
      split
      · exact .keeps rfl
      · exact .waits _
  | destroying b result =>
      cases fresh
      exact .tornDown rfl
  | applying b record call =>
      cases fresh
      simp only [turn]
      split
      · exact .keeps rfl
      · exact .waits _
      · exact .applyFailed _ _
      · exact .keeps rfl
  | recording b record =>
      cases fresh
      exact register_handling _ b _
  | inspecting b =>
      cases fresh
      exact .keeps rfl

/-- Storing the configuration is the last turn, and every task keeps its backend in it. -/
theorem storing_ends (token : Token) (goal : Goal) (task : Task) (d : Daemon) :
    (∃ r, (turn token goal (.storing task) d).1 = .done r) ∧
      ∀ n, (turn token goal (.storing task) d).2.registry.get? n = d.registry.get? n := by
  obtain ⟨s, faults, after, -⟩ := d.write_frame .setTask task.toConfig.nameOrEmpty
    (·.setTask task.toConfig)
  have stored : (d.setTask task.toConfig).2.registry = d.registry := by
    rw [show (d.setTask task.toConfig).2 = _ from after]
  simp only [turn]
  split <;> rename_i eq <;> rw [eq] at stored
  next e d₁ =>
    refine ⟨⟨_, rfl⟩, fun n => ?_⟩
    obtain ⟨r, box, hs, frame, marked⟩ := d₁.requestDeletion_frame task.name
    show (d₁.requestDeletion task.name).registry.get? n = _
    rw [frame, ← stored]
    rcases marked with rfl | rfl
    · rfl
    · exact Registry.get?_mark
  next d₁ =>
    refine ⟨⟨_, rfl⟩, fun n => congrArg (fun r : Registry Place => r.get? n) ?_⟩
    obtain ⟨box, hs, announced⟩ := d₁.announceSchedule_frame task.name
    split
    · rw [announced]
      exact stored
    · exact stored

end Creation

/-- Only a creation that has failed, or inspected its task, tears a backend down. -/
theorem Operation.destroying_of_calls {o : Operation} {b : Place}
    (mine : o.stake.backend? = some b) (calls : o.Calls .destroy) :
    ∃ token goal r, o = .create token goal (.destroying b r) := by
  cases o with
  | create token goal p =>
      cases p with
      | destroying b r =>
          cases mine
          exact ⟨token, goal, r, rfl⟩
      | start | making | rendering | pausing | applying | recording | storing | inspecting =>
          exact absurd rfl calls.1
  | update p => cases calls
  | run | errand => rcases calls with no | no <;> cases no
  | delete | control => cases calls

/-- A backend is not torn down in the turn of anybody else. -/
theorem Operation.May.spares {o : Operation} {d : Daemon} {out : Outcome} (may : o.May d out)
    {b : Place} (inside : b < d.backends.size) (spared : (d.backend b).count .destroy = 0)
    (apart : ∀ token goal r, o ≠ .create token goal (.destroying b r)) :
    (out.2.backend b).count .destroy = 0 := by
  refine Nat.eq_zero_of_not_pos fun more => ?_
  rw [← spared] at more
  obtain ⟨mine, calls⟩ := may.noted inside more
  obtain ⟨token, goal, r, same⟩ := Operation.destroying_of_calls mine calls
  exact apart token goal r same

namespace Traffic

variable {s t t' : Traffic} {i : Nat} {b : Place}

theorem Goes.length_le (goes : Goes t t') : t.calls.length ≤ t'.calls.length := by
  refine goes.elim (fun _ => ?_) (fun _ => Nat.le_refl _) fun i o out _ _ => ?_
  · exact (List.length_append ..).symm ▸ Nat.le_add_right _ _
  · show _ ≤ (t.seated i out.1 ++ sideCalls out.2.happenings).length
    rw [List.length_append, t.length_seated]
    exact Nat.le_add_right _ _

/-- Call `i` stands still, so a backend that is torn down was in the hands of another one. -/
structure Stands (t t' : Traffic) (i : Nat) : Prop where
  going : t'.going? i = t.going? i
  spares : ∀ b, b < t.daemon.backends.size → (∀ j, j ≠ i → t.stake j ≠ .fresh b) →
    (t.daemon.backend b).count .destroy = 0 → (t'.daemon.backend b).count .destroy = 0

theorem Goes.own_or (goes : Goes t t') (begun : i < t.calls.length) :
    (∃ o out, t.going? i = some o ∧ o.May t.daemon out ∧ t' = t.take i out) ∨ t.Stands t' i := by
  refine goes.elim (fun q => .inr ⟨?_, fun _ _ _ spared => spared⟩)
    (fun e => .inr ⟨rfl, fun b inside _ spared => ?_⟩) fun j o out going may => ?_
  · rw [going?_append, if_pos begun]
  · have between : ({} : Deeds).Between none t.daemon (e.affect t.daemon) :=
      affect_between e t.daemon
    have same : ((e.affect t.daemon).backend b).calls = (t.daemon.backend b).calls :=
      between.calls b inside
    unfold Backend.count at spared ⊢
    rw [same]
    exact spared
  · by_cases own : i = j
    · subst own
      exact .inl ⟨o, out, going, may, rfl⟩
    · refine .inr ⟨going?_take_other own begun, fun b inside unborn spared => ?_⟩
      refine may.spares inside spared ?_
      rintro token goal r rfl
      exact unborn j (Ne.symm own) (stake_of_going going)

/-- A backend is registered under the name of its task, or for no task. -/
theorem Sound.placed (h : t.Sound) (b : Place) :
    t.daemon.Registered b ∨ t.daemon.Unregistered b := by
  by_cases gone : t.daemon.Unregistered b
  · exact .inr gone
  · obtain ⟨n, found⟩ := Classical.not_forall.mp gone
    have found := Classical.not_not.mp found
    obtain ⟨e, there, runner⟩ := Registry.get?_eq_some.mp found
    refine .inl ?_
    unfold Daemon.Registered
    rw [← runner, h.named n e there, runner]
    exact found

theorem Sound.unregistered_goes (h : t.Sound) (goes : Goes t t')
    (unborn : ∀ j, t.stake j ≠ .fresh b) (gone : t.daemon.Unregistered b) :
    t'.daemon.Unregistered b := by
  intro n found
  obtain ⟨f, found, runner⟩ := Registry.get?_eq_some.mp found
  rcases h.entry_goes goes found with
    ⟨e, before, continues⟩ | ⟨-, j, -, -, -, -, -, fresh, -⟩
  · exact gone n (Registry.get?_eq_some.mpr ⟨e, before, continues.runner.symm.trans runner⟩)
  · rw [runner] at fresh
    exact unborn j fresh

/-- Somebody else took the backend out of the registry when the creation that had registered it had
still to store the configuration. -/
def Evicted (s t : Traffic) (i : Nat) (b : Place) : Prop :=
  ∃ u u' : Traffic, GoesOn s u ∧ Goes u u' ∧ GoesOn u' t ∧
    u.daemon.Registered b ∧ u'.daemon.Unregistered b ∧
    ∃ token goal task, u.going? i = some (.create token goal (.storing task)) ∧
      u'.going? i = some (.create token goal (.storing task))

theorem Evicted.tail (h : Evicted s t i b) (goes : Goes t t') : Evicted s t' i b := by
  obtain ⟨u, u', first, taken, later, rest⟩ := h
  exact ⟨u, u', first, taken, later.tail goes, rest⟩

/-- A call that has a backend in hand which nobody else knows of is the creation that made it. -/
theorem creation_of_fresh (fresh : t.stake i = .fresh b) :
    ∃ token goal p, t.going? i = some (.create token goal p) ∧ p.stake = .fresh b := by
  cases going : t.going? i with
  | none =>
      rw [stake, going] at fresh
      cases fresh
  | some o =>
      have mine : o.stake = .fresh b := (stake_of_going going).symm.trans fresh
      obtain ⟨token, goal, p, rfl, -⟩ := Operation.creates_of_fresh mine t.daemon
      exact ⟨token, goal, p, rfl, mine⟩

/-- In whose hands a backend is that call `i` made: its own, until it has registered the backend or
has come to an end. -/
inductive Custody (s t : Traffic) (i : Nat) (b : Place) : Prop where
  | held (fresh : t.stake i = .fresh b) (spared : (t.daemon.backend b).count .destroy = 0)
  | handed {token : Token} {goal : Goal} {task : Task}
      (going : t.going? i = some (.create token goal (.storing task)))
      (inside : b < t.daemon.backends.size) (spared : (t.daemon.backend b).count .destroy = 0)
      (unborn : ∀ j, t.stake j ≠ .fresh b)
      (place : t.daemon.Registered b ∨ Evicted s t i b ∧ t.daemon.Unregistered b)
  | finished (begun : i < t.calls.length) (ended : t.going? i = none)

namespace Custody

/-- What a turn of a creation that has a backend makes of it. -/
theorem own (sound : t.Sound) {own token : Token} {goal : Goal} {p : Creation.Phase}
    (going : t.going? i = some (.create own goal p))
    (heeds : (Operation.create own goal p).Heeds t.daemon token) (fresh : p.stake = .fresh b)
    (spared : (t.daemon.backend b).count .destroy = 0) :
    Custody s (t.take i ((Operation.create own goal p).heed token t.daemon)) i b := by
  have mine : t.stake i = .fresh b := (stake_of_going going).trans fresh
  have inside : b < t.daemon.backends.size := sound.fresh_inside mine
  have may : (Operation.create own goal p).May t.daemon _ := .heed heeds
  have spares := may.spares inside spared
  have handling := Creation.turn_handling token goal t.daemon fresh
  have advance := Creation.turn_advance token goal p t.daemon fun b' same => by
    cases fresh.symm.trans same
    exact inside
  have ends : ∀ r, p = .destroying b r → (Creation.turn token goal p t.daemon).1 = .done r := by
    rintro r rfl
    rfl
  have here : (t.take i ((Operation.create own goal p).heed token t.daemon)).going? i = _ :=
    going?_take_self going
  rw [Operation.heed] at may spares here ⊢
  generalize Creation.turn token goal p t.daemon = turned at may spares handling advance ends here ⊢
  obtain ⟨turned, d₁⟩ := turned
  have goes : Goes t _ := .choice going may
  have begun := Nat.lt_of_lt_of_le (going?_length going) goes.length_le
  cases handling with
  | @keeps p' fresh' =>
      refine .held ((stake_of_going here).trans fresh') (spares ?_)
      intro token' goal' r same
      cases same
      cases ends r rfl
  | waits on =>
      refine .held ((stake_of_going here).trans fresh) (spares ?_)
      intro token' goal' r same
      cases same
      cases ends r rfl
  | registers task =>
      refine .handed here ?_ (spares ?_) (fun j fresh' => ?_) (.inl ?_)
      · exact Nat.lt_of_lt_of_le inside (sound.steady_goes goes).size
      · intro token' goal' r same
        cases same
        cases ends r rfl
      · rw [stake_take going] at fresh'
        by_cases same : j = i
        · subst same
          rw [Function.update_self] at fresh'
          cases fresh'
        · rw [Function.update_of_ne same] at fresh'
          exact same ((sound.fresh i b mine).2 j (by rw [fresh']; rfl))
      · refine ((sound.goes goes).placed b).resolve_right fun gone => ?_
        cases advance with
        | move _ unregistered => exact unregistered task rfl
        | register before _ _ _ added =>
            cases fresh.symm.trans before
            have found := (Registry.find?_add added).trans (if_pos rfl)
            exact gone _ (Registry.get?_eq_some.mpr ⟨_, found, rfl⟩)
  | canceled | applyFailed | tornDown => exact .finished begun here

/-- Whatever calls do, a backend that call `i` made stays in its hands, or it has been registered,
or the call is over. -/
theorem goes (h : Custody s t i b) (sound : t.Sound) (on : GoesOn s t) (goes : Goes t t') :
    Custody s t' i b := by
  cases h with
  | held fresh spared =>
      obtain ⟨token, goal, p, going, mine⟩ := creation_of_fresh fresh
      rcases goes.own_or (going?_length going) with ⟨o', out, going', may, rfl⟩ | stands
      · cases going.symm.trans going'
        cases may with
        | heed heeds => exact own sound going heeds mine spared
      · have inside : b < t.daemon.backends.size := sound.fresh_inside fresh
        refine .held ?_ (stands.spares b inside (fun j apart known => ?_) spared)
        · exact (stake_of_going (stands.going.trans going)).trans mine
        · exact apart ((sound.fresh i b fresh).2 j (by rw [known]; rfl))
  | @handed token goal task going inside spared unborn place =>
      rcases goes.own_or (going?_length going) with ⟨o', out, going', may, rfl⟩ | stands
      · cases going.symm.trans going'
        have begun := Nat.lt_of_lt_of_le (going?_length going) goes.length_le
        refine .finished begun ((going?_take_self going).trans ?_)
        cases may with
        | @heed _ _ heeded =>
            obtain ⟨⟨r, done⟩, -⟩ := Creation.storing_ends heeded goal task t.daemon
            rw [Operation.heed, Operation.lift_of_done _ _ done]
      · have after := stands.going.trans going
        refine .handed after (Nat.lt_of_lt_of_le inside (sound.steady_goes goes).size)
          (stands.spares b inside (fun j _ => unborn j) spared)
          (sound.unborn_goes goes inside unborn) ?_
        rcases place with there | ⟨evicted, gone⟩
        · refine ((sound.goes goes).placed b).imp_right fun gone => ⟨?_, gone⟩
          exact ⟨t, t', on, goes, .refl, there, gone, token, goal, task, going, after⟩
        · exact .inr ⟨evicted.tail goes, sound.unregistered_goes goes unborn gone⟩
  | finished begun ended =>
      refine .finished (Nat.lt_of_lt_of_le begun goes.length_le) ?_
      rcases goes.own_or begun with ⟨o', out, going, -⟩ | stands
      · rw [ended] at going
        cases going
      · exact stands.going.trans ended

theorem goesOn (sound : s.Sound) (h : Custody s s i b) (on : GoesOn s t) :
    t.Sound ∧ Custody s t i b := by
  induction on with
  | refl => exact ⟨sound, h⟩
  | tail before last ih => exact ⟨ih.1.goes last, ih.2.goes ih.1 before last⟩

end Custody

/-- What has become of a backend that call `i` made when the call returns. -/
inductive Fate (s t : Traffic) (i : Nat) (b : Place) (r : Operation.Result) : Prop where
  | registered (there : t.daemon.Registered b) (spared : (t.daemon.backend b).count .destroy = 0)
  | tornDown (gone : t.daemon.Unregistered b) (once : (t.daemon.backend b).count .destroy = 1)
  /-- The call registered it, and somebody else took it out before the call returned. -/
  | evicted (taken : Evicted s t i b) (gone : t.daemon.Unregistered b)
      (spared : (t.daemon.backend b).count .destroy = 0)
  /-- It could not be applied and was left behind. -/
  | applyFailed {task : String} {e : BackendError} (failed : r = .error (.applyFailed task 1 e))
      (gone : t.daemon.Unregistered b) (spared : (t.daemon.backend b).count .destroy = 0)

/-- A creation has its backend in hand right after it has made it. -/
theorem Custody.made {token : Token} {goal : Goal} {task : Task}
    (going : t.going? i = some (.create token goal (.making task)))
    (made : (t.daemon.make task).1 = .ok b) : Custody (t.turn i) (t.turn i) i b := by
  rw [turn_eq_take going]
  rcases eq : t.daemon.make task with ⟨r, d₁⟩
  rw [eq] at made
  cases made
  have out : (Operation.create token goal (.making task)).turn t.daemon =
      (.next (.create token goal (.rendering ⟨b, d₁.clock, false⟩ .unsent)), d₁) := by
    simp only [Operation.turn, Creation.turn, eq, Operation.lift]
  have here :
      (t.take i ((Operation.create token goal (.making task)).turn t.daemon)).going? i = _ :=
    going?_take_self going
  rw [out] at here ⊢
  refine .held (stake_of_going here) ?_
  obtain ⟨rfl, label, made, script, rfl, -⟩ := Daemon.make_eq_ok eq
  show ((t.daemon.backends.push (.new label task script)).getD t.daemon.backends.size
    default).count .destroy = 0
  rw [Daemon.backend_push, if_pos rfl]
  rfl

/-- What happens to the backend of a creation in its last turn, if it has not been registered. -/
theorem Custody.ends_held (sound : t.Sound) {o : Operation} {r : Operation.Result}
    (going : t.going? i = some o) (returns : (o.turn t.daemon).1 = .done r)
    (heeded : r ≠ .error .canceled) (fresh : t.stake i = .fresh b)
    (spared : (t.daemon.backend b).count .destroy = 0) : Fate s (t.turn i) i b r := by
  obtain ⟨token, goal, p, going', fresh'⟩ := creation_of_fresh fresh
  cases going.symm.trans going'
  have inside : b < t.daemon.backends.size := sound.fresh_inside fresh
  rw [turn_eq_take going]
  obtain ⟨r', done, rfl⟩ := Operation.lift_done returns
  have daemon : ((Operation.create token goal p).turn t.daemon).2 =
      (Creation.turn token goal p t.daemon).2 := Operation.lift_snd ..
  have gone : (t.take i ((Operation.create token goal p).turn t.daemon)).daemon.Unregistered b := by
    have advance := Creation.turn_advance token goal p t.daemon fun b' same => by
      cases fresh'.symm.trans same
      exact inside
    intro n found
    replace found : ((Operation.create token goal p).turn t.daemon).2.registry.get? n = some b :=
      found
    rw [daemon] at found
    obtain ⟨f, found, runner⟩ := Registry.get?_eq_some.mp found
    cases advance with
    | move m _ =>
        obtain ⟨e, before, continues⟩ := m.path.continues found
        exact (sound.fresh i b fresh).1 n e before (continues.runner.symm.trans runner)
    | register _ phase =>
        rw [done] at phase
        cases phase
  by_cases last : ∃ r, p = .destroying b r
  · obtain ⟨r, rfl⟩ := last
    refine .tornDown gone ?_
    have calls := (Deeds.Between.call t.daemon b .destroy).calls b inside
    rw [if_pos rfl] at calls
    unfold Backend.count at spared ⊢
    show ((t.daemon.call b .destroy).backend b).calls.count .destroy = 1
    rw [calls, List.count_append, spared]
    rfl
  · have left :
        (((Operation.create token goal p).turn t.daemon).2.backend b).count .destroy = 0 := by
      refine (Operation.May.turn _ _).spares inside spared ?_
      intro token' goal' r same
      cases same
      exact last ⟨r, rfl⟩
    have handling := Creation.turn_handling token goal t.daemon fresh'
    rw [done] at handling
    cases handling with
    | canceled => exact absurd rfl heeded
    | applyFailed task e => exact .applyFailed rfl gone left
    | tornDown same => exact absurd ⟨_, same⟩ last

/-- What happens to the backend of a creation in its last turn, if it has been registered. -/
theorem Custody.ends_handed (sound : t.Sound) {token : Token} {goal : Goal} {task : Task}
    (going : t.going? i = some (.create token goal (.storing task)))
    (inside : b < t.daemon.backends.size) (spared : (t.daemon.backend b).count .destroy = 0)
    (unborn : ∀ j, t.stake j ≠ .fresh b)
    (place : t.daemon.Registered b ∨ Evicted s t i b ∧ t.daemon.Unregistered b)
    (r : Operation.Result) : Fate s (t.turn i) i b r := by
  have may := Operation.May.turn (.create token goal (.storing task)) t.daemon
  have goes : Goes t (t.take i _) := .choice going may
  have left := may.spares inside spared fun token' goal' r same => by cases same
  rw [turn_eq_take going]
  rcases place with there | ⟨evicted, gone⟩
  · refine .registered (((sound.goes goes).placed b).resolve_right fun gone => ?_) left
    refine gone (t.daemon.taskOf b).name ?_
    show ((Operation.create token goal (.storing task)).turn t.daemon).2.registry.get? _ = _
    rw [Operation.turn, Operation.lift_snd]
    exact ((Creation.storing_ends token goal task t.daemon).2 _).trans there
  · exact .evicted (evicted.tail goes) (sound.unregistered_goes goes unborn gone) left

/-- No backend is orphaned but by a failure to apply it. When a creation returns that was not
canceled, each backend that it made is registered under the name of its task and was not torn down,
or it is not registered and was torn down once, unless it could not be applied, or was registered
and taken out by somebody else. -/
theorem backend_settled (d : Daemon) (rest : d.AtRest) (reached : GoesOn (opening d) t)
    {token : Token} {goal : Goal} {task : Task}
    (going : t.going? i = some (.create token goal (.making task)))
    (made : (t.daemon.make task).1 = .ok b) (on : GoesOn (t.turn i) t') {o : Operation}
    (last : t'.going? i = some o) {r : Operation.Result} (returns : (o.turn t'.daemon).1 = .done r)
    (heeded : r ≠ .error .canceled) : Fate (t.turn i) (t'.turn i) i b r := by
  have sound := ((opening_sound rest).goesOn reached).goes (.event t (.turn i))
  obtain ⟨sound', custody⟩ := (Custody.made going made).goesOn sound on
  cases custody with
  | held fresh spared => exact Custody.ends_held sound' last returns heeded fresh spared
  | handed still inside spared unborn place =>
      exact Custody.ends_handed sound' still inside spared unborn place r
  | finished _ ended =>
      rw [ended] at last
      cases last

/-- A creation that is about to make its backend. -/
def expectant (d : Daemon) (goal : Goal) : Traffic :=
  (opening d).run [.call (.create ⟨0⟩ goal sampleTask), .turn 0]

/-- Rendering takes five milliseconds; then the task is registered. -/
theorem backend_settled_sample :
    ∃ r, Fate ((expectant (sample.daemon .default) .add).turn 0)
        ((((expectant (sample.daemon .default) .add).turn 0).run
          [.turn 0, .pass 5, .turn 0]).turn 0) 0 0 r ∧ r ≠ .error .canceled := by
  have settled := backend_settled (sample.daemon .default) (Daemon.atRest_of_empty rfl)
    (t := expectant (sample.daemon .default) .add) (.run _ _) (i := 0) (b := 0) rfl rfl
    (.run _ [.turn 0, .pass 5, .turn 0]) rfl rfl nofun
  exact ⟨_, settled, nofun⟩

/-- A daemon whose backends fail to be applied. -/
def refusing : Daemon :=
  let refuses : BackendScript :=
    { BackendScript.plain with applies := .always (.error (.backend "denied")) }
  { sample.daemon .default with setting := ⟨[], refuses, none, [], .quiet⟩ }

/-- The backend of a task that cannot be applied is neither registered nor torn down when the
creation returns. -/
theorem apply_failure_orphans :
    (∃ token goal task, (expectant refusing .runAndAdd).going? 0 =
        some (.create token goal (.making task)) ∧
      ((expectant refusing .runAndAdd).daemon.make task).1 = .ok 0) ∧
    (((expectant refusing .runAndAdd).turn 0).run [.turn 0, .turn 0]).calls[0]? =
      some (.ended (.error (.applyFailed "a" 1 (.backend "denied")))) ∧
    (((expectant refusing .runAndAdd).turn 0).run [.turn 0, .turn 0]).daemon.Unregistered 0 ∧
    ((((expectant refusing .runAndAdd).turn 0).run [.turn 0, .turn 0]).daemon.backend 0).count
      .destroy = 0 := by
  refine ⟨⟨_, _, _, rfl, rfl⟩, rfl, fun n => ?_, rfl⟩
  nofun

end Traffic

end TaskSync
