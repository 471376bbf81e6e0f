import TaskSync.Proofs.Traffic.Exclusion
import TaskSync.Proofs.Traffic.Staff

/-!
# What a controller leaves behind

A controller leaves its loop only when it is canceled or its watch has failed, and it ends when all
that it has set going has ended, wherever that was when the loop was left. As a registered stop is
that of a timer that is going, none is left then, unless another controller has timers of its own.
-/

namespace TaskSync

open Controller (Justified)

/-- A turn in the loop deals with something that is ready, or waits. -/
theorem Operation.May.looping {token : Token} {crew : Place} {watching : Bool} {rounds : Nat}
    {d : Daemon} {out : Outcome} (inside : crew < d.crews.size)
    (may : (Operation.control token (.looping crew watching rounds)).May d out) :
    (∃ c arm, d.crews[crew]? = some c ∧ Controller.Arm.Ready token c watching d arm ∧
        out = lift (control token) .error (arm.deal crew c watching rounds d)) ∨
      ∃ on, out = (.wait on, d) := by
  cases may with
  | deal known ready => exact .inl ⟨_, _, known, ready, rfl⟩
  | @heed _ _ heeded heeds =>
      obtain rfl : token = heeded := heeds.of_control.symm
      have known : d.crews[crew]? = some d.crews[crew] := Array.getElem?_eq_getElem inside
      have round : Controller.turn token (.looping crew watching rounds) d =
          Controller.round token crew d.crews[crew] watching rounds d := by
        simp only [Controller.turn, known]
      rw [Operation.heed, round]
      obtain ⟨arm, ready, same⟩ | ⟨⟨on, same⟩, -⟩ :=
        Controller.round_cases token crew d.crews[crew] watching rounds d
      · exact .inl ⟨_, arm, known, ready, by rw [same]⟩
      · exact .inr ⟨on, by rw [same]; rfl⟩

namespace Traffic

/-- What is there when a controller of a crew has ended with a failure. -/
structure Cleared (t : Traffic) (token : Token) (crew : Place) (e : Failure) : Prop where
  /-- It was canceled, or its watch failed. -/
  justified : Justified token crew t.daemon e
  watched : (t.daemon.watchEnd? crew).isSome = true
  /-- Its watch, and every run, deletion and timer that it set going, has ended. -/
  ended : ∀ j errand, t.going? j ≠ some (.errand crew errand)
  /-- What is active is in the hands of somebody else. -/
  released : ∀ name entry, t.daemon.registry.find? name = some entry → entry.active = true →
    ∃ j o, t.going? j = some o ∧ o.stake.guard? = some ⟨entry.id⟩ ∧
      ∀ errand, o ≠ .errand crew errand
  /-- A timer that can still be stopped is that of another controller. -/
  stops : ∀ task stop, t.daemon.stops.get? task = some stop →
    ∃ j other phase, other ≠ crew ∧ t.going? j = some (.errand other (.timer task phase)) ∧
      phase.stop = stop ∧
      ∃ l token' p, t.going? l = some (.control token' p) ∧ p.crew? = some other
  empty : (∀ l token' p, t.going? l ≠ some (.control token' p)) → t.daemon.stops = []

/-- Of the crew of a controller that ends, nobody is going. -/
theorem Staffed.crew_ended {t : Traffic} (h : t.Staffed) {token : Token} {crew : Place}
    {e : Failure} (finished : Controller.Over token crew t.daemon e) (j : Nat) (errand : Errand) :
    t.going? j ≠ some (.errand crew errand) := by
  intro going
  cases role : errand.role crew with
  | leader k => cases errand <;> cases role
  | watcher k =>
      have same : k = crew := by rw [← Errand.role_crew crew errand, role]; rfl
      have none := h.watched k (staff_pos.mpr ⟨j, _, going, congrArg some role⟩)
      have watched := finished.watched
      rw [← same, none] at watched
      cases watched
  | worker k =>
      have same : k = crew := by rw [← Errand.role_crew crew errand, role]; rfl
      have pos : 0 < t.staff (.worker k) := staff_pos.mpr ⟨j, _, going, congrArg some role⟩
      have counted := h.counted k
      have idle := finished.working
      rw [← same] at idle
      omega

/-- A registered stop is that of a timer that is going, and so is the controller that has set the
timer going. -/
theorem Staffed.stop_led {t : Traffic} (h : t.Staffed) {task : String} {stop : Stop}
    (found : t.daemon.stops.get? task = some stop) :
    ∃ j crew phase, t.going? j = some (.errand crew (.timer task phase)) ∧ phase.stop = stop ∧
      ∃ l token p, t.going? l = some (.control token p) ∧ p.crew? = some crew := by
  obtain ⟨j, o, going, its⟩ := h.stops task stop found
  obtain ⟨crew, phase, rfl, own⟩ := Operation.timer_of_stop its
  have led := h.led crew (.inl (staff_pos.mpr ⟨j, _, going, rfl⟩))
  obtain ⟨l, o, there, role⟩ := staff_pos.mp led
  obtain ⟨token, p, rfl, lead⟩ := Operation.control_of_leader role
  exact ⟨j, crew, phase, going, own, l, token, p, there, lead⟩

theorem Staffed.cleared {t : Traffic} (h : t.Staffed) (sound : t.Sound) {token : Token}
    {crew : Place} {e : Failure} (finished : Controller.Over token crew t.daemon e) :
    t.Cleared token crew e := by
  have ended := h.crew_ended finished
  refine ⟨finished.justified, finished.watched, ended, fun name entry found active => ?_,
    fun task stop found => ?_, fun alone => ?_⟩
  · obtain ⟨j, holds⟩ := (sound.excludes.flag name entry found).mp active
    cases going : t.going? j with
    | none =>
        rw [guard?, stake, going] at holds
        cases holds
    | some o =>
        rw [guard?, stake, going] at holds
        exact ⟨j, o, going, holds, fun errand same => ended j errand (same ▸ going)⟩
  · obtain ⟨j, other, phase, going, its, led⟩ := h.stop_led found
    exact ⟨j, other, phase, fun same => ended j _ (same ▸ going), going, its, led⟩
  · cases left : t.daemon.stops with
    | nil => rfl
    | cons entry rest =>
        have found : t.daemon.stops.get? entry.1 = some entry.2 := by
          rw [left, SortedMap.get?, List.lookup_cons, beq_self_eq_true]
        obtain ⟨-, -, -, -, -, l, token', p, there, -⟩ := h.stop_led found
        exact absurd there (alone l token' p)

/-- What comes of a turn of a controller. -/
structure Controls (t : Traffic) (i : Nat) (token : Token) (p : Controller.Phase)
    (out : Operation.Outcome) : Prop where
  ends : ∀ r, out.1 = .done r →
    ∃ crew e, p.crew? = some crew ∧ r = .error e ∧ (t.take i out).Cleared token crew e
  /-- The loop goes on, waits, or is left for a reason. -/
  stays : ∀ crew watching rounds, p = .looping crew watching rounds →
    (∃ watching' rounds', out.1 = .next (.control token (.looping crew watching' rounds'))) ∨
      (∃ on, out = (.wait on, t.daemon)) ∨
      ∃ watching' e, out.1 = .next (.control token (.draining crew watching' e)) ∧
        Justified token crew t.daemon e
  /-- The end of a watch that did not fail changes nothing. -/
  watchOver : ∀ crew c watching rounds, p = .looping crew watching rounds →
    Controller.Arm.watchOver.Ready token c watching t.daemon →
    Controller.Arm.watchOver.deal crew c watching rounds t.daemon =
      (.next (.looping crew false (rounds + 1)), t.daemon)
  /-- A template that no task has is taken from the inbox, and that is all. -/
  unknown : ∀ crew c watching rounds template, p = .looping crew watching rounds →
    (Controller.Arm.triggered template).Ready token c watching t.daemon →
    t.daemon.taskByTemplate template = none →
    (Controller.Arm.triggered template).deal crew c watching rounds t.daemon =
      (.next (.looping crew watching (rounds + 1)),
        (Controller.setCrew t.daemon crew { c with inbox := c.inbox.tail }).signal
          (.inboxFreed crew))

theorem Staffed.controls {t : Traffic} (h : t.Staffed) (sound : t.Sound) {i : Nat} {token : Token}
    {p : Controller.Phase} {out : Operation.Outcome}
    (going : t.going? i = some (.control token p))
    (may : (Operation.control token p).May t.daemon out) :
    t.Controls i token p out := by
  have known : ∀ crew, p.crew? = some crew → crew < t.daemon.crews.size :=
    fun crew lead => h.known_control going lead
  refine ⟨fun r done => ?_, fun crew watching rounds looping => ?_, fun _ _ _ _ _ _ => rfl,
    fun crew c watching rounds template _ _ none => ?_⟩
  · obtain ⟨lead, turn, conducts⟩ := may.conducts h.still known
    have heeds := conducts.heeds (h.heeds i token p going)
    have goes := conducts.goes
    have staffed := h.take going may
    obtain ⟨p' | on | e, d⟩ := lead
    · subst turn
      cases done
    · subst turn
      cases done
    · subst turn
      cases done
      obtain ⟨working, watched, justified⟩ := heeds
      exact ⟨_, e, goes, rfl, staffed.cleared (sound.take going may) ⟨working, watched, justified⟩⟩
  · subst looping
    obtain ⟨c, arm, there, ready, rfl⟩ | ⟨on, wait⟩ := may.looping (known crew rfl)
    · cases arm with
      | canceled => exact .inr (.inr ⟨_, _, rfl, .inl ⟨rfl, ready⟩⟩)
      | triggered | announced | requested | watchOver => exact .inl ⟨_, _, rfl⟩
      | watchFailed e =>
          have failed : t.daemon.watchEnd? crew = some (.error e) :=
            (Daemon.watchEnd?_of_known there).trans ready.2
          exact .inr (.inr ⟨_, _, rfl, .inr ⟨e, rfl, failed⟩⟩)
    · exact .inr (.inl ⟨on, wait⟩)
  · have still : ((Controller.setCrew t.daemon crew { c with inbox := c.inbox.tail }).signal
        (.inboxFreed crew)).taskByTemplate template = Option.none := none
    rw [Controller.Arm.deal, Controller.trigger, still]

/-- Whatever else goes on, and whichever of several ready things calls take first. -/
theorem clean_shutdown {d : Daemon} (rest : d.AtRest) (unscheduled : d.stops = []) {t : Traffic}
    (goes : GoesOn (opening d) t) {i : Nat} {token : Token} {p : Controller.Phase}
    {out : Operation.Outcome} (going : t.going? i = some (.control token p))
    (may : (Operation.control token p).May t.daemon out) : t.Controls i token p out :=
  ((opening_staffed unscheduled).goesOn goes).controls ((opening_sound rest).goesOn goes) going may

/-- The scenario of before, with a token for a controller. -/
def controlled : Daemon :=
  { sample.daemon .default with tokens := Tokens.empty.fresh.2 }

/-- A controller is canceled in its loop and waits for its watch. -/
def controlEvents : List Event :=
  [.call (.control ⟨0⟩), .turn 0, .turn 0, .turn 0, .turn 1, .turn 0, .cancel ⟨0⟩, .turn 0, .turn 0,
    .turn 0, .turn 1]

theorem clean_shutdown_sample :
    controlled.AtRest ∧ controlled.stops = [] ∧
      ((opening controlled).run controlEvents).Controls 0 ⟨0⟩ (.joining 0 .canceled)
        ((Operation.control ⟨0⟩ (.joining 0 .canceled)).turn
          ((opening controlled).run controlEvents).daemon) ∧
      (((Operation.control ⟨0⟩ (.joining 0 .canceled)).turn
          ((opening controlled).run controlEvents).daemon).1 = .done (.error .canceled)) :=
  ⟨Daemon.atRest_of_empty rfl, rfl,
    clean_shutdown (Daemon.atRest_of_empty rfl) rfl (.run (opening controlled) controlEvents)
      rfl (.turn _ _),
    rfl⟩

end Traffic

end TaskSync
