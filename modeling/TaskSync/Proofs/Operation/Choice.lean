import TaskSync.Proofs.Operation.Leaves

/-!
# Turns with a choice

Where several things are ready at a time, the program takes one of them in a fixed order. Here any
of them may be taken: a controller deals with what it likes, an operation whose time has come may go
on though it is canceled, a timer may fire, and a watch may hand on any template and end in any way,
whatever its script says. What is taken first in the fixed order is one of these choices.
-/

namespace TaskSync

/-- The mailbox without its first name. -/
def Mailbox.tail (m : Mailbox) : Mailbox := { m with items := m.items.tail }

theorem Mailbox.take?_eq_some {m m' : Mailbox} {item : String} (h : m.take? = some (item, m')) :
    m.items.head? = some item ∧ m' = m.tail := by
  unfold take? at h
  split at h
  · cases h
  next x xs items =>
    cases h
    simp [tail, items]

namespace Controller

/-- What a controller can deal with next. -/
inductive Arm where
  | canceled
  | triggered (template : String)
  | announced (task : String)
  | requested (task : String)
  | watchOver
  | watchFailed (e : WatchError)

namespace Arm

def Ready (token : Token) (c : Crew) (watching : Bool) (d : Daemon) : Arm → Prop
  | canceled => d.isCanceled token = true
  | triggered template => c.inbox.items.head? = some template
  | announced task => d.created.items.head? = some task
  | requested task => d.deletes.items.head? = some task
  | watchOver => watching = true ∧ c.watched = some (.ok ())
  | watchFailed e => watching = true ∧ c.watched = some (.error e)

/-- What comes of dealing with it. -/
def deal (crew : Place) (c : Crew) (watching : Bool) (rounds : Nat) (d : Daemon) : Arm → Outcome
  | canceled => stop crew watching .canceled d
  | triggered template =>
    (.next (.looping crew watching (rounds + 1)),
      trigger crew template
        ((setCrew d crew { c with inbox := c.inbox.tail }).signal (.inboxFreed crew)))
  | announced task =>
    (.next (.looping crew watching (rounds + 1)),
      startTimer crew task { d with created := d.created.tail })
  | requested task =>
    (.next (.looping crew watching (rounds + 1)),
      engage crew (.delete task) { d with deletes := d.deletes.tail })
  | watchOver => (.next (.looping crew false (rounds + 1)), d)
  | watchFailed e => stop crew false (.watcher e) d

theorem deal_aloof (crew : Place) (c : Crew) (watching : Bool) (rounds : Nat) (d : Daemon)
    (arm : Arm) : d.Aloof (arm.deal crew c watching rounds d).2 := by
  cases arm with
  | canceled => exact stop_aloof crew watching _ d
  | triggered template =>
      refine .trans ?_ (trigger_aloof crew template _)
      exact ⟨rfl⟩
  | announced task =>
      refine .trans ?_ (startTimer_aloof crew task _)
      exact ⟨rfl⟩
  | requested task =>
      refine .trans ?_ (engage_aloof crew _ _)
      exact ⟨rfl⟩
  | watchOver => exact .refl d
  | watchFailed e => exact stop_aloof crew false _ d

end Arm

/-- A round deals with something that is ready, and waits only if nothing is. -/
theorem round_cases (token : Token) (crew : Place) (c : Crew) (watching : Bool) (rounds : Nat)
    (d : Daemon) :
    (∃ arm : Arm, arm.Ready token c watching d ∧
        round token crew c watching rounds d = arm.deal crew c watching rounds d) ∨
      (∃ on, round token crew c watching rounds d = (.wait on, d)) ∧
        ∀ arm : Arm, ¬ arm.Ready token c watching d := by
  have empty : ∀ m : Mailbox, m.take? = none → m.items = [] := by
    intro m none
    unfold Mailbox.take? at none
    split at none
    · assumption
    · cases none
  unfold round
  simp only
  split
  next canceled => exact .inl ⟨.canceled, canceled, rfl⟩
  next going =>
    split
    next template inbox taken =>
      obtain ⟨first, rfl⟩ := Mailbox.take?_eq_some taken
      exact .inl ⟨.triggered template, first, rfl⟩
    next task created _ taken =>
      obtain ⟨first, rfl⟩ := Mailbox.take?_eq_some taken
      exact .inl ⟨.announced task, first, rfl⟩
    next task deletes _ _ taken =>
      obtain ⟨first, rfl⟩ := Mailbox.take?_eq_some taken
      exact .inl ⟨.requested task, first, rfl⟩
    next finished => exact .inl ⟨.watchOver, ⟨rfl, finished⟩, rfl⟩
    next e _ _ _ failed => exact .inl ⟨.watchFailed e, ⟨rfl, failed⟩, rfl⟩
    next inbox created deletes finished failed =>
      refine .inr ⟨⟨_, rfl⟩, fun arm ready => ?_⟩
      cases arm with
      | canceled => exact going ready
      | triggered template =>
          rw [Arm.Ready, empty _ inbox] at ready
          cases ready
      | announced task =>
          rw [Arm.Ready, empty _ created] at ready
          cases ready
      | requested task =>
          rw [Arm.Ready, empty _ deletes] at ready
          cases ready
      | watchOver => exact finished ready.2 ready.1
      | watchFailed e => exact failed e ready.2 ready.1

end Controller

/-- A timer whose time has come runs its task, if there is one. -/
def Timer.wake (token : Token) (task : String) (stop : Stop) (served : Place) (s : Cron.Schedule)
    (d : Daemon) : Outcome :=
  if d.registry.contains task then (.next (.running stop served s (.start task)), d)
  else finish token task stop (some served) (.ok ()) d

theorem Timer.wake_move (token : Token) (task : String) (stop : Stop) (served : Place)
    (s : Cron.Schedule) (due : Nat) (d : Daemon) :
    Move (fun _ => False) .nothing
      ((wake token task stop served s d).1.stake Phase.stake (.sleeping stop served s due)) d
      (wake token task stop served s d).2 := by
  unfold wake
  split
  · exact .keep (.refl d)
  · exact finish_move token task stop _ _ d _

theorem Timer.wake_aloof (token : Token) (task : String) (stop : Stop) (served : Place)
    (s : Cron.Schedule) (d : Daemon) : d.Aloof (wake token task stop served s d).2 := by
  unfold wake
  split
  · exact .refl d
  · exact (finish_aloof token task stop _ _ d (.start stop none)).2

namespace Operation

/-- What an errand that is an operation comes to. -/
def settled {π ρ : Type} (crew : Place) (errand : π → Errand) (leave : ρ → Daemon → Daemon)
    (out : Turn π ρ × Daemon) : Outcome :=
  lift (.errand crew) (fun _ => .ok .done) (Errand.settled errand leave out)

/-- The turns that an operation may take. -/
inductive May : Operation → Daemon → Outcome → Prop where
  | heed {o : Operation} {d : Daemon} {token : Token} (heeds : o.Heeds d token) :
      May o d (o.heed token d)
  | deal {token : Token} {crew : Place} {c : Crew} {watching : Bool} {rounds : Nat} {d : Daemon}
      {arm : Controller.Arm} (known : d.crews[crew]? = some c)
      (ready : arm.Ready token c watching d) :
      May (.control token (.looping crew watching rounds)) d
        (lift (.control token) .error (arm.deal crew c watching rounds d))
  | fire {crew : Place} {task : String} {stop : Stop} {served : Place} {s : Cron.Schedule}
      {due : Nat} {d : Daemon} (passed : due ≤ d.clock) :
      May (.errand crew (.timer task (.sleeping stop served s due))) d
        (settled crew (.timer task) (fun _ => Errand.leave crew)
          (Timer.wake (Errand.crewToken d crew) task stop served s d))
  | watchEnds {crew : Place} {phase : Watch.Phase} {d : Daemon} (result : Watch.Result) :
      May (.errand crew (.watch phase)) d
        (settled crew .watch (Errand.leaveWatch crew) (Watch.finish crew result d))
  | watchSends {crew : Place} {phase : Watch.Phase} {c : Crew} {inbox : Mailbox} {d : Daemon}
      (template : String) (known : d.crews[crew]? = some c)
      (room : c.inbox.offer? template = some inbox) :
      May (.errand crew (.watch phase)) d
        (.next (.errand crew (.watch phase)),
          (Controller.setCrew d crew { c with inbox }).signal (.inboxArrived crew))

/-- The turn that comes first in the fixed order. -/
theorem May.turn (o : Operation) (d : Daemon) : o.May d (o.turn d) := by
  rw [turn_eq_heed]
  exact .heed .own

/-- No choice gives a stake that the fixed order does not. -/
theorem May.progress {o : Operation} {d : Daemon} {out : Outcome} (may : o.May d out)
    (inside : ∀ b, o.stake = .fresh b → b < d.backends.size) :
    Progress o.Closes o.stake (out.1.stake Operation.stake o) d out.2 := by
  cases may with
  | heed => exact o.heed_progress _ d inside
  | @deal token crew c watching rounds _ arm known ready =>
      have aloof := arm.deal_aloof crew c watching rounds d
      obtain ⟨stake, daemon⟩ := lift_stake (control token) Except.error (fun _ => .nothing)
        (fun _ => rfl) (.looping crew watching rounds) (arm.deal crew c watching rounds d)
      rw [stake, daemon]
      cases (arm.deal crew c watching rounds d).1 with
      | next | wait | done => exact .move (.keep aloof.quiet)
  | @fire crew task stop served s due _ passed =>
      obtain ⟨stake, daemon⟩ := lift_stake (errand crew) (fun _ => .ok .done) Errand.stake
        (fun _ => rfl) (.timer task (.sleeping stop served s due))
        (Errand.settled (.timer task) (fun _ => Errand.leave crew)
          (Timer.wake (Errand.crewToken d crew) task stop served s d))
      rw [settled, stake, daemon]
      show Progress _ (Errand.timer task (.sleeping stop served s due)).stake _ _ _
      exact .move (Errand.settled_move Timer.Phase.stake (fun _ => rfl)
        (fun _ d => Errand.leave_aloof crew d) (Timer.wake_move _ task stop served s due d))
  | @watchEnds crew phase _ result =>
      have aloof := (Watch.finish_aloof crew result d).trans
        (Errand.leaveWatch_aloof crew result _)
      exact .move (.keep aloof.quiet)
  | @watchSends crew phase c inbox _ template known room =>
      have aloof : d.Aloof
          ((Controller.setCrew d crew { c with inbox }).signal (.inboxArrived crew)) := ⟨rfl⟩
      exact .move (.keep aloof.quiet)

/-- Whatever turn is taken, it calls only the backend that the operation has a stake in, and writes
only what the operation had in hand. -/
theorem May.leaves {o : Operation} {d : Daemon} {out : Outcome} (may : o.May d out) :
    Leaves o.stake.backend? o.write? d out.2 := by
  cases may with
  | heed => exact o.heed_leaves _ d
  | @deal token crew c watching rounds _ arm known ready =>
      rw [lift_snd]
      exact .of_aloof (arm.deal_aloof crew c watching rounds d)
  | @fire crew task stop served s due _ passed =>
      rw [settled, lift_snd]
      exact .of_aloof ((Timer.wake_aloof _ task stop served s d).trans
        (Errand.settled_aloof (fun _ d => Errand.leave_aloof crew d) _))
  | @watchEnds crew phase _ result =>
      rw [settled, lift_snd]
      exact .of_aloof ((Watch.finish_aloof crew result d).trans
        (Errand.settled_aloof (fun r d => Errand.leaveWatch_aloof crew r d) _))
  | watchSends => exact .of_aloof ⟨rfl⟩

theorem turn_leaves (o : Operation) (d : Daemon) :
    Leaves o.stake.backend? o.write? d (o.turn d).2 :=
  (May.turn o d).leaves

/-! ### Creations and deletions -/

/-- Only a creation goes on as one. -/
theorem May.creation_next {o : Operation} {d : Daemon} {out : Outcome} {own : Token} {goal : Goal}
    {p : Creation.Phase} (may : o.May d out) (next : out.1 = .next (.create own goal p)) :
    ∃ p₀ token, o = .create own goal p₀ ∧ out.2 = (Creation.turn token goal p₀ d).2 ∧
      (Creation.turn token goal p₀ d).1 = .next p := by
  cases may with
  | @heed _ _ token =>
      cases o with
      | create own' goal' p₀ =>
          obtain ⟨p', turned, same, daemon⟩ := lift_next _ next
          cases same
          exact ⟨p₀, token, rfl, daemon, turned⟩
      | update | run | delete | control | errand =>
          obtain ⟨_, _, other, _⟩ := lift_next _ next
          cases other
  | deal | fire | watchEnds =>
      obtain ⟨_, _, other, _⟩ := lift_next _ next
      cases other
  | watchSends => cases next

/-- The deletion that an operation is, on its own or for a controller. -/
def deletion? : Operation → Option Deletion.Phase
  | delete _ phase | errand _ (.delete phase) => some phase
  | _ => none

theorem not_closes {o : Operation} (h : o.deletion? = none) (name : String) : ¬ o.Closes name := by
  cases o with
  | delete token phase => cases h
  | errand crew e =>
      cases e with
      | delete phase => cases h
      | watch | timer | run => exact id
  | create | update | run | control => exact id

theorem stake_of_deletion {o : Operation} {p : Deletion.Phase} (h : o.deletion? = some p) :
    o.stake = p.stake := by
  cases o with
  | delete token phase =>
      cases h
      rfl
  | errand crew e =>
      cases e with
      | delete phase =>
          cases h
          rfl
      | watch | timer | run => cases h
  | create | update | run | control => cases h

/-- What comes of an operation is what comes of the deletion that it is. -/
structure Deletes (turn : Deletion.Outcome) (out : Outcome) : Prop where
  registry : out.2.registry = turn.2.registry
  next : ∀ p, turn.1 = .next p → ∃ o, out.1 = .next o ∧ o.deletion? = some p
  wait : ∀ on, turn.1 = .wait on → out.1 = .wait on
  done : ∀ r, turn.1 = .done r → ∃ r', out.1 = .done r'

/-- A deletion takes no turns but its own. -/
theorem May.deletes {o : Operation} {p : Deletion.Phase} {d : Daemon} {out : Outcome}
    (may : o.May d out) (deletion : o.deletion? = some p) :
    ∃ token, o.Heeds d token ∧ Deletes (Deletion.turn token p d) out := by
  cases may with
  | @heed _ _ token heeds =>
      refine ⟨token, heeds, ?_⟩
      cases o with
      | delete own phase =>
          cases deletion
          refine ⟨?_, fun p' next => ⟨_, lift_of_next _ _ next, rfl⟩, fun on wait =>
            lift_of_wait _ _ wait, fun r done => ⟨_, lift_of_done _ _ done⟩⟩
          rw [Operation.heed, lift_snd]
      | errand crew e =>
          cases e with
          | delete phase =>
              cases deletion
              rw [Operation.heed, Errand.heed]
              constructor
              case registry =>
                rw [lift_snd, (Errand.settled_aloof (fun _ d => Errand.leave_aloof crew d) _).frame]
              case next =>
                intro p' next
                exact ⟨_, lift_of_next _ _ (Errand.settled_of_next _ _ next), rfl⟩
              case wait =>
                intro on wait
                exact lift_of_wait _ _ (Errand.settled_of_wait _ _ wait)
              case done =>
                intro r done
                exact ⟨_, lift_of_done _ _ (Errand.settled_of_done _ _ done)⟩
          | watch | timer | run => cases deletion
      | create | update | run | control => cases deletion
  | deal | fire | watchEnds | watchSends => cases deletion

end Operation

end TaskSync
