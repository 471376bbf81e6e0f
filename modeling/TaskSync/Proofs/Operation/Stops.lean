import TaskSync.Proofs.Daemon.Stops
import TaskSync.Proofs.Operation.Deeds
import TaskSync.Proofs.Operation.Lead

/-!
# What a turn makes of the stops

Only controllers and timers register stops. A controller sets a timer going with each one that it
registers. A timer goes on with its stop until it ends; then it gives the stop back, and it may go
on with a new one. All others cut timers off at most.
-/

namespace TaskSync

open Daemon (Admits Cuts)

/-- The timer that is set going. -/
def Happening.timer? : Happening → Option (String × Stop)
  | .work _ (.timer task stop) => some (task, stop)
  | _ => none

/-- The stops of the timers that are set going, the last one first. -/
def Daemon.sent (d : Daemon) : List (String × Stop) := d.happenings.filterMap Happening.timer?

theorem Daemon.Still.sent {d : Daemon} (h : d.Still) : d.sent = [] := by
  refine List.filterMap_eq_nil_iff.mpr fun x there => ?_
  cases x with
  | signal s => rfl
  | work k w => exact absurd there (h k w)

namespace Run

theorem entered_stops (task : String) (b : Place) (scheduled : Bool) (g : Guard) (d : Daemon) :
    (entered task b scheduled g d).2.stops = d.stops := by
  unfold entered
  split
  · rfl
  · simp only
    split
    · rfl
    · obtain ⟨c, told⟩ := d.notifyCompletion_frame task
      rw [told]
      rfl

theorem activate_stops {task : String} {g : Guard} {d d₁ : Daemon}
    (taken : d.tryActivate task = .ok (some g, d₁)) : d₁.stops = d.stops := by
  obtain ⟨r, activated, rfl⟩ := Daemon.tryActivate_eq_some taken
  rfl

theorem enter_stops (task : String) (b : Place) (d : Daemon) :
    (enter task b d).2.stops = d.stops := by
  unfold enter
  rcases Activation.look_cases task d with ⟨_, look⟩ | ⟨_, _, _, look⟩ | ⟨g, d₁, taken, look⟩
  · rw [look]
  · rw [look]
  · rw [look]
    exact (entered_stops task b false g d₁).trans (activate_stops taken)

theorem enterScheduled_stops (task : String) (b : Place) (d : Daemon) :
    (enterScheduled task b d).2.stops = d.stops := by
  unfold enterScheduled
  rcases Activation.look_cases task d with ⟨_, look⟩ | ⟨_, _, _, look⟩ | ⟨g, d₁, taken, look⟩
  · rw [look]
  · rw [look]
  · rw [look]
    exact (entered_stops task b true g d₁).trans (activate_stops taken)

/-- A run leaves all stops where they are. -/
theorem turn_stops (token : Token) (p : Phase) (d : Daemon) :
    (turn token p d).2.stops = d.stops := by
  cases p with
  | start task =>
      simp only [turn, begin]
      split
      · rfl
      split
      · rfl
      split
      · exact enterScheduled_stops task _ d
      · exact enter_stops task _ d
  | queued task backend due =>
      simp only [turn]
      split
      · rfl
      split
      · exact enter_stops task backend d
      · rfl
  | rendering h call =>
      obtain ⟨lines, -, aside⟩ :=
        TimedCall.render.turn_aside TimedCall.render_takes h.backend token call d
      have same : (TimedCall.render.turn h.backend token call d).2.stops = d.stops := by
        rw [aside.frame]
      simp only [turn]
      split <;> rename_i eq <;> rw [eq] at same
      · exact same
      · exact same
      · exact same
      · exact same
      · split
        · exact same
        · exact same
  | applying h retries call =>
      obtain ⟨lines, -, aside⟩ :=
        TimedCall.apply.turn_aside TimedCall.apply_takes h.backend token call d
      have same : (TimedCall.apply.turn h.backend token call d).2.stops = d.stops := by
        rw [aside.frame]
      simp only [turn]
      split <;> rename_i eq <;> rw [eq] at same
      · exact same
      · exact same
      · unfold retry
        split
        · exact same
        · exact same
      · exact same
  | backingOff h retries due =>
      simp only [turn]
      split
      · rfl
      split
      · rfl
      · rfl
  | recording h applied result =>
      obtain ⟨s, faults, after, -⟩ := d.write_frame .addRecord h.record.taskName
        (·.addRecord h.record)
      have same : (d.addRecord h.record).stops = d.stops := by
        rw [show d.addRecord h.record = _ from after]
      simp only [turn]
      split
      · obtain ⟨c, told⟩ := (d.addRecord h.record).notifyCompletion_frame h.task
        rw [told]
        exact same
      · exact same

end Run

/-! ### Timers -/

namespace Timer

/-- What a turn of a timer makes of the stops: the timer goes on with its own, or gives it back and
then goes on with a new one at most. -/
inductive Turns (task : String) (p : Phase) (d : Daemon) (out : Outcome) : Prop where
  | goesOn (cuts : d.Cuts out.2) (same : out.2.stops = d.stops)
      (own : out.1.holds (some ·.stop) p = some p.stop)
  | givesBack {d₁ : Daemon} {xs : List (String × Stop)} (cuts : d.Cuts d₁)
      (same : d₁.stops = d.stops) (admits : (d₁.releaseStop task p.stop).Admits xs out.2)
      (own : ∀ s, out.1.holds (some ·.stop) p = some s → (task, s) ∈ xs)

theorem finish_turns (token : Token) (task : String) (served : Option Place) (result : Result)
    {d d₁ : Daemon} (cuts : d.Cuts d₁) (same : d₁.stops = d.stops) (p : Phase) :
    Turns task p d (finish token task p.stop served result d₁) := by
  have ends (r : Result) : Turns task p d (.done r, d₁.releaseStop task p.stop) :=
    .givesBack cuts same (.refl _) nofun
  unfold finish
  simp only
  split
  · exact ends _
  split
  · exact ends _
  split
  · exact ends _
  · have admits := Admits.registerStop (d₁.releaseStop task p.stop) task
    split <;> rename_i eq <;> rw [eq] at admits
    · exact .givesBack cuts same admits nofun
    · refine .givesBack cuts same admits fun s own => ?_
      cases own
      exact List.mem_cons_self

theorem wake_turns (token : Token) (task : String) (stop : Stop) (served : Place)
    (s : Cron.Schedule) (due : Nat) (d : Daemon) :
    Turns task (.sleeping stop served s due) d (wake token task stop served s d) := by
  unfold wake
  split
  · exact .goesOn (.refl d) rfl rfl
  · exact finish_turns token task _ _ (.refl d) rfl (.sleeping stop served s due)

theorem turn_turns (token : Token) (task : String) (p : Phase) (d : Daemon) :
    Turns task p d (turn token task p d) := by
  have finishes (served : Option Place) (result : Result) :
      Turns task p d (finish token task p.stop served result d) :=
    finish_turns token task served result (.refl d) rfl p
  cases p with
  | start stop served =>
      simp only [turn]
      split
      · exact finishes _ _
      split
      · exact finishes _ _
      · exact .goesOn (.refl d) rfl rfl
  | planning stop served s =>
      simp only [turn]
      split
      · exact finishes _ _
      · exact .goesOn (.refl d) rfl rfl
  | sleeping stop served s due =>
      simp only [turn]
      split
      · exact finishes _ _
      split
      · exact wake_turns token task stop served s due d
      · exact .goesOn (.refl d) rfl rfl
  | running stop served s run =>
      obtain ⟨x, between, -⟩ := Run.turn_does token run d
      have same := Run.turn_stops token run d
      simp only [turn]
      split <;> rename_i eq <;> rw [eq] at between same
      · exact .goesOn between.toCuts same rfl
      · exact .goesOn between.toCuts same rfl
      · exact finish_turns token task _ _ between.toCuts same (.running stop served s run)
      · exact .goesOn between.toCuts same rfl

end Timer

/-! ### Controllers -/

namespace Controller

/-- What a turn of a controller makes of the stops: timers are cut off at most, then stops are
registered, and a timer is set going with each of them. -/
abbrev Starts (d d' : Daemon) : Prop :=
  ∃ d₁ xs, d.Cuts d₁ ∧ d₁.Admits xs d' ∧ d'.sent = xs.reverse

theorem sent_engage {crew : Place} {d : Daemon} (inside : crew < d.crews.size) (w : Work) :
    (engage crew w d).sent = (Happening.work crew w).timer?.toList ++ d.sent := by
  unfold engage
  rw [Array.getElem?_eq_getElem inside]
  show List.filterMap _ (.work crew w :: d.happenings) = _
  rw [List.filterMap_cons]
  cases (Happening.work crew w).timer? <;> rfl

/-- A timer is started with the stop that is registered for it. -/
theorem startTimer_starts {crew : Place} {d : Daemon} (inside : crew < d.crews.size)
    (task : String) : ∃ xs, d.Admits xs (startTimer crew task d) ∧
      (startTimer crew task d).sent = xs.reverse ++ d.sent := by
  have admits := Admits.registerStop d task
  obtain ⟨crews, happenings, -⟩ := Timer.registerStop_frame d task
  unfold startTimer
  split <;> rename_i eq <;> rw [eq] at admits crews happenings
  next d₁ =>
    refine ⟨_, admits, ?_⟩
    unfold Daemon.sent
    rw [happenings]
    rfl
  next stop d₁ =>
    have inside₁ : crew < d₁.crews.size := by
      rw [crews]
      exact inside
    have engaged : d₁.Admits [] (engage crew (.timer task stop) d₁) := by
      unfold engage
      rw [Array.getElem?_eq_getElem inside₁]
      exact .of_same rfl rfl rfl
    refine ⟨[(task, stop)], admits.trans engaged, ?_⟩
    · rw [sent_engage inside₁]
      unfold Daemon.sent
      rw [happenings]
      rfl

theorem startTimers_starts {crew : Place} {d : Daemon} (inside : crew < d.crews.size)
    (tasks : List String) : ∃ xs,
      d.Admits xs (tasks.foldl (fun d task => startTimer crew task d) d) ∧
      (tasks.foldl (fun d task => startTimer crew task d) d).sent = xs.reverse ++ d.sent := by
  induction tasks generalizing d with
  | nil => exact ⟨[], .refl d, rfl⟩
  | cons task tasks ih =>
      obtain ⟨xs, admits, sent⟩ := startTimer_starts inside task
      have size := (Daemon.Enlists.startTimer inside task).size
      obtain ⟨ys, admits', sent'⟩ := ih (size ▸ inside)
      refine ⟨xs ++ ys, admits.trans admits', ?_⟩
      rw [List.foldl_cons, sent', sent, List.reverse_append, List.append_assoc]

section Turns

variable {token : Token} {d : Daemon}

theorem Starts.of_cuts {d' : Daemon} (cuts : d.Cuts d') (still : d'.Still) : Starts d d' :=
  ⟨d', [], cuts, .refl d', still.sent⟩

theorem begin_starts (token : Token) (still : d.Still) : Starts d (begin token d).2 := by
  let crewed : Daemon := { d with
    tokens := (d.tokens.child token).2
    crews := d.crews.push ⟨(d.tokens.child token).1, .empty inboxCapacity, 0, none⟩ }
  have cuts : d.Cuts (crewed.happen (.work d.crews.size .watch)) :=
    { nextStop := rfl
      tokens := Nat.le_of_lt (Nat.lt_of_lt_of_eq (Nat.lt_succ_self _)
        (Tokens.length_push d.tokens _).symm)
      canceled := fun t before => Tokens.isCanceled_push before _
      stops := fun _ _ found => found
      gone := fun _ _ found _ => .inl found }
  have inside : d.crews.size < (crewed.happen (.work d.crews.size .watch)).crews.size := by
    show _ < (d.crews.push _).size
    rw [Array.size_push]
    exact Nat.lt_succ_self _
  obtain ⟨xs, admits, sent⟩ := startTimers_starts inside
    (crewed.registry.namesWhere fun b => (crewed.taskOf b).isScheduled)
  refine ⟨_, xs, cuts, admits, sent.trans ?_⟩
  have idle : (crewed.happen (.work d.crews.size .watch)).sent = [] := still.sent
  rw [idle, List.append_nil]

theorem stop_starts (crew : Place) (watching : Bool) (e : Failure) (still : d.Still) :
    Starts d (stop crew watching e d).2 := by
  unfold stop
  simp only
  split
  next c _ =>
    refine .of_cuts ((Cuts.cancel d c.token).trans (.stopTimers _)) fun k w engaged => ?_
    exact still k w ((d.engaged_cancel _).mp ((Daemon.engaged_stopTimers _).mp engaged))
  · exact .of_cuts (.stopTimers d) fun k w engaged => still k w (d.engaged_stopTimers.mp engaged)

/-- Work that is no timer is set going. -/
theorem engage_starts {crew : Place} {d₁ : Daemon} (inside : crew < d₁.crews.size) {w : Work}
    (other : (Happening.work crew w).timer? = none) (cuts : d.Cuts d₁) (idle : d₁.sent = []) :
    Starts d (engage crew w d₁) := by
  have engaged : d₁.Cuts (engage crew w d₁) := by
    unfold engage
    split
    · exact .refl d₁
    · exact .of_same rfl rfl rfl
  refine ⟨_, [], cuts.trans engaged, .refl _, ?_⟩
  rw [sent_engage inside, other, idle]
  rfl

theorem deal_starts {crew : Place} {c : Crew} (known : d.crews[crew]? = some c) (watching : Bool)
    (rounds : Nat) (arm : Arm) (still : d.Still) :
    Starts d (arm.deal crew c watching rounds d).2 := by
  have inside : crew < d.crews.size := (Array.getElem?_eq_some_iff.mp known).1
  cases arm with
  | canceled => exact stop_starts crew watching _ still
  | triggered template =>
      let freed : Daemon :=
        (setCrew d crew { c with inbox := c.inbox.tail }).signal (.inboxFreed crew)
      have cuts : d.Cuts freed := .of_same rfl rfl rfl
      have idle : freed.sent = [] := still.sent
      have inside' : crew < freed.crews.size :=
        Nat.lt_of_lt_of_eq inside Array.size_setIfInBounds.symm
      show Starts d (trigger crew template freed)
      unfold trigger
      split
      · exact ⟨freed, [], cuts, .refl freed, idle⟩
      · exact engage_starts inside' rfl cuts idle
  | announced task =>
      let left : Daemon := { d with created := d.created.tail }
      have inside' : crew < left.crews.size := inside
      obtain ⟨xs, admits, sent⟩ := startTimer_starts inside' task
      refine ⟨left, xs, .of_same rfl rfl rfl, admits, sent.trans ?_⟩
      have idle : left.sent = [] := still.sent
      rw [idle, List.append_nil]
  | requested task =>
      let left : Daemon := { d with deletes := d.deletes.tail }
      have inside' : crew < left.crews.size := inside
      exact engage_starts inside' rfl (.of_same rfl rfl rfl) still.sent
  | watchOver => exact .of_cuts (.refl d) still
  | watchFailed e => exact stop_starts crew false _ still

theorem finish_starts (e : Failure) (still : d.Still) : Starts d (finish e d).2 := by
  refine .of_cuts (.of_same rfl rfl rfl) fun k w engaged => still k w ?_
  exact (Daemon.engaged_signal d _).mp ((Daemon.engaged_signal _ _).mp engaged)

/-- `known` says that the crew the controller leads is there. -/
theorem turn_starts (token : Token) (p : Phase) (still : d.Still)
    (known : ∀ crew, p.crew? = some crew → crew < d.crews.size) :
    Starts d (turn token p d).2 := by
  cases p with
  | start => exact begin_starts token still
  | lockingCreated crew =>
      simp only [turn]
      split
      · exact .of_cuts (.refl d) still
      · exact .of_cuts (.of_same rfl rfl rfl) still
  | lockingDeletes crew =>
      simp only [turn]
      split
      · exact .of_cuts (.refl d) still
      · exact .of_cuts (.of_same rfl rfl rfl) still
  | looping crew watching rounds =>
      obtain ⟨c, there⟩ : ∃ c, d.crews[crew]? = some c :=
        ⟨_, Array.getElem?_eq_getElem (known crew rfl)⟩
      simp only [turn, there]
      rcases round_cases token crew c watching rounds d with ⟨arm, -, same⟩ | ⟨⟨on, same⟩, -⟩
      · rw [same]
        exact deal_starts there watching rounds arm still
      · rw [same]
        exact .of_cuts (.refl d) still
  | draining crew watching e =>
      simp only [turn]
      split
      · split
        · exact .of_cuts (.refl d) still
        · exact finish_starts e still
      · exact .of_cuts (.refl d) still
  | joining crew e =>
      simp only [turn]
      split
      · exact finish_starts e still
      · exact .of_cuts (.refl d) still

end Turns

end Controller

/-! ### All operations -/

theorem Errand.leave_same (crew : Place) (d : Daemon) :
    (leave crew d).stops = d.stops ∧ (leave crew d).nextStop = d.nextStop ∧
      (leave crew d).tokens = d.tokens := by
  unfold leave
  split
  · exact ⟨rfl, rfl, rfl⟩
  · simp only
    split
    · exact ⟨rfl, rfl, rfl⟩
    · exact ⟨rfl, rfl, rfl⟩

theorem Errand.leave_cuts (crew : Place) (d : Daemon) : d.Cuts (leave crew d) := by
  obtain ⟨stops, nextStop, tokens⟩ := leave_same crew d
  exact .of_same stops nextStop tokens

theorem Errand.leaveWatch_cuts (crew : Place) (result : Watch.Result) (d : Daemon) :
    d.Cuts (leaveWatch crew result d) := by
  unfold leaveWatch
  split
  · exact .refl d
  · exact .of_same rfl rfl rfl

theorem Watch.finish_cuts (crew : Place) (result : Result) (d : Daemon) :
    d.Cuts (finish crew result d).2 := by
  unfold finish
  split
  · exact .of_same rfl rfl rfl
  · exact .of_same rfl rfl rfl

theorem Watch.turn_cuts (crew : Place) (token : Token) (p : Phase) (d : Daemon) :
    d.Cuts (turn crew token p d).2 := by
  cases p with
  | start =>
      simp only [turn]
      split
      · exact .of_same rfl rfl rfl
      · exact .of_same rfl rfl rfl
  | watching due =>
      simp only [turn]
      split
      · exact finish_cuts crew _ d
      split
      · exact finish_cuts crew _ d
      · unfold forward
        split
        · split
          · exact .refl d
          · exact .of_same rfl rfl rfl
        · exact .refl d

namespace Operation

/-- What a turn makes of the stops: timers are cut off at most and stops are registered for timers
that are set going, or a timer gives its stop back and goes on with a new one at most. -/
inductive Shifts (o : Operation) (d : Daemon) (out : Outcome) : Prop where
  | goesOn {d₁ : Daemon} {xs : List (String × Stop)} (cuts : d.Cuts d₁)
      (admits : d₁.Admits xs out.2) (same : o.stop? ≠ none → out.2.stops = d.stops)
      (own : out.1.holds Operation.stop? o = o.stop?) (sent : out.2.sent = xs.reverse)
  | givesBack {x : String × Stop} {d₁ : Daemon} {xs : List (String × Stop)}
      (mine : o.stop? = some x) (cuts : d.Cuts d₁) (same : d₁.stops = d.stops)
      (admits : (d₁.releaseStop x.1 x.2).Admits xs out.2)
      (own : ∀ y, out.1.holds Operation.stop? o = some y → y ∈ xs) (sent : out.2.sent = [])

/-- An operation that is no timer and no controller. -/
theorem Shifts.of_cuts {o : Operation} {d : Daemon} {out : Outcome} (free : o.stop? = none)
    (next : ∀ o', out.1 = .next o' → o'.stop? = none) (cuts : d.Cuts out.2)
    (still : out.2.Still) : Shifts o d out := by
  refine .goesOn cuts (.refl _) (fun timer => absurd free timer) ?_ still.sent
  rw [free]
  cases turn : out.1 with
  | next o' => exact next o' turn
  | wait on => exact free
  | done r => rfl

theorem Shifts.of_lift {π ρ : Type} {operation : π → Operation} {answer : ρ → Result} {p : π}
    {d : Daemon} {out : Turn π ρ × Daemon} (free : ∀ p, (operation p).stop? = none)
    (cuts : d.Cuts out.2) (still : (lift operation answer out).2.Still) :
    Shifts (operation p) d (lift operation answer out) := by
  refine .of_cuts (free p) (fun o' next => ?_) ?_ still
  · obtain ⟨p', -, rfl, -⟩ := lift_next _ next
    exact free p'
  · rw [lift_snd]
    exact cuts

theorem Shifts.of_settled {π ρ : Type} {crew : Place} {errand : π → Errand}
    {leave : ρ → Daemon → Daemon} {p : π} {d : Daemon} {out : Turn π ρ × Daemon}
    (free : ∀ p, (errand p).stop? = none) (cuts : d.Cuts out.2)
    (leaves : ∀ (r : ρ) (d : Daemon), d.Cuts (leave r d))
    (still : (settled crew errand leave out).2.Still) :
    Shifts (.errand crew (errand p)) d (settled crew errand leave out) := by
  refine .of_cuts (free p) (fun o' next => ?_) ?_ still
  · obtain ⟨e', turned, rfl, -⟩ := lift_next _ next
    obtain ⟨p', -, rfl, -⟩ := Errand.settled_next _ turned
    exact free p'
  · obtain ⟨p' | on | r, d₁⟩ := out
    · exact cuts
    · exact cuts
    · exact cuts.trans (leaves r d₁)

/-- A turn of a timer as that of an operation. -/
theorem Shifts.of_timer {crew : Place} {task : String} {p : Timer.Phase} {d : Daemon}
    {out : Timer.Outcome} (turns : Timer.Turns task p d out)
    (still : (settled crew (.timer task) (fun _ => Errand.leave crew) out).2.Still) :
    Shifts (.errand crew (.timer task p)) d
      (settled crew (.timer task) (fun _ => Errand.leave crew) out) := by
  cases turns with
  | goesOn cuts same own =>
      obtain ⟨p' | on | r, d₁⟩ := out
      · refine .goesOn cuts (.refl _) (fun _ => same) ?_ still.sent
        exact congrArg (Option.map (task, ·)) own
      · exact .goesOn cuts (.refl _) (fun _ => same) rfl still.sent
      · cases own
  | @givesBack d₁ xs cuts same admits own =>
      obtain ⟨p' | on | r, d₂⟩ := out
      · refine .givesBack rfl cuts same admits (fun y holds => ?_) still.sent
        cases holds
        exact own p'.stop rfl
      · refine .givesBack rfl cuts same admits (fun y holds => ?_) still.sent
        cases holds
        exact own p.stop rfl
      · obtain ⟨stops, nextStop, tokens⟩ := Errand.leave_same crew d₂
        have leaves : d₂.Admits [] (Errand.leave crew d₂) := .of_same stops nextStop tokens
        exact .givesBack rfl cuts same (admits.trans leaves) nofun still.sent

/-- A turn of a controller as that of an operation. -/
theorem Shifts.of_starts {token : Token} {p : Controller.Phase} {d : Daemon}
    {out : Controller.Outcome} (starts : Controller.Starts d out.2) :
    Shifts (.control token p) d (lift (.control token) .error out) := by
  obtain ⟨d₁, xs, cuts, admits, sent⟩ := starts
  rw [← lift_snd (.control token) .error out] at admits sent
  refine .goesOn cuts admits (fun timer => absurd rfl timer) ?_ sent
  obtain ⟨p' | on | r, d₂⟩ := out <;> rfl

/-- An operation that leads no crew. -/
theorem May.shifts_serving {o : Operation} {d : Daemon} {out : Outcome} (may : o.May d out)
    (follows : ∀ token p, o ≠ .control token p) (still : out.2.Still) : o.Shifts d out := by
  cases may with
  | @heed _ _ token heeds =>
      cases o with
      | create own goal phase =>
          obtain ⟨x, between, -⟩ := Creation.turn_does token goal phase d
          exact .of_lift (fun _ => rfl) between.toCuts still
      | update phase =>
          obtain ⟨x, between, -⟩ := Update.turn_does phase d
          exact .of_lift (fun _ => rfl) between.toCuts still
      | run own phase =>
          obtain ⟨x, between, -⟩ := Run.turn_does token phase d
          exact .of_lift (fun _ => rfl) between.toCuts still
      | delete own phase =>
          obtain ⟨x, between, -⟩ := Deletion.turn_does token phase d
          exact .of_lift (fun _ => rfl) between.toCuts still
      | control own phase => exact absurd rfl (follows own phase)
      | errand crew e =>
          cases e with
          | watch phase =>
              exact .of_settled (fun _ => rfl) (Watch.turn_cuts crew _ phase d)
                (Errand.leaveWatch_cuts crew) still
          | timer task phase => exact .of_timer (Timer.turn_turns _ task phase d) still
          | run phase =>
              obtain ⟨x, between, -⟩ := Run.turn_does token phase d
              exact .of_settled (fun _ => rfl) between.toCuts
                (fun _ => Errand.leave_cuts crew) still
          | delete phase =>
              obtain ⟨x, between, -⟩ := Deletion.turn_does token phase d
              exact .of_settled (fun _ => rfl) between.toCuts
                (fun _ => Errand.leave_cuts crew) still
  | deal known ready => exact absurd rfl (follows _ _)
  | @fire crew task stop served s due _ passed =>
      exact .of_timer (Timer.wake_turns (Errand.crewToken d crew) task stop served s due d) still
  | @watchEnds crew phase _ result =>
      exact .of_settled (fun _ => rfl) (Watch.finish_cuts crew result d)
        (Errand.leaveWatch_cuts crew) still
  | watchSends =>
      refine .of_cuts rfl (fun o' next => ?_) (.of_same rfl rfl rfl) still
      cases next
      rfl

/-- Whatever turn an operation may take. `known` says that a controller leads a crew that is
there. -/
theorem May.shifts {o : Operation} {d : Daemon} {out : Outcome} (may : o.May d out)
    (still : d.Still)
    (known : ∀ token p crew, o = .control token p → p.crew? = some crew → crew < d.crews.size) :
    o.Shifts d out := by
  by_cases lead : ∃ token p, o = .control token p
  · obtain ⟨token, p, rfl⟩ := lead
    cases may with
    | heed =>
        exact .of_starts (Controller.turn_starts _ p still fun crew => known token p crew rfl)
    | @deal token crew c watching rounds _ arm there ready =>
        exact .of_starts (Controller.deal_starts there watching rounds arm still)
  · have follows : ∀ token p, o ≠ .control token p := fun token p same => lead ⟨token, p, same⟩
    have serves := may.serves follows
    exact may.shifts_serving follows fun k w engaged => still k w (serves.engaged k w engaged)

end Operation

end TaskSync
