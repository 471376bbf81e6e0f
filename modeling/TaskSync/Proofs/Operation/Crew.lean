import TaskSync.Proofs.Operation.Move

/-!
# Controllers and their crews

A controller has no stake in anything: it hands names on, and what it sets going on the side takes
its own turns. A timer has the stake of the run that it is in. With these the turns of all
operations are covered, in one lemma at the end.
-/

namespace TaskSync

/-- A change that no task can feel: of the queues between operations and controllers, of crews,
timers and tokens. -/
structure Daemon.Aloof (d d' : Daemon) : Prop where
  frame : d' = { d with
    tokens := d'.tokens
    created := d'.created
    createdHeld := d'.createdHeld
    deletes := d'.deletes
    deletesHeld := d'.deletesHeld
    stops := d'.stops
    nextStop := d'.nextStop
    triggers := d'.triggers
    crews := d'.crews
    happenings := d'.happenings }

namespace Daemon.Aloof

variable {d d' d'' : Daemon}

theorem refl (d : Daemon) : d.Aloof d := ⟨rfl⟩

theorem trans (h : d.Aloof d') (h' : d'.Aloof d'') : d.Aloof d'' := by
  refine ⟨h'.frame.trans ?_⟩
  rw [h.frame]

theorem quiet (h : d.Aloof d') : d.Quiet d' := by
  rw [h.frame]
  exact .of_same rfl rfl rfl rfl rfl

theorem cancel (d : Daemon) (t : Token) : d.Aloof (d.cancel t) := by
  obtain ⟨ts, hs, h⟩ := d.cancel_frame t
  rw [h]
  exact ⟨rfl⟩

end Daemon.Aloof

/-- What follows a turn without taking or giving a guard belongs to it. -/
theorem Move.after {closing : String → Prop} {old new : Stake} {d d₁ d₂ : Daemon}
    (m : Move closing old new d d₁) (quiet : d₁.Quiet d₂) : Move closing old new d d₂ where
  steady := m.steady.trans quiet.toSteady
  path := m.path.trans ((quiet.path _ _).mono fun asked avoids => asked (m.steady.avoids _ avoids))
  queued := m.queued
  working := m.working
  fresh b e := (m.fresh b e).imp_right fun h => ⟨h.1, Nat.lt_of_lt_of_le h.2 quiet.size⟩

namespace Controller

theorem engage_aloof (crew : Place) (w : Work) (d : Daemon) : d.Aloof (engage crew w d) := by
  unfold engage
  split
  · exact .refl d
  · exact ⟨rfl⟩

theorem startTimer_aloof (crew : Place) (task : String) (d : Daemon) :
    d.Aloof (startTimer crew task d) := by
  obtain ⟨ts, stops, n, after⟩ := d.registerStop_frame task
  have registered : d.Aloof (d.registerStop task).2 := by
    rw [after]
    exact ⟨rfl⟩
  unfold startTimer
  split <;> rename_i eq <;> rw [eq] at registered
  · exact registered
  · exact registered.trans (engage_aloof crew _ _)

theorem trigger_aloof (crew : Place) (template : String) (d : Daemon) :
    d.Aloof (trigger crew template d) := by
  unfold trigger
  split
  · exact .refl d
  · exact engage_aloof crew _ d

theorem begin_aloof (token : Token) (d : Daemon) : d.Aloof (begin token d).2 := by
  have timers : ∀ (names : List String) (crew : Place) (d : Daemon),
      d.Aloof (names.foldl (fun d task => startTimer crew task d) d) := by
    intro names crew
    induction names with
    | nil => exact fun d => .refl d
    | cons task names ih => exact fun d => (startTimer_aloof crew task d).trans (ih _)
  unfold begin
  simp only
  refine .trans ?_ (timers _ _ _)
  exact ⟨rfl⟩

theorem stop_aloof (crew : Place) (watching : Bool) (e : Failure) (d : Daemon) :
    d.Aloof (stop crew watching e d).2 := by
  have stopped : ∀ d : Daemon, d.Aloof d.stopTimers := by
    intro d
    obtain ⟨ts, hs, after⟩ := d.stopTimers_frame
    rw [after]
    exact ⟨rfl⟩
  unfold stop
  simp only
  split
  next c _ => exact (Daemon.Aloof.cancel d c.token).trans (stopped _)
  · exact stopped d

theorem finish_aloof (e : Failure) (d : Daemon) : d.Aloof (finish e d).2 :=
  ⟨rfl⟩

theorem round_aloof (token : Token) (crew : Place) (c : Crew) (watching : Bool) (rounds : Nat)
    (d : Daemon) : d.Aloof (round token crew c watching rounds d).2 := by
  unfold round
  simp only
  split
  · exact stop_aloof crew watching _ d
  split
  · refine .trans ?_ (trigger_aloof crew _ _)
    exact ⟨rfl⟩
  · refine .trans ?_ (startTimer_aloof crew _ _)
    exact ⟨rfl⟩
  · refine .trans ?_ (engage_aloof crew _ _)
    exact ⟨rfl⟩
  · exact .refl d
  · exact stop_aloof crew false _ d
  · exact .refl d

theorem turn_aloof (token : Token) (p : Phase) (d : Daemon) : d.Aloof (turn token p d).2 := by
  cases p with
  | start => exact begin_aloof token d
  | lockingCreated crew =>
      simp only [turn]
      split
      · exact .refl d
      · exact ⟨rfl⟩
  | lockingDeletes crew =>
      simp only [turn]
      split
      · exact .refl d
      · exact ⟨rfl⟩
  | looping crew watching rounds =>
      simp only [turn]
      split
      · exact stop_aloof crew watching _ d
      next c _ => exact round_aloof token crew c watching rounds d
  | draining crew watching e =>
      simp only [turn]
      split
      · split
        · exact .refl d
        · exact finish_aloof e d
      · exact .refl d
  | joining crew e =>
      simp only [turn]
      split
      · exact finish_aloof e d
      · exact .refl d

end Controller

namespace Watch

theorem finish_aloof (crew : Place) (result : Result) (d : Daemon) :
    d.Aloof (finish crew result d).2 := by
  unfold finish
  split
  · exact ⟨rfl⟩
  · exact .refl d

theorem turn_aloof (crew : Place) (token : Token) (p : Phase) (d : Daemon) :
    d.Aloof (turn crew token p d).2 := by
  cases p with
  | start =>
      simp only [turn]
      split
      · exact ⟨rfl⟩
      · exact .refl d
  | watching due =>
      simp only [turn]
      split
      · exact finish_aloof crew _ d
      split
      · exact finish_aloof crew _ d
      · unfold forward
        split
        · split
          · exact .refl d
          · exact ⟨rfl⟩
        · exact .refl d

end Watch

namespace Timer

/-- Whichever way a timer gives its stop back, it has no stake in a task. -/
theorem finish_aloof (token : Token) (task : String) (stop : Stop) (served : Option Place)
    (result : Result) (d : Daemon) (p : Phase) :
    (finish token task stop served result d).1.stake Phase.stake p = .nothing ∧
      d.Aloof (finish token task stop served result d).2 := by
  obtain ⟨stops, released⟩ := d.releaseStop_frame task stop
  have given : d.Aloof (d.releaseStop task stop) := by
    rw [released]
    exact ⟨rfl⟩
  unfold finish
  simp only
  split
  · exact ⟨rfl, given⟩
  split
  · exact ⟨rfl, given⟩
  split
  · exact ⟨rfl, given⟩
  · obtain ⟨ts, stops, n, after⟩ := (d.releaseStop task stop).registerStop_frame task
    have registered : d.Aloof ((d.releaseStop task stop).registerStop task).2 := by
      rw [after]
      exact given.trans (⟨rfl⟩)
    split <;> rename_i eq <;> rw [eq] at registered
    · exact ⟨rfl, registered⟩
    · exact ⟨rfl, registered⟩

theorem finish_move (token : Token) (task : String) (stop : Stop) (served : Option Place)
    (result : Result) (d : Daemon) (p : Phase) :
    Move (fun _ => False) .nothing ((finish token task stop served result d).1.stake Phase.stake p)
      d (finish token task stop served result d).2 := by
  obtain ⟨stake, aloof⟩ := finish_aloof token task stop served result d p
  rw [stake]
  exact .keep aloof.quiet

theorem turn_move (token : Token) (task : String) (p : Phase) (d : Daemon) :
    Move (fun _ => False) p.stake ((turn token task p d).1.stake Phase.stake p) d
      (turn token task p d).2 := by
  cases p with
  | start stop served =>
      simp only [turn]
      split
      · exact finish_move token task stop served _ d _
      · split
        · exact finish_move token task stop _ _ d _
        · exact .keep (.refl d)
  | planning stop served s =>
      simp only [turn]
      split
      · exact finish_move token task stop _ _ d _
      · exact .keep (.refl d)
  | sleeping stop served s due =>
      simp only [turn]
      split
      · exact finish_move token task stop _ _ d _
      split
      · split
        · exact .keep (.refl d)
        · exact finish_move token task stop _ _ d _
      · exact .keep (.refl d)
  | running stop served s run =>
      have ran := Run.turn_move token run d
      simp only [turn]
      split <;> rename_i eq <;> rw [eq] at ran
      · exact ran
      · exact ran
      next d₁ =>
        obtain ⟨stake, aloof⟩ := finish_aloof token task stop (some served) (.ok ()) d₁
          (.running stop served s run)
        rw [stake]
        exact ran.after aloof.quiet
      · exact ran

end Timer

namespace Errand

theorem leave_aloof (crew : Place) (d : Daemon) : d.Aloof (leave crew d) := by
  unfold leave
  split
  · exact .refl d
  · simp only
    split
    · exact ⟨rfl⟩
    · exact ⟨rfl⟩

theorem leaveWatch_aloof (crew : Place) (result : Watch.Result) (d : Daemon) :
    d.Aloof (leaveWatch crew result d) := by
  unfold leaveWatch
  split
  · exact .refl d
  · exact ⟨rfl⟩

/-- An errand moves as its operation does; telling the crew of its end is no part of that. -/
theorem settled_move {π ρ : Type} {closing : String → Prop} {errand : π → Errand}
    {leave : ρ → Daemon → Daemon} {p : π} {d : Daemon} {out : Turn π ρ × Daemon}
    (stake : π → Stake) (same : ∀ p, (errand p).stake = stake p)
    (aloof : ∀ r (d : Daemon), d.Aloof (leave r d))
    (m : Move closing (stake p) (out.1.stake stake p) d out.2) :
    Move closing (errand p).stake ((settled errand leave out).1.stake Errand.stake (errand p)) d
      (settled errand leave out).2 := by
  obtain ⟨phase | on | r, d₁⟩ := out
  · simpa only [settled, Turn.stake, same] using m
  · simpa only [settled, Turn.stake, same] using m
  · have gone := m.after (aloof r d₁).quiet
    simpa only [settled, Turn.stake, same] using gone

theorem heed_move (token : Token) (crew : Place) (e : Errand) (d : Daemon) :
    Move (Operation.errand crew e).Closes e.stake ((e.heed token crew d).1.stake Errand.stake e) d
      (e.heed token crew d).2 := by
  cases e with
  | watch phase =>
      have watched : Move (fun _ => False) .nothing
          ((Watch.turn crew token phase d).1.stake (fun _ => Stake.nothing) phase) d
          (Watch.turn crew token phase d).2 := by
        have aloof := Watch.turn_aloof crew token phase d
        cases (Watch.turn crew token phase d).1 with
        | next | wait | done => exact .keep aloof.quiet
      exact settled_move (fun _ => .nothing) (fun _ => rfl)
        (fun r d => leaveWatch_aloof crew r d) watched
  | timer task phase =>
      exact settled_move Timer.Phase.stake (fun _ => rfl) (fun _ d => leave_aloof crew d)
        (Timer.turn_move token task phase d)
  | run phase =>
      exact settled_move Run.Phase.stake (fun _ => rfl) (fun _ d => leave_aloof crew d)
        (Run.turn_move token phase d)
  | delete phase =>
      exact settled_move Deletion.Phase.stake (fun _ => rfl)
        (fun _ d => leave_aloof crew d) (Deletion.turn_move token phase d)

end Errand

namespace Operation

theorem lift_stake {π ρ : Type} (operation : π → Operation) (answer : ρ → Result)
    (stake : π → Stake) (same : ∀ p, (operation p).stake = stake p) (p : π)
    (out : Turn π ρ × Daemon) :
    (lift operation answer out).1.stake Operation.stake (operation p) = out.1.stake stake p ∧
      (lift operation answer out).2 = out.2 := by
  obtain ⟨phase | on | r, d⟩ := out
  · exact ⟨same phase, rfl⟩
  · exact ⟨same p, rfl⟩
  · exact ⟨rfl, rfl⟩

/-- Every turn of every operation is a move or the registration of a new task. -/
theorem heed_progress (o : Operation) (token : Token) (d : Daemon)
    (inside : ∀ b, o.stake = .fresh b → b < d.backends.size) :
    Progress o.Closes o.stake ((o.heed token d).1.stake Operation.stake o) d
      (o.heed token d).2 := by
  cases o with
  | create own goal phase =>
      obtain ⟨stake, daemon⟩ := lift_stake (create own goal)
        (·.map .created) Creation.Phase.stake (fun _ => rfl) phase
        (Creation.turn token goal phase d)
      rw [heed, stake, daemon]
      exact (Creation.turn_advance token goal phase d inside).progress
  | update phase =>
      obtain ⟨stake, daemon⟩ := lift_stake update
        (·.map .plan) Update.Phase.stake (fun _ => rfl) phase
        (Update.turn phase d)
      rw [heed, stake, daemon]
      exact .move (Update.turn_move phase d)
  | run own phase =>
      obtain ⟨stake, daemon⟩ := lift_stake (run own)
        (·.map fun _ => .done) Run.Phase.stake (fun _ => rfl) phase
        (Run.turn token phase d)
      rw [heed, stake, daemon]
      exact .move (Run.turn_move token phase d)
  | delete own phase =>
      obtain ⟨stake, daemon⟩ := lift_stake (delete own)
        (·.map fun _ => .done) Deletion.Phase.stake (fun _ => rfl) phase
        (Deletion.turn token phase d)
      rw [heed, stake, daemon]
      exact .move (Deletion.turn_move token phase d)
  | control own phase =>
      obtain ⟨stake, daemon⟩ := lift_stake (control own)
        Except.error (fun _ => .nothing) (fun _ => rfl) phase
        (Controller.turn token phase d)
      rw [heed, stake, daemon]
      have aloof := Controller.turn_aloof token phase d
      cases (Controller.turn token phase d).1 with
      | next | wait | done => exact .move (.keep aloof.quiet)
  | errand crew e =>
      obtain ⟨stake, daemon⟩ := lift_stake (errand crew)
        (fun _ => .ok .done) Errand.stake (fun _ => rfl) e
        (e.heed token crew d)
      rw [heed, stake, daemon]
      exact .move (Errand.heed_move token crew e d)

end Operation

end TaskSync
