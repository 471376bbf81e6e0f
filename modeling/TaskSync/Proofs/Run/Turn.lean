import TaskSync.Proofs.Operation.Stake
import TaskSync.Proofs.Run.Effect

/-!
# What a turn of a run can do

`Goes` lists it, each case with what the turn found and with its effect. A property of all runs is
shown by going through the list.
-/

namespace TaskSync.Run

/-- A turn: the phase that the run is in and the daemon that it finds. -/
abbrev Step := Phase × Daemon

/-- The result that a turn comes to, if it does. -/
def result? {π ρ : Type} : Turn π ρ → Option ρ
  | .done r => some r
  | _ => none

/-- What the backend answers in this turn to the question whether the template is complete. -/
def rendered? (token : Token) : Step → Option (Except BackendError Bool)
  | (.rendering h call, d) => result? (TimedCall.render.turn h.backend token call d).1
  | _ => none

/-- What the backend answers in this turn to a call to apply the task. -/
def applied? (token : Token) : Step → Option (Except BackendError Unit)
  | (.applying h _ call, d) => result? (TimedCall.apply.turn h.backend token call d).1
  | _ => none

/-- The turn is one that looks whether the task is inactive. -/
inductive Looks (token : Token) (d : Daemon) (task : String) : Phase → Place → Bool → Prop where
  | start {b : Place} (unmarked : d.registry.isMarked task = false)
      (found : d.registry.get? task = some b) :
      Looks token d task (.start task) b (d.taskOf b).isScheduled
  | queued {b : Place} {due : Nat} (patient : d.isCanceled token = false) (now : due ≤ d.clock) :
      Looks token d task (.queued task b due) b false

/-- What a look can come to. -/
inductive Looked (d : Daemon) (task : String) (b : Place) (scheduled : Bool) :
    Turn Phase Result → Effect → Prop where
  | missing (missing : d.registry.find? task = none) :
      Looked d task b scheduled (.done (.error (.notFound task))) {}
  | busy {e : Entry Place} {due : Nat} (found : d.registry.find? task = some e)
      (active : e.active = true) (dynamic : scheduled = false) :
      Looked d task b scheduled (.next (.queued task b due)) {}
  | refused {e : Entry Place} (found : d.registry.find? task = some e) (active : e.active = true)
      (timed : scheduled = true) : Looked d task b scheduled (.done (.error (.busy task))) {}
  | marked {e : Entry Place} (found : d.registry.find? task = some e) (free : e.active = false)
      (marked : e.marked = true) : Looked d task b scheduled (.done (.ok ())) {}
  | disabled {e : Entry Place} (found : d.registry.find? task = some e) (free : e.active = false)
      (unmarked : e.marked = false) (off : (d.taskOf b).enabled = false) :
      Looked d task b scheduled (.done (.ok ())) { completions := [task] }
  | taken {e : Entry Place} {g : Guard} (found : d.registry.find? task = some e)
      (free : e.active = false) (unmarked : e.marked = false) (on : (d.taskOf b).enabled = true) :
      Looked d task b scheduled
        (.next (.rendering ⟨task, g, b, scheduled, (d.startRecord (d.taskOf b)).1⟩ .unsent)) {}

/-- What a turn can do, as a list of all cases. -/
inductive Goes (token : Token) (d : Daemon) : Phase → Turn Phase Result → Effect → Prop where
  | marked {task : String} (marked : d.registry.isMarked task = true) :
      Goes token d (.start task) (.done (.ok ())) {}
  | missing {task : String} (missing : d.registry.find? task = none) :
      Goes token d (.start task) (.done (.error (.notFound task))) {}
  | looks {p : Phase} {task : String} {b : Place} {scheduled : Bool} {t : Turn Phase Result}
      {x : Effect} (looks : Looks token d task p b scheduled)
      (looked : Looked d task b scheduled t x) :
      Goes token d p t x
  | canceled {task : String} {b : Place} {due : Nat} (canceled : d.isCanceled token = true) :
      Goes token d (.queued task b due) (.done (.error .canceled)) {}
  | queues {task : String} {b : Place} {due : Nat} {on : List Wait} (late : d.clock < due) :
      Goes token d (.queued task b due) (.wait on) {}
  | asks {h : Held} {due : Nat} (pending : rendered? token (.rendering h .unsent, d) = none) :
      Goes token d (.rendering h .unsent) (.next (.rendering h (.delayed due)))
        { calls := [.render] }
  | askWaits {h : Held} {due : Nat} {on : List Wait} (late : d.clock < due)
      (pending : rendered? token (.rendering h (.delayed due), d) = none) :
      Goes token d (.rendering h (.delayed due)) (.wait on) {}
  | renderFailed {h : Held} {call : Pending} {e : BackendError}
      (answer : rendered? token (.rendering h call, d) = some (.error e)) :
      Goes token d (.rendering h call)
        (.next (.recording { h with record := h.record.fail d.wall e.message } false
          (.error (.render h.task e))))
        { calls := call.toMake .render
          notices := [announcement (h.record.fail d.wall e.message)] }
  | incomplete {h : Held} {call : Pending} (dynamic : h.scheduled = false)
      (answer : rendered? token (.rendering h call, d) = some (.ok false)) :
      Goes token d (.rendering h call) (.done (.ok ())) { calls := call.toMake .render }
  | unchanged {h : Held} {call : Pending} (timed : h.scheduled = true)
      (answer : rendered? token (.rendering h call, d) = some (.ok false)) :
      Goes token d (.rendering h call)
        (.next (.recording { h with record := h.record.succeed d.wall } false (.ok ())))
        { calls := call.toMake .render, notices := [announcement (h.record.succeed d.wall)] }
  | complete {h : Held} {call : Pending}
      (answer : rendered? token (.rendering h call, d) = some (.ok true)) :
      Goes token d (.rendering h call) (.next (.applying h 0 .unsent))
        { calls := call.toMake .render }
  | orders {h : Held} {retries : UInt32} {due : Nat}
      (pending : applied? token (.applying h retries .unsent, d) = none) :
      Goes token d (.applying h retries .unsent) (.next (.applying h retries (.delayed due)))
        { calls := [.apply] }
  | orderWaits {h : Held} {retries : UInt32} {due : Nat} {on : List Wait} (late : d.clock < due)
      (pending : applied? token (.applying h retries (.delayed due), d) = none) :
      Goes token d (.applying h retries (.delayed due)) (.wait on) {}
  | applied {h : Held} {retries : UInt32} {call : Pending}
      (answer : applied? token (.applying h retries call, d) = some (.ok ())) :
      Goes token d (.applying h retries call)
        (.next (.recording { h with record := h.record.succeed d.wall } true (.ok ())))
        { calls := call.toMake .apply, notices := [announcement (h.record.succeed d.wall)] }
  | exhausted {h : Held} {retries : UInt32} {call : Pending} {e : BackendError}
      (last : d.retry.maxRetries ≤ retries)
      (answer : applied? token (.applying h retries call, d) = some (.error e)) :
      Goes token d (.applying h retries call)
        (.next (.recording { h with record := h.record.fail d.wall e.message } false
          (.error (.applyFailed h.task (retries + 1) e))))
        { calls := call.toMake .apply
          notices := [announcement (h.record.fail d.wall e.message)] }
  | failed {h : Held} {retries : UInt32} {call : Pending} {e : BackendError} {due : Nat}
      (more : retries < d.retry.maxRetries)
      (answer : applied? token (.applying h retries call, d) = some (.error e)) :
      Goes token d (.applying h retries call) (.next (.backingOff h (retries + 1) due))
        { calls := call.toMake .apply }
  | givenUp {h : Held} {retries : UInt32} {due : Nat} (canceled : d.isCanceled token = true) :
      Goes token d (.backingOff h retries due)
        (.next (.recording
          { h with record := h.record.fail d.wall "canceled while retrying apply" } false
          (.error .canceled)))
        { notices := [announcement (h.record.fail d.wall "canceled while retrying apply")] }
  | retries {h : Held} {retries : UInt32} {due : Nat} (patient : d.isCanceled token = false) :
      Goes token d (.backingOff h retries due) (.next (.applying h retries .unsent)) {}
  | retryWaits {h : Held} {retries : UInt32} {due : Nat} {on : List Wait} (late : d.clock < due) :
      Goes token d (.backingOff h retries due) (.wait on) {}
  | recorded {h : Held} {applied : Bool} {result : Result} :
      Goes token d (.recording h applied result) (.done result)
        { records := [h.record], completions := if applied then [h.task] else [] }

/-! ### Looks -/

/-- A mark outlasts the taking of a guard. -/
theorem isMarked_tryActivate {r s : Registry Place} {task : String} {g : Guard} {e : Entry Place}
    (found : r.find? task = some e) (taken : r.tryActivate task = .ok (some g, s)) :
    s.isMarked task = e.marked := by
  obtain ⟨_, _, _, _, rfl⟩ := Registry.tryActivate_eq_some taken
  rw [Registry.isMarked, Registry.find?_activate, found]
  rfl

/-- With the guard just taken, the run goes on as the look says. -/
theorem entered_looked {d : Daemon} {task : String} {b : Place} {g : Guard} {r : Registry Place}
    (scheduled : Bool) (taken : d.registry.tryActivate task = .ok (some g, r)) :
    ∃ x, Looked d task b scheduled (entered task b scheduled g { d with registry := r }).1 x ∧
      x.Between d (entered task b scheduled g { d with registry := r }).2 := by
  obtain ⟨e, found, free, _, _⟩ := Registry.tryActivate_eq_some taken
  have mark := isMarked_tryActivate found taken
  unfold entered
  split
  next marked => exact ⟨{}, .marked found free (mark.symm.trans marked), .of_same rfl rfl rfl rfl⟩
  next unmarked =>
    have unmarked : e.marked = false := by
      rw [← mark]
      exact Bool.eq_false_iff.mpr unmarked
    simp only
    split
    next on => exact ⟨{}, .taken found free unmarked on, .of_same rfl rfl rfl rfl⟩
    next off =>
      refine ⟨{ completions := [task] },
        .disabled found free unmarked (Bool.eq_false_iff.mpr off), ?_⟩
      have shown := Effect.Between.of_completion { d with registry := r } task
      exact ⟨shown.calls, shown.store, shown.bus, shown.completions⟩

theorem enter_looked (task : String) (b : Place) (d : Daemon) :
    ∃ x, Looked d task b false (enter task b d).1 x ∧ x.Between d (enter task b d).2 := by
  unfold enter
  rcases Activation.look_cases task d with
    ⟨missing, look⟩ | ⟨e, found, active, look⟩ | ⟨g, d₁, taken, look⟩
  · rw [look]
    exact ⟨{}, .missing missing, .refl d⟩
  · rw [look]
    exact ⟨{}, .busy found active rfl, .refl d⟩
  · rw [look]
    obtain ⟨r, activated, rfl⟩ := Daemon.tryActivate_eq_some taken
    exact entered_looked false activated

theorem enterScheduled_looked (task : String) (b : Place) (d : Daemon) :
    ∃ x, Looked d task b true (enterScheduled task b d).1 x ∧
      x.Between d (enterScheduled task b d).2 := by
  unfold enterScheduled
  rcases Activation.look_cases task d with
    ⟨missing, look⟩ | ⟨e, found, active, look⟩ | ⟨g, d₁, taken, look⟩
  · rw [look]
    exact ⟨{}, .missing missing, .refl d⟩
  · rw [look]
    exact ⟨{}, .refused found active rfl, .refl d⟩
  · rw [look]
    obtain ⟨r, activated, rfl⟩ := Daemon.tryActivate_eq_some taken
    exact entered_looked true activated

/-! ### Turns -/

variable {token : Token} {d : Daemon}

theorem begin_goes (token : Token) (task : String) (d : Daemon) :
    ∃ x, Goes token d (.start task) (begin task d).1 x ∧ x.Between d (begin task d).2 := by
  unfold begin
  split
  next marked => exact ⟨{}, .marked marked, .refl d⟩
  next unmarked =>
    have unmarked := Bool.eq_false_iff.mpr unmarked
    split
    next none => exact ⟨{}, .missing (Registry.get?_eq_none.mp none), .refl d⟩
    next b found =>
      have looks : Looks token d task (.start task) b (d.taskOf b).isScheduled :=
        .start unmarked found
      split
      next timed =>
        obtain ⟨x, looked, shown⟩ := enterScheduled_looked task b d
        rw [timed] at looks
        exact ⟨x, .looks looks looked, shown⟩
      next dynamic =>
        obtain ⟨x, looked, shown⟩ := enter_looked task b d
        rw [Bool.eq_false_iff.mpr dynamic] at looks
        exact ⟨x, .looks looks looked, shown⟩

theorem queued_goes (token : Token) (task : String) (b : Place) (due : Nat) (d : Daemon) :
    ∃ x, Goes token d (.queued task b due) (turn token (.queued task b due) d).1 x ∧
      x.Between d (turn token (.queued task b due) d).2 := by
  simp only [turn]
  split
  next canceled => exact ⟨{}, .canceled canceled, .refl d⟩
  next patient =>
    split
    next now =>
      obtain ⟨x, looked, shown⟩ := enter_looked task b d
      exact ⟨x, .looks (.queued (Bool.eq_false_iff.mpr patient) now) looked, shown⟩
    next late => exact ⟨{}, .queues (Nat.lt_of_not_le late), .refl d⟩

theorem rendering_goes (token : Token) (h : Held) (call : Pending) (d : Daemon) :
    ∃ x, Goes token d (.rendering h call) (turn token (.rendering h call) d).1 x ∧
      x.Between d (turn token (.rendering h call) d).2 := by
  obtain ⟨lines, _, aside⟩ :=
    TimedCall.render.turn_aside TimedCall.render_takes h.backend token call d
  have wall := aside.wall
  have shown := TimedCall.render.turn_between TimedCall.render_takes h.backend token call d
  have cases := TimedCall.render.turn_cases h.backend token call d
  have answer : rendered? token (.rendering h call, d) =
    result? (TimedCall.render.turn h.backend token call d).1 := rfl
  simp only [turn]
  revert wall shown cases answer
  generalize TimedCall.render.turn h.backend token call d = out
  obtain ⟨call' | on | r, d₁⟩ := out
  · rintro wall shown (⟨rfl, due, ⟨⟩⟩ | ⟨_, _, _, _, ⟨⟩⟩ | ⟨_, ⟨⟩⟩) answer
    exact ⟨_, .asks answer, shown⟩
  · rintro wall shown (⟨_, _, ⟨⟩⟩ | ⟨due, on', rfl, late, ⟨⟩⟩ | ⟨_, ⟨⟩⟩) answer
    exact ⟨_, .askWaits late answer, shown⟩
  · intro wall shown _ answer
    obtain e | complete := r
    · have goes : Goes token d _ _ _ := .renderFailed answer
      rw [← wall] at goes
      exact ⟨_, goes, shown.announce _⟩
    cases complete with
    | true => exact ⟨_, .complete answer, shown⟩
    | false =>
        simp only
        split
        next timed =>
          have goes : Goes token d _ _ _ := .unchanged timed answer
          rw [← wall] at goes
          exact ⟨_, goes, shown.announce _⟩
        next dynamic =>
          exact ⟨_, .incomplete (Bool.eq_false_iff.mpr dynamic) answer,
            shown.and_then rfl rfl rfl rfl⟩

theorem applying_goes (token : Token) (h : Held) (retries : UInt32) (call : Pending) (d : Daemon) :
    ∃ x, Goes token d (.applying h retries call) (turn token (.applying h retries call) d).1 x ∧
      x.Between d (turn token (.applying h retries call) d).2 := by
  obtain ⟨lines, _, aside⟩ :=
    TimedCall.apply.turn_aside TimedCall.apply_takes h.backend token call d
  have wall := aside.wall
  have config := aside.retry
  have shown := TimedCall.apply.turn_between TimedCall.apply_takes h.backend token call d
  have cases := TimedCall.apply.turn_cases h.backend token call d
  have answer : applied? token (.applying h retries call, d) =
    result? (TimedCall.apply.turn h.backend token call d).1 := rfl
  simp only [turn]
  revert wall config shown cases answer
  generalize TimedCall.apply.turn h.backend token call d = out
  obtain ⟨call' | on | r, d₁⟩ := out
  · rintro wall config shown (⟨rfl, due, ⟨⟩⟩ | ⟨_, _, _, _, ⟨⟩⟩ | ⟨_, ⟨⟩⟩) answer
    exact ⟨_, .orders answer, shown⟩
  · rintro wall config shown (⟨_, _, ⟨⟩⟩ | ⟨due, on', rfl, late, ⟨⟩⟩ | ⟨_, ⟨⟩⟩) answer
    exact ⟨_, .orderWaits late answer, shown⟩
  · intro wall config shown _ answer
    have config : d₁.retry = d.retry := config
    obtain e | _ := r
    · simp only [retry, Retry.decide]
      split
      next attempts gives =>
        split at gives
        next last =>
          cases gives
          rw [config] at last
          have goes : Goes token d _ _ _ := .exhausted last answer
          rw [← wall] at goes
          exact ⟨_, goes, shown.announce _⟩
        · cases gives
      next retry gives =>
        split at gives
        · cases gives
        next more =>
          cases gives
          rw [config] at more
          exact ⟨_, .failed (UInt32.not_le.mp more) answer, shown.and_then rfl rfl rfl rfl⟩
    · have goes : Goes token d _ _ _ := .applied answer
      rw [← wall] at goes
      exact ⟨_, goes, shown.announce _⟩

theorem backingOff_goes (token : Token) (h : Held) (retries : UInt32) (due : Nat) (d : Daemon) :
    ∃ x, Goes token d (.backingOff h retries due) (turn token (.backingOff h retries due) d).1 x ∧
      x.Between d (turn token (.backingOff h retries due) d).2 := by
  simp only [turn]
  split
  next canceled => exact ⟨_, .givenUp canceled, (Effect.Between.refl d).announce _⟩
  next patient =>
    split
    · exact ⟨_, .retries (Bool.eq_false_iff.mpr patient), .refl d⟩
    next late => exact ⟨_, .retryWaits (Nat.lt_of_not_le late), .refl d⟩

/-- A turn with which the run goes on is in the list, whether or not the store can fail: all that a
run stores is its record, in its last turn. -/
theorem next_goes {p p' : Phase} (next : (turn token p d).1 = .next p') :
    ∃ x, Goes token d p (.next p') x := by
  rw [← next]
  cases p with
  | start task => exact (begin_goes token task d).imp fun _ h => h.1
  | queued task b due => exact (queued_goes token task b due d).imp fun _ h => h.1
  | rendering h call => exact (rendering_goes token h call d).imp fun _ h => h.1
  | applying h retries call => exact (applying_goes token h retries call d).imp fun _ h => h.1
  | backingOff h retries due => exact (backingOff_goes token h retries due d).imp fun _ h => h.1
  | recording h applied result => cases next

end TaskSync.Run
