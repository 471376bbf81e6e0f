import Mathlib.Data.Nat.Find
import TaskSync.Proofs.Trial.Calls

/-!
# What a creation waits for while it renders

A creation that renders selects from what may happen first: cancellation, the deadline, the check
half way to it, or an answer of the backend. Between two renderings it only waits for a pause to
pass, or to be canceled. In virtual time the clock goes on to the first time that is waited for, so
a creation that waits is woken then at the latest.
-/

namespace TaskSync

/-- What is waited for has come. -/
def Signal.Came (d : Daemon) : Signal → Prop
  | .time ms => ms ≤ d.clock
  | .canceled token => d.isCanceled token = true
  | _ => False

namespace Creation

/-- A creation that waits is woken, at the first time that it waits for at the latest. -/
structure Wakes (x : Setup) (on : List Wait) (d d' : Daemon) : Prop extends Meanwhile x d d' where
  onward : d.clock ≤ d'.clock
  came : ∃ w ∈ on, w.signal.Came d'
  punctual : ∀ w ∈ on, ∀ ms, w.signal = .time ms → d'.clock ≤ ms

/-- The creation selects from what may end its wait. -/
def Phase.Selects : Phase → Prop
  | .rendering _ _ | .pausing _ _ => True
  | _ => False

/-! ### Selections -/

section

variable {token : Token} {goal : Goal} {t : Trial} {call : Pending} {p : Phase} {d : Daemon}

/-- Cancellation goes before every time and before the backend's answer. -/
theorem turn_canceled (selects : p.Selects) (canceled : d.isCanceled token = true) :
    turn token goal p d = (.done (.error .canceled), d) := by
  cases p with
  | rendering t call =>
      simp only [turn, render, canceled, if_true]
      rfl
  | pausing t due =>
      simp only [turn, canceled, if_true]
      rfl
  | _ => cases selects

theorem turn_late (goal : Goal) (call : Pending) (uncanceled : d.isCanceled token = false)
    (late : t.since + timeout ≤ d.clock) :
    turn token goal (.rendering t call) d =
      (.next (.destroying t.backend
        (.error (.initializationTimeout (d.taskOf t.backend).name))), d) := by
  simp only [turn, render, uncanceled, late, if_true, Bool.false_eq_true, if_false]

/-- An unfinished rendering goes on when the notifier is overridden. -/
theorem turn_check (goal : Goal) (call : Pending) {b : Place} (place : t.backend = b)
    (uncanceled : d.isCanceled token = false) (early : d.clock < t.since + timeout)
    (unchecked : t.overridden = false) (due : t.since + overrideAfter ≤ d.clock) :
    turn token goal (.rendering t call) d =
      (.next (.rendering { t with overridden := true } call), d.call b .override) := by
  subst place
  simp only [turn, render, uncanceled, Nat.not_le_of_lt early, unchecked, due, Bool.false_eq_true,
    if_false, Bool.not_false, Bool.true_and, decide_true, if_true]

/-- Otherwise the backend has its turn. -/
theorem turn_renders (goal : Goal) (call : Pending)
    (uncanceled : d.isCanceled token = false) (early : d.clock < t.since + timeout)
    (checked : t.overridden = false → d.clock < t.since + overrideAfter) :
    turn token goal (.rendering t call) d =
      match TimedCall.render.turn t.backend token call d with
      | (.next call, d') => (.next (.rendering t call), d')
      | (.wait on, d') => (.wait (renderingWaits token t ++ on), d')
      | (.done (.ok true), d') => rendered goal t.backend d'
      | (.done (.ok false), d') => (.next (.pausing t (d'.clock + pause)), d')
      | (.done (.error e), d') =>
        (.next (.destroying t.backend (.error (.render (d.taskOf t.backend).name e))), d') := by
  have unchecked : (!t.overridden && decide (t.since + overrideAfter ≤ d.clock)) = false := by
    cases overridden : t.overridden with
    | true => rfl
    | false => simp [Nat.not_le_of_lt (checked overridden)]
  rcases answer : TimedCall.render.turn t.backend token call d with ⟨_ | _ | (_ | (_ | _)), d'⟩ <;>
    simp only [turn, render, uncanceled, Nat.not_le_of_lt early, unchecked, answer,
      Bool.false_eq_true, if_false]

theorem turn_paused {due : Nat} (uncanceled : d.isCanceled token = false) (passed : due ≤ d.clock) :
    turn token goal (.pausing t due) d = (.next (.rendering t .unsent), d) := by
  simp only [turn, uncanceled, passed, Bool.false_eq_true, if_false, if_true]

theorem turn_pauses {due : Nat} (uncanceled : d.isCanceled token = false) (late : d.clock < due) :
    turn token goal (.pausing t due) d = (.wait (Daemon.waitsUntil token due), d) := by
  simp only [turn, uncanceled, Nat.not_le_of_lt late, Bool.false_eq_true, if_false]

end

/-! ### Waits -/

section

variable {x : Setup} {on : List Wait} {d d' : Daemon}

/-- A creation waits for its token, and for times to come. -/
structure Awaits (x : Setup) (on : List Wait) (d : Daemon) : Prop where
  timed : ∃ ms, ∃ w ∈ on, w.signal = .time ms
  only : ∀ w ∈ on, w.signal = .canceled x.token ∨ ∃ ms, d.clock < ms ∧ w.signal = .time ms

/-- The first of these times comes. -/
theorem Awaits.possible (h : Awaits x on d) : ∃ d', Wakes x on d d' := by
  classical
  have first := Nat.find_spec h.timed
  have least : ∀ ms, (∃ w ∈ on, w.signal = .time ms) → Nat.find h.timed ≤ ms :=
    fun ms timed => Nat.find_min' h.timed timed
  obtain ⟨ms, timed⟩ : ∃ ms, ms = Nat.find h.timed := ⟨_, rfl⟩
  rw [← timed] at first least
  obtain ⟨w, here, at_⟩ := first
  refine ⟨{ d with clock := ms }, ⟨Nat.le_refl _, rfl, fun canceled => canceled⟩, ?_,
    ⟨w, here, ?_⟩, fun w' here' ms' time => least ms' ⟨w', here', time⟩⟩
  · rcases h.only w here with canceled | ⟨ms', ahead, time⟩
    · cases at_.symm.trans canceled
    · cases at_.symm.trans time
      exact Nat.le_of_lt ahead
  · rw [at_]
    exact Nat.le_refl ms

/-- Whoever is woken is canceled, or some time has passed. -/
theorem Awaits.later (h : Awaits x on d) (woken : Wakes x on d d') :
    d'.isCanceled x.token = true ∨ d.clock < d'.clock := by
  obtain ⟨w, here, came⟩ := woken.came
  rcases h.only w here with canceled | ⟨ms, ahead, time⟩
  · rw [canceled] at came
    exact .inl came
  · rw [time] at came
    exact .inr (Nat.lt_of_lt_of_le ahead came)

theorem awaits_pause {due : Nat} (late : d.clock < due) :
    Awaits x (Daemon.waitsUntil x.token due) d where
  timed := ⟨due, _, .tail _ (.head _), rfl⟩
  only w here := by
    rcases List.mem_cons.mp here with rfl | here
    · exact .inl rfl
    · rw [List.mem_singleton.mp here]
      exact .inr ⟨due, late, rfl⟩

/-- What a rendering waits for: the deadline, the check unless it was made, and the backend. -/
theorem awaits_rendering {t : Trial} {due : Nat} (early : d.clock < t.since + timeout)
    (checked : t.overridden = false → d.clock < t.since + overrideAfter) (ahead : d.clock < due)
    (only : ∀ w ∈ on, w.signal = .canceled x.token ∨ w.signal = .time due) :
    Awaits x (renderingWaits x.token t ++ on) d where
  timed := by
    have ⟨w, here, deadline⟩ : ∃ w ∈ renderingWaits x.token t,
        w.signal = .time (t.since + timeout) := by
      unfold renderingWaits
      cases t.overridden with
      | true => exact ⟨_, .tail _ (.head _), rfl⟩
      | false => exact ⟨_, .tail _ (.head _), rfl⟩
    exact ⟨_, w, List.mem_append_left _ here, deadline⟩
  only w here := by
    rcases List.mem_append.mp here with here | here
    · have deadline : ∃ ms, d.clock < ms ∧ Signal.time (t.since + timeout) = .time ms :=
        ⟨_, early, rfl⟩
      unfold renderingWaits at here
      cases overridden : t.overridden with
      | true =>
          simp only [overridden, if_true, List.mem_cons, List.not_mem_nil, or_false] at here
          rcases here with rfl | rfl
          · exact .inl rfl
          · exact .inr deadline
      | false =>
          simp only [overridden, Bool.false_eq_true, if_false, List.mem_cons, List.not_mem_nil,
            or_false] at here
          rcases here with rfl | rfl | rfl
          · exact .inl rfl
          · exact .inr deadline
          · exact .inr ⟨_, checked overridden, rfl⟩
    · exact (only w here).imp_right fun time => ⟨due, ahead, time⟩

/-- A pause is not cut short but by cancellation. -/
theorem woken_pause {due : Nat} (woken : Wakes x (Daemon.waitsUntil x.token due) d d') :
    d'.isCanceled x.token = true ∨ d'.clock = due := by
  have punctual := woken.punctual _ (.tail _ (.head _)) _ rfl
  obtain ⟨w, here, came⟩ := woken.came
  rcases List.mem_cons.mp here with rfl | here
  · exact .inl came
  · rw [List.mem_singleton.mp here] at came
    exact .inr (Nat.le_antisymm punctual came)

/-- A rendering is not woken after the deadline, nor after the check as long as it was not made. -/
theorem woken_rendering {t : Trial} (woken : Wakes x (renderingWaits x.token t ++ on) d d') :
    d'.clock ≤ t.since + timeout ∧ (t.overridden = false → d'.clock ≤ t.since + overrideAfter) := by
  have punctual : ∀ w ∈ renderingWaits x.token t, ∀ ms, w.signal = .time ms → d'.clock ≤ ms :=
    fun w here => woken.punctual w (List.mem_append_left _ here)
  unfold renderingWaits at punctual
  cases overridden : t.overridden with
  | true =>
      rw [overridden] at punctual
      exact ⟨punctual _ (.tail _ (.head _)) _ rfl, nofun⟩
  | false =>
      rw [overridden] at punctual
      exact ⟨punctual _ (.tail _ (.head _)) _ rfl,
        fun _ => punctual _ (.tail _ (.tail _ (.head _))) _ rfl⟩

end

end Creation

end TaskSync
