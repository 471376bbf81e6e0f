import TaskSync.Proofs.Traffic.Exclusion
import TaskSync.Proofs.Trial.Waits

/-!
# How a creation brings its backend to render

From the moment its backend is made, a creation renders until the backend is complete or fails, the
time is up or the caller gives up. Time is virtual: a creation that waits is woken by the first of
the times it waits for, if it is not canceled before. Then it comes to its end, and what it ends in
is settled by the script of the backend, but for cancellation.

All creations go the same way until the backend has rendered, so this is about the turns of one that
is to inspect its task: it leaves the rendering to go on to `Phase.inspecting`, and to nowhere else.
-/

namespace TaskSync

namespace Creation

/-- The backend is not complete, or it is given up. -/
def Phase.Trying : Phase → Prop
  | .making _ | .rendering _ _ | .pausing _ _ | .destroying _ (.error _) => True
  | _ => False

/-- The turns that were taken, the last one first: in which phase, and what it found. -/
abbrev History := List (Phase × Daemon)

/-- The creation comes to the end of rendering, whatever others do in the meantime: to a backend
that is complete or to a failure, and the turns that were taken then have the property. -/
inductive Concludes (x : Setup) (post : History → Except Failure Place → Daemon → Prop) :
    History → Phase → Daemon → Prop where
  | failed {past : History} {p : Phase} {d d' : Daemon} {e : Failure}
      (turned : turn x.token .inspect p d = (.done (.error e), d'))
      (shown : post ((p, d) :: past) (.error e) d') : Concludes x post past p d
  | rendered {past : History} {p : Phase} {d d' : Daemon} {b : Place}
      (turned : turn x.token .inspect p d = (.next (.inspecting b), d'))
      (shown : post ((p, d) :: past) (.ok b) d') : Concludes x post past p d
  | next {past : History} {p p' : Phase} {d d' : Daemon}
      (turned : turn x.token .inspect p d = (.next p', d')) (trying : p'.Trying)
      (rest : ∀ d₂, Meanwhile x d' d₂ → d₂.clock = d'.clock →
        Concludes x post ((p, d) :: past) p' d₂) : Concludes x post past p d
  | wait {past : History} {p : Phase} {on : List Wait} {d d' : Daemon}
      (turned : turn x.token .inspect p d = (.wait on, d')) (possible : ∃ d₂, Wakes x on d' d₂)
      (rest : ∀ d₂, Wakes x on d' d₂ → Concludes x post ((p, d) :: past) p d₂) :
      Concludes x post past p d

/-! ### What rendering ends in -/

/-- The check half way to the deadline was made: the selection of a rendering was polled then or
later, and the token was not canceled. -/
def Checked (x : Setup) (past : History) : Prop :=
  ∃ t call d, (.rendering t call, d) ∈ past ∧ d.isCanceled x.token = false ∧
    x.since + overrideAfter ≤ d.clock

/-- How often the backend is torn down. -/
def destroys : Except Failure Place → Nat
  | .ok _ | .error .canceled => 0
  | .error _ => 1

/-- How often the notifier is overridden because the backend is complete. -/
def completions : Except Failure Place → Nat
  | .ok _ => 1
  | .error _ => 0

/-- What comes of an answer that decides. -/
def verdict (x : Setup) : Except BackendError Bool → Except Failure Place
  | .ok _ => .ok x.backend
  | .error e => .error (.render x.task e)

/-- The caller has given up, or the backend has on behalf of the caller. -/
def Interrupted (x : Setup) (r : Except Failure Place) : Prop :=
  r = .error .canceled ∨ r = .error (.render x.task .canceled)

/-- Rendering has ended as the script has it. -/
structure Settled (x : Setup) (past : History) (r : Except Failure Place) (d : Daemon) : Prop where
  decided : ∀ n, Decides x.script n →
    r = verdict x (x.script.renders.nth n) ∧ d.clock = x.since + completed x.script n ∧
      (d.backend x.backend).count .render = n + 1 ∧
      (Checked x past ↔ overrideAfter ≤ completed x.script n)
  undecided : (∀ n, ¬ Decides x.script n) →
    r = .error (.initializationTimeout x.task) ∧ x.since + timeout ≤ d.clock ∧
      d.clock < x.since + timeout + pause ∧
      (∀ n, n < (d.backend x.backend).count .render ↔ begun x.script n < timeout) ∧
      Checked x past

/-- How rendering ends. A selection that finds the token canceled ends it, and nothing else does so
in this way. The notifier is overridden once by the check, and once more if the backend is complete.
Every rendering but the first is begun after a pause, when the one before has ended. Unless the
creation was interrupted, it has ended as the script has it. -/
structure Decided (x : Setup) (past : History) (r : Except Failure Place) (d : Daemon) : Prop where
  place : ∀ b, r = .ok b → b = x.backend
  canceled : r = .error .canceled ↔ ∃ e ∈ past, e.1.Selects ∧ e.2.isCanceled x.token = true
  overrides : ∃ checked : Bool, (checked = true ↔ Checked x past) ∧
    (d.backend x.backend).count .override = checked.toNat + completions r
  anew : ∀ n, n + 1 < (d.backend x.backend).count .render →
    x.script.renders.nth n = .ok false ∧ x.since + begun x.script (n + 1) ≤ d.clock
  settled : (d.isCanceled x.token = true → ¬ Interrupted x r) → Settled x past r d

/-- How rendering has ended, with the backend torn down or not. -/
structure Conclusion (x : Setup) (past : History) (r : Except Failure Place) (d : Daemon) :
    Prop extends Decided x past r d where
  destroyed : (d.backend x.backend).count .destroy = destroys r

/-! ### Rendering in stages -/

/-- A trial that goes on: so many renderings were begun, and so many have turned out incomplete. -/
structure Lasting (x : Setup) (past : History) (t : Trial) (sent incomplete : Nat) (d : Daemon) :
    Prop where
  place : t.backend = x.backend
  since : t.since = x.since
  tended : Tended x t.overridden sent incomplete d
  before : ∀ i < incomplete, x.script.renders.nth i = .ok false
  inTime : ∀ i < sent, begun x.script i < timeout ∧ x.since + begun x.script i ≤ d.clock
  due : t.overridden = true → x.since + overrideAfter ≤ d.clock
  uncanceled : ∀ e ∈ past, e.1.Selects → e.2.isCanceled x.token = false
  checked : t.overridden = true ↔ Checked x past

/-- Where a creation is in its timetable. It looks at the clock between two renderings only, so it
may be late by a pause. -/
inductive Stage (x : Setup) (past : History) : Phase → Daemon → Prop where
  | unsent {t : Trial} {n : Nat} {d : Daemon} (lasting : Lasting x past t n n d)
      (now : d.clock = x.since + begun x.script n)
      (unchecked : t.overridden = false → d.clock < x.since + overrideAfter + pause)
      (early : d.clock < x.since + timeout + pause) : Stage x past (.rendering t .unsent) d
  | delayed {t : Trial} {n : Nat} {d : Daemon} (lasting : Lasting x past t (n + 1) n d)
      (ahead : d.clock ≤ x.since + completed x.script n)
      (unchecked : t.overridden = false → d.clock ≤ x.since + overrideAfter)
      (early : d.clock ≤ x.since + timeout) :
      Stage x past (.rendering t (.delayed (x.since + completed x.script n))) d
  | pausing {t : Trial} {n : Nat} {d : Daemon} (lasting : Lasting x past t (n + 1) (n + 1) d)
      (ahead : d.clock ≤ x.since + begun x.script (n + 1))
      (unchecked : t.overridden = false → begun x.script (n + 1) < overrideAfter + pause)
      (early : begun x.script (n + 1) < timeout + pause) :
      Stage x past (.pausing t (x.since + begun x.script (n + 1))) d

/-- The time up to which nothing has to be done. -/
def Phase.horizon : Phase → Daemon → Nat
  | .pausing _ due, _ => due
  | _, d => d.clock

/-- How much is left to do at one time. -/
def Phase.rank : Phase → Daemon → Nat
  | .pausing _ due, d => if due ≤ d.clock then 5 else 6
  | .rendering t .unsent, _ => 3 + (!t.overridden).toNat
  | .rendering t (.delayed _), _ => 1 + (!t.overridden).toNat
  | _, _ => 0

/-- How much is left to do until a creation must have come to its end. -/
def effort (x : Setup) (p : Phase) (d : Daemon) : Nat :=
  8 * (x.since + timeout + pause - p.horizon d) + p.rank d

/-- A creation that goes on after this turn, with less left to do, comes to its end. -/
def Resumes (x : Setup) (past : History) (p : Phase) (d : Daemon) : Prop :=
  ∀ p' d', effort x p' d' < effort x p d → Stage x ((p, d) :: past) p' d' →
    Concludes x (Conclusion x) ((p, d) :: past) p' d'

section

variable {x : Setup} {past : History} {t : Trial} {call : Pending} {p : Phase} {d d' : Daemon}
variable {n sent incomplete : Nat}

theorem checked_cons (apart : (∃ t call, p = .rendering t call) → d.isCanceled x.token = false →
      d.clock < x.since + overrideAfter) :
    Checked x ((p, d) :: past) ↔ Checked x past := by
  constructor
  · rintro ⟨t, call, d', here, uncanceled, late⟩
    rcases List.mem_cons.mp here with same | here
    · cases same
      exact absurd late (Nat.not_le_of_lt (apart ⟨t, call, rfl⟩ uncanceled))
    · exact ⟨t, call, d', here, uncanceled, late⟩
  · rintro ⟨t, call, d', here, late⟩
    exact ⟨t, call, d', .tail _ here, late⟩

/-! ### The end of rendering -/

/-- What has been decided stays so while others have their turns, and when the backend is torn
down. -/
theorem Decided.keep {past' : History} {r : Except Failure Place} (h : Decided x past r d)
    (checked : Checked x past' ↔ Checked x past)
    (canceled : (∃ e ∈ past', e.1.Selects ∧ e.2.isCanceled x.token = true) ↔
      ∃ e ∈ past, e.1.Selects ∧ e.2.isCanceled x.token = true)
    (renders : (d'.backend x.backend).count .render = (d.backend x.backend).count .render)
    (overrides : (d'.backend x.backend).count .override = (d.backend x.backend).count .override)
    (clock : d'.clock = d.clock)
    (stays : d.isCanceled x.token = true → d'.isCanceled x.token = true) :
    Decided x past' r d' where
  place := h.place
  canceled := h.canceled.trans canceled.symm
  overrides := by
    obtain ⟨o, iff, count⟩ := h.overrides
    exact ⟨o, iff.trans checked.symm, overrides.trans count⟩
  anew := by
    rw [renders, clock]
    exact h.anew
  settled free := by
    have settled := h.settled fun canceled => free (stays canceled)
    refine ⟨fun n decides => ?_, fun none => ?_⟩
    · rw [renders, clock, checked]
      exact settled.decided n decides
    · rw [renders, clock, checked]
      exact settled.undecided none

/-- A backend that is given up is torn down. -/
theorem concludes_failing {e : Failure}
    (turned : turn x.token .inspect p d = (.next (.destroying x.backend (.error e)), d'))
    (decided : Decided x ((p, d) :: past) (.error e) d') (own : e ≠ .canceled)
    (inside : x.backend < d'.backends.size)
    (intact : (d'.backend x.backend).count .destroy = 0) :
    Concludes x (Conclusion x) past p d := by
  refine .next turned trivial fun d₂ between clock => ?_
  have inside₂ : x.backend < d₂.backends.size := Nat.lt_of_lt_of_le inside between.size
  have backend : (d₂.call x.backend .destroy).backend x.backend =
      (d'.backend x.backend).called .destroy := by
    rw [Daemon.call_backend inside₂, between.backend]
  refine .failed rfl ⟨decided.keep ?_ ?_ ?_ ?_ ?_ ?_, ?_⟩
  · exact checked_cons nofun
  · constructor
    · rintro ⟨e, here, selects, canceled⟩
      rcases List.mem_cons.mp here with rfl | here
      · cases selects
      · exact ⟨e, here, selects, canceled⟩
    · rintro ⟨e, here, found⟩
      exact ⟨e, .tail _ here, found⟩
  · rw [backend]
    rfl
  · rw [backend]
    rfl
  · exact (Daemon.Instant.call d₂ x.backend .destroy).clock.trans clock
  · exact fun canceled =>
      (Daemon.Detached.call d₂ x.backend .destroy).canceled _ (between.canceled canceled)
  · rw [backend]
    have once : ((d'.backend x.backend).called .destroy).count .destroy = 1 :=
      List.count_cons_self.trans (congrArg (· + 1) intact)
    cases e with
    | canceled => exact absurd rfl own
    | _ => exact once

namespace Lasting

/-- Others have their turns, and time may pass. -/
theorem meanwhile (h : Lasting x past t sent incomplete d) (between : Meanwhile x d d')
    (onward : d.clock ≤ d'.clock) : Lasting x past t sent incomplete d' where
  place := h.place
  since := h.since
  tended := h.tended.meanwhile between
  before := h.before
  inTime i lt := (h.inTime i lt).imp_right fun begun => Nat.le_trans begun onward
  due overridden := Nat.le_trans (h.due overridden) onward
  uncanceled := h.uncanceled
  checked := h.checked

theorem anew (h : Lasting x past t sent incomplete d) (near : sent ≤ incomplete + 1) (n : Nat)
    (again : n + 1 < sent) :
    x.script.renders.nth n = .ok false ∧ x.since + begun x.script (n + 1) ≤ d.clock :=
  ⟨h.before n (by omega), (h.inTime (n + 1) again).2⟩

/-- One more selection has not found the token canceled. -/
theorem polled (h : Lasting x past t sent incomplete d)
    (uncanceled : d.isCanceled x.token = false) :
    ∀ e ∈ (p, d) :: past, e.1.Selects → e.2.isCanceled x.token = false :=
  List.forall_mem_cons.mpr ⟨fun _ => uncanceled, h.uncanceled⟩

/-- A selection that does not make the check finds it made, or is too early for it. -/
theorem rechecked (h : Lasting x past t sent incomplete d)
    (uncanceled : d.isCanceled x.token = false)
    (early : t.overridden = false → d.clock < x.since + overrideAfter) :
    t.overridden = true ↔ Checked x ((.rendering t call, d) :: past) := by
  cases overridden : t.overridden with
  | true =>
      exact ⟨fun _ => ⟨t, call, d, .head _, uncanceled, h.due overridden⟩, fun _ => rfl⟩
  | false =>
      rw [checked_cons fun _ _ => early overridden, ← h.checked, overridden]

/-- A selection that finds the token canceled ends the creation, and leaves the backend alone. -/
theorem canceled_concludes (h : Lasting x past t sent incomplete d) (near : sent ≤ incomplete + 1)
    (selects : p.Selects) (canceled : d.isCanceled x.token = true) :
    Concludes x (Conclusion x) past p d := by
  refine .failed (turn_canceled selects canceled) ⟨⟨nofun, ?_, ?_, ?_, ?_⟩, h.tended.destroys⟩
  · exact ⟨fun _ => ⟨_, .head _, selects, canceled⟩, fun _ => rfl⟩
  · refine ⟨t.overridden, ?_, h.tended.overrides⟩
    rw [checked_cons fun _ uncanceled => by rw [canceled] at uncanceled; cases uncanceled]
    exact h.checked
  · rw [h.tended.renders]
    exact h.anew near
  · exact fun free => absurd (.inl rfl) (free canceled)

/-- A selection that comes after the deadline gives the backend up. -/
theorem late_concludes (h : Lasting x past t sent incomplete d) (near : sent ≤ incomplete + 1)
    (uncanceled : d.isCanceled x.token = false) (late : x.since + timeout ≤ d.clock)
    (within : d.clock < x.since + timeout + pause)
    (open_ : timeout ≤ completed x.script incomplete)
    (next : ∀ n, sent ≤ n → timeout ≤ begun x.script n) (checked : t.overridden = true) :
    Concludes x (Conclusion x) past (.rendering t call) d := by
  have turned : turn x.token .inspect (.rendering t call) d =
      (.next (.destroying x.backend (.error (.initializationTimeout x.task))), d) := by
    have turned := turn_late .inspect call uncanceled
      (show t.since + timeout ≤ d.clock by rw [h.since]; exact late)
    rw [h.place, h.tended.task] at turned
    exact turned
  have rechecked : t.overridden = true ↔ Checked x ((.rendering t call, d) :: past) :=
    h.rechecked uncanceled fun unchecked => by rw [checked] at unchecked; cases unchecked
  refine concludes_failing turned ⟨nofun, ?_, ?_, ?_, ?_⟩ nofun h.tended.inside h.tended.destroys
  · refine ⟨nofun, fun ⟨e, here, selects, canceled⟩ => ?_⟩
    rw [h.polled uncanceled e here selects] at canceled
    cases canceled
  · exact ⟨t.overridden, rechecked, h.tended.overrides⟩
  · rw [h.tended.renders]
    exact h.anew near
  · refine fun _ => ⟨fun n decides => absurd decides (not_decides h.before open_ n), fun _ => ?_⟩
    refine ⟨rfl, late, within, fun n => ?_, rechecked.mp checked⟩
    rw [h.tended.renders]
    exact ⟨fun lt => (h.inTime n lt).1, fun soon =>
      Nat.lt_of_not_le fun le => absurd soon (Nat.not_lt_of_le (next n le))⟩

/-- The check overrides the notifier, and leaves the rendering as it is. -/
theorem check (h : Lasting x past t sent incomplete d) (uncanceled : d.isCanceled x.token = false)
    (unchecked : t.overridden = false) (late : x.since + overrideAfter ≤ d.clock) :
    Lasting x ((.rendering t call, d) :: past) { t with overridden := true } sent incomplete
      (d.call x.backend .override) := by
  have clock := (Daemon.Instant.call d x.backend .override).clock
  have tended := h.tended
  rw [unchecked] at tended
  refine ⟨h.place, h.since, tended.override, h.before, ?_, fun _ => ?_, h.polled uncanceled,
    fun _ => ⟨t, call, d, .head _, uncanceled, late⟩, fun _ => rfl⟩
  · rw [clock]
    exact h.inTime
  · rw [clock]
    exact late

/-- A selection that comes after the check is due makes it, if it was not made. -/
theorem check_concludes (h : Lasting x past t sent incomplete d)
    (uncanceled : d.isCanceled x.token = false) (early : d.clock < x.since + timeout)
    (unchecked : t.overridden = false) (late : x.since + overrideAfter ≤ d.clock)
    (goes : ∀ d', d'.clock = d.clock →
      Lasting x ((.rendering t call, d) :: past) { t with overridden := true } sent incomplete d' →
      Concludes x (Conclusion x) ((.rendering t call, d) :: past)
        (.rendering { t with overridden := true } call) d') :
    Concludes x (Conclusion x) past (.rendering t call) d := by
  have turned := turn_check .inspect call h.place uncanceled
    (by rw [h.since]; exact early) unchecked (by rw [h.since]; exact late)
  refine .next turned trivial fun d₂ between clock => goes d₂ ?_ ?_
  · exact clock.trans (Daemon.Instant.call d x.backend .override).clock
  · exact (h.check uncanceled unchecked late).meanwhile between (Nat.le_of_eq clock.symm)

end Lasting

/-- A selection that leaves the turn to the backend, with the n-th rendering. -/
structure Asks (x : Setup) (past : History) (t : Trial) (call : Pending) (sent n : Nat)
    (d : Daemon) : Prop extends Lasting x past t sent n d where
  going : d.isCanceled x.token = false
  early : d.clock < x.since + timeout
  unchecked : t.overridden = false → d.clock < x.since + overrideAfter
  started : ∀ i < n + 1, begun x.script i < timeout ∧ x.since + begun x.script i ≤ d.clock
  unsent : call = .unsent → d.clock = x.since + begun x.script n
  delayed : ∀ due, call = .delayed due →
    sent = n + 1 ∧ due = x.since + completed x.script n ∧ d.clock ≤ due

namespace Asks

/-- The creation goes on with the answer of the backend. -/
theorem turned (h : Asks x past t call sent n d) :
    turn x.token .inspect (.rendering t call) d =
      match TimedCall.render.turn x.backend x.token call d with
      | (.next call, d') => (.next (.rendering t call), d')
      | (.wait on, d') => (.wait (renderingWaits x.token t ++ on), d')
      | (.done (.ok true), d') => rendered .inspect x.backend d'
      | (.done (.ok false), d') => (.next (.pausing t (d'.clock + pause)), d')
      | (.done (.error e), d') =>
        (.next (.destroying x.backend (.error (.render x.task e))), d') := by
  have turned := turn_renders .inspect call h.going
    (show d.clock < t.since + timeout by rw [h.since]; exact h.early)
    (fun open_ => by rw [h.since]; exact h.unchecked open_)
  rw [h.place, h.tended.task] at turned
  exact turned

theorem rechecked (h : Asks x past t call sent n d) :
    t.overridden = true ↔ Checked x ((.rendering t call, d) :: past) :=
  h.toLasting.rechecked h.going h.unchecked

theorem free (h : Asks x past t call sent n d) :
    ¬ ∃ e ∈ (Phase.rendering t call, d) :: past, e.1.Selects ∧ e.2.isCanceled x.token = true := by
  rintro ⟨e, here, selects, canceled⟩
  rw [h.polled h.going e here selects] at canceled
  cases canceled

/-- No time passes while the backend has its turn. -/
theorem lasts (h : Asks x past t call sent n d) {m : Nat}
    (tended : Tended x t.overridden (n + 1) m d')
    (before : ∀ i < m, x.script.renders.nth i = .ok false)
    (clock : d'.clock = d.clock) : Lasting x ((.rendering t call, d) :: past) t (n + 1) m d' where
  place := h.place
  since := h.since
  tended := tended
  before := before
  inTime := by
    rw [clock]
    exact h.started
  due := by
    rw [clock]
    exact h.due
  uncanceled := h.polled h.going
  checked := h.rechecked

/-- The turn in which the backend answers is the one in which the rendering ends. -/
theorem ends (h : Asks x past t call sent n d)
    (atOnce : call = .unsent → x.script.renderDelays.nth n = 0)
    (later : ∀ due, call = .delayed due → due ≤ d.clock) :
    d.clock = x.since + completed x.script n := by
  cases call with
  | unsent =>
      have begun := h.unsent rfl
      have soon := atOnce rfl
      unfold completed
      omega
  | delayed due =>
      obtain ⟨-, rfl, within⟩ := h.delayed due rfl
      exact Nat.le_antisymm within (later _ rfl)

/-- Every rendering that was begun again had an incomplete one before it. -/
theorem anew (h : Asks x past t call sent n d) (clock : d'.clock = d.clock)
    (renders : (d'.backend x.backend).count .render = n + 1) (i : Nat)
    (again : i + 1 < (d'.backend x.backend).count .render) :
    x.script.renders.nth i = .ok false ∧ x.since + begun x.script (i + 1) ≤ d'.clock := by
  rw [renders] at again
  rw [clock]
  exact ⟨h.before i (by omega), (h.started (i + 1) again).2⟩

/-- An answer that decides settles how rendering ends. -/
theorem settled (h : Asks x past t call sent n d) {r : Except Failure Place}
    (now : d.clock = x.since + completed x.script n) (answer : x.script.renders.nth n ≠ .ok false)
    (result : r = verdict x (x.script.renders.nth n)) (clock : d'.clock = d.clock)
    (count : (d'.backend x.backend).count .render = n + 1) :
    Settled x ((.rendering t call, d) :: past) r d' := by
  have early := h.early
  have decides : Decides x.script n := ⟨h.before, answer, by omega⟩
  refine ⟨fun m other => ?_, fun none => absurd decides (none n)⟩
  obtain rfl := decides.unique other
  refine ⟨result, clock.trans now, count,
    h.rechecked.symm.trans ⟨fun checked => ?_, fun late => ?_⟩⟩
  · have due := h.due checked
    omega
  · refine Bool.of_not_eq_false fun open_ => ?_
    have unchecked := h.unchecked open_
    omega

/-- The backend takes some time, and the creation waits for it. -/
theorem begins (h : Asks x past t .unsent sent n d)
    (answer : TimedCall.render.turn x.backend x.token .unsent d =
      (.next (.delayed (d.clock + x.script.renderDelays.nth n)), d'))
    (tended : Tended x t.overridden (n + 1) n d') (instant : d'.clock = d.clock)
    (goes : Resumes x past (.rendering t .unsent) d) :
    Concludes x (Conclusion x) past (.rendering t .unsent) d := by
  have turned := h.turned
  have early := h.early
  have due : d.clock + x.script.renderDelays.nth n = x.since + completed x.script n := by
    have now := h.unsent rfl
    unfold completed
    omega
  simp only [answer, due] at turned
  refine .next turned trivial fun d₂ between clock => ?_
  have clock : d₂.clock = d.clock := clock.trans instant
  refine goes _ _ ?_ (.delayed (h.lasts (tended.meanwhile between) h.before clock) ?_ ?_ ?_)
  · simp only [effort, Phase.horizon, Phase.rank]
    omega
  · omega
  · intro open_
    have unchecked := h.unchecked open_
    omega
  · omega

/-- The time of the answer has not come: the creation goes on waiting, for whatever comes first. -/
theorem waits {due : Nat} {on : List Wait} (h : Asks x past t (.delayed due) sent n d)
    (answer : TimedCall.render.turn x.backend x.token (.delayed due) d = (.wait on, d))
    (ahead : d.clock < due) (timed : ⟨.time due, due⟩ ∈ on)
    (only : ∀ w ∈ on, w.signal = .canceled x.token ∨ w.signal = .time due)
    (goes : Resumes x past (.rendering t (.delayed due)) d) :
    Concludes x (Conclusion x) past (.rendering t (.delayed due)) d := by
  have turned := h.turned
  rw [answer] at turned
  obtain ⟨rfl, rfl, -⟩ := h.delayed due rfl
  have awaits := awaits_rendering (t := t) (by rw [h.since]; exact h.early)
    (fun open_ => by rw [h.since]; exact h.unchecked open_) ahead only
  refine .wait turned awaits.possible fun d₂ woken => ?_
  have stays := (h.lasts h.tended h.before rfl).meanwhile woken.toMeanwhile woken.onward
  rcases awaits.later woken with canceled | later
  · exact stays.canceled_concludes (Nat.le_refl _) trivial canceled
  · obtain ⟨deadline, check⟩ := woken_rendering woken
    rw [h.since] at deadline check
    refine goes _ _ ?_ (.delayed stays ?_ check deadline)
    · simp only [effort, Phase.horizon, Phase.rank]
      omega
    · exact woken.punctual _ (List.mem_append_right _ timed) _ rfl

/-- A failure of rendering is the end of it. -/
theorem fails (h : Asks x past t call sent n d) {e : BackendError} {m : Nat}
    (answer : TimedCall.render.turn x.backend x.token call d = (.done (.error e), d'))
    (tended : Tended x t.overridden (n + 1) m d') (clock : d'.clock = d.clock)
    (settled : (d'.isCanceled x.token = true → e ≠ .canceled) →
      Settled x ((.rendering t call, d) :: past) (.error (.render x.task e)) d') :
    Concludes x (Conclusion x) past (.rendering t call) d := by
  have turned := h.turned
  rw [answer] at turned
  refine concludes_failing turned ⟨nofun, ⟨nofun, (absurd · h.free)⟩,
    ⟨_, h.rechecked, tended.overrides⟩, h.anew clock tended.renders,
    fun own => settled fun canceled is => ?_⟩ nofun tended.inside tended.destroys
  rw [is] at own
  exact own canceled (.inr rfl)

/-- The backend is complete. -/
theorem completes (h : Asks x past t call sent n d)
    (answer : TimedCall.render.turn x.backend x.token call d = (.done (.ok true), d'))
    (script : x.script.renders.nth n = .ok true) {m : Nat}
    (now : d.clock = x.since + completed x.script n)
    (tended : Tended x t.overridden (n + 1) m d') (clock : d'.clock = d.clock) :
    Concludes x (Conclusion x) past (.rendering t call) d := by
  have turned := h.turned
  rw [answer] at turned
  have backend : (d'.call x.backend .override).backend x.backend =
      (d'.backend x.backend).called .override := Daemon.call_backend tended.inside _
  have renders : ((d'.call x.backend .override).backend x.backend).count .render = n + 1 := by
    rw [backend]
    exact tended.renders
  have clock : (d'.call x.backend .override).clock = d.clock :=
    (Daemon.Instant.call d' x.backend .override).clock.trans clock
  refine .rendered turned ⟨⟨fun b same => (Except.ok.inj same).symm, ⟨nofun, (absurd · h.free)⟩,
    ⟨t.overridden, h.rechecked, ?_⟩, h.anew clock renders, fun _ => ?_⟩, ?_⟩
  · rw [backend]
    exact List.count_cons_self.trans (congrArg (· + 1) tended.overrides)
  · exact h.settled now (by rw [script]; nofun) (by rw [script]; rfl) clock renders
  · rw [backend]
    exact tended.destroys

/-- The backend is not complete, and the creation pauses. -/
theorem pauses (h : Asks x past t call sent n d)
    (answer : TimedCall.render.turn x.backend x.token call d = (.done (.ok false), d'))
    (script : x.script.renders.nth n = .ok false) (now : d.clock = x.since + completed x.script n)
    (tended : Tended x t.overridden (n + 1) (n + 1) d') (clock : d'.clock = d.clock)
    (goes : Resumes x past (.rendering t call) d) :
    Concludes x (Conclusion x) past (.rendering t call) d := by
  have turned := h.turned
  have early := h.early
  have due : d'.clock + pause = x.since + begun x.script (n + 1) := by
    rw [begun_succ]
    omega
  simp only [answer, due] at turned
  refine .next turned trivial fun d₂ between same => ?_
  have before : ∀ i < n + 1, x.script.renders.nth i = .ok false := by
    intro i lt
    rcases Nat.lt_succ_iff_lt_or_eq.mp lt with lt | rfl
    · exact h.before i lt
    · exact script
  have now₂ : d₂.clock = d.clock := same.trans clock
  refine goes _ _ ?_ (.pausing (h.lasts (tended.meanwhile between) before now₂) ?_ ?_ ?_)
  · have rank : (Phase.pausing t (x.since + begun x.script (n + 1))).rank d₂ ≤ 6 := by
      simp only [Phase.rank]
      split
      · decide
      · exact Nat.le_refl 6
    have passes : pause = 50 := rfl
    simp only [effort, Phase.horizon]
    omega
  · omega
  · intro open_
    have unchecked := h.unchecked open_
    omega
  · omega

/-- The backend has its turn, and the creation goes on from there. -/
theorem concludes (h : Asks x past t call sent n d)
    (renders : Renders x t.overridden n d call (TimedCall.render.turn x.backend x.token call d))
    (goes : Resumes x past (.rendering t call) d) :
    Concludes x (Conclusion x) past (.rendering t call) d := by
  obtain ⟨lines, -, aside⟩ :=
    TimedCall.render.turn_aside TimedCall.render_takes x.backend x.token call d
  have instant := (Daemon.Instant.of_aside aside).clock
  generalize answer : TimedCall.render.turn x.backend x.token call d = out at *
  cases renders with
  | begun tended => exact h.begins answer tended instant goes
  | waits ahead timed only => exact h.waits answer ahead timed only goes
  | interrupted tended canceled =>
      exact h.fails answer tended instant fun own => absurd rfl (own canceled)
  | answered tended atOnce later =>
      have now := h.ends atOnce later
      cases script : x.script.renders.nth n with
      | error e =>
          rw [script] at answer
          exact h.fails answer tended instant fun _ =>
            h.settled now (by rw [script]; nofun) (by rw [script]; rfl) instant tended.renders
      | ok complete =>
          cases complete with
          | true =>
              rw [script] at answer
              exact h.completes answer script now tended instant
          | false =>
              rw [script] at answer
              exact h.pauses answer script now tended instant goes

end Asks

/-! ### The protocol -/

/-- A pause lasts until its time has come or the token is canceled. -/
theorem Lasting.concludes_pausing {due : Nat} (h : Lasting x past t (n + 1) (n + 1) d)
    (is : due = x.since + begun x.script (n + 1)) (ahead : d.clock ≤ due)
    (unchecked : t.overridden = false → begun x.script (n + 1) < overrideAfter + pause)
    (early : begun x.script (n + 1) < timeout + pause)
    (goes : Resumes x past (.pausing t due) d) :
    Concludes x (Conclusion x) past (.pausing t due) d := by
  subst is
  cases going : d.isCanceled x.token with
  | true => exact h.canceled_concludes (Nat.le_succ _) trivial going
  | false =>
      have lasting : Lasting x ((.pausing t (x.since + begun x.script (n + 1)), d) :: past) t
          (n + 1) (n + 1) d :=
        ⟨h.place, h.since, h.tended, h.before, h.inTime, h.due, h.polled going, by
          rw [checked_cons fun ⟨_, _, no⟩ => nomatch no]
          exact h.checked⟩
      rcases Nat.lt_or_ge d.clock (x.since + begun x.script (n + 1)) with late | passed
      · have awaits := awaits_pause (x := x) late
        refine .wait (turn_pauses going late) awaits.possible fun d₂ woken => ?_
        have stays := lasting.meanwhile woken.toMeanwhile woken.onward
        rcases woken_pause woken with canceled | now
        · exact stays.canceled_concludes (Nat.le_succ _) trivial canceled
        · refine goes _ _ ?_ (.pausing stays (Nat.le_of_eq now) unchecked early)
          simp only [effort, Phase.horizon, Phase.rank, if_pos (Nat.le_of_eq now.symm),
            if_neg (Nat.not_le_of_lt late)]
          omega
      · refine .next (turn_paused going passed) trivial fun d₂ between clock => ?_
        have stays := lasting.meanwhile between (Nat.le_of_eq clock.symm)
        refine goes _ _ ?_ (.unsent stays ?_ ?_ ?_)
        · simp only [effort, Phase.horizon, Phase.rank, if_pos passed]
          have := Bool.toNat_le (!t.overridden)
          omega
        · omega
        · intro open_
          have := unchecked open_
          omega
        · omega

/-- A selection of a rendering, by what it finds: cancellation, the deadline, the check or the
backend, in this order. -/
theorem Lasting.concludes_rendering (h : Lasting x past t sent n d) (near : sent ≤ n + 1)
    (overdue : x.since + timeout ≤ d.clock → t.overridden = true ∧
      d.clock < x.since + timeout + pause ∧ timeout ≤ completed x.script n ∧
      ∀ m, sent ≤ m → timeout ≤ begun x.script m)
    (checks : ∀ d', d'.clock = d.clock →
      Lasting x ((.rendering t call, d) :: past) { t with overridden := true } sent n d' →
      Stage x ((.rendering t call, d) :: past) (.rendering { t with overridden := true } call) d')
    (asks : d.isCanceled x.token = false → d.clock < x.since + timeout →
      (t.overridden = false → d.clock < x.since + overrideAfter) →
      Asks x past t call sent n d ∧
        Renders x t.overridden n d call (TimedCall.render.turn x.backend x.token call d))
    (goes : Resumes x past (.rendering t call) d) :
    Concludes x (Conclusion x) past (.rendering t call) d := by
  cases going : d.isCanceled x.token with
  | true => exact h.canceled_concludes near trivial going
  | false =>
      rcases Nat.lt_or_ge d.clock (x.since + timeout) with early | late
      · by_cases due : t.overridden = false ∧ x.since + overrideAfter ≤ d.clock
        · obtain ⟨open_, due⟩ := due
          refine h.check_concludes going early open_ due fun d' clock lasting =>
            goes _ _ ?_ (checks d' clock lasting)
          cases call with
          | unsent =>
              simp only [effort, Phase.horizon, Phase.rank, open_, clock]
              exact Nat.add_lt_add_left (by decide) _
          | delayed due =>
              simp only [effort, Phase.horizon, Phase.rank, open_, clock]
              exact Nat.add_lt_add_left (by decide) _
        · obtain ⟨asks, renders⟩ := asks going early fun open_ =>
            Nat.lt_of_not_le fun late => due ⟨open_, late⟩
          exact asks.concludes renders goes
      · obtain ⟨checked, within, open_, next⟩ := overdue late
        exact h.late_concludes near going late within open_ next checked

/-- The timetable leaves no way but to the end. -/
theorem Stage.concludes (h : Stage x past p d) : Concludes x (Conclusion x) past p d := by
  induction left : effort x p d using Nat.strong_induction_on generalizing past p d with
  | _ effort ih =>
    subst left
    have goes : Resumes x past p d := fun p' d' less stage => ih _ less stage rfl
    have apart : overrideAfter + pause ≤ timeout := by decide
    cases h with
    | pausing lasting ahead unchecked early =>
        exact lasting.concludes_pausing rfl ahead unchecked early goes
    | @unsent t n d lasting now unchecked early =>
        have completed := begun_le_completed x.script n
        refine lasting.concludes_rendering (Nat.le_succ n) (fun late => ⟨?_, early, ?_, ?_⟩)
          (fun d' clock stays => ?_) (fun going inTime early => ⟨?_, ?_⟩) goes
        · refine Bool.of_not_eq_false fun open_ => ?_
          have early := unchecked open_
          omega
        · omega
        · intro m after
          have begun := begun_mono (s := x.script) after
          omega
        · exact .unsent stays (clock.trans now) nofun (by omega)
        · refine ⟨lasting, going, inTime, early, fun i lt => ?_, fun _ => now, nofun⟩
          rcases Nat.lt_succ_iff_lt_or_eq.mp lt with lt | rfl
          · exact lasting.inTime i lt
          · omega
        · exact renders_unsent lasting.tended
    | @delayed t n d lasting ahead unchecked early =>
        refine lasting.concludes_rendering (Nat.le_refl _) (fun late => ⟨?_, ?_, ?_, ?_⟩)
          (fun d' clock stays => ?_) (fun going inTime early => ⟨?_, ?_⟩) goes
        · refine Bool.of_not_eq_false fun open_ => ?_
          have early := unchecked open_
          have positive : 0 < pause := by decide
          omega
        · have positive : 0 < pause := by decide
          omega
        · omega
        · intro m after
          have begun := completed_lt_begun (s := x.script) after
          omega
        · exact .delayed stays (by omega) nofun (by omega)
        · refine ⟨lasting, going, inTime, early, lasting.inTime, nofun, fun due is => ?_⟩
          cases is
          exact ⟨rfl, rfl, ahead⟩
        · exact renders_delayed lasting.tended going

end

/-- All creations go the same way until the backend has rendered: then each goes on in its own
way. -/
theorem turn_alike (token : Token) (goal : Goal) {p : Phase} (trying : p.Trying) (d : Daemon) :
    turn token goal p d = turn token .inspect p d ∨
      ∃ b d', turn token .inspect p d = (.next (.inspecting b), d'.call b .override) ∧
        turn token goal p d = rendered goal b d' := by
  cases p with
  | rendering t call =>
      simp only [turn, render]
      split
      · exact .inl rfl
      split
      · exact .inl rfl
      split
      · exact .inl rfl
      · split
        · exact .inl rfl
        · exact .inl rfl
        · exact .inr ⟨t.backend, _, rfl, rfl⟩
        · exact .inl rfl
        · exact .inl rfl
  | making task => exact .inl rfl
  | pausing t due => exact .inl rfl
  | destroying b r => exact .inl rfl
  | _ => cases trying

/-- A backend that was just made has not been called. -/
theorem tended_made {token : Token} {task : Task} {b : Place} {d d' : Daemon}
    (made : d.make task = (.ok b, d')) : Tended (.made token task b d') false 0 0 d' := by
  obtain ⟨rfl, label, counts, script, after, -⟩ := Daemon.make_eq_ok made
  obtain ⟨serial, script', new⟩ := Daemon.make_new made
  have inside : d.backends.size < d'.backends.size := by
    rw [after]
    exact Nat.lt_of_lt_of_eq (Nat.lt_succ_self _) (Array.size_push _).symm
  refine ⟨inside, ?_, ?_, ?_, ?_, rfl, rfl⟩
  · exact congrArg (·.task.name) new
  · exact congrArg (·.count .destroy) new
  · exact congrArg (·.count .override) new
  · exact congrArg (·.count .render) new

/-- The first rendering is begun at once. -/
theorem stage_made {token : Token} {task : Task} {b : Place} {d d' d₂ : Daemon}
    (made : d.make task = (.ok b, d')) (between : Meanwhile (.made token task b d') d' d₂)
    (clock : d₂.clock = d'.clock) :
    Stage (.made token task b d') [(.making task, d)]
      (.rendering ⟨b, d'.clock, false⟩ .unsent) d₂ := by
  have positive : 0 < pause := by decide
  have since : (Setup.made token task b d').since = d'.clock := rfl
  refine .unsent (n := 0) ⟨rfl, rfl, (tended_made made).meanwhile between, nofun, nofun, ?_, ?_, ?_⟩
    clock (fun _ => ?_) ?_
  · intro overridden
    cases overridden
  · intro e here selects
    rw [List.mem_singleton.mp here] at selects
    cases selects
  · refine ⟨nofun, ?_⟩
    rintro ⟨t, call, d', here, -⟩
    exact absurd (congrArg Prod.fst (List.mem_singleton.mp here)) nofun
  · omega
  · omega

/-- From the making of its backend on, a creation comes to the end of rendering, in time that is
virtual and whatever others do, and the end is the one that its script and its polls settle. This
goes for every creation, whatever is to become of the task then. -/
theorem rendering_protocol (token : Token) {task : Task} {b : Place} {d d' : Daemon}
    (made : d.make task = (.ok b, d')) :
    Concludes (.made token task b d') (Conclusion (.made token task b d')) [] (.making task) d ∧
      ∀ goal p, p.Trying → ∀ d, turn token goal p d = turn token .inspect p d ∨
        ∃ b d', turn token .inspect p d = (.next (.inspecting b), d'.call b .override) ∧
          turn token goal p d = rendered goal b d' := by
  have turned : turn token .inspect (.making task) d =
      (.next (.rendering ⟨b, d'.clock, false⟩ .unsent), d') := by
    simp only [turn, made]
  exact ⟨.next turned trivial fun d₂ between clock => (stage_made made between clock).concludes,
    fun goal p trying d => turn_alike token goal trying d⟩

/-- A backend that renders for 35 seconds, to no avail, and is complete the second time. -/
def slowScript : BackendScript :=
  { BackendScript.plain with
    renders := ⟨[.ok false], .ok true⟩
    renderDelays := ⟨[35000], 0⟩ }

def slowDaemon : Daemon :=
  { Traffic.sample.daemon .default with setting := ⟨[], slowScript, none, [], .quiet⟩ }

def slowTask : Task := { (default : Task) with name := "slow" }

theorem rendering_protocol_sample :
    slowDaemon.make slowTask = (.ok 0, (slowDaemon.make slowTask).2) ∧
      Decides slowScript 1 ∧ completed slowScript 1 = 35050 ∧
      Concludes (.made ⟨0⟩ slowTask 0 (slowDaemon.make slowTask).2)
        (Conclusion (.made ⟨0⟩ slowTask 0 (slowDaemon.make slowTask).2)) [] (.making slowTask)
        slowDaemon :=
  ⟨rfl, ⟨by decide, by decide, by decide⟩, rfl, (rendering_protocol ⟨0⟩ rfl).1⟩

end Creation

end TaskSync
