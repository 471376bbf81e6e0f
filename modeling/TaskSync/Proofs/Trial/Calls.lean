import TaskSync.Proofs.Daemon.Detached
import TaskSync.Proofs.Daemon.Twin
import TaskSync.Proofs.Sequence.Halting
import TaskSync.Proofs.Trial.Timetable

/-!
# Renderings of a backend that was made for a creation

Nobody but its creation calls the backend, so what has been taken of its script is what the creation
has asked for: as many delays as renderings were begun, as many answers as were given.
-/

namespace TaskSync

namespace Creation

/-- A backend that was made for a creation: in which place, for which task, when, and with which
script. The creation is given up when the token is canceled. -/
structure Setup where
  token : Token
  backend : Place
  task : String
  since : Nat
  script : BackendScript

namespace Setup

/-- The backend that was just made for the task. -/
def made (token : Token) (task : Task) (b : Place) (d : Daemon) : Setup :=
  ⟨token, b, task.name, d.clock, (d.backend b).script⟩

end Setup

/-- Others have had their turns. They leave the backend alone, and what was canceled stays so. -/
structure Meanwhile (x : Setup) (d d' : Daemon) : Prop where
  size : d.backends.size ≤ d'.backends.size
  backend : d'.backend x.backend = d.backend x.backend
  canceled : d.isCanceled x.token = true → d'.isCanceled x.token = true

/-- The backend as long as it is not torn down: so many renderings were begun, and so many of them
have ended with an answer of the script. -/
structure Tended (x : Setup) (overridden : Bool) (begun answered : Nat) (d : Daemon) : Prop where
  inside : x.backend < d.backends.size
  task : (d.taskOf x.backend).name = x.task
  destroys : (d.backend x.backend).count .destroy = 0
  overrides : (d.backend x.backend).count .override = overridden.toNat
  renders : (d.backend x.backend).count .render = begun
  delays : (d.backend x.backend).script.renderDelays = x.script.renderDelays.rest begun
  answers : (d.backend x.backend).script.renders = x.script.renders.rest answered

namespace Tended

variable {x : Setup} {overridden : Bool} {n begun answered : Nat} {d d' : Daemon}

theorem meanwhile (h : Tended x overridden begun answered d) (between : Meanwhile x d d') :
    Tended x overridden begun answered d' where
  inside := Nat.lt_of_lt_of_le h.inside between.size
  task := by
    unfold Daemon.taskOf
    rw [between.backend]
    exact h.task
  destroys := between.backend ▸ h.destroys
  overrides := between.backend ▸ h.overrides
  renders := between.backend ▸ h.renders
  delays := between.backend ▸ h.delays
  answers := between.backend ▸ h.answers

theorem log (h : Tended x overridden begun answered d) (line : JournalEntry) :
    Tended x overridden begun answered (d.log line) :=
  ⟨h.inside, h.task, h.destroys, h.overrides, h.renders, h.delays, h.answers⟩

/-- The notifier is overridden. -/
theorem override (h : Tended x false begun answered d) :
    Tended x true begun answered (d.call x.backend .override) := by
  have backend : (d.call x.backend .override).backend x.backend =
      (d.backend x.backend).called .override := Daemon.call_backend h.inside _
  obtain ⟨lines, aside⟩ : ∃ lines, Daemon.Aside lines d (d.call x.backend .override) :=
    ⟨_, d.call_aside x.backend .override⟩
  refine ⟨?_, ?_, ?_, ?_, ?_, ?_, ?_⟩
  · rw [aside.size]
    exact h.inside
  · exact (aside.backend x.backend).name.trans h.task
  · rw [backend]
    exact h.destroys
  · rw [backend]
    exact List.count_cons_self.trans (congrArg (· + 1) h.overrides)
  · rw [backend]
    exact h.renders
  · rw [backend]
    exact h.delays
  · rw [backend]
    exact h.answers

/-- A rendering is begun. -/
theorem send (h : Tended x overridden n n d) :
    (d.answer x.backend TimedCall.render.delay).1 = x.script.renderDelays.nth n ∧
      Tended x overridden (n + 1) n
        ((d.answer x.backend TimedCall.render.delay).2.call x.backend .render) := by
  have next := x.script.renderDelays.next_rest n
  rw [← h.delays] at next
  obtain ⟨d₁, asked⟩ : ∃ d₁, d₁ = (d.answer x.backend TimedCall.render.delay).2 := ⟨_, rfl⟩
  have inside : x.backend < d₁.backends.size := by
    rw [asked]
    exact Nat.lt_of_lt_of_eq h.inside Array.size_setIfInBounds.symm
  have backend : (d₁.call x.backend .render).backend x.backend =
      (d₁.backend x.backend).called .render := Daemon.call_backend inside _
  have before : d₁.backend x.backend =
      { d.backend x.backend with
        script := (TimedCall.render.delay (d.backend x.backend).script).2 } := by
    rw [asked]
    exact Daemon.answer_backend _ h.inside
  obtain ⟨lines, aside⟩ : ∃ lines, Daemon.Aside lines d₁ (d₁.call x.backend .render) :=
    ⟨_, d₁.call_aside x.backend .render⟩
  refine ⟨congrArg Prod.fst next, ?_⟩
  rw [← asked]
  refine ⟨?_, ?_, ?_, ?_, ?_, ?_, ?_⟩
  · rw [aside.size]
    exact inside
  · refine (aside.backend x.backend).name.trans ?_
    rw [before]
    exact h.task
  · rw [backend, before]
    exact h.destroys
  · rw [backend, before]
    exact h.overrides
  · rw [backend, before]
    exact List.count_cons_self.trans (congrArg (· + 1) h.renders)
  · rw [backend, before]
    exact congrArg Prod.snd next
  · rw [backend, before]
    exact h.answers

/-- A rendering ends. -/
theorem receive (h : Tended x overridden begun n d) :
    (d.answer x.backend TimedCall.render.answer).1 = x.script.renders.nth n ∧
      Tended x overridden begun (n + 1) (d.answer x.backend TimedCall.render.answer).2 := by
  have next := x.script.renders.next_rest n
  rw [← h.answers] at next
  have backend := Daemon.answer_backend TimedCall.render.answer h.inside
  refine ⟨congrArg Prod.fst next, ?_, ?_, ?_, ?_, ?_, ?_, ?_⟩
  · exact Nat.lt_of_lt_of_eq h.inside Array.size_setIfInBounds.symm
  · unfold Daemon.taskOf
    rw [backend]
    exact h.task
  · rw [backend]
    exact h.destroys
  · rw [backend]
    exact h.overrides
  · rw [backend]
    exact h.renders
  · rw [backend]
    exact h.delays
  · rw [backend]
    exact congrArg Prod.snd next

end Tended

/-- What a turn of a rendering leads to, the n-th one. -/
inductive Renders (x : Setup) (overridden : Bool) (n : Nat) (d : Daemon) :
    Pending → Turn Pending (Except BackendError Bool) × Daemon → Prop where
  /-- It takes some time. -/
  | begun {d' : Daemon} (tended : Tended x overridden (n + 1) n d') :
      Renders x overridden n d .unsent
        (.next (.delayed (d.clock + x.script.renderDelays.nth n)), d')
  | waits {due : Nat} {on : List Wait} (ahead : d.clock < due)
      (timed : ⟨.time due, due⟩ ∈ on)
      (only : ∀ w ∈ on, w.signal = .canceled x.token ∨ w.signal = .time due) :
      Renders x overridden n d (.delayed due) (.wait on, d)
  /-- It was begun, and cut short by its own hooks. -/
  | interrupted {d' : Daemon} (tended : Tended x overridden (n + 1) n d')
      (canceled : d'.isCanceled x.token = true) :
      Renders x overridden n d .unsent (.done (.error .canceled), d')
  | answered {call : Pending} {d' : Daemon} (tended : Tended x overridden (n + 1) (n + 1) d')
      (atOnce : call = .unsent → x.script.renderDelays.nth n = 0)
      (later : ∀ due, call = .delayed due → due ≤ d.clock) :
      Renders x overridden n d call (.done (x.script.renders.nth n), d')

section

variable {x : Setup} {overridden : Bool} {n : Nat} {d : Daemon}

theorem renders_unsent (h : Tended x overridden n n d) :
    Renders x overridden n d .unsent (TimedCall.render.turn x.backend x.token .unsent d) := by
  obtain ⟨delay, sent⟩ := h.send
  obtain ⟨answer, answered⟩ := sent.receive
  have clock : ((d.answer x.backend TimedCall.render.delay).2.call x.backend .render).clock =
      d.clock := (Daemon.Instant.call _ x.backend .render).clock
  simp only [TimedCall.turn]
  split
  next soon =>
    have turned : Renders x overridden n d .unsent _ := .answered answered
      (fun _ => delay.symm.trans soon) fun _ same => by cases same
    rw [← answer] at turned
    exact turned
  · split
    next given =>
      rw [Bool.and_eq_true] at given
      exact .interrupted (sent.log _) given.1
    · have turned := Renders.begun (d := d) sent
      rw [← delay, ← clock] at turned
      exact turned

theorem renders_delayed {due : Nat} (h : Tended x overridden (n + 1) n d)
    (uncanceled : d.isCanceled x.token = false) :
    Renders x overridden n d (.delayed due)
      (TimedCall.render.turn x.backend x.token (.delayed due) d) := by
  simp only [TimedCall.turn, uncanceled, Bool.false_and, Bool.false_eq_true, if_false]
  split
  next passed =>
    obtain ⟨answer, answered⟩ :=
      (h.log (.waited (d.backend x.backend).label TimedCall.render.kind)).receive
    have turned : Renders x overridden n d (.delayed due) _ := .answered answered
      (fun same => by cases same) (fun _ same => Pending.delayed.inj same ▸ passed)
    rw [← answer] at turned
    exact turned
  next late =>
    refine .waits (Nat.lt_of_not_le late) ?_ ?_
    · split
      · exact .head _
      · exact .tail _ (.head _)
    · split
      · intro w here
        rw [List.mem_singleton.mp here]
        exact .inr rfl
      · intro w here
        rcases List.mem_cons.mp here with rfl | here
        · exact .inl rfl
        · rw [List.mem_singleton.mp here]
          exact .inr rfl

end

end Creation

end TaskSync
