import TaskSync.Proofs.Traffic.Basic

/-!
# One call after the other

A call is taken to its end before the next one begins. Between its turns nothing happens but that
time passes and tokens are canceled, so the daemon that a turn finds is the one that the turn before
has left, but for the clock and the tokens.
-/

namespace TaskSync

/-- Time has passed, or tokens were canceled. -/
structure Daemon.Drifts (d d' : Daemon) : Prop where
  frame : d' = { d with clock := d'.clock, tokens := d'.tokens, happenings := d'.happenings }

namespace Daemon.Drifts

variable {d d' : Daemon}

theorem refl (d : Daemon) : d.Drifts d := ⟨rfl⟩

theorem pass (d : Daemon) (ms : Nat) : d.Drifts { d with clock := d.clock + ms } := ⟨rfl⟩

theorem quiet (h : d.Drifts d') : d.Quiet d' := by
  rw [h.frame]
  exact .of_same rfl rfl rfl rfl rfl

theorem registry (h : d.Drifts d') : d'.registry = d.registry := by rw [h.frame]

theorem store (h : d.Drifts d') : d'.store = d.store := by rw [h.frame]

theorem backends (h : d.Drifts d') : d'.backends = d.backends := by rw [h.frame]

theorem taskOf (h : d.Drifts d') (b : Place) : d'.taskOf b = d.taskOf b := by
  unfold Daemon.taskOf Daemon.backend
  rw [h.backends]

end Daemon.Drifts

/-- A call takes its turns to the end. -/
inductive Completes : Operation → Daemon → Operation.Result → Daemon → Prop where
  | done {o : Operation} {d d' : Daemon} {r : Operation.Result}
      (turned : o.turn d = (.done r, d')) : Completes o d r d'
  | next {o o' : Operation} {d d₁ d₂ d' : Daemon} {r : Operation.Result}
      (turned : o.turn d = (.next o', d₁)) (drift : d₁.Drifts d₂) (rest : Completes o' d₂ r d') :
      Completes o d r d'
  | wait {o : Operation} {on : List Wait} {d d₁ d₂ d' : Daemon} {r : Operation.Result}
      (turned : o.turn d = (.wait on, d₁)) (drift : d₁.Drifts d₂) (rest : Completes o d₂ r d') :
      Completes o d r d'

/-- A call, or an operation that is over at once, from its beginning to its end. A controller is no
such call: it leaves others on their way. -/
inductive Served : Event → Daemon → Daemon → Prop where
  | start (d : Daemon) : Served .start d d.start.2
  | requestDeletion (task : String) (d : Daemon) :
      Served (.requestDeletion task) d (d.requestDeletion task)
  | call {q : Request} {d d' : Daemon} {r : Operation.Result} (alone : ∀ token, q ≠ .control token)
      (completes : Completes q.operation d r d') : Served (.call q) d d'

/-- Calls one after the other, with some time between them. -/
inductive Serves : Daemon → List Event → Daemon → Prop where
  | nil (d : Daemon) : Serves d [] d
  | cons {e : Event} {es : List Event} {d d₁ d₂ d' : Daemon} (first : Served e d d₁)
      (drift : d₁.Drifts d₂) (rest : Serves d₂ es d') : Serves d (e :: es) d'

/-- Takes a call to its end. Where it waits, time passes. -/
def Operation.complete (ms : Nat) : Nat → Operation → Daemon → Option (Operation.Result × Daemon)
  | 0, _, _ => none
  | fuel + 1, o, d =>
    match o.turn d with
    | (.next o, d) => o.complete ms fuel d
    | (.wait _, d) => o.complete ms fuel { d with clock := d.clock + ms }
    | (.done r, d) => some (r, d)

theorem Operation.completes {ms fuel : Nat} {o : Operation} {d d' : Daemon} {r : Operation.Result}
    (h : o.complete ms fuel d = some (r, d')) : Completes o d r d' := by
  induction fuel generalizing o d with
  | zero => cases h
  | succ fuel ih =>
      simp only [complete] at h
      split at h
      next turned => exact .next turned (.refl _) (ih h)
      next turned => exact .wait turned (.pass _ ms) (ih h)
      next turned =>
        cases h
        exact .done turned

/-- Takes calls to their ends, one after the other. -/
def Daemon.serve (ms fuel : Nat) : List Request → Daemon → Option Daemon
  | [], d => some d
  | q :: qs, d => (q.operation.complete ms fuel d).bind fun ended => serve ms fuel qs ended.2

theorem Daemon.serves {ms fuel : Nat} {qs : List Request} {d d' : Daemon}
    (alone : ∀ q ∈ qs, ∀ token, q ≠ .control token) (h : serve ms fuel qs d = some d') :
    Serves d (qs.map .call) d' := by
  induction qs generalizing d with
  | nil =>
      cases h
      exact .nil _
  | cons q qs ih =>
      obtain ⟨⟨r, d₁⟩, completes, rest⟩ := Option.bind_eq_some_iff.mp h
      refine .cons (.call (alone q (.head _)) (Operation.completes completes)) (.refl d₁) ?_
      exact ih (fun q member => alone q (.tail _ member)) rest

/-- A turn keeps an invariant, and the last one turns it into a postcondition. -/
def Keeps {π ρ : Type} (inv : π → Daemon → Prop) (post : Daemon → Prop) (p : π)
    (out : Turn π ρ × Daemon) : Prop :=
  match out.1 with
  | .next p' => inv p' out.2
  | .wait _ => inv p out.2
  | .done _ => post out.2

theorem Keeps.lift {π ρ : Type} {inv : π → Daemon → Prop} {inv' : Operation → Daemon → Prop}
    {post : Daemon → Prop} {operation : π → Operation} {answer : ρ → Operation.Result} {p : π}
    {out : Turn π ρ × Daemon} (h : Keeps inv post p out)
    (same : ∀ p d, inv p d → inv' (operation p) d) :
    Keeps inv' post (operation p) (Operation.lift operation answer out) := by
  obtain ⟨p' | on | r, d⟩ := out
  · exact same p' d h
  · exact same p d h
  · exact h

/-- What every turn keeps, a whole call turns into the postcondition. -/
theorem Completes.induct (inv : Operation → Daemon → Prop) (post : Daemon → Prop)
    (turn : ∀ o d, inv o d → Keeps inv post o (o.turn d))
    (drift : ∀ o d d', inv o d → d.Drifts d' → inv o d') {o : Operation} {d d' : Daemon}
    {r : Operation.Result} (h : Completes o d r d') (start : inv o d) : post d' := by
  induction h with
  | done turned =>
      have kept := turn _ _ start
      rw [turned] at kept
      exact kept
  | next turned between _ ih =>
      have kept := turn _ _ start
      rw [turned] at kept
      exact ih (drift _ _ _ kept between)
  | wait turned between _ ih =>
      have kept := turn _ _ start
      rw [turned] at kept
      exact ih (drift _ _ _ kept between)

end TaskSync
