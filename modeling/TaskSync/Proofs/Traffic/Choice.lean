import Mathlib.Logic.Relation
import TaskSync.Proofs.Daemon.Requests
import TaskSync.Proofs.Operation.Choice
import TaskSync.Proofs.Traffic.Basic

/-!
# Calls side by side that choose

Calls go on as events tell, or a call that is under way takes any of the turns that it may. What
fits between any two turns fits here too. `GoesBy` leaves out some events, `GoesOn` leaves out none.
-/

namespace TaskSync.Traffic

/-- The calls of before, where one of them has taken a turn. -/
def seated (t : Traffic) (i : Nat) : Turn Operation Operation.Result → List Call
  | .next o => t.calls.set i (.going o)
  | .wait _ => t.calls
  | .done r => t.calls.set i (.ended r)

/-- A call takes a turn that comes to this. -/
def take (t : Traffic) (i : Nat) (out : Operation.Outcome) : Traffic :=
  settle ⟨out.2, t.seated i out.1⟩

/-- Calls go on by an event that is allowed, or by a turn that one of them may take. -/
inductive GoesBy (allowed : Event → Prop) : Traffic → Traffic → Prop where
  | event (t : Traffic) {e : Event} (fits : allowed e) : GoesBy allowed t (t.step e)
  | choice {t : Traffic} {i : Nat} {o : Operation} {out : Operation.Outcome}
      (going : t.going? i = some o) (may : o.May t.daemon out) : GoesBy allowed t (t.take i out)

/-- Calls go on in any way. -/
abbrev Goes : Traffic → Traffic → Prop := GoesBy fun _ => True

/-- Calls go on for some time, by events that are allowed and by turns. -/
abbrev GoesOnBy (allowed : Event → Prop) : Traffic → Traffic → Prop :=
  Relation.ReflTransGen (GoesBy allowed)

/-- Calls go on for some time. -/
abbrev GoesOn : Traffic → Traffic → Prop := Relation.ReflTransGen Goes

/-- Calls go on for some time, and nothing of this kind happens on the way. -/
abbrev GoesWithout (kind : Traffic → Traffic → Prop) : Traffic → Traffic → Prop :=
  Relation.ReflTransGen fun t t' => Goes t t' ∧ ¬ kind t t'

theorem Goes.event (t : Traffic) (e : Event) : Goes t (t.step e) := GoesBy.event t trivial

variable {allowed allowed' : Event → Prop} {t t' : Traffic}

theorem GoesBy.mono (weaker : ∀ e, allowed e → allowed' e) (h : GoesBy allowed t t') :
    GoesBy allowed' t t' := by
  cases h with
  | event fits => exact .event t (weaker _ fits)
  | choice going may => exact .choice going may

theorem GoesBy.goes (h : GoesBy allowed t t') : Goes t t' := h.mono fun _ _ => trivial

theorem GoesOnBy.mono (weaker : ∀ e, allowed e → allowed' e) (h : GoesOnBy allowed t t') :
    GoesOnBy allowed' t t' :=
  Relation.ReflTransGen.mono (fun _ _ => GoesBy.mono weaker) _ _ h

theorem GoesOnBy.goesOn (h : GoesOnBy allowed t t') : GoesOn t t' :=
  GoesOnBy.mono (fun _ _ => trivial) h

theorem GoesOnBy.run (t : Traffic) (events : List Event)
    (fit : ∀ e ∈ events, allowed e) : GoesOnBy allowed t (t.run events) := by
  induction events generalizing t with
  | nil => exact .refl
  | cons e events ih =>
      exact .head (.event t (fit e List.mem_cons_self))
        (ih (t.step e) fun x member => fit x (List.mem_cons_of_mem e member))

theorem GoesOn.run (t : Traffic) (events : List Event) : GoesOn t (t.run events) :=
  GoesOnBy.run t events fun _ _ => trivial

theorem GoesWithout.goesOn {kind : Traffic → Traffic → Prop} (h : GoesWithout kind t t') :
    GoesOn t t' :=
  Relation.ReflTransGen.mono (fun _ _ => And.left) _ _ h

theorem GoesWithout.run {kind : Traffic → Traffic → Prop} (t : Traffic) (events : List Event)
    (never : ∀ k < events.length, ¬ kind (t.run (events.take k)) (t.run (events.take (k + 1)))) :
    GoesWithout kind t (t.run events) := by
  induction events generalizing t with
  | nil => exact .refl
  | cons e events ih =>
      exact .head ⟨.event t e, never 0 (Nat.succ_pos _)⟩
        (ih (t.step e) fun k within => never (k + 1) (Nat.succ_lt_succ within))

theorem turn_eq_take {t : Traffic} {i : Nat} {o : Operation} (going : t.going? i = some o) :
    t.turn i = t.take i (o.turn t.daemon) := by
  unfold turn take
  rw [going?_eq_some.mp going]
  simp only
  split <;> rename_i eq <;> rw [eq] <;> rfl

section Take

variable {t : Traffic} {i : Nat} {o : Operation} {out : Operation.Outcome}

theorem length_seated (t : Traffic) (i : Nat) (turn : Turn Operation Operation.Result) :
    (t.seated i turn).length = t.calls.length := by
  cases turn with
  | next o => exact List.length_set
  | wait on => rfl
  | done r => exact List.length_set

/-- The call itself afterwards. -/
theorem calls_take_self (going : t.going? i = some o) :
    (t.take i out).calls[i]? = match out.1 with
      | .next o' => some (.going o')
      | .wait _ => some (.going o)
      | .done r => some (.ended r) := by
  have inside := going?_length going
  have within : i < (t.seated i out.1).length := (t.length_seated i out.1).symm ▸ inside
  rw [show (t.take i out).calls[i]? = (t.seated i out.1)[i]? from List.getElem?_append_left within]
  cases out.1 with
  | next o' => exact List.getElem?_set_self inside
  | wait on => exact going?_eq_some.mp going
  | done r => exact List.getElem?_set_self inside

/-- Other calls stay where they are. -/
theorem calls_take_other {j : Nat} (apart : j ≠ i) (inside : j < t.calls.length) :
    (t.take i out).calls[j]? = t.calls[j]? := by
  have within : j < (t.seated i out.1).length := (t.length_seated i out.1).symm ▸ inside
  rw [show (t.take i out).calls[j]? = (t.seated i out.1)[j]? from List.getElem?_append_left within]
  cases out.1 with
  | next o' => exact List.getElem?_set_ne apart.symm
  | wait on => rfl
  | done r => exact List.getElem?_set_ne apart.symm

/-- What the call itself is at afterwards. -/
theorem going?_take_self (going : t.going? i = some o) :
    (t.take i out).going? i = match out.1 with
      | .next o' => some o'
      | .wait _ => some o
      | .done _ => none := by
  unfold going?
  rw [calls_take_self going]
  cases out.1 <;> rfl

theorem going?_take_other {j : Nat} (apart : j ≠ i) (inside : j < t.calls.length) :
    (t.take i out).going? j = t.going? j := by
  unfold going?
  rw [calls_take_other apart inside]

/-- What joins the calls was set going in the turn. -/
theorem going?_take_new {j : Nat} {o' : Operation} (outside : t.calls.length ≤ j)
    (h : (t.take i out).going? j = some o') :
    ∃ crew w, o' = .errand crew (.ofWork w) ∧ out.2.Engaged crew w := by
  have beyond : (t.seated i out.1).length ≤ j := (t.length_seated i out.1).symm ▸ outside
  have found := going?_eq_some.mp h
  rw [show (t.take i out).calls[j]? = (sideCalls out.2.happenings)[j - (t.seated i out.1).length]?
    from List.getElem?_append_right beyond] at found
  obtain ⟨x, member, same⟩ := List.mem_filterMap.mp (List.mem_of_getElem? found)
  cases x with
  | signal s => cases same
  | work crew w => exact ⟨crew, w, (Call.going.inj (Option.some.inj same)).symm,
      List.mem_reverse.mp member⟩

/-- What was set going in the turn joins the calls. -/
theorem going?_take_engaged (t : Traffic) (i : Nat) {crew : Place} {w : Work}
    (engaged : out.2.Engaged crew w) :
    ∃ j, t.calls.length ≤ j ∧ (t.take i out).going? j = some (.errand crew (.ofWork w)) := by
  have side : Call.going (.errand crew (.ofWork w)) ∈ sideCalls out.2.happenings :=
    List.mem_filterMap.mpr ⟨_, List.mem_reverse.mpr engaged, rfl⟩
  obtain ⟨k, inside, found⟩ := List.getElem_of_mem side
  refine ⟨(t.seated i out.1).length + k, ?_, going?_eq_some.mpr ?_⟩
  · rw [t.length_seated]
    exact Nat.le_add_right ..
  · rw [show (t.take i out).calls[(t.seated i out.1).length + k]? = (sideCalls out.2.happenings)[
      (t.seated i out.1).length + k - (t.seated i out.1).length]? from
        List.getElem?_append_right (Nat.le_add_right ..), Nat.add_sub_cancel_left,
      List.getElem?_eq_getElem inside, found]

theorem stake_take (going : t.going? i = some o) :
    (t.take i out).stake = Function.update t.stake i (out.1.stake Operation.stake o) := by
  funext j
  by_cases same : j = i
  · subst same
    rw [Function.update_self, stake, going?_take_self going]
    cases out.1 <;> rfl
  · rw [Function.update_of_ne same, stake]
    by_cases inside : j < t.calls.length
    · rw [going?_take_other same inside]
      rfl
    · have outside := Nat.le_of_not_lt inside
      rw [stake, going?_none outside]
      cases new : (t.take i out).going? j with
      | none => rfl
      | some o' =>
          obtain ⟨crew, w, rfl, -⟩ := going?_take_new outside new
          exact errand_stake crew w

/-- A call after a turn: the one that took it, another one, or one that was set going in it. -/
theorem going?_take_cases {j : Nat} {o' : Operation} (going : t.going? i = some o)
    (h : (t.take i out).going? j = some o') :
    j = i ∧ (out.1 = .next o' ∨ (∃ on, out.1 = .wait on) ∧ o' = o) ∨
      j ≠ i ∧ t.going? j = some o' ∨
      t.calls.length ≤ j ∧ ∃ crew w, o' = .errand crew (.ofWork w) ∧ out.2.Engaged crew w := by
  by_cases same : j = i
  · subst same
    rw [going?_take_self going] at h
    refine .inl ⟨rfl, ?_⟩
    cases turn : out.1 with
    | next o₁ =>
        rw [turn] at h
        exact .inl (congrArg Turn.next (Option.some.inj h))
    | wait on =>
        rw [turn] at h
        exact .inr ⟨⟨on, rfl⟩, (Option.some.inj h).symm⟩
    | done r =>
        rw [turn] at h
        cases h
  · by_cases inside : j < t.calls.length
    · exact .inr (.inl ⟨same, (going?_take_other same inside).symm.trans h⟩)
    · have outside := Nat.le_of_not_lt inside
      exact .inr (.inr ⟨outside, going?_take_new outside h⟩)

end Take

@[elab_as_elim]
theorem GoesBy.elim {P : Traffic → Prop}
    (goes : GoesBy allowed t t')
    (call : ∀ q : Request, allowed (.call q) →
      P { t with calls := t.calls ++ [.going q.operation] })
    (affect : ∀ e : Event, allowed e → P { t with daemon := e.affect t.daemon })
    (take : ∀ i o out, t.going? i = some o → o.May t.daemon out → P (t.take i out)) : P t' := by
  cases goes with
  | @event e fits =>
      cases e with
      | call q => exact call q fits
      | turn i =>
          cases going : t.going? i with
          | none =>
              rw [step_idle going]
              exact affect (.turn i) fits
          | some o =>
              rw [show t.step (.turn i) = t.turn i from rfl, turn_eq_take going]
              exact take i o _ going (.turn o t.daemon)
      | start | requestDeletion | cancel | listen | trigger | pass | wall =>
          exact affect _ fits
  | choice going may => exact take _ _ _ going may

/-- Whatever calls do, a call begins, something happens outside, or a call takes a turn that it
may take. -/
@[elab_as_elim]
theorem Goes.elim {P : Traffic → Prop} (goes : Goes t t')
    (call : ∀ q : Request, P { t with calls := t.calls ++ [.going q.operation] })
    (affect : ∀ e : Event, P { t with daemon := e.affect t.daemon })
    (take : ∀ i o out, t.going? i = some o → o.May t.daemon out → P (t.take i out)) : P t' :=
  GoesBy.elim goes (fun q _ => call q) (fun e _ => affect e) take

end TaskSync.Traffic
