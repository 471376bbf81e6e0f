import TaskSync.Proofs.Operation.Leaves

/-!
# Calls side by side

Any number of calls is under way; each event gives one of them a turn, begins another one, or lets
something happen outside. What a controller sets going on the side becomes a call like any other.
No order of turns is ruled out, so a statement about all lists of events is one about all
schedules, at every point between two turns.
-/

namespace TaskSync

/-- An operation that somebody asks for. -/
inductive Request where
  | create (token : Token) (goal : Goal) (conf : TaskConfig)
  | update (conf : TaskConfig) (option : RunOption)
  | run (token : Token) (task : String)
  | delete (token : Token) (task : String)
  | control (token : Token)

def Request.operation : Request → Operation
  | create token goal conf => .create token goal (.start conf)
  | update conf option => .update (.start conf option)
  | run token task => .run token (.start task)
  | delete token task => .delete token (.start task)
  | control token => .control token .start

inductive Call where
  | going (o : Operation)
  | ended (r : Operation.Result)

inductive Event where
  | call (q : Request)
  /-- The call at this place takes a turn. -/
  | turn (i : Nat)
  /-- All tasks are forgotten. -/
  | start
  | requestDeletion (task : String)
  | cancel (token : Token)
  | listen
  | trigger (template : String)
  | pass (ms : Nat)
  /-- The time of day is this one now. -/
  | wall (now : Timestamp)

/-- What an event does outside of all calls. -/
def Event.affect : Event → Daemon → Daemon
  | .call _, d | .turn _, d => d
  | .start, d => d.start.2
  | .requestDeletion task, d => d.requestDeletion task
  | .cancel token, d => d.cancel token
  | .listen, d => d.listen.2
  | .trigger template, d =>
    if d.triggers.isOpen then
      ({ d with triggers := { d.triggers with items := d.triggers.items ++ [template] } }.signal
        .triggerArrived)
    else d
  | .pass ms, d => { d with clock := d.clock + ms }
  | .wall now, d => { d with wall := now }

/-- A daemon and all calls that were ever made, in the order in which they began. -/
structure Traffic where
  daemon : Daemon
  calls : List Call

namespace Traffic

/-- Before any call. -/
def opening (d : Daemon) : Traffic := ⟨{ d with happenings := [] }, []⟩

/-- The calls that happenings begin. -/
def sideCalls (hs : List Happening) : List Call :=
  hs.reverse.filterMap fun
    | .signal _ => none
    | .work crew w => some (.going (.errand crew (.ofWork w)))

/-- What was set going on the side joins the calls. -/
def settle (t : Traffic) : Traffic :=
  ⟨{ t.daemon with happenings := [] }, t.calls ++ sideCalls t.daemon.happenings⟩

/-- A call that is under way takes a turn. -/
def turn (t : Traffic) (i : Nat) : Traffic :=
  match t.calls[i]? with
  | some (.going o) =>
    match o.turn t.daemon with
    | (.next o, d) => settle ⟨d, t.calls.set i (.going o)⟩
    | (.wait _, d) => settle ⟨d, t.calls⟩
    | (.done r, d) => settle ⟨d, t.calls.set i (.ended r)⟩
  | _ => t

def step (t : Traffic) : Event → Traffic
  | .call q => { t with calls := t.calls ++ [.going q.operation] }
  | .turn i => t.turn i
  | e => { t with daemon := e.affect t.daemon }

def run (t : Traffic) (events : List Event) : Traffic := events.foldl step t

/-- The operation of a call that is under way. -/
def going? (t : Traffic) (i : Nat) : Option Operation :=
  match t.calls[i]? with
  | some (.going o) => some o
  | _ => none

def stake (t : Traffic) (i : Nat) : Stake := ((t.going? i).map (·.stake)).getD .nothing

theorem stake_of_going {t : Traffic} {i : Nat} {o : Operation} (h : t.going? i = some o) :
    t.stake i = o.stake := by
  rw [stake, h]
  rfl

/-- The guard that a call holds: between the turn in which it takes it and the one in which it
gives it back. -/
def guard? (t : Traffic) (i : Nat) : Option Guard := (t.stake i).guard?

theorem going?_eq_some {t : Traffic} {i : Nat} {o : Operation} :
    t.going? i = some o ↔ t.calls[i]? = some (.going o) := by
  unfold going?
  constructor
  · intro h
    split at h
    next o' found =>
      cases h
      exact found
    · cases h
  · intro h
    rw [h]

theorem going?_append (t : Traffic) (new : List Call) (i : Nat) :
    (⟨t.daemon, t.calls ++ new⟩ : Traffic).going? i =
      if i < t.calls.length then t.going? i
      else match new[i - t.calls.length]? with
        | some (.going o) => some o
        | _ => none := by
  unfold going?
  by_cases inside : i < t.calls.length
  · simp only [List.getElem?_append_left inside, if_pos inside]
  · simp only [List.getElem?_append_right (Nat.le_of_not_lt inside), if_neg inside]

theorem going?_length {t : Traffic} {i : Nat} {o : Operation} (h : t.going? i = some o) :
    i < t.calls.length :=
  (List.getElem?_eq_some_iff.mp (going?_eq_some.mp h)).1

theorem turn_idle {t : Traffic} {i : Nat} (h : t.going? i = none) : t.turn i = t := by
  unfold going? at h
  unfold turn
  split
  next o found => simp [found] at h
  · rfl

theorem step_idle {t : Traffic} {i : Nat} (h : t.going? i = none) : t.step (.turn i) = t :=
  turn_idle h

theorem errand_stake (crew : Place) (w : Work) :
    (Operation.errand crew (.ofWork w)).stake = .nothing := by
  cases w <;> rfl

theorem request_stake (q : Request) : q.operation.stake = .nothing := by
  cases q <;> rfl

theorem going?_none {t : Traffic} {j : Nat} (outside : t.calls.length ≤ j) : t.going? j = none := by
  unfold going?
  rw [List.getElem?_eq_none outside]

theorem going?_call {t : Traffic} {q : Request} {j : Nat} {o : Operation}
    (h : (⟨t.daemon, t.calls ++ [.going q.operation]⟩ : Traffic).going? j = some o) :
    t.going? j = some o ∨ o = q.operation := by
  rw [going?_append] at h
  split at h
  · exact .inl h
  · rcases Nat.eq_zero_or_pos (j - t.calls.length) with first | later
    · rw [first] at h
      cases h
      exact .inr rfl
    · rw [List.getElem?_eq_none later] at h
      cases h

theorem stake_call (t : Traffic) (q : Request) :
    (⟨t.daemon, t.calls ++ [.going q.operation]⟩ : Traffic).stake = t.stake := by
  funext j
  rw [stake, going?_append]
  by_cases inside : j < t.calls.length
  · rw [if_pos inside]
    rfl
  · rw [if_neg inside, stake, going?_none (Nat.le_of_not_lt inside)]
    rcases Nat.eq_zero_or_pos (j - t.calls.length) with first | later
    · rw [first]
      exact request_stake q
    · rw [List.getElem?_eq_none later]

end Traffic

end TaskSync
