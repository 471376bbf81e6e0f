import Mathlib.Data.List.TakeWhile
import TaskSync.Proofs.Traffic.Choice
import TaskSync.Store.Line

/-!
# Lines at the store

Calls side by side, with a line at every table of the store. A call comes to a table at the end of
the turn before the one that writes there, for nothing in between makes it wait, and those at a
table are served in the order in which they came. What the store refuses it refuses at once. Who
only looks is left out: a look can delay a write, but no write overtakes another by it.
-/

namespace TaskSync

namespace Line

variable {l : Line} {c x : Caller}

theorem mem_leave {n : Nat} : x ∈ (l.leave n).callers ↔ x ∈ l.callers ∧ x.number ≠ n := by
  simp [leave]

theorem mem_join : x ∈ (l.join c).callers ↔ x ∈ l.callers ∨ x = c := by
  simp [join]

/-- Nobody is served together with somebody who stands behind a write. -/
theorem next_join (behind : ∃ x ∈ l.callers, x.writes = true) :
    ∀ n ∈ (l.join c).next, ∃ x ∈ l.callers, x.number = n := by
  intro n member
  obtain ⟨callers⟩ := l
  obtain ⟨w, there, writes⟩ := behind
  cases callers with
  | nil => cases there
  | cons first rest =>
      simp only [join, List.cons_append, next] at member
      split at member
      · obtain rfl := List.mem_singleton.mp member
        exact ⟨first, List.mem_cons_self, rfl⟩
      next looks =>
        -- the write is among the others, so those who look do not reach to the newcomer
        have later : w ∈ rest := (List.mem_cons.mp there).resolve_left fun same =>
          looks (same ▸ writes)
        have short : (rest.takeWhile (!·.writes)).length ≠ rest.length := by
          intro full
          have all := (List.takeWhile_prefix _).eq_of_length full
          have waits := List.takeWhile_eq_self_iff.mp all w later
          rw [writes] at waits
          cases waits
        rw [List.takeWhile_append, if_neg short] at member
        obtain ⟨x, found, number⟩ := List.mem_map.mp member
        refine ⟨x, ?_, number⟩
        exact (List.mem_cons.mp found).elim (fun same => same ▸ List.mem_cons_self) fun inner =>
          List.mem_cons_of_mem _ ((List.takeWhile_prefix _).subset inner)

/-- Who comes when somebody writes, or waits to write, is held. -/
theorem holds_join (new : ∀ x ∈ l.callers, x.number ≠ c.number)
    (behind : ∃ x ∈ l.callers, x.writes = true) : (l.join c).holds c.number = true := by
  have stands : (l.join c).callers.any (·.number == c.number) = true :=
    List.any_eq_true.mpr ⟨c, mem_join.mpr (.inr rfl), beq_self_eq_true _⟩
  have later : c.number ∉ (l.join c).next := fun served =>
    (next_join behind _ served).elim fun x ⟨there, same⟩ => new x there same
  rw [holds, stands, List.contains_eq_mem, decide_eq_false later]
  rfl

end Line

/-- The use of the store that a change is. -/
def Write.op? : Write → Option StoreOp
  | config _ => some .setTask
  | noConfig _ => some .deleteTask
  | record _ => some .addRecord
  | noRecords _ => some .deleteRecords
  | switch _ => none

/-- The use of the store that the next turn makes. -/
def Operation.use? (o : Operation) : Option StoreOp := o.write?.bind (·.op?)

namespace Traffic

/-- Calls side by side and the lines at the store. -/
structure Lined where
  traffic : Traffic
  lines : StoreTable → Line

namespace Lined

/-- Nobody is at the store. -/
def opening (t : Traffic) : Lined := ⟨t, fun _ => .empty⟩

/-- The lines after a turn: the call has been served, and comes to the table that it uses next. -/
def moved (s : Lined) (i : Nat) : Turn Operation Operation.Result → StoreTable → Line
  | .next o =>
    match o.use? with
    | some op => Function.update (fun table => (s.lines table).leave i) op.table
        (((s.lines op.table).leave i).join ⟨i, op.writes⟩)
    | none => fun table => (s.lines table).leave i
  | .wait _ => s.lines
  | .done _ => fun table => (s.lines table).leave i

def take (s : Lined) (i : Nat) (out : Operation.Outcome) : Lined :=
  ⟨s.traffic.take i out, s.moved i out.1⟩

/-- The call may take its turn: nobody at the table goes before, or the store refuses. -/
def Admits (s : Lined) (i : Nat) (o : Operation) : Prop :=
  ∀ op ∈ o.use?, (s.lines op.table).holds i = true → s.traffic.daemon.willTake op = false

instance (s : Lined) (i : Nat) (o : Operation) : Decidable (s.Admits i o) :=
  inferInstanceAs (Decidable (∀ op ∈ o.use?, _))

/-- Calls go on by an event that is allowed, or by a turn that one of them may take when the lines
let it. -/
inductive GoesBy (allowed : Event → Prop) : Lined → Lined → Prop where
  | event (s : Lined) {e : Event} (fits : allowed e) (outside : ∀ i, e ≠ .turn i) :
      GoesBy allowed s ⟨s.traffic.step e, s.lines⟩
  | choice {s : Lined} {i : Nat} {o : Operation} {out : Operation.Outcome}
      (going : s.traffic.going? i = some o) (may : o.May s.traffic.daemon out)
      (admitted : s.Admits i o) : GoesBy allowed s (s.take i out)

/-- Calls go on for some time, by events that are allowed and by turns. -/
abbrev GoesOnBy (allowed : Event → Prop) : Lined → Lined → Prop :=
  Relation.ReflTransGen (GoesBy allowed)

variable {allowed : Event → Prop} {s s' : Lined}

/-- Without the lines, this is one of the ways in which calls go on. -/
theorem GoesBy.traffic (h : GoesBy allowed s s') :
    Traffic.GoesBy allowed s.traffic s'.traffic := by
  cases h with
  | event fits => exact .event s.traffic fits
  | choice going may => exact .choice going may

@[elab_as_elim]
theorem GoesBy.elim {P : Lined → Prop} (goes : GoesBy allowed s s')
    (call : ∀ q : Request, allowed (.call q) →
      P ⟨{ s.traffic with calls := s.traffic.calls ++ [.going q.operation] }, s.lines⟩)
    (affect : ∀ e : Event, P ⟨{ s.traffic with daemon := e.affect s.traffic.daemon }, s.lines⟩)
    (take : ∀ i o out, s.traffic.going? i = some o → o.May s.traffic.daemon out → s.Admits i o →
      P (s.take i out)) : P s' := by
  cases goes with
  | @event e fits outside =>
      cases e with
      | call q => exact call q fits
      | turn i => exact absurd rfl (outside i)
      | start | requestDeletion | cancel | listen | trigger | pass | wall => exact affect _
  | choice going may admitted => exact take _ _ _ going may admitted

/-- Everybody whose next turn uses the store stands in line for it. -/
def Standing (s : Lined) : Prop :=
  ∀ i o op, s.traffic.going? i = some o → o.use? = some op →
    ⟨i, op.writes⟩ ∈ (s.lines op.table).callers

theorem moved_self {i : Nat} {o : Operation} {op : StoreOp} (use : o.use? = some op) :
    s.moved i (.next o) op.table = ((s.lines op.table).leave i).join ⟨i, op.writes⟩ := by
  simp only [moved, use, Function.update_self]

/-- A turn leaves everybody else in line. -/
theorem moved_keeps {i : Nat} {table : StoreTable} {c : Caller}
    (there : c ∈ (s.lines table).callers) (apart : c.number ≠ i)
    (turn : Turn Operation Operation.Result) : c ∈ (s.moved i turn table).callers := by
  have left : c ∈ ((s.lines table).leave i).callers := Line.mem_leave.mpr ⟨there, apart⟩
  cases turn with
  | next o =>
      cases use : o.use? with
      | none =>
          simp only [moved, use]
          exact left
      | some op =>
          simp only [moved, use]
          by_cases here : table = op.table
          · subst here
            rw [Function.update_self]
            exact Line.mem_join.mpr (.inl left)
          · rw [Function.update_of_ne here]
            exact left
  | wait on => exact there
  | done r => exact left

theorem Standing.take {i : Nat} {o : Operation} {out : Operation.Outcome} (h : s.Standing)
    (going : s.traffic.going? i = some o) : (s.take i out).Standing := by
  intro j o' op found use
  rcases going?_take_cases going found with
    ⟨rfl, next | ⟨⟨on, wait⟩, rfl⟩⟩ | ⟨apart, old⟩ | ⟨_, crew, w, rfl, _⟩
  · show _ ∈ (s.moved j out.1 op.table).callers
    rw [next, moved_self use]
    exact Line.mem_join.mpr (.inr rfl)
  · show _ ∈ (s.moved j out.1 op.table).callers
    rw [wait]
    exact h j o' op going use
  · exact moved_keeps (h j o' op old use) apart out.1
  · cases w <;> cases use

theorem Standing.goes (h : s.Standing) (goes : GoesBy allowed s s') : s'.Standing := by
  refine goes.elim (fun q _ i o op found use => ?_) (fun _ => h) fun _ _ _ going _ _ =>
    h.take going
  rcases going?_call found with old | rfl
  · exact h i o op old use
  · cases q <;> cases use

/-! ### Schedules -/

/-- The event is not the turn of a call that has to wait for others at the store. -/
def Fits (s : Lined) : Event → Prop
  | .turn i => ∀ o ∈ s.traffic.going? i, s.Admits i o
  | _ => True

instance (s : Lined) : (e : Event) → Decidable (s.Fits e)
  | .turn i => inferInstanceAs (Decidable (∀ o ∈ s.traffic.going? i, s.Admits i o))
  | .call _ | .start | .requestDeletion _ | .cancel _ | .listen | .trigger _ | .pass _ | .wall _ =>
    inferInstanceAs (Decidable True)

/-- Who has the turn takes the one that comes first in the fixed order. -/
def step (s : Lined) : Event → Lined
  | .turn i =>
    match s.traffic.going? i with
    | some o => s.take i (o.turn s.traffic.daemon)
    | none => s
  | e => ⟨s.traffic.step e, s.lines⟩

def run (s : Lined) (events : List Event) : Lined := events.foldl step s

/-- Nobody takes a turn who has to wait for others at the store. -/
def FitsAll : Lined → List Event → Prop
  | _, [] => True
  | s, e :: events => s.Fits e ∧ (s.step e).FitsAll events

instance decidableFitsAll : (s : Lined) → (events : List Event) → Decidable (s.FitsAll events)
  | _, [] => inferInstanceAs (Decidable True)
  | s, e :: events =>
    have := decidableFitsAll (s.step e) events
    inferInstanceAs (Decidable (_ ∧ _))

theorem GoesOnBy.step (s : Lined) (e : Event) (allow : allowed e) (fits : s.Fits e) :
    GoesOnBy allowed s (s.step e) := by
  cases e with
  | turn i =>
      rw [Lined.step]
      split
      next o going => exact .single (.choice going (.turn o _) (fits o going))
      · exact .refl
  | call | start | requestDeletion | cancel | listen | trigger | pass | wall =>
      exact .single (.event s allow nofun)

theorem GoesOnBy.run (s : Lined) (events : List Event) (allow : ∀ e ∈ events, allowed e)
    (fit : s.FitsAll events) : GoesOnBy allowed s (s.run events) := by
  induction events generalizing s with
  | nil => exact .refl
  | cons e events ih =>
      exact .trans (GoesOnBy.step s e (allow e List.mem_cons_self) fit.1)
        (ih (s.step e) (fun x member => allow x (List.mem_cons_of_mem e member)) fit.2)

end Lined

end Traffic

end TaskSync
