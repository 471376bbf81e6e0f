import Mathlib.Data.List.Perm.Basic
import TaskSync.Proofs.Operation.Stops
import TaskSync.Proofs.Traffic.Shutdown

/-!
# One timer for each name

What stops were registered is told from outside, by looking at the entries before and after each
step. The timers under way, the entries and the stops that were ever registered fit each other
between any two steps, whoever starts timers, cuts them off, deletes tasks or creates them anew. So
a timer that was not cut off has the entry of its name, and a name has one such timer at most.
-/

namespace TaskSync

/-- The stop with which a call is going. -/
def Call.stop? : Call → Option (String × Stop)
  | going o => o.stop?
  | ended _ => none

/-! ### A turn and the stops -/

namespace Rota

variable {first : UInt64} {xs held rest : List (String × Stop)} {x : String × Stop}
variable {d d' : Daemon} {o : Operation} {out : Operation.Outcome}

/-- Timers are cut off at most. -/
theorem quiet (h : Rota first xs held d) (cuts : d.Cuts d') :
    Rota first (xs ++ d.newStops d') held d' := by
  have none := h.newStops_perm cuts.stops cuts.tokens (.refl d')
  have same := (h.cuts cuts).admits (.refl d') none .nil nofun
  rwa [List.append_nil] at same

/-- An operation takes a turn. -/
theorem shift (h : Rota first xs held d) (few : xs.length ≤ 2 ^ 64) (shifts : o.Shifts d out)
    (same : held.Perm (o.stop?.toList ++ rest)) :
    Rota first (xs ++ d.newStops out.2)
      ((out.1.holds Operation.stop? o).toList ++ (rest ++ out.2.sent.reverse)) out.2 := by
  cases shifts with
  | @goesOn d₁ zs cuts admits _ own sent =>
      have new := h.newStops_perm cuts.stops cuts.tokens admits
      have begun := (h.cuts cuts).admits admits new admits.once.of_map fun _ member => member
      refine begun.perm ?_
      rw [own, sent, List.reverse_reverse, ← List.append_assoc]
      exact same.append_right zs
  | @givesBack y d₁ zs mine cuts stops admits own sent =>
      rw [mine] at same
      have released : Rota first xs rest (d₁.releaseStop y.1 y.2) :=
        ((h.cuts cuts).perm same).release few
      have new : (d.newStops out.2).Perm zs := by
        refine h.newStops_perm (fun n s found => ?_) ?_ admits
        · rw [← stops]
          exact (Daemon.get?_releaseStop.mp found).1
        · obtain ⟨left, frame⟩ := d₁.releaseStop_frame y.1 y.2
          rw [frame]
          exact cuts.tokens
      have kept : ∀ z ∈ (out.1.holds Operation.stop? o).toList, z ∈ zs :=
        fun z member => own z (Option.mem_toList.mp member)
      have once : (out.1.holds Operation.stop? o).toList.Nodup := by
        cases out.1.holds Operation.stop? o with
        | none => exact .nil
        | some z => exact List.nodup_singleton z
      refine (released.admits admits new once kept).perm ?_
      rw [sent, List.reverse_nil, List.append_nil]
      exact List.perm_append_comm

/-- An entry leaves in a turn if its token is canceled, or in a turn of its own timer. -/
theorem leaves (h : Rota first xs held d) (few : xs.length ≤ 2 ^ 64) (shifts : o.Shifts d out)
    (mine : ∀ x, o.stop? = some x → x ∈ held) {n : String} {s : Stop}
    (there : d.stops.get? n = some s) :
    out.2.stops.get? n = some s ∨ out.2.isCanceled s.token = true ∨ o.stop? = some (n, s) := by
  have inside := h.places _ (h.entered n s there)
  cases shifts with
  | goesOn cuts admits _ own sent =>
      rcases cuts.gone n s there inside with kept | canceled
      · exact .inl ((admits.stops n s).mpr (.inl kept))
      · exact .inr (.inl (admits.canceled _ canceled))
  | @givesBack y d₁ zs its cuts stops admits own sent =>
      rw [← stops] at there
      rcases (h.cuts cuts).released few (mine y its) there with kept | rfl
      · exact .inl ((admits.stops n s).mpr (.inl kept))
      · exact .inr (.inr its)

/-- A timer takes no entry away but its own. -/
theorem leaves_timer (h : Rota first xs held d) (few : xs.length ≤ 2 ^ 64)
    (shifts : o.Shifts d out) (its : o.stop? = some x) (mine : x ∈ held) {n : String} {s : Stop}
    (there : d.stops.get? n = some s) : out.2.stops.get? n = some s ∨ (n, s) = x := by
  cases shifts with
  | goesOn cuts admits same own sent =>
      refine .inl ?_
      rw [same (by rw [its]; exact Option.some_ne_none x)]
      exact there
  | @givesBack y d₁ zs its' cuts stops admits own sent =>
      obtain rfl : x = y := Option.some.inj (its.symm.trans its')
      rw [← stops] at there
      refine ((h.cuts cuts).released few mine there).imp_left fun kept => ?_
      exact (admits.stops n s).mpr (.inl kept)

end Rota

namespace Traffic

/-- The stops of the timers that are under way. -/
def held (t : Traffic) : List (String × Stop) := t.calls.filterMap Call.stop?

section Held

variable {t : Traffic} {i j : Nat} {o o' : Operation} {x : String × Stop}

theorem mem_held (going : t.going? i = some o) (its : o.stop? = some x) : x ∈ t.held :=
  List.mem_filterMap.mpr ⟨_, List.mem_of_getElem? (going?_eq_some.mp going), its⟩

/-- The stop tells the timer. -/
theorem eq_of_held (once : t.held.Nodup) (hi : t.going? i = some o) (mine : o.stop? = some x)
    (hj : t.going? j = some o') (yours : o'.stop? = some x) : i = j := by
  have apart := List.pairwise_iff_getElem.mp (List.pairwise_filterMap.mp once)
  have clash {i j : Nat} {o o' : Operation} (less : i < j) (hi : t.going? i = some o)
      (mine : o.stop? = some x) (hj : t.going? j = some o') (yours : o'.stop? = some x) :
      False := by
    have inside := going?_length hi
    have inside' := going?_length hj
    have here : t.calls[i] = .going o := List.getElem_eq_iff inside |>.mpr (going?_eq_some.mp hi)
    have there : t.calls[j] = .going o' :=
      List.getElem_eq_iff inside' |>.mpr (going?_eq_some.mp hj)
    refine apart i j inside inside' less x ?_ x ?_ rfl
    · rw [here]
      exact mine
    · rw [there]
      exact yours
  rcases Nat.lt_trichotomy i j with less | same | more
  · exact (clash less hi mine hj yours).elim
  · exact same
  · exact (clash more hj yours hi mine).elim

theorem filterMap_sideCalls (hs : List Happening) :
    (sideCalls hs).filterMap Call.stop? = (hs.filterMap Happening.timer?).reverse := by
  rw [sideCalls, List.filterMap_filterMap, ← List.filterMap_reverse]
  refine congrArg (List.filterMap · hs.reverse) (funext fun x => ?_)
  cases x with
  | signal s => rfl
  | work crew w => cases w <;> rfl

/-- What the timers hold when one call takes a turn, and afterwards. -/
theorem held_take (going : t.going? i = some o) (out : Operation.Outcome) : ∃ rest,
    t.held.Perm (o.stop?.toList ++ rest) ∧
      (t.take i out).held.Perm
        ((out.1.holds Operation.stop? o).toList ++ (rest ++ out.2.sent.reverse)) := by
  have inside := going?_length going
  have here : t.calls[i] = .going o :=
    List.getElem_eq_iff inside |>.mpr (going?_eq_some.mp going)
  have first (c : Call) (cs : List Call) :
      (c :: cs).filterMap Call.stop? = c.stop?.toList ++ cs.filterMap Call.stop? := by
    rw [List.filterMap_cons]
    cases c.stop? <;> rfl
  have before : t.held.Perm (o.stop?.toList ++ (t.calls.eraseIdx i).filterMap Call.stop?) := by
    have split := (List.getElem_cons_eraseIdx_perm inside).symm.filterMap Call.stop?
    rwa [first, here] at split
  have replaced (c : Call) : ((t.calls.set i c).filterMap Call.stop?).Perm
      (c.stop?.toList ++ (t.calls.eraseIdx i).filterMap Call.stop?) := by
    rw [← first]
    exact (List.set_perm_cons_eraseIdx inside c).filterMap Call.stop?
  have seats : ((t.seated i out.1).filterMap Call.stop?).Perm
      ((out.1.holds Operation.stop? o).toList ++ (t.calls.eraseIdx i).filterMap Call.stop?) := by
    cases out.1 with
    | next o' => exact replaced (.going o')
    | wait on => exact before
    | done r => exact replaced (.ended r)
  refine ⟨_, before, ?_⟩
  have apart : (t.take i out).held =
      (t.seated i out.1).filterMap Call.stop? ++ out.2.sent.reverse := by
    rw [Daemon.sent, ← filterMap_sideCalls]
    exact List.filterMap_append
  rw [apart, ← List.append_assoc]
  exact seats.append_right _

end Held

/-! ### Runs -/

/-- The calls go on from one state to another, and these stops are registered on the way. -/
inductive Registers (t₀ : Traffic) : List (String × Stop) → Traffic → Prop where
  | refl : Registers t₀ [] t₀
  | tail {xs : List (String × Stop)} {t t' : Traffic} (before : Registers t₀ xs t)
      (goes : Goes t t') : Registers t₀ (xs ++ t.daemon.newStops t'.daemon) t'

/-- Whatever calls do, it is known which stops they register. -/
theorem registers_iff {t₀ t : Traffic} : (∃ xs, Registers t₀ xs t) ↔ GoesOn t₀ t := by
  constructor
  · rintro ⟨xs, registers⟩
    induction registers with
    | refl => exact .refl
    | tail _ goes ih => exact ih.tail goes
  · intro goes
    induction goes with
    | refl => exact ⟨[], .refl⟩
    | tail _ goes ih =>
        obtain ⟨xs, registers⟩ := ih
        exact ⟨_, registers.tail goes⟩

/-- The stops that are registered while these events happen. -/
def registered (t : Traffic) : List Event → List (String × Stop)
  | [] => []
  | e :: events => t.daemon.newStops (t.step e).daemon ++ (t.step e).registered events

theorem Registers.run {t₀ t : Traffic} {xs : List (String × Stop)} (h : Registers t₀ xs t)
    (events : List Event) : Registers t₀ (xs ++ t.registered events) (t.run events) := by
  induction events generalizing t xs with
  | nil =>
      rw [registered, List.append_nil]
      exact h
  | cons e events ih =>
      rw [registered, ← List.append_assoc]
      exact ih (h.tail (.event t e))

theorem affect_cuts (e : Event) (d : Daemon) : d.Cuts (e.affect d) := by
  have between := @affect_between none e d
  exact between.toCuts

theorem Staffed.shifts {t : Traffic} (h : t.Staffed) {i : Nat} {o : Operation}
    {out : Operation.Outcome} (going : t.going? i = some o) (may : o.May t.daemon out) :
    o.Shifts t.daemon out :=
  may.shifts h.still fun _ _ _ same lead => h.known_control (same ▸ going) lead

/-- One step. -/
theorem Staffed.rota_goes {t t' : Traffic} (h : t.Staffed) {first : UInt64}
    {xs : List (String × Stop)} (rota : Rota first xs t.held t.daemon)
    (few : xs.length ≤ 2 ^ 64) (goes : Goes t t') :
    Rota first (xs ++ t.daemon.newStops t'.daemon) t'.held t'.daemon := by
  refine goes.elim (fun q => ?_) (fun e => ?_) fun i o out going may => ?_
  · have same : (⟨t.daemon, t.calls ++ [.going q.operation]⟩ : Traffic).held = t.held := by
      refine List.filterMap_append.trans ?_
      cases q <;> exact List.append_nil _
    rw [same]
    exact rota.quiet (.refl t.daemon)
  · exact rota.quiet (affect_cuts e t.daemon)
  · obtain ⟨rest, before, after⟩ := held_take going out
    have shifted := (rota.shift few (h.shifts going may) before).perm after.symm
    exact shifted.cuts (.of_same rfl rfl rfl)

/-- All of a run. -/
theorem Registers.rota {d : Daemon} (unscheduled : d.stops = []) {xs : List (String × Stop)}
    {t : Traffic} (registers : Registers (opening d) xs t) (few : xs.length ≤ 2 ^ 64) :
    t.Staffed ∧ Rota d.nextStop xs t.held t.daemon := by
  induction registers with
  | refl => exact ⟨opening_staffed unscheduled, Rota.empty (d := (opening d).daemon) unscheduled⟩
  | @tail xs t t' before goes ih =>
      have fewer : xs.length ≤ 2 ^ 64 := by
        rw [List.length_append] at few
        omega
      obtain ⟨staffed, rota⟩ := ih fewer
      exact ⟨staffed.goes goes, staffed.rota_goes rota fewer goes⟩

/-- What becomes of an entry in one step. -/
theorem Staffed.entry_goes {t t' : Traffic} (h : t.Staffed) {first : UInt64}
    {xs : List (String × Stop)} (rota : Rota first xs t.held t.daemon) (few : xs.length ≤ 2 ^ 64)
    (goes : Goes t t') {n : String} {s : Stop} (there : t.daemon.stops.get? n = some s) :
    t'.daemon.stops.get? n = some s ∨ t'.daemon.isCanceled s.token = true ∨
      ∃ i crew p out, t.going? i = some (.errand crew (.timer n p)) ∧ p.stop = s ∧
        (Operation.errand crew (.timer n p)).May t.daemon out ∧ t' = t.take i out := by
  refine goes.elim (fun q => .inl there) (fun e => ?_) fun i o out going may => ?_
  · have inside := rota.places _ (rota.entered n s there)
    exact ((affect_cuts e t.daemon).gone n s there inside).imp_right .inl
  · have mine : ∀ x, o.stop? = some x → x ∈ t.held := fun x its => mem_held going its
    rcases rota.leaves few (h.shifts going may) mine there with kept | canceled | its
    · exact .inl kept
    · exact .inr (.inl canceled)
    · obtain ⟨crew, p, rfl, own⟩ := Operation.timer_of_stop its
      exact .inr (.inr ⟨i, crew, p, out, going, own, may, rfl⟩)

/-- What holds of timers and stops between two steps, and in the next one. `xs` are the stops that
were registered from the number `first` on. -/
structure Timed (t : Traffic) (first : UInt64) (xs : List (String × Stop)) : Prop where
  /-- A timer that has its stop, which is not canceled, has the entry of its name. -/
  owned : ∀ i crew task p, t.going? i = some (.errand crew (.timer task p)) →
    t.daemon.isCanceled p.stop.token = false → t.daemon.stops.get? task = some p.stop
  /-- A name has one such timer at most. -/
  single : ∀ i j crew crew' task p p',
    t.going? i = some (.errand crew (.timer task p)) →
    t.daemon.isCanceled p.stop.token = false →
    t.going? j = some (.errand crew' (.timer task p')) →
    t.daemon.isCanceled p'.stop.token = false → i = j
  /-- A timer that gives its stop back takes no entry away but its own. -/
  released : ∀ i crew task p, t.going? i = some (.errand crew (.timer task p)) →
    ∀ n s, t.daemon.stops.get? n = some s →
      (t.daemon.releaseStop task p.stop).stops.get? n = some s ∨ n = task ∧ s = p.stop
  /-- Nor does it do so in any turn that it may take. -/
  turned : ∀ i crew task p out, t.going? i = some (.errand crew (.timer task p)) →
    (Operation.errand crew (.timer task p)).May t.daemon out →
    ∀ n s, t.daemon.stops.get? n = some s →
      (t.take i out).daemon.stops.get? n = some s ∨ n = task ∧ s = p.stop
  /-- An entry leaves in a step in which its token is canceled, or in a turn of its own timer. -/
  gone : ∀ t', Goes t t' → ∀ n s, t.daemon.stops.get? n = some s →
    t'.daemon.stops.get? n = some s ∨ t'.daemon.isCanceled s.token = true ∨
      ∃ i crew p out, t.going? i = some (.errand crew (.timer n p)) ∧ p.stop = s ∧
        (Operation.errand crew (.timer n p)).May t.daemon out ∧ t' = t.take i out
  /-- As many numbers were given as stops were registered, and none of them twice. -/
  counted : t.daemon.nextStop = first + .ofNat xs.length
  distinct : (xs.map (·.2.number)).Nodup

/-- Whoever starts timers, cuts them off, deletes tasks or creates them anew, in whatever order. -/
theorem one_timer_each {d : Daemon} (unscheduled : d.stops = []) {xs : List (String × Stop)}
    {t : Traffic} (registers : Registers (opening d) xs t) (few : xs.length ≤ 2 ^ 64) :
    t.Timed d.nextStop xs := by
  obtain ⟨staffed, rota⟩ := registers.rota unscheduled few
  have owned : ∀ i crew task p, t.going? i = some (.errand crew (.timer task p)) →
      t.daemon.isCanceled p.stop.token = false → t.daemon.stops.get? task = some p.stop :=
    fun i crew task p going live => rota.owned (task, p.stop) (mem_held going rfl) live
  refine ⟨owned, ?_, ?_, ?_, ?_, rota.nextStop, rota.distinct few⟩
  · intro i j crew crew' task p p' hi live hj live'
    have mine := owned i crew task p hi live
    have yours := owned j crew' task p' hj live'
    have same : p.stop = p'.stop := Option.some.inj (mine.symm.trans yours)
    exact eq_of_held rota.once hi rfl hj (congrArg (fun s => some (task, s)) same.symm)
  · intro i crew task p going n s there
    have mine : (task, p.stop) ∈ t.held := mem_held going rfl
    exact (rota.released few mine there).imp_right Prod.mk.inj
  · intro i crew task p out going may n s there
    have mine : (task, p.stop) ∈ t.held := mem_held going rfl
    have shifts := staffed.shifts going may
    exact (rota.leaves_timer few shifts rfl mine there).imp_right Prod.mk.inj
  · exact fun t' goes n s there => staffed.entry_goes rota few goes there

/-- A task with a schedule. -/
def timedTask : TaskConfig := sampleTask.withCondition (.schedule "0 * * * * *")

/-- A controller starts a timer, the task is deleted and created anew, and the controller starts
another timer before the first one has noticed. -/
def timerEvents : List Event :=
  [.call (.control ⟨0⟩), .turn 0, .turn 0, .turn 0,
    .call (.create ⟨0⟩ .add timedTask), .turn 2, .turn 2, .turn 2, .pass 5, .turn 2, .turn 2,
    .turn 0, .turn 3, .turn 3, .call (.delete ⟨0⟩ "a"), .turn 4, .turn 4, .turn 4,
    .call (.create ⟨0⟩ .add timedTask), .turn 5, .turn 5, .turn 5, .pass 5, .turn 5, .turn 5,
    .turn 0]

theorem one_timer_each_sample :
    controlled.stops = [] ∧
      (opening controlled).registered timerEvents = [("a", ⟨0, ⟨2⟩⟩), ("a", ⟨1, ⟨3⟩⟩)] ∧
      ((opening controlled).run timerEvents).Timed controlled.nextStop
        ((opening controlled).registered timerEvents) ∧
      ((opening controlled).run timerEvents).held = [("a", ⟨0, ⟨2⟩⟩), ("a", ⟨1, ⟨3⟩⟩)] ∧
      ((opening controlled).run timerEvents).daemon.isCanceled ⟨2⟩ = true ∧
      ((opening controlled).run timerEvents).daemon.isCanceled ⟨3⟩ = false := by
  have registered : (opening controlled).registered timerEvents =
      [("a", ⟨0, ⟨2⟩⟩), ("a", ⟨1, ⟨3⟩⟩)] := by decide +kernel
  have few : ((opening controlled).registered timerEvents).length ≤ 2 ^ 64 := by
    rw [registered]
    decide
  refine ⟨rfl, registered, ?_, by decide +kernel, by decide +kernel, by decide +kernel⟩
  exact one_timer_each rfl (Registers.refl.run timerEvents) few

end Traffic

end TaskSync
