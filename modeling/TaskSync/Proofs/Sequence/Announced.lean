import Mathlib.Data.List.Basic
import TaskSync.Proofs.Operation.Deeds
import TaskSync.Proofs.Sequence.Basic
import TaskSync.Proofs.Traffic.Exclusion

/-!
# Records and their notices

A run that leaves a record is announced on the bus, in the turn before its record goes to the store.
So when calls follow one upon the other, the records handed to the store and the notices of runs
come in the same order and say the same, for whatever reason a run came to its end and whether or
not the store keeps the record. There is one exception: an update with the option `now` hands a
record to the store that nobody has announced.
-/

namespace TaskSync

def Write.record? : Write → Option RunRecord
  | .record r => some r
  | .config _ | .noConfig _ | .noRecords _ | .switch _ => none

/-- The record that the next turn hands to the store. -/
def Operation.handing? (o : Operation) : Option RunRecord := o.write?.bind Write.record?

/-- The event is an update that takes effect at once. -/
def Event.updatesNow : Event → Bool
  | .call (.update _ .now) => true
  | _ => false

/-- A call takes its turns to the end. The list has the operation before each turn. -/
inductive Traverses : Operation → Daemon → List Operation → Daemon → Prop where
  | done {o : Operation} {d d' : Daemon} {r : Operation.Result}
      (turned : o.turn d = (.done r, d')) : Traverses o d [o] d'
  | next {o o' : Operation} {os : List Operation} {d d₁ d₂ d' : Daemon}
      (turned : o.turn d = (.next o', d₁)) (drift : d₁.Drifts d₂) (rest : Traverses o' d₂ os d') :
      Traverses o d (o :: os) d'
  | wait {o : Operation} {on : List Wait} {os : List Operation} {d d₁ d₂ d' : Daemon}
      (turned : o.turn d = (.wait on, d₁)) (drift : d₁.Drifts d₂) (rest : Traverses o d₂ os d') :
      Traverses o d (o :: os) d'

/-- One event from its beginning to its end, with the turns that it took. -/
inductive Handles : Event → Daemon → List Operation → Daemon → Prop where
  | start (d : Daemon) : Handles .start d [] d.start.2
  | requestDeletion (task : String) (d : Daemon) :
      Handles (.requestDeletion task) d [] (d.requestDeletion task)
  | call {q : Request} {os : List Operation} {d d' : Daemon}
      (alone : ∀ token, q ≠ .control token) (through : Traverses q.operation d os d') :
      Handles (.call q) d os d'

/-- What happened, event by event, each with the turns that it took. -/
abbrev History := List (Event × List Operation)

/-- Events one after the other, with some time between them. -/
inductive Chronicle : Daemon → History → Daemon → Prop where
  | nil (d : Daemon) : Chronicle d [] d
  | cons {e : Event} {os : List Operation} {history : History} {d d₁ d₂ d' : Daemon}
      (first : Handles e d os d₁) (drift : d₁.Drifts d₂) (rest : Chronicle d₂ history d') :
      Chronicle d ((e, os) :: history) d'

/-- What was written on the way, in order. -/
def History.writes (history : History) : List Write :=
  history.flatMap fun x => x.2.filterMap Operation.write?

/-- The records handed to the store, in order. -/
def History.records (history : History) : List RunRecord :=
  history.writes.filterMap Write.record?

/-- The store after these writes. -/
def MemoryStore.afterwards (s : MemoryStore) (writes : List Write) : MemoryStore :=
  writes.foldl (fun s w => w.apply s) s

/-- The daemon has published these notices, and nothing else. -/
def Daemon.Publishes (d : Daemon) (ns : List Notice) (d' : Daemon) : Prop :=
  d'.bus = ns.foldl (fun b n => (b.publish n).2) d.bus

theorem Daemon.Drifts.reliable {d d' : Daemon} (h : d.Drifts d') (reliable : d.Reliable) :
    d'.Reliable := by
  rw [h.frame]
  exact reliable

/-! ### Every sequence of calls has a history -/

theorem Completes.traverses {o : Operation} {d d' : Daemon} {r : Operation.Result}
    (h : Completes o d r d') : ∃ os, Traverses o d os d' := by
  induction h with
  | done turned => exact ⟨_, .done turned⟩
  | next turned drift _ ih =>
      obtain ⟨os, rest⟩ := ih
      exact ⟨_, .next turned drift rest⟩
  | wait turned drift _ ih =>
      obtain ⟨os, rest⟩ := ih
      exact ⟨_, .wait turned drift rest⟩

theorem Serves.chronicle {d d' : Daemon} {es : List Event} (h : Serves d es d') :
    ∃ history : History, history.map (·.1) = es ∧ Chronicle d history d' := by
  induction h with
  | nil d => exact ⟨[], rfl, .nil d⟩
  | @cons e es d d₁ d₂ d' first drift _ ih =>
      obtain ⟨history, events, rest⟩ := ih
      have handled : ∃ os, Handles e d os d₁ := by
        cases first with
        | start => exact ⟨[], .start d⟩
        | requestDeletion task => exact ⟨[], .requestDeletion task d⟩
        | call alone completes =>
            obtain ⟨os, through⟩ := completes.traverses
            exact ⟨os, .call alone through⟩
      obtain ⟨os, handled⟩ := handled
      exact ⟨(e, os) :: history, congrArg (e :: ·) events, .cons handled drift rest⟩

/-! ### One call -/

namespace Operation

theorem run_handing (p : Run.Phase) : p.write?.bind Write.record? = p.announced? := by
  cases p <;> rfl

/-- All but an update announce the record that they hand to the store. -/
theorem handing_eq_announced {o : Operation} (other : ∀ p, o ≠ .update p) :
    o.handing? = o.announced? := by
  cases o with
  | create token goal phase => cases phase <;> rfl
  | update phase => exact absurd rfl (other phase)
  | run token phase => exact run_handing phase
  | delete token phase => cases phase <;> rfl
  | control token phase => rfl
  | errand crew e =>
      cases e with
      | watch phase => rfl
      | timer task phase =>
          cases phase with
          | running stop served s run => exact run_handing run
          | start | planning | sleeping => rfl
      | run phase => exact run_handing phase
      | delete phase => cases phase <;> rfl

end Operation

namespace Traverses

variable {o : Operation} {os : List Operation} {d d' : Daemon}

/-- What every operation on the way has, if each turn keeps it. -/
theorem induct {P : Operation → Prop}
    (turn : ∀ o o' d, P o → (o.turn d).1 = .next o' → P o') (h : Traverses o d os d')
    (start : P o) : ∀ x ∈ os, P x := by
  induction h with
  | done => exact fun x member => List.mem_singleton.mp member ▸ start
  | @next o o' os d _ _ _ turned _ _ ih =>
      intro x member
      rcases List.mem_cons.mp member with rfl | member
      · exact start
      · exact ih (turn o o' d start (by rw [turned])) x member
  | wait _ _ _ ih =>
      intro x member
      rcases List.mem_cons.mp member with rfl | member
      · exact start
      · exact ih start x member

/-- What has been announced and not stored yet comes first; then each turn announces what a later
one stores. -/
theorem announces (h : Traverses o d os d') : ∃ ns, d.Publishes ns d' ∧
    o.announced?.toList.map announcement ++ ns.filter (·.isRun) =
      (os.filterMap Operation.announced?).map announcement := by
  have first (o : Operation) (os : List Operation) :
      ((o :: os).filterMap Operation.announced?).map announcement =
        o.announced?.toList.map announcement ++
          (os.filterMap Operation.announced?).map announcement := by
    rw [List.filterMap_cons]
    cases o.announced? <;> rfl
  have drifts {d₁ d₂ d' : Daemon} {ns : List Notice} (drift : d₁.Drifts d₂)
      (later : d₂.Publishes ns d') : d₁.Publishes ns d' := by
    have same : d₂.bus = d₁.bus := by rw [drift.frame]
    unfold Daemon.Publishes at later ⊢
    rw [later, same]
  have joins {d d₁ d' : Daemon} {x : Deeds} {b? : Option Place} {ns : List Notice}
      (shown : x.Shown b? d d₁) (later : d₁.Publishes ns d') :
      d.Publishes (x.notices ++ ns) d' := by
    unfold Daemon.Publishes at later ⊢
    rw [later, shown.bus, List.foldl_append]
  induction h with
  | @done o d d' r turned =>
      obtain ⟨x, shown, fit⟩ := (Operation.May.turn o d).does
      rw [turned] at shown fit
      refine ⟨x.notices, shown.bus, ?_⟩
      rw [fit.runs, first]
      rfl
  | @next o o' os d d₁ d₂ d' turned drift _ ih =>
      obtain ⟨x, shown, fit⟩ := (Operation.May.turn o d).does
      rw [turned] at shown fit
      obtain ⟨ns, published, same⟩ := ih
      refine ⟨x.notices ++ ns, joins shown (drifts drift published), ?_⟩
      rw [List.filter_append, fit.runs, first, ← same]
      rfl
  | @wait o on os d d₁ d₂ d' turned drift _ ih =>
      obtain ⟨x, shown, fit⟩ := (Operation.May.turn o d).does
      rw [turned] at shown fit
      obtain ⟨ns, published, same⟩ := ih
      refine ⟨x.notices ++ ns, joins shown (drifts drift published), ?_⟩
      rw [List.filter_append, fit.runs, first, ← same]
      rfl

/-- If the store does not fail, it has what the turns wrote. -/
theorem stores (h : Traverses o d os d') (reliable : d.Reliable) :
    d'.Reliable ∧ d'.store = d.store.afterwards (os.filterMap Operation.write?) := by
  have first (o : Operation) (os : List Operation) (d : Daemon) (reliable : d.Reliable) :
      (o.turn d).2.store.afterwards (os.filterMap Operation.write?) =
        d.store.afterwards ((o :: os).filterMap Operation.write?) := by
    rw [(o.turn_leaves d).reliable reliable, List.filterMap_cons]
    cases o.write? <;> rfl
  induction h with
  | @done o d d' r turned =>
      have stored := first o [] d reliable
      have steady := (o.turn_leaves d).steady
      rw [turned] at stored steady
      exact ⟨steady.reliable reliable, stored⟩
  | @next o o' os d d₁ d₂ d' turned drift _ ih =>
      have stored := first o os d reliable
      have steady := (o.turn_leaves d).steady
      rw [turned] at stored steady
      have later := ih (drift.reliable (steady.reliable reliable))
      rw [drift.store] at later
      exact ⟨later.1, later.2.trans stored⟩
  | @wait o on os d d₁ d₂ d' turned drift _ ih =>
      have stored := first o os d reliable
      have steady := (o.turn_leaves d).steady
      rw [turned] at stored steady
      have later := ih (drift.reliable (steady.reliable reliable))
      rw [drift.store] at later
      exact ⟨later.1, later.2.trans stored⟩

end Traverses

/-! ### Updates -/

/-- An update that leaves no record. -/
def Update.Phase.Unrecorded : Update.Phase → Prop
  | .start _ option => option ≠ .now
  | .patching h => h.record = none
  | .recording _ _ _ => False
  | .storing _ _ _ => True

theorem Update.unrecorded_next {p p' : Phase} {d : Daemon} (h : p.Unrecorded)
    (next : (turn p d).1 = .next p') : p'.Unrecorded := by
  have settles (h : Held) (result : Except BackendError Plan) (d : Daemon)
      (next : (settle h result d).1 = .next p') : p'.Unrecorded := by
    unfold settle at next
    split at next
    · cases next
    split at next
    · cases next
    · cases next
      exact trivial
  cases p with
  | start conf option =>
      simp only [turn, begin] at next
      split at next
      · cases next
      split at next
      · cases next
      split at next
      · cases next
      split at next
      · cases next
      split at next
      · cases next
      · cases next
      · unfold entered at next
        simp only [if_neg h] at next
        cases next
        rfl
  | patching held =>
      have none : held.record = none := h
      simp only [turn, none] at next
      exact settles _ _ _ next
  | recording held record result => exact h.elim
  | storing held conf plan =>
      simp only [turn] at next
      split at next
      · cases next
      · cases next

theorem Update.unrecorded_handing {p : Phase} (h : p.Unrecorded) :
    (Operation.update p).handing? = none := by
  cases p with
  | start | storing => rfl
  | patching held =>
      show (if held.option = .inspect then none else some (Write.switch held.backend)).bind
        Write.record? = none
      by_cases inspects : held.option = .inspect
      · rw [if_pos inspects]
        rfl
      · rw [if_neg inspects]
        rfl
  | recording => exact h.elim

namespace Traverses

variable {os : List Operation} {d d' : Daemon}

/-- An update announces nothing. -/
theorem update_announces_nothing {p : Update.Phase} (h : Traverses (.update p) d os d') :
    os.filterMap Operation.announced? = [] := by
  have updates : ∀ x ∈ os, ∃ p, x = .update p := by
    refine h.induct ?_ ⟨p, rfl⟩
    rintro _ o' d ⟨p, rfl⟩ next
    obtain ⟨p', -, rfl, -⟩ := Operation.lift_next _ next
    exact ⟨p', rfl⟩
  refine List.filterMap_eq_nil_iff.mpr fun x member => ?_
  obtain ⟨p, rfl⟩ := updates x member
  rfl

/-- An update that is not to take effect at once records nothing. -/
theorem update_records_nothing {p : Update.Phase} (unrecorded : p.Unrecorded)
    (h : Traverses (.update p) d os d') : os.filterMap Operation.handing? = [] := by
  have updates : ∀ x ∈ os, ∃ p : Update.Phase, x = .update p ∧ p.Unrecorded := by
    refine h.induct ?_ ⟨p, rfl, unrecorded⟩
    rintro _ o' d ⟨p, rfl, unrecorded⟩ next
    obtain ⟨p', turned, rfl, -⟩ := Operation.lift_next _ next
    exact ⟨p', rfl, Update.unrecorded_next unrecorded turned⟩
  refine List.filterMap_eq_nil_iff.mpr fun x member => ?_
  obtain ⟨p, rfl, unrecorded⟩ := updates x member
  exact Update.unrecorded_handing unrecorded

/-- What is no update announces each record. -/
theorem records_announced {o : Operation} (other : ∀ p, o ≠ .update p) (h : Traverses o d os d') :
    os.filterMap Operation.announced? = os.filterMap Operation.handing? := by
  have others : ∀ x ∈ os, ∀ p, x ≠ .update p := by
    refine h.induct ?_ other
    intro o o' d other next p
    rintro rfl
    cases o with
    | update p => exact other p rfl
    | create | run | delete | control | errand =>
        obtain ⟨_, -, same, -⟩ := Operation.lift_next _ next
        cases same
  exact List.filterMap_congr fun x member =>
    (Operation.handing_eq_announced (others x member)).symm

end Traverses

/-! ### Histories -/

namespace Handles

variable {e : Event} {os : List Operation} {d d' : Daemon}

/-- An update at once announces nothing, and all else announces what it records. -/
theorem announces (h : Handles e d os d') : ∃ ns, d.Publishes ns d' ∧
    ns.filter (·.isRun) =
      if e.updatesNow then [] else (os.filterMap Operation.handing?).map announcement := by
  cases h with
  | start =>
      obtain ⟨lines, frame⟩ := Traffic.start_frame d
      refine ⟨[], ?_, rfl⟩
      rw [frame]
      rfl
  | requestDeletion task =>
      obtain ⟨r, box, hs, frame, _⟩ := d.requestDeletion_frame task
      refine ⟨[], ?_, rfl⟩
      rw [frame]
      rfl
  | @call q _ _ _ alone through =>
      obtain ⟨ns, published, same⟩ := through.announces
      have begins : q.operation.announced? = none := by
        cases q <;> rfl
      rw [begins] at same
      refine ⟨ns, published, same.trans ?_⟩
      cases q with
      | update conf option =>
          rw [through.update_announces_nothing]
          by_cases now : option = .now
          · subst now
            rfl
          · have unrecorded : (Update.Phase.start conf option).Unrecorded := now
            rw [through.update_records_nothing unrecorded]
            exact (ite_self _).symm
      | create | run | delete =>
          rw [through.records_announced fun _ => Operation.noConfusion]
          rfl
      | control token => exact absurd rfl (alone token)

theorem stores (h : Handles e d os d') (reliable : d.Reliable) :
    d'.Reliable ∧ d'.store = d.store.afterwards (os.filterMap Operation.write?) := by
  cases h with
  | start =>
      obtain ⟨lines, frame⟩ := Traffic.start_frame d
      rw [frame]
      exact ⟨reliable, rfl⟩
  | requestDeletion task =>
      obtain ⟨r, box, hs, frame, _⟩ := d.requestDeletion_frame task
      rw [frame]
      exact ⟨reliable, rfl⟩
  | call alone through => exact through.stores reliable

end Handles

namespace Daemon.Publishes

variable {d d₁ d₂ d' : Daemon} {ns ns' : List Notice}

theorem trans (h : d.Publishes ns d₁) (drift : d₁.Drifts d₂) (h' : d₂.Publishes ns' d') :
    d.Publishes (ns ++ ns') d' := by
  have same : d₂.bus = d₁.bus := by rw [drift.frame]
  unfold Daemon.Publishes at h h' ⊢
  rw [h', same, h, List.foldl_append]

/-- Where somebody listens, the bus shows what was published. -/
theorem sent (h : d.Publishes ns d') (heard : d.bus.receivers ≠ []) :
    d'.bus.sent.toList.map (·.notice) = d.bus.sent.toList.map (·.notice) ++ ns := by
  suffices all : ∀ (ns : List Notice) (b : Bus), b.receivers ≠ [] →
      (ns.foldl (fun b n => (b.publish n).2) b).sent.toList.map (·.notice) =
        b.sent.toList.map (·.notice) ++ ns by
    rw [show d'.bus = _ from h]
    exact all ns d.bus heard
  intro ns
  induction ns with
  | nil => exact fun b _ => (List.append_nil _).symm
  | cons n ns ih =>
      intro b heard
      have one : (b.publish n).2 =
          { b with published := b.published + 1, sent := b.sent.push ⟨b.sent.size, n⟩ } := by
        unfold Bus.publish
        rw [if_neg (by rwa [List.isEmpty_iff])]
      rw [List.foldl_cons, ih _ (by rwa [one]), one]
      simp

end Daemon.Publishes

namespace Chronicle

variable {history : History} {d d' : Daemon}

/-- All runs but those of updates at once are announced, in the order of their records. -/
theorem announces (h : Chronicle d history d') : ∃ ns, d.Publishes ns d' ∧
    ns.filter (·.isRun) =
      (History.records (history.filter fun x => !x.1.updatesNow)).map announcement := by
  induction h with
  | nil d => exact ⟨[], rfl, rfl⟩
  | @cons e os history d d₁ d₂ d' first drift _ ih =>
      obtain ⟨ms, firstly, announced⟩ := first.announces
      obtain ⟨ns, later, rest⟩ := ih
      refine ⟨ms ++ ns, firstly.trans drift later, ?_⟩
      rw [List.filter_append, announced, rest]
      cases now : e.updatesNow with
      | true =>
          rw [List.filter_cons_of_neg (by simp [now])]
          rfl
      | false =>
          rw [List.filter_cons_of_pos (by simp [now])]
          unfold History.records History.writes Operation.handing?
          rw [List.flatMap_cons, List.filterMap_append, List.filterMap_filterMap, List.map_append]
          rfl

/-- If the store does not fail, it has what was written on the way. -/
theorem stores (h : Chronicle d history d') (reliable : d.Reliable) :
    d'.store = d.store.afterwards history.writes := by
  induction h with
  | nil d => rfl
  | @cons e os history d d₁ d₂ d' first drift _ ih =>
      obtain ⟨still, stored⟩ := first.stores reliable
      rw [ih (drift.reliable still), drift.store, stored]
      exact List.foldl_append.symm

/-- With a store that does not fail, the records that it gets of the runs of a task and the notices
of them are the same, one by one, but for the updates at once, which nobody announces. -/
theorem runs_announced (reliable : d.Reliable) (h : Chronicle d history d') :
    d'.store = d.store.afterwards history.writes ∧
      ∃ ns, d.Publishes ns d' ∧ ∀ name,
        ns.filter (fun n => n.isRun && n.taskName == name) =
          ((History.records (history.filter fun x => !x.1.updatesNow)).filter
            (·.taskName == name)).map announcement := by
  refine ⟨h.stores reliable, ?_⟩
  obtain ⟨ns, published, same⟩ := h.announces
  refine ⟨ns, published, fun name => ?_⟩
  have named := congrArg (List.filter (·.taskName == name)) same
  simp only [List.filter_filter, List.filter_map, Bool.and_comm] at named
  exact named

end Chronicle

/-! ### Sample runs -/

/-- Takes a call to its end, like `complete`, and keeps the operation before each turn. -/
def Operation.trace (ms : Nat) : Nat → Operation → Daemon → Option (List Operation × Daemon)
  | 0, _, _ => none
  | fuel + 1, o, d =>
    match o.turn d with
    | (.next o', d) => (o'.trace ms fuel d).map fun x => (o :: x.1, x.2)
    | (.wait _, d) =>
      (o.trace ms fuel { d with clock := d.clock + ms }).map fun x => (o :: x.1, x.2)
    | (.done _, d) => some ([o], d)

theorem Operation.traverses {ms fuel : Nat} {o : Operation} {os : List Operation} {d d' : Daemon}
    (h : o.trace ms fuel d = some (os, d')) : Traverses o d os d' := by
  induction fuel generalizing o d os with
  | zero => cases h
  | succ fuel ih =>
      simp only [trace] at h
      split at h
      next turned =>
        obtain ⟨x, rest, same⟩ := Option.map_eq_some_iff.mp h
        cases same
        exact .next turned (.refl _) (ih rest)
      next turned =>
        obtain ⟨x, rest, same⟩ := Option.map_eq_some_iff.mp h
        cases same
        exact .wait turned (.pass _ ms) (ih rest)
      next turned =>
        cases h
        exact .done turned

/-- Takes calls to their ends, one after the other. -/
def Daemon.chronicle (ms fuel : Nat) : List Request → Daemon → Option (History × Daemon)
  | [], d => some ([], d)
  | q :: qs, d => (q.operation.trace ms fuel d).bind fun x =>
    (chronicle ms fuel qs x.2).map fun y => ((.call q, x.1) :: y.1, y.2)

theorem Daemon.chronicles {ms fuel : Nat} {qs : List Request} {d d' : Daemon} {history : History}
    (alone : ∀ q ∈ qs, ∀ token, q ≠ .control token)
    (h : d.chronicle ms fuel qs = some (history, d')) : Chronicle d history d' := by
  induction qs generalizing d history with
  | nil =>
      cases h
      exact .nil _
  | cons q qs ih =>
      obtain ⟨x, traced, rest⟩ := Option.bind_eq_some_iff.mp h
      obtain ⟨y, later, same⟩ := Option.map_eq_some_iff.mp rest
      cases same
      refine .cons (.call (alone q (.head _)) (Operation.traverses traced)) (.refl _) ?_
      exact ih (fun q member => alone q (.tail _ member)) later

open Traffic in
/-- A daemon with somebody who listens to its bus. -/
def heardDaemon : Daemon :=
  { sample.daemon .default with bus := Bus.default.subscribe.2 }

open Traffic in
/-- A task is created and run, and then it is run once more. -/
theorem Chronicle.runs_announced_sample :
    heardDaemon.Reliable ∧ ∃ history d', Chronicle heardDaemon history d' ∧
      (history.records.map fun r => (r.taskName, r.success)) = [("a", true), ("a", true)] ∧
      d'.store = heardDaemon.store.afterwards history.writes ∧
      ∃ ns, heardDaemon.Publishes ns d' ∧ ∀ name,
        ns.filter (fun n => n.isRun && n.taskName == name) =
          ((History.records (history.filter fun x => !x.1.updatesNow)).filter
            (·.taskName == name)).map announcement := by
  have records : (heardDaemon.chronicle 5 20
      [.create ⟨0⟩ .runAndAdd sampleTask, .run ⟨0⟩ "a"]).map
        (fun x => x.1.records.map fun r => (r.taskName, r.success)) =
      some [("a", true), ("a", true)] := by decide +kernel
  obtain ⟨⟨history, d'⟩, traced, records⟩ := Option.map_eq_some_iff.mp records
  have chronicle : Chronicle heardDaemon history d' := Daemon.chronicles (by simp) traced
  have reliable : heardDaemon.Reliable := nofun
  exact ⟨reliable, history, d', chronicle, records, chronicle.runs_announced reliable⟩

open Traffic in
/-- An update at once leaves a record that was never announced. -/
theorem update_unannounced :
    ¬ ∀ (d d' : Daemon) (history : History), d.Reliable → Chronicle d history d' →
      ∃ ns, d.Publishes ns d' ∧ ∀ name,
        ns.filter (fun n => n.isRun && n.taskName == name) =
          (history.records.filter (·.taskName == name)).map announcement := by
  intro always
  have seen : (heardDaemon.chronicle 5 20
      [.create ⟨0⟩ .add sampleTask, .update (sampleTask.withEnabled false) .now]).map
        (fun x => (x.1.records.map (·.taskName), x.2.bus.sent.toList.map (·.notice))) =
      some (["a"], [.created "a" false, .updated "a" false]) := by decide +kernel
  obtain ⟨⟨history, d'⟩, traced, seen⟩ := Option.map_eq_some_iff.mp seen
  obtain ⟨recorded, sent⟩ := Prod.mk.inj seen
  obtain ⟨ns, published, same⟩ :=
    always heardDaemon d' history nofun (Daemon.chronicles (by simp) traced)
  -- Somebody listens, so nothing but these two notices can have been published.
  have all : [.created "a" false, .updated "a" false] = ns :=
    sent.symm.trans (published.sent (by decide))
  have none : history.records.filter (·.taskName == "a") = [] := by
    have silent := same "a"
    rw [← all] at silent
    exact List.map_eq_nil_iff.mp silent.symm
  obtain ⟨r, only, name⟩ := List.map_eq_singleton_iff.mp recorded
  rw [only, List.filter_cons_of_pos (by simp [name])] at none
  cases none

end TaskSync
