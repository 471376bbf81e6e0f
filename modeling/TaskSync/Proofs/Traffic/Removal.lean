import TaskSync.Proofs.Traffic.Exclusion
import TaskSync.Proofs.Traffic.Vacancy

/-!
# Deletion is final

A task leaves the registry in a turn of a deletion that found it inactive. From then on its name is
vacant, so the deletion's own two writes are the last ones, and runs that still wait come to
nothing.
-/

namespace TaskSync

/-- The daemon has nothing left of a task. -/
structure Daemon.Forgot (d : Daemon) (name : String) : Prop where
  entry : d.registry.find? name = none
  templates : ∀ id, d.registry.templates.get? id ≠ some name
  store : d.store.Lacks name

/-- The run waits for the task, or has not looked at it yet. -/
def Run.Phase.Awaits : Run.Phase → String → Prop
  | .start task, name | .queued task _ _, name => task = name
  | _, _ => False

/-- A run that still waits for a task that is gone ends, at the latest when it looks for it, and
leaves the daemon as it is. -/
theorem Run.turn_gone {p : Phase} {name : String} {d : Daemon} (waits : p.Awaits name)
    (gone : d.registry.find? name = none) (token : Token) :
    (turn token p d).2 = d ∧
      ((turn token p d).1 = .done (.error (.notFound name)) ∨
        (turn token p d).1 = .done (.error .canceled) ∨
        ∃ b due, p = .queued name b due ∧ d.clock < due ∧
          (turn token p d).1 = .wait (Daemon.waitsUntil token due)) := by
  cases p with
  | start task =>
      obtain rfl : task = name := waits
      have unmarked : d.registry.isMarked task = false := by
        rw [Registry.isMarked, gone]
        rfl
      have unknown : d.registry.get? task = none := Registry.get?_eq_none.mpr gone
      have same : turn token (.start task) d = (.done (.error (.notFound task)), d) := by
        simp [turn, begin, unmarked, unknown]
      rw [same]
      exact ⟨rfl, .inl rfl⟩
  | queued task b due =>
      obtain rfl : task = name := waits
      simp only [turn]
      split
      · exact ⟨rfl, .inr (.inl rfl)⟩
      split
      · rcases Activation.look_cases task d with ⟨_, look⟩ | ⟨e, found, _⟩ | ⟨g, d₁, taken, _⟩
        · have same : enter task b d = (.done (.error (.notFound task)), d) := by
            simp [enter, look]
          rw [same]
          exact ⟨rfl, .inl rfl⟩
        · rw [gone] at found
          cases found
        · obtain ⟨r, activated, _⟩ := Daemon.tryActivate_eq_some taken
          obtain ⟨e, found, _⟩ := Registry.tryActivate_eq_some activated
          rw [gone] at found
          cases found
      next early =>
        exact ⟨rfl, .inr (.inr ⟨b, due, rfl, Nat.lt_of_not_le early, rfl⟩)⟩
  | rendering | applying | backingOff | recording => cases waits

namespace Deletion

/-- A turn that takes a task out found it inactive, and goes on to the store. -/
theorem turn_removes {token : Token} {p : Phase} {d : Daemon} {name : String} {e : Entry Place}
    (found : d.registry.find? name = some e)
    (gone : (turn token p d).2.registry.find? name = none) :
    p.task = name ∧ e.active = false ∧
      (turn token p d).1 = .next (.deletingTask name ⟨e.id⟩) := by
  have kept {r : Registry Place} (same : r = d.registry) : r.find? name ≠ none := by
    rw [same, found]
    exact Option.some_ne_none e
  have released {r : Registry Place} {g : Guard} (same : r = d.registry.release g) :
      r.find? name ≠ none := by
    rw [same, Registry.find?_release, found]
    exact Option.some_ne_none _
  have looking {task : String} {b : Place} {out : Outcome} (looks : Looks task b d out)
      (gone : out.2.registry.find? name = none) :
      task = name ∧ e.active = false ∧ out.1 = .next (.deletingTask name ⟨e.id⟩) := by
    cases looks with
    | missing | busy => exact absurd gone (kept rfl)
    | removes there inactive rest =>
        rw [rest name] at gone
        split at gone
        next same =>
          subst same
          rw [found] at there
          cases there
          exact ⟨rfl, inactive, rfl⟩
        · exact absurd gone (kept rfl)
  generalize acted : turn token p d = out at gone ⊢
  have acts := turn_acts token p d
  rw [acted] at acts
  cases acts with
  | begins looks | again looks => exact looking looks gone
  | nobody | canceled | waits => exact absurd gone (kept rfl)
  | clears registry => exact absurd gone (kept registry)
  | fails _ registry | ends _ registry => exact absurd gone (released registry)

end Deletion

namespace Traffic

/-- An entry goes only when a deletion takes a turn, and only while no call has it in hand. -/
theorem Faithful.removed {t t' : Traffic} (h : t.Faithful) (goes : GoesBy (· ≠ .start) t t')
    {name : String} {e : Entry Place} (found : t.daemon.registry.find? name = some e)
    (gone : t'.daemon.registry.find? name = none) :
    ∃ i o out p, t.going? i = some o ∧ o.May t.daemon out ∧ t' = t.take i out ∧
      o.deletion? = some p ∧ p.task = name ∧ (∀ j, t.guard? j ≠ some ⟨e.id⟩) ∧
      ∃ o', out.1 = .next o' ∧ o'.deletion? = some (.deletingTask name ⟨e.id⟩) := by
  revert gone
  refine goes.elim (fun q _ gone => ?_) (fun event kept gone => ?_) fun i o out going may gone => ?_
  · exact absurd (found.symm.trans gone) (Option.some_ne_none e)
  · obtain ⟨f, there, _⟩ := ((affect_quiet kept t.daemon).path (fun _ => False) none).entry_after
      (fun asked => asked h.loyal) id found
    exact absurd (there.symm.trans gone) (Option.some_ne_none f)
  · replace gone : out.2.registry.find? name = none := gone
    cases deletion : o.deletion? with
    | none =>
        cases h.sound.progress going may with
        | move m =>
            obtain ⟨f, there, _⟩ := o.entry_after deletion h.loyal m.path found
            rw [gone] at there
            cases there
        | enlist before after steady path added =>
            obtain ⟨f, there, _⟩ := path.entry_after (fun asked => asked h.loyal)
              (Operation.not_closes deletion name) found
            rw [Registry.find?_add added, there] at gone
            split at gone
            · cases gone
            · cases gone
    | some p =>
        obtain ⟨token, -, deletes⟩ := may.deletes deletion
        rw [deletes.registry] at gone
        obtain ⟨task, inactive, phase⟩ := Deletion.turn_removes found gone
        refine ⟨i, o, out, p, going, may, rfl, deletion, task, fun j held => ?_,
          deletes.next _ phase⟩
        have active := (h.sound.exclusive.flag name e found).mpr ⟨j, held⟩
        rw [inactive] at active
        cases active

/-- The deletion that took the entry out is on its way through the store, or through with it. -/
def Clearing (t : Traffic) (i : Nat) (name : String) : Prop :=
  (∃ o g, t.going? i = some o ∧ o.deletion? = some (.deletingTask name g)) ∨
  (∃ o g, t.going? i = some o ∧ o.deletion? = some (.deletingRecords name g) ∧
    t.daemon.store.getTask name = none) ∨
  t.daemon.store.Lacks name

theorem Operation.deletion_write {o : Operation} {p : Deletion.Phase} (h : o.deletion? = some p) :
    o.write? = p.write? := by
  cases o with
  | delete token phase =>
      cases h
      rfl
  | errand crew e =>
      cases e with
      | delete phase =>
          cases h
          rfl
      | watch | timer | run => cases h
  | create | update | run | control => cases h

/-- The deletion's own turns: the configuration goes, then the records, and nothing fails. -/
theorem Vacant.clearing_take {t : Traffic} {i : Nat} {name : String} (h : t.Vacant name)
    (c : t.Clearing i name) {o : Operation} {out : Operation.Outcome} (going : t.going? i = some o)
    (may : o.May t.daemon out) : (t.take i out).Clearing i name := by
  have stored {p : Deletion.Phase} (deletion : o.deletion? = some p) :
      out.2.store = p.write?.elim t.daemon.store (·.apply t.daemon.store) := by
    rw [← Operation.deletion_write deletion]
    exact may.leaves.reliable h.reliable
  rcases c with ⟨o', g, going', deletion⟩ | ⟨o', g, going', deletion, unset⟩ | lacks
  · obtain rfl := Option.some.inj (going.symm.trans going')
    obtain ⟨token, -, deletes⟩ := may.deletes deletion
    have phase : (Deletion.turn token (.deletingTask name g) t.daemon).1 =
        .next (.deletingRecords name g) := by
      obtain ⟨_, _, _, _, reliable⟩ :=
        t.daemon.write_frame .deleteTask name (fun s => s.deleteTask name)
      have ok : (t.daemon.deleteTask name).1 = .ok () := (reliable h.reliable).1
      simp only [Deletion.turn]
      split
      next eq =>
        rw [eq] at ok
        cases ok
      · rfl
    obtain ⟨o', next, deletion'⟩ := deletes.next _ phase
    refine .inr (.inl ⟨o', g, ?_, deletion', ?_⟩)
    · rw [going?_take_self going, next]
    · show out.2.store.getTask name = none
      rw [stored deletion]
      exact MemoryStore.getTask_deleteTask.trans (if_pos rfl)
  · obtain rfl := Option.some.inj (going.symm.trans going')
    refine .inr (.inr ⟨?_, ?_⟩)
    · show out.2.store.getTask name = none
      rw [stored deletion]
      exact unset
    · show out.2.store.recordsOf name = []
      rw [stored deletion]
      exact MemoryStore.recordsOf_deleteRecords.trans (if_pos rfl)
  · obtain ⟨config, records⟩ := h.goes_store (.choice going may)
    exact .inr (.inr ⟨config.elim (·.trans lacks.config) id,
      records.elim (·.trans lacks.records) id⟩)

theorem Vacant.clearing_goes {t t' : Traffic} {i : Nat} {name : String} (h : t.Vacant name)
    (c : t.Clearing i name) (goes : Goes t t') : t'.Clearing i name := by
  have aside (on : ∀ o, t.going? i = some o → t'.going? i = some o) : t'.Clearing i name := by
    obtain ⟨config, records⟩ := h.goes_store goes
    rcases c with ⟨o, g, going, deletion⟩ | ⟨o, g, going, deletion, none⟩ | lacks
    · exact .inl ⟨o, g, on o going, deletion⟩
    · exact .inr (.inl ⟨o, g, on o going, deletion, config.elim (·.trans none) id⟩)
    · exact .inr (.inr ⟨config.elim (·.trans lacks.config) id,
        records.elim (·.trans lacks.records) id⟩)
  revert aside
  refine goes.elim (fun q aside => aside fun o going => ?_) (fun _ aside => aside fun _ => id)
    fun j o out going may aside => ?_
  · rw [going?_append, if_pos (going?_length going)]
    exact going
  · by_cases mine : i = j
    · subst mine
      exact h.clearing_take c going may
    · exact aside fun o going => (going?_take_other mine (going?_length going)).trans going

theorem Vacant.goesOn {t t' : Traffic} {i : Nat} {name : String} (h : t.Vacant name)
    (c : t.Clearing i name)
    (on : GoesOnBy (fun e => e ≠ .start ∧ ¬ e.Creates name) t t') :
    t'.Vacant name ∧ t'.Clearing i name := by
  induction on with
  | refl => exact ⟨h, c⟩
  | tail _ last ih => exact ⟨ih.1.goes last, ih.1.clearing_goes ih.2 last.goes⟩

/-- An index that is sound routes no template to a name that is not registered. -/
theorem Vacant.unrouted {t : Traffic} {name : String} (h : t.Vacant name) (id : String) :
    t.daemon.registry.templates.get? id ≠ some name := by
  intro owner
  obtain ⟨e, found, _⟩ := h.faithful.sound.indexed id name owner
  rw [h.absent] at found
  cases found

/-- Nothing that takes its turn after a deletion brings the task back. -/
structure Final (t : Traffic) (i : Nat) (name : String) : Prop where
  entry : t.daemon.registry.find? name = none
  /-- Runs that waited for the task end, and do nothing. -/
  waiting : ∀ token p, Run.Phase.Awaits p name →
    (Run.turn token p t.daemon).2 = t.daemon ∧
      ((Run.turn token p t.daemon).1 = .done (.error (.notFound name)) ∨
        (Run.turn token p t.daemon).1 = .done (.error .canceled) ∨
        ∃ b due, p = .queued name b due ∧ t.daemon.clock < due ∧
          (Run.turn token p t.daemon).1 = .wait (Daemon.waitsUntil token due))
  /-- When the deletion has ended, nothing is left of the task. -/
  forgot : ∀ r, t.calls[i]? = some (.ended r) → t.daemon.Forgot name

theorem Vacant.final {t : Traffic} {i : Nat} {name : String} (h : t.Vacant name)
    (c : t.Clearing i name) : t.Final i name where
  entry := h.absent
  waiting token _ waits := Run.turn_gone waits h.absent token
  forgot r ended := by
    have idle : t.going? i = none := by
      unfold going?
      rw [ended]
    rcases c with ⟨o, g, going, _⟩ | ⟨o, g, going, _⟩ | lacks
    · rw [idle] at going
      cases going
    · rw [idle] at going
      cases going
    · exact ⟨h.absent, h.unrouted, lacks⟩

/-- Deletion is final. In whatever way calls have come there: an entry goes in a turn of a deletion,
taken while no call has the entry in hand; and whatever turns and calls follow, creations of the
name aside, nothing under the name comes back. -/
theorem deletion_final (d : Daemon) (rest : d.AtRest) (loyal : d.Avoids .unregister)
    (reliable : d.Reliable) (t : Traffic) (reached : GoesOnBy (· ≠ .start) (opening d) t)
    (t' : Traffic) (goes : GoesBy (· ≠ .start) t t') (name : String) (e : Entry Place)
    (found : t.daemon.registry.find? name = some e)
    (gone : t'.daemon.registry.find? name = none) (uncreated : t.Uncreated name) :
    ∃ i o out p, t.going? i = some o ∧ o.May t.daemon out ∧ t' = t.take i out ∧
      o.deletion? = some p ∧ p.task = name ∧ (∀ j, t.guard? j ≠ some ⟨e.id⟩) ∧
      ∀ u, GoesOnBy (fun x => x ≠ .start ∧ ¬ x.Creates name) t' u → u.Final i name := by
  have faithful : t.Faithful := (opening_faithful rest loyal).goesOn reached
  have lasting : t.daemon.Reliable :=
    ((opening_sound rest).steady_goesOn (GoesOnBy.goesOn reached)).reliable reliable
  obtain ⟨i, o, out, p, going, may, rfl, deletion, task, unheld, o', next, deletion'⟩ :=
    faithful.removed goes found gone
  refine ⟨i, o, out, p, going, may, rfl, deletion, task, unheld, fun u on => ?_⟩
  have vacant : (t.take i out).Vacant name :=
    ⟨faithful.goes goes, (faithful.sound.steady_goes goes.goes).reliable lasting, gone,
      uncreated.take faithful.sound going may⟩
  have begun : (t.take i out).going? i = some o' := by rw [going?_take_self going, next]
  obtain ⟨vacant, clearing⟩ := vacant.goesOn (.inl ⟨o', _, begun, deletion'⟩) on
  exact vacant.final clearing

/-- A run of the sample has ended while another run and a deletion wait. -/
def removalEvents : List Event :=
  sampleEvents ++ [.pass 5, .turn 1, .turn 1, .turn 1]

/-- The deletion goes first; when it has ended, the other run finds nothing. -/
theorem deletion_final_sample :
    ((((opening (sample.daemon .default)).run removalEvents).step (.turn 3)).run
      [.turn 3, .turn 3, .turn 2]).daemon.Forgot "a" := by
  have uncreated : ((opening (sample.daemon .default)).run removalEvents).Uncreated "a" :=
    .of_calls (by decide) "a"
  have alone : ∀ i < 5, (((opening (sample.daemon .default)).run removalEvents).going? i).any
      (·.deletion?.isSome) = true → i = 3 := by decide
  obtain ⟨i, o, out, p, going, -, same, deletion, -, -, final⟩ :=
    deletion_final (sample.daemon .default) (Daemon.atRest_of_empty rfl) (sample_avoids .unregister)
      sample_reliable _ (GoesOnBy.run _ removalEvents (by simp [removalEvents, sampleEvents])) _
      (.event ((opening (sample.daemon .default)).run removalEvents) (e := .turn 3) nofun) "a"
      ⟨0, 0, ["tmpl-a"], false, false⟩ rfl rfl uncreated
  obtain rfl := alone i (going?_length going) (by rw [going, Option.any_some, deletion]; rfl)
  have kept := final _ (GoesOnBy.run _ [.turn 3, .turn 3, .turn 2] (by simp [Event.Creates]))
  exact kept.forgot (.ok .done) rfl

end Traffic

end TaskSync
