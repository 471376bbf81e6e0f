import TaskSync.Proofs.Run.Turn
import TaskSync.Proofs.Traffic.Exclusion
import TaskSync.Proofs.Traffic.Numbers

/-!
# Whose backend a run calls

A run looks up its backend before it waits and takes the guard afterwards, each time by name. The
guard is that of the entry that is registered at the end of the wait, the backend is that of the
entry that was registered at its beginning. Numbers tell the two apart: the backend is the entry's
own if the entry was there when the run looked for it. An entry that took over the name in the
meantime is run with the backend of the one before.
-/

namespace TaskSync

/-- The record is one of a run of the task. -/
structure RunRecord.Of (r : RunRecord) (t : Task) : Prop where
  name : r.taskName = t.name
  origin : r.origin = .ofTask t

/-- Backends keep their tasks, so a record stays that of its backend's task. -/
theorem Daemon.Steady.record_of {d d' : Daemon} (steady : d.Steady d') {b : Place}
    (inside : b < d.backends.size) {r : RunRecord} (h : r.Of (d.taskOf b)) :
    r.Of (d'.taskOf b) := by
  have same := (steady.backend b inside).task
  refine ⟨h.name.trans (steady.name inside).symm, h.origin.trans ?_⟩
  rw [show d'.taskOf b = _ from same]
  rfl

/-! ### What a run has in hand -/

def Run.Phase.held? : Run.Phase → Option Run.Held
  | .start _ | .queued _ _ _ => none
  | .rendering h _ | .applying h _ _ | .backingOff h _ _ | .recording h _ _ => some h

/-- The run goes on with its backend and with a record of the same task. -/
structure Run.Held.Continues (h' h : Run.Held) : Prop where
  backend : h'.backend = h.backend
  name : h'.record.taskName = h.record.taskName
  origin : h'.record.origin = h.record.origin

/-- What a run has in hand after a turn goes back to what it had before, or its record was begun in
this turn. -/
theorem Run.held_next {token : Token} {p p' : Phase} {d : Daemon} {h' : Held}
    (next : (turn token p d).1 = .next p') (held : p'.held? = some h') :
    (∃ h, p.held? = some h ∧ h'.Continues h) ∨ h'.record.Of (d.taskOf h'.backend) := by
  obtain ⟨x, goes⟩ := next_goes next
  cases goes with
  | looks looks looked =>
      cases looked with
      | busy => cases held
      | taken =>
          cases held
          exact .inr ⟨rfl, rfl⟩
  | asks | complete | orders | failed | retries | renderFailed | unchanged | applied | exhausted |
    givenUp =>
      cases held
      exact .inl ⟨_, rfl, rfl, rfl, rfl⟩

/-- A timer that is done with a run begins no other one. -/
theorem Timer.finish_ne_running {token : Token} {task : String} {stop stop' : Stop}
    {served : Option Place} {result : Result} {served' : Place} {s : Cron.Schedule}
    {run : Run.Phase} {d : Daemon} :
    (finish token task stop served result d).1 ≠ .next (.running stop' served' s run) := by
  unfold finish
  simp only
  split
  · nofun
  split
  · nofun
  split
  · nofun
  split
  · nofun
  · nofun

theorem Timer.wake_running {token : Token} {task : String} {stop stop' : Stop}
    {served served' : Place} {s s' : Cron.Schedule} {run : Run.Phase} {d : Daemon}
    (next : (wake token task stop served s d).1 = .next (.running stop' served' s' run)) :
    run = .start task := by
  unfold wake at next
  split at next
  · cases next
    rfl
  · exact absurd next finish_ne_running

/-- A timer's run begins, or goes on by a turn of its own. -/
theorem Timer.running_next {token : Token} {task : String} {p : Phase} {d : Daemon} {stop : Stop}
    {served : Place} {s : Cron.Schedule} {run' : Run.Phase}
    (next : (turn token task p d).1 = .next (.running stop served s run')) :
    run' = .start task ∨
      ∃ run, p = .running stop served s run ∧ (Run.turn token run d).1 = .next run' := by
  cases p with
  | start stop' served' =>
      simp only [turn] at next
      split at next
      · exact absurd next finish_ne_running
      split at next
      · exact absurd next finish_ne_running
      · cases next
  | planning stop' served' s' =>
      simp only [turn] at next
      split at next
      · exact absurd next finish_ne_running
      · cases next
  | sleeping stop' served' s' due =>
      simp only [turn] at next
      split at next
      · exact absurd next finish_ne_running
      split at next
      · split at next
        · cases next
          exact .inl rfl
        · exact absurd next finish_ne_running
      · cases next
  | running stop' served' s' run =>
      simp only [turn] at next
      split at next <;> rename_i eq
      · cases next
        exact .inr ⟨run, rfl, by rw [eq]⟩
      · cases next
      · exact absurd next finish_ne_running
      · cases next

namespace Operation

/-- The run that an operation is: somebody's own, a controller's, or one of a timer. -/
def run? : Operation → Option Run.Phase
  | .run _ phase | .errand _ (.run phase) | .errand _ (.timer _ (.running _ _ _ phase)) =>
    some phase
  | _ => none

def held? (o : Operation) : Option Run.Held := o.run?.bind Run.Phase.held?

theorem stake_of_run {o : Operation} {p : Run.Phase} (h : o.run? = some p) : o.stake = p.stake := by
  unfold run? at h
  split at h <;> cases h <;> rfl

theorem stake_of_held {o : Operation} {h : Run.Held} (held : o.held? = some h) :
    o.stake = .working h.guard h.backend := by
  obtain ⟨p, run, has⟩ := Option.bind_eq_some_iff.mp held
  rw [stake_of_run run]
  cases p <;> cases has <;> rfl

/-- A run that may call a backend has it in hand. -/
theorem held_of_backend {o : Operation} {p : Run.Phase} (run : o.run? = some p) {b : Place}
    (may : o.stake.backend? = some b) : ∃ h, o.held? = some h ∧ h.backend = b := by
  rw [stake_of_run run] at may
  unfold held?
  rw [run]
  cases p <;> cases may <;> exact ⟨_, rfl, rfl⟩

/-- What goes on as a run is at its beginning, or goes on by a turn of the run. -/
theorem May.run_next {o o' : Operation} {d : Daemon} {out : Outcome} (may : o.May d out)
    {p' : Run.Phase} (next : out.1 = .next o') (run : o'.run? = some p') :
    (∃ task, p' = .start task) ∨
      ∃ token p, o.run? = some p ∧ (Run.turn token p d).1 = .next p' := by
  cases may with
  | @heed _ _ token =>
      cases o with
      | run own p =>
          obtain ⟨p₁, ran, rfl, _⟩ := lift_next _ next
          cases run
          exact .inr ⟨token, p, rfl, ran⟩
      | errand crew e =>
          obtain ⟨e', turned, rfl, _⟩ := lift_next _ next
          cases e with
          | run p =>
              obtain ⟨p₁, ran, rfl, _⟩ := Errand.settled_next _ turned
              cases run
              exact .inr ⟨token, p, rfl, ran⟩
          | timer task p =>
              obtain ⟨p₁, timed, rfl, _⟩ := Errand.settled_next _ turned
              cases p₁ with
              | running stop served s run' =>
                  cases run
                  obtain rfl | ⟨p, rfl, ran⟩ := Timer.running_next timed
                  · exact .inl ⟨task, rfl⟩
                  · exact .inr ⟨token, p, rfl, ran⟩
              | start | planning | sleeping => cases run
          | watch | delete =>
              obtain ⟨_, _, rfl, _⟩ := Errand.settled_next _ turned
              cases run
      | create | update | delete | control =>
          obtain ⟨_, _, rfl, _⟩ := lift_next _ next
          cases run
  | deal =>
      obtain ⟨_, _, rfl, _⟩ := lift_next _ next
      cases run
  | @fire crew task =>
      obtain ⟨e', settled, rfl, _⟩ := lift_next _ next
      obtain ⟨p₁, woken, rfl, _⟩ := Errand.settled_next _ settled
      cases p₁ with
      | running stop served s run' =>
          cases run
          exact .inl ⟨task, Timer.wake_running woken⟩
      | start | planning | sleeping => cases run
  | watchEnds =>
      obtain ⟨e', settled, rfl, _⟩ := lift_next _ next
      obtain ⟨_, _, rfl, _⟩ := Errand.settled_next _ settled
      cases run
  | watchSends =>
      cases next
      cases run

theorem May.held_next {o o' : Operation} {d : Daemon} {out : Outcome} (may : o.May d out)
    {h' : Run.Held} (next : out.1 = .next o') (held : o'.held? = some h') :
    (∃ h, o.held? = some h ∧ h'.Continues h) ∨ h'.record.Of (d.taskOf h'.backend) := by
  obtain ⟨p', run', has⟩ := Option.bind_eq_some_iff.mp held
  obtain ⟨task, rfl⟩ | ⟨token, p, run, ran⟩ := may.run_next next run'
  · cases has
  · refine (Run.held_next ran has).imp_left fun ⟨h, before, continues⟩ => ⟨h, ?_, continues⟩
    rw [held?, run]
    exact before

end Operation

namespace Traffic

/-! ### Records -/

/-- What every run is going to record is about the task of the backend that it calls. -/
def Records (t : Traffic) : Prop :=
  ∀ i o h, t.going? i = some o → o.held? = some h → h.record.Of (t.daemon.taskOf h.backend)

theorem opening_records (d : Daemon) : (opening d).Records := by
  intro i o h going
  cases going

theorem held_inside {t : Traffic} (sound : t.Sound) {i : Nat} {o : Operation} {h : Run.Held}
    (going : t.going? i = some o) (held : o.held? = some h) :
    h.backend < t.daemon.backends.size := by
  refine sound.known i h.backend ?_
  rw [stake_of_going going, Operation.stake_of_held held]
  rfl

/-- The backend of a run was there before the turn that let the run have it. -/
theorem held_inside_before {t : Traffic} (sound : t.Sound) {i : Nat} {o o' : Operation}
    {out : Operation.Outcome} {h : Run.Held} (going : t.going? i = some o)
    (may : o.May t.daemon out) (next : out.1 = .next o') (held : o'.held? = some h) :
    h.backend < t.daemon.backends.size := by
  have after : (t.take i out).stake i = .working h.guard h.backend := by
    rw [stake_take going, Function.update_self, next]
    exact Operation.stake_of_held held
  have progress := sound.progress going may
  rw [after] at progress
  cases progress with
  | enlist _ none => cases none
  | move m =>
      rcases m.working _ _ rfl with old | ⟨task, e, found, _, runner | queued⟩
      · exact sound.known i _ (by rw [← old]; rfl)
      · exact runner ▸ sound.inside task e found
      · exact sound.known i _ (by rw [queued]; rfl)

theorem Records.take {t : Traffic} (h : t.Records) (sound : t.Sound) {i : Nat} {o : Operation}
    {out : Operation.Outcome} (going : t.going? i = some o) (may : o.May t.daemon out) :
    (t.take i out).Records := by
  have steady : t.daemon.Steady out.2 := (sound.progress going may).steady
  have kept (j : Nat) (o : Operation) (x : Run.Held) (going : t.going? j = some o)
      (held : o.held? = some x) : x.record.Of (out.2.taskOf x.backend) :=
    steady.record_of (held_inside sound going held) (h j o x going held)
  intro j o' x found held
  show x.record.Of (out.2.taskOf x.backend)
  rcases going?_take_cases going found with
    ⟨rfl, next | ⟨-, rfl⟩⟩ | ⟨_, old⟩ | ⟨-, crew, w, rfl, -⟩
  · rcases may.held_next next held with ⟨y, before, continues⟩ | begun
    · have of := kept j o y going before
      rw [← continues.backend] at of
      exact ⟨continues.name.trans of.name, continues.origin.trans of.origin⟩
    · exact steady.record_of (held_inside_before sound going may next held) begun
  · exact kept j _ x going held
  · exact kept j o' x old held
  · cases w <;> cases held

theorem Records.goes {t t' : Traffic} (h : t.Records) (sound : t.Sound) (goes : Goes t t') :
    t'.Records := by
  refine goes.elim (fun q i o x found held => ?_) (fun e i o x found held => ?_)
    fun _ _ _ going may => h.take sound going may
  · rcases going?_call found with old | rfl
    · exact h i o x old held
    · cases q <;> cases held
  · exact (affect_steady e t.daemon).record_of (held_inside sound found held) (h i o x found held)

theorem Records.goesOn {t t' : Traffic} (h : t.Records) (sound : t.Sound) (on : GoesOn t t') :
    t'.Records := by
  induction on with
  | refl => exact h
  | tail before last ih => exact ih.goes (sound.goesOn before) last

end Traffic

/-! ### Backends and entries -/

/-- The backend that is known belongs to the entry that it is looked up or called for, if the entry
has a number below `n`. -/
structure Stake.Fits (n : Nat) (s : Stake) (r : Registry Place) : Prop where
  queued : ∀ task b, s = .queued task b →
    ∀ e, r.find? task = some e → e.id < n → e.runner = b
  working : ∀ g b, s = .working g b →
    ∀ name e, r.find? name = some e → g = ⟨e.id⟩ → e.id < n → e.runner = b

namespace Stake.Fits

variable {n : Nat} {s : Stake} {r r' : Registry Place}

theorem nothing : Fits n .nothing r := ⟨nofun, nofun⟩

/-- Entries below `n` that go back to earlier ones go on to fit. -/
theorem of_entries (h : Fits n s r)
    (earlier : ∀ name f, r'.find? name = some f → f.id < n →
      ∃ e, r.find? name = some e ∧ f.Continues e) : Fits n s r' where
  queued task b same f found old := by
    obtain ⟨e, there, continues⟩ := earlier task f found old
    rw [continues.runner]
    exact h.queued task b same e there (continues.id ▸ old)
  working g b same name f found held old := by
    obtain ⟨e, there, continues⟩ := earlier name f found old
    rw [continues.runner]
    rw [continues.id] at held old
    exact h.working g b same name e there held old

/-- A backend is looked up together with its entry, and the guard that is taken after a wait is
that of an entry for which the backend was looked up. -/
theorem progress {closing : String → Prop} {new : Stake} {d d' : Daemon} {held : Nat → Option Guard}
    (h : Fits n s d.registry) (exclusive : d.registry.Exclusive held)
    (p : Progress closing s new d d')
    (earlier : ∀ name f, d'.registry.find? name = some f → f.id < n →
      ∃ e, d.registry.find? name = some e ∧ f.Continues e) : Fits n new d'.registry where
  queued task b same f found old := by
    cases p with
    | enlist _ none =>
        rw [none] at same
        cases same
    | move m =>
        rcases m.queued task b same with before | ⟨e, there, runner⟩
        · exact (h.of_entries earlier).queued task b (before ▸ same) f found old
        · obtain ⟨e', there', continues⟩ := earlier task f found old
          rw [there] at there'
          cases there'
          exact continues.runner.trans runner
  working g b same name f found guarded old := by
    cases p with
    | enlist _ none =>
        rw [none] at same
        cases same
    | move m =>
        rcases m.working g b same with before | ⟨task, e, there, number, known⟩
        · exact (h.of_entries earlier).working g b (before ▸ same) name f found guarded old
        · obtain ⟨e', there', continues⟩ := earlier name f found old
          have same : e'.id = e.id := by
            rw [← continues.id]
            exact Guard.mk.inj (guarded.symm.trans number)
          obtain rfl := exclusive.apart name task e' e there' there same
          rw [there] at there'
          cases there'
          rw [continues.runner]
          exact known.elim id fun queued => h.queued name b queued e there (continues.id ▸ old)

end Stake.Fits

namespace Traffic

/-- The backend that a call knows is that of the entry it is for, unless the entry was registered
with a number of `n` or above. -/
theorem fits_goes {t t' : Traffic} (sound : t.Sound) {n : Nat}
    (issued : n ≤ t.daemon.registry.nextId) {i : Nat} (h : (t.stake i).Fits n t.daemon.registry)
    (goes : Goes t t') : (t'.stake i).Fits n t'.daemon.registry := by
  have earlier (name : String) (f : Entry Place)
      (found : t'.daemon.registry.find? name = some f) (old : f.id < n) :
      ∃ e, t.daemon.registry.find? name = some e ∧ f.Continues e :=
    sound.entry_goesOn (.single goes) found (Nat.lt_of_lt_of_le old issued)
  revert earlier
  refine goes.elim (fun q earlier => ?_) (fun e earlier => h.of_entries earlier)
    fun j o out going may earlier => ?_
  · rw [stake_call]
    exact h.of_entries earlier
  · by_cases same : i = j
    · subst same
      show ((t.take i out).stake i).Fits n out.2.registry
      exact h.progress sound.exclusive (sound.progress going may) earlier
    · rw [stake_take going, Function.update_of_ne same]
      exact h.of_entries earlier

theorem fits_goesOn {t t' : Traffic} (sound : t.Sound) {n : Nat}
    (issued : n ≤ t.daemon.registry.nextId) {i : Nat} (h : (t.stake i).Fits n t.daemon.registry)
    (on : GoesOn t t') : (t'.stake i).Fits n t'.daemon.registry := by
  induction on with
  | refl => exact h
  | tail before last ih =>
      exact fits_goes (sound.goesOn before) (Nat.le_trans issued (sound.nextId_goesOn before)) ih
        last

/-- What a run has in hand at `t` belongs together: the guard is that of the entry `e`, which has
the name of the backend's task, and the record is about that task. The backend is that of the entry
too if the entry was registered by `s`. -/
structure Tenure (s t : Traffic) (h : Run.Held) (e : Entry Place) : Prop where
  entry : t.daemon.registry.find? (t.daemon.taskOf h.backend).name = some e
  guard : h.guard = ⟨e.id⟩
  record : h.record.Of (t.daemon.taskOf h.backend)
  backend : e.id < s.daemon.registry.nextId → e.runner = h.backend

/-- A run and its entry. In whatever way calls go on, a run has a guard, a backend and a record that
belong together, and whatever turn it may take calls no backend but the one it has in hand. That
backend is the one of the entry in its hand if the entry was there at some point at which the run
had not looked for it yet; only an entry that was registered later can be run with a backend of
another one. -/
theorem run_tenure (d : Daemon) (rest : d.AtRest) (loyal : d.Avoids .unregister) (s t : Traffic)
    (earlier : GoesOnBy (· ≠ .start) (opening d) s) (now : GoesOnBy (· ≠ .start) s t) (i : Nat)
    (unbegun : s.stake i = .nothing) (o : Operation) (p : Run.Phase) (going : t.going? i = some o)
    (run : o.run? = some p) :
    (∀ h, o.held? = some h → ∃ e, Tenure s t h e) ∧
      ∀ out, o.May t.daemon out →
        ∃ lines, (t.take i out).daemon.journal = lines ++ t.daemon.journal ∧
          ∀ x ∈ lines, ∀ l, x.about? = some l →
            ∃ h, o.held? = some h ∧ l = (t.daemon.backend h.backend).label := by
  have opened := opening_sound rest
  have sound := opened.goesOn (GoesOnBy.goesOn earlier)
  have through : GoesOnBy (· ≠ .start) (opening d) t := earlier.trans now
  have faithful : t.Faithful := (opening_faithful rest loyal).goesOn through
  have records : t.Records := (opening_records d).goesOn opened (GoesOnBy.goesOn through)
  have fits := fits_goesOn sound (Nat.le_refl _) (unbegun ▸ Stake.Fits.nothing)
    (GoesOnBy.goesOn now) (i := i)
  refine ⟨fun h held => ?_, fun out may => ?_⟩
  · have works : t.stake i = .working h.guard h.backend :=
      (stake_of_going going).trans (Operation.stake_of_held held)
    obtain ⟨e, found, guard⟩ := faithful.rightful i h.guard h.backend works
    exact ⟨e, found, guard, records i o h going held,
      fits.working h.guard h.backend works _ e found guard⟩
  · obtain ⟨lines, journal, calls⟩ := take_lines going may
    refine ⟨lines, journal, fun x member l about => ?_⟩
    obtain ⟨b, mine, label⟩ := calls x member l about
    rw [stake_of_going going] at mine
    obtain ⟨h, held, rfl⟩ := Operation.held_of_backend run mine
    exact ⟨h, held, label⟩

/-- The call at place `i` registers a task and ends. -/
def creation (i : Nat) (conf : TaskConfig) : List Event :=
  [.call (.create ⟨0⟩ .add conf), .turn i, .turn i, .turn i, .pass 5, .turn i, .turn i]

/-- A run takes the guard of its task and calls the backend. -/
def firstRun : List Event := [.call (.run ⟨0⟩ "a"), .turn 1, .turn 1]

theorem run_tenure_sample :
    ∃ h e, Tenure ((opening (sample.daemon .default)).run (creation 0 sampleTask))
      ((opening (sample.daemon .default)).run (creation 0 sampleTask ++ firstRun)) h e ∧
        e.runner = h.backend := by
  have tenure := run_tenure (sample.daemon .default) (Daemon.atRest_of_empty rfl)
    (sample_avoids .unregister) _ _
    (GoesOnBy.run (opening (sample.daemon .default)) (creation 0 sampleTask) (by simp [creation]))
    (GoesOnBy.run _ firstRun (by simp [firstRun])) 1 rfl _ _ rfl rfl
  obtain ⟨e, belongs⟩ := tenure.1 _ rfl
  have first : e = ⟨0, 0, ["tmpl-a"], true, false⟩ := (Option.some.inj belongs.entry).symm
  exact ⟨_, e, belongs, belongs.backend (by rw [first]; decide)⟩

/-- While a second run waits for the first one, the task is deleted and another one is created
under its name; then the second run takes a turn. -/
def overlap : Traffic :=
  (opening (sample.daemon .default)).run <|
    creation 0 sampleTask ++ firstRun ++
      [.call (.run ⟨0⟩ "a"), .turn 2, .call (.delete ⟨0⟩ "a"), .turn 3,
        .pass 5, .turn 1, .turn 1, .turn 1, .turn 3, .turn 3, .turn 3] ++
      creation 4 (sampleTask.withServices ["t"]) ++ [.turn 2]

/-- The second run has the guard of the new entry in hand and calls the backend of the old one, and
it has begun a record of the old task. -/
theorem run_outlives_entry :
    overlap.daemon.registry.find? "a" = some ⟨1, 1, ["tmpl-a"], true, false⟩ ∧
      (overlap.daemon.backend 1).label = ⟨"a", 2⟩ ∧
      (overlap.daemon.taskOf 1).services = ["t"] ∧
      overlap.stake 2 = .working ⟨1⟩ 0 ∧
      (overlap.turn 2).daemon.journal.head? = some (.called ⟨"a", 1⟩ .render) ∧
      ((overlap.going? 2).bind Operation.held?).map (·.record.origin.services) = some ["s"] :=
  ⟨rfl, rfl, rfl, by decide, rfl, rfl⟩

end Traffic

end TaskSync
