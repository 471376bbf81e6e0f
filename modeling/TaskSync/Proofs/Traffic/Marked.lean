import TaskSync.Proofs.Operation.Deeds
import TaskSync.Proofs.Traffic.Staff
import TaskSync.Proofs.Traffic.Tenure

/-!
# Tasks marked for deletion

A run looks for the mark twice, before it asks for the guard and with the guard in hand, so whoever
has not looked for a task when it gets marked never renders or applies it. A timer that fires begins
a run like any other, and so does a trigger. An update looks for no mark: with the option `now` it
runs the task that is about to be deleted.
-/

namespace TaskSync

/-- From one daemon to the other the task of a backend is run: it is rendered, applied, or updated
at once. -/
inductive Daemon.Runs (b : Place) (d d' : Daemon) : Prop where
  | renders (more : (d.backend b).count .render < (d'.backend b).count .render)
  | applies (more : (d.backend b).count .apply < (d'.backend b).count .apply)
  | updates {lines : List JournalEntry} {l : Label} {on : Bool}
      (more : (d.backend b).count .update < (d'.backend b).count .update)
      (journal : d'.journal = lines ++ d.journal) (line : .updated l on .now ∈ lines)

/-! ### What a call gets hold of -/

/-- A backend that a run is going to call belongs to an unmarked entry when the run gets to know
it. -/
theorem Run.known_next {token : Token} {p p' : Phase} {d : Daemon} {b : Place}
    (next : (turn token p d).1 = .next p') (known : p'.stake.known? = some b) :
    p.stake.known? = some b ∨
      ∃ task e, d.registry.find? task = some e ∧ e.runner = b ∧ e.marked = false := by
  obtain ⟨x, goes⟩ := next_goes next
  cases goes with
  | looks looks looked =>
      cases looks with
      | start unmarked found =>
          obtain ⟨e, there, rfl⟩ := Registry.get?_eq_some.mp found
          have unmarked : e.marked = false := by
            rw [Registry.isMarked, there] at unmarked
            exact unmarked
          cases looked <;> cases known <;> exact .inr ⟨_, e, there, rfl, unmarked⟩
      | queued patient now => cases looked <;> exact .inl known
  | asks | complete | orders | failed | retries | renderFailed | unchanged | applied | exhausted |
    givenUp =>
      exact .inl known

namespace Operation

/-- How an operation that goes on came to know a backend: it knew it before, it has made it, it
found it registered for a task without a mark, or it is an update. -/
theorem May.known_next {o o' : Operation} {d : Daemon} {out : Outcome} (may : o.May d out)
    {b : Place} (next : out.1 = .next o') (known : o'.stake.known? = some b) :
    o.stake.known? = some b ∨ o'.stake = .fresh b ∨
      (∃ task e, d.registry.find? task = some e ∧ e.runner = b ∧ e.marked = false) ∨
      ∃ p, o' = .update p := by
  have ran {p' : Run.Phase} (run : o'.run? = some p') : o.stake.known? = some b ∨
      ∃ task e, d.registry.find? task = some e ∧ e.runner = b ∧ e.marked = false := by
    rw [stake_of_run run] at known
    obtain ⟨task, rfl⟩ | ⟨token, p, before, turned⟩ := may.run_next next run
    · cases known
    · rw [stake_of_run before]
      exact Run.known_next turned known
  cases o' with
  | create token goal p' =>
      refine .inr (.inl ?_)
      show p'.stake = _
      have known : p'.stake.known? = some b := known
      cases p' <;> cases known <;> rfl
  | update p' => exact .inr (.inr (.inr ⟨p', rfl⟩))
  | run token p' => exact (ran rfl).imp_right fun looked => .inr (.inl looked)
  | delete token p' =>
      have known : p'.stake.known? = some b := known
      cases p' <;> cases known
  | control token p' => cases known
  | errand crew e =>
      cases e with
      | watch p' => cases known
      | timer task p' =>
          cases p' with
          | running stop served s run' => exact (ran rfl).imp_right fun looked => .inr (.inl looked)
          | start | planning | sleeping => cases known
      | run p' => exact (ran rfl).imp_right fun looked => .inr (.inl looked)
      | delete p' =>
          have known : p'.stake.known? = some b := known
          cases p' <;> cases known

/-- An update stays one. -/
theorem May.update_next {p : Update.Phase} {o' : Operation} {d : Daemon} {out : Outcome}
    (may : (update p).May d out) (next : out.1 = .next o') : ∃ p', o' = .update p' := by
  cases may
  obtain ⟨p', -, rfl, -⟩ := lift_next _ next
  exact ⟨p', rfl⟩

end Operation

namespace Update

theorem settle_journal (h : Held) (result : Except BackendError Plan) (d : Daemon) :
    (settle h result d).2.journal = d.journal := by
  unfold settle
  split
  · rfl
  split
  · rfl
  · rfl

/-- The journal has a call with the option `now` only when an update that was asked for so calls its
backend. -/
theorem turn_now {p : Phase} {d : Daemon} {lines : List JournalEntry} {l : Label} {on : Bool}
    (journal : (turn p d).2.journal = lines ++ d.journal) (line : .updated l on .now ∈ lines) :
    ∃ h, p = .patching h ∧ h.option = .now := by
  have only {lines' : List JournalEntry} (same : (turn p d).2.journal = lines' ++ d.journal) :
      .updated l on .now ∈ lines' := by
    rw [journal] at same
    exact List.append_cancel_right same ▸ line
  cases p with
  | start conf option =>
      obtain ⟨lines', same, about⟩ := (begin_leaves conf option d).lines
      obtain ⟨b, none, -⟩ := about _ (only same) l rfl
      cases none
  | patching h =>
      refine ⟨h, rfl, ?_⟩
      obtain ⟨d₁, aside, how⟩ := d.patch_cases h.backend h.enabled h.option
      have patched : (d.patch h.backend h.enabled h.option).2.journal =
          [.updated (d.backend h.backend).label h.enabled h.option] ++ d.journal := by
        rcases how with ⟨e, how⟩ | ⟨plan, how⟩
        · rw [how]
          exact aside.journal
        · rw [how]
          split
          · exact aside.journal
          · exact aside.journal
      have turned : (turn (.patching h) d).2.journal =
          [.updated (d.backend h.backend).label h.enabled h.option] ++ d.journal := by
        simp only [turn]
        split
        · exact patched
        · exact (settle_journal h _ _).trans patched
      exact (JournalEntry.updated.inj (List.mem_singleton.mp (only turned))).2.2.symm
  | recording h record result =>
      obtain ⟨s, faults, written, _⟩ :=
        d.write_frame .addRecord record.taskName (·.addRecord record)
      have turned : (turn (.recording h record result) d).2.journal =
          [.written .addRecord record.taskName] ++ d.journal := by
        refine (settle_journal h result _).trans ?_
        unfold Daemon.addRecord
        rw [written]
        rfl
      cases List.mem_singleton.mp (only turned)
  | storing h conf plan =>
      obtain ⟨s, faults, written, _⟩ :=
        d.write_frame .setTask conf.nameOrEmpty (·.setTask conf)
      have turned : (turn (.storing h conf plan) d).2.journal =
          [.written .setTask conf.nameOrEmpty] ++ d.journal := by
        have stored : (d.setTask conf).2.journal =
            [.written .setTask conf.nameOrEmpty] ++ d.journal := by
          unfold Daemon.setTask
          rw [written]
          rfl
        simp only [turn]
        split <;> rename_i eq <;> rw [eq] at stored
        · exact stored
        · exact stored
      cases List.mem_singleton.mp (only turned)

end Update

/-! ### Backends of marked tasks -/

namespace Traffic

/-- The backend is that of no task that could be run: wherever it is registered there is a mark, and
nobody can register it any more. -/
structure Retired (t : Traffic) (b : Place) : Prop where
  inside : b < t.daemon.backends.size
  marked : ∀ n e, t.daemon.registry.find? n = some e → e.runner = b → e.marked = true
  unborn : ∀ i, t.stake i ≠ .fresh b

variable {t t' : Traffic} {b : Place}

theorem Sound.retired (h : t.Sound) {n : String} {e : Entry Place}
    (found : t.daemon.registry.find? n = some e) (marked : e.marked = true) :
    t.Retired e.runner where
  inside := h.inside n e found
  marked m f there same := by
    obtain rfl : m = n := h.runners there found same
    rw [found] at there
    cases there
    exact marked
  unborn i fresh := (h.fresh i e.runner fresh).1 n e found rfl

theorem Retired.goes (h : t.Retired b) (sound : t.Sound) (goes : Goes t t') : t'.Retired b where
  inside := Nat.lt_of_lt_of_le h.inside (sound.steady_goes goes).size
  marked n f found runner := by
    rcases sound.entry_goes goes found with
      ⟨e, there, continues⟩ | ⟨-, i, -, -, -, -, -, fresh, -⟩
    · exact continues.marked (h.marked n e there (continues.runner.symm.trans runner))
    · rw [runner] at fresh
      exact absurd fresh (h.unborn i)
  unborn := sound.unborn_goes goes h.inside h.unborn

theorem Retired.goesOn (h : t.Retired b) (sound : t.Sound) (on : GoesOn t t') :
    t'.Sound ∧ t'.Retired b := by
  induction on with
  | refl => exact ⟨sound, h⟩
  | tail _ last ih => exact ⟨ih.1.goes last, ih.2.goes ih.1 last⟩

/-- If the call goes on with the backend, it is an update. -/
def Bypasses (t : Traffic) (i : Nat) (b : Place) : Prop :=
  ∀ o, t.going? i = some o → o.stake.known? = some b → ∃ p, o = .update p

theorem Bypasses.take {i j : Nat} (h : t.Bypasses j b) (retired : t.Retired b) (sound : t.Sound)
    {o : Operation} {out : Operation.Outcome} (going : t.going? i = some o)
    (may : o.May t.daemon out) : (t.take i out).Bypasses j b := by
  intro o' there known
  rcases going?_take_cases going there with
    ⟨rfl, next | ⟨-, rfl⟩⟩ | ⟨-, old⟩ | ⟨-, _, w, rfl, -⟩
  · rcases may.known_next next known with before | fresh | ⟨n, e, found, runner, unmarked⟩ | update
    · obtain ⟨p, rfl⟩ := h o going before
      exact may.update_next next
    · exact absurd ((stake_of_going there).trans fresh)
        ((retired.goes sound (.choice going may)).unborn j)
    · rw [retired.marked n e found runner] at unmarked
      cases unmarked
    · exact update
  · exact h _ going known
  · exact h o' old known
  · rw [errand_stake] at known
    cases known

theorem Bypasses.goes {i : Nat} (h : t.Bypasses i b) (retired : t.Retired b) (sound : t.Sound)
    (goes : Goes t t') : t'.Bypasses i b := by
  refine goes.elim (fun q o there known => ?_) (fun _ => h)
    fun _ _ _ going may => h.take retired sound going may
  rcases going?_call there with old | rfl
  · exact h o old known
  · rw [request_stake] at known
    cases known

theorem Bypasses.goesOn {i : Nat} (h : t.Bypasses i b) (retired : t.Retired b) (sound : t.Sound)
    (on : GoesOn t t') : t'.Bypasses i b := by
  induction on with
  | refl => exact h
  | tail before last ih =>
      obtain ⟨sound, retired⟩ := retired.goesOn sound before
      exact ih.goes retired sound last

/-- Nobody runs a marked task, but for updates with the option `now`. Whatever calls do after the
task was marked, whoever had not looked for it by then, whether it had begun or not, goes on with
its backend in one way only: it is an update that was asked for at once. -/
theorem marked_runs_by_update (d : Daemon) (rest : d.AtRest) {s : Traffic}
    (reached : GoesOn (opening d) s) {name : String} {e : Entry Place}
    (found : s.daemon.registry.find? name = some e) (marked : e.marked = true)
    (later : GoesOn s t) {i : Nat} (unaware : (t.stake i).known? ≠ some e.runner)
    (on : GoesOn t t') {o : Operation} {out : Operation.Outcome} (going : t'.going? i = some o)
    (may : o.May t'.daemon out) (runs : t'.daemon.Runs e.runner out.2) :
    ∃ h : Update.Held, o = .update (.patching h) ∧ h.backend = e.runner ∧ h.option = .now := by
  have sound := (opening_sound rest).goesOn reached
  obtain ⟨soundT, retiredT⟩ := (sound.retired found marked).goesOn sound later
  obtain ⟨soundT', retired⟩ := retiredT.goesOn soundT on
  have bypasses : t.Bypasses i e.runner := fun o there known =>
    absurd ((congrArg Stake.known? (stake_of_going there)).trans known) unaware
  have updates {kind : CallKind} (more : (t'.daemon.backend e.runner).count kind <
      (out.2.backend e.runner).count kind) :
      o.stake.backend? = some e.runner ∧ kind = .update ∧ ∃ p, o = .update p := by
    obtain ⟨mine, calls⟩ := may.noted retired.inside more
    obtain ⟨p, rfl⟩ := bypasses.goesOn retiredT soundT on o going
      (Stake.known?_of_backend? mine)
    exact ⟨mine, calls, p, rfl⟩
  cases runs with
  | renders more => cases (updates more).2.1
  | applies more => cases (updates more).2.1
  | updates more journal line =>
      obtain ⟨mine, -, p, rfl⟩ := updates more
      cases may with
      | heed =>
          rw [Operation.heed, Operation.lift_snd] at journal
          obtain ⟨h, rfl, now⟩ := Update.turn_now journal line
          exact ⟨h, rfl, Option.some.inj mine, now⟩

/-- A task is registered and marked; then an update with the option `now` is asked for. -/
def lateUpdate : List Event :=
  [.call (.update (sampleTask.withEnabled false) .now), .turn 1]

/-- A daemon whose only task is marked for deletion. -/
def condemned : Traffic :=
  (opening (sample.daemon .default)).run (creation 0 sampleTask ++ [.requestDeletion "a"])

/-- The turn of the update that comes next. -/
theorem condemned_updates : ∃ o, (condemned.run lateUpdate).going? 1 = some o ∧
    (condemned.run lateUpdate).daemon.Runs 0 (o.turn (condemned.run lateUpdate).daemon).2 := by
  have journal : ((condemned.run lateUpdate).turn 1).daemon.journal =
      [.updated ⟨"a", 1⟩ false .now] ++ (condemned.run lateUpdate).daemon.journal := rfl
  exact ⟨_, rfl, .updates (by decide) journal (List.mem_singleton.mpr rfl)⟩

theorem marked_runs_by_update_sample :
    ∃ h : Update.Held, (condemned.run lateUpdate).going? 1 = some (.update (.patching h)) ∧
      h.backend = 0 ∧ h.option = .now := by
  have found : condemned.daemon.registry.find? "a" = some ⟨0, 0, ["tmpl-a"], false, true⟩ := rfl
  have unaware : (condemned.stake 1).known? ≠ some 0 := nofun
  obtain ⟨o, going, runs⟩ := condemned_updates
  obtain ⟨h, rfl, backend, now⟩ := marked_runs_by_update (sample.daemon .default)
    (Daemon.atRest_of_empty rfl) (.run _ _) found rfl .refl unaware (.run _ lateUpdate) going
    (.turn _ _) runs
  exact ⟨h, going, backend, now⟩

/-- A marked task is updated at once by a call that began after the mark. -/
theorem update_runs_marked_task :
    condemned.daemon.registry.isMarked "a" = true ∧ condemned.daemon.registry.get? "a" = some 0 ∧
      condemned.going? 1 = none ∧
      ∃ o, (condemned.run lateUpdate).going? 1 = some o ∧
        (condemned.run lateUpdate).daemon.Runs 0 (o.turn (condemned.run lateUpdate).daemon).2 :=
  ⟨rfl, rfl, rfl, condemned_updates⟩

end Traffic

end TaskSync
