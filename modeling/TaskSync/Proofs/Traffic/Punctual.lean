import TaskSync.Proofs.Config.Making
import TaskSync.Proofs.Traffic.Labels

/-!
# Timers that can begin

Every task that is registered has been made from a valid configuration, so its schedule, if it has
one, can be read. A timer that finds its task scheduled therefore never fails, whatever other calls
do: it fails only over a task that has been put in the place of a scheduled one and is not
scheduled itself.
-/

namespace TaskSync

variable {d d' : Daemon} {b : Place}

theorem Daemon.Steady.timely (steady : d.Steady d') (inside : b < d.backends.size)
    (timely : (d.taskOf b).Timely) : (d'.taskOf b).Timely := by
  have follows := (steady.backend b inside).task
  show Task.Timely (d'.backend b).task
  rw [follows, Task.timely_enabled]
  exact timely

namespace Creation

/-- The task that a creation has in hand before it is registered. -/
def Phase.task? (d : Daemon) : Phase → Option Task
  | .start _ | .storing _ => none
  | .making task => some task
  | .rendering t _ | .pausing t _ => some (d.taskOf t.backend)
  | .destroying b _ | .applying b _ _ | .recording b _ | .inspecting b => some (d.taskOf b)

theorem Phase.task?_of_fresh {p : Phase} (fresh : p.stake = .fresh b) :
    p.task? d = some (d.taskOf b) := by
  cases p <;> cases fresh <;> rfl

/-- The task in hand, if there is one, can be timed. -/
def Phase.Timely (p : Phase) (d : Daemon) : Prop := ∀ task ∈ p.task? d, task.Timely

theorem Phase.Timely.steady {p : Phase} (h : p.Timely d) (steady : d.Steady d')
    (inside : ∀ b, p.stake = .fresh b → b < d.backends.size) : p.Timely d' := by
  intro task there
  cases stake : p.stake with
  | fresh b =>
      rw [task?_of_fresh stake] at there
      cases there
      exact steady.timely (inside b stake) (h _ (task?_of_fresh stake))
  | nothing | queued | working | removing =>
      cases p with
      | making made => exact h task there
      | start | storing => cases there
      | rendering | pausing | destroying | applying | recording | inspecting => cases stake

/-- The task that a creation begins with is made from a valid configuration. -/
theorem begin_timely {conf : TaskConfig} {p : Phase} (next : (begin conf d).1 = .next p) :
    p.Timely (begin conf d).2 := by
  rw [begin] at next ⊢
  split at next
  · cases next
  next valid =>
  split at next
  · cases next
  split at next
  · cases next
  next task made =>
  cases next
  intro t there
  cases there
  exact (Task.meets_of_isValid (TaskConfig.validate_eq_ok_iff.mp valid) made).timely

theorem turn_timely {token : Token} {goal : Goal} {p p' : Phase}
    (inside : ∀ b, p.stake = .fresh b → b < d.backends.size) (timely : p.Timely d)
    (next : (turn token goal p d).1 = .next p') : p'.Timely (turn token goal p d).2 := by
  have kept {c : Place} (mine : p.stake = .fresh c) : p'.Timely (turn token goal p d).2 := by
    have handling := turn_handling token goal d mine
    rw [next] at handling
    intro task there
    cases handling with
    | keeps same =>
        rw [Phase.task?_of_fresh same] at there
        cases there
        exact (turn_steady token goal p d inside).timely (inside c mine)
          (timely _ (Phase.task?_of_fresh mine))
    | registers => cases there
  cases p with
  | start conf => exact begin_timely next
  | making task =>
      simp only [turn] at next ⊢
      split at next
      · cases next
      next b d₁ made =>
        cases next
        obtain ⟨rfl, label, _, script, rfl, _⟩ := Daemon.make_eq_ok made
        intro t there
        cases there
        show Task.Timely ((d.backends.push _).getD d.backends.size default).task
        rw [Daemon.backend_push, if_pos rfl]
        exact timely task rfl
  | storing task =>
      obtain ⟨⟨r, done⟩, -⟩ := storing_ends token goal task d
      cases done.symm.trans next
  | rendering | pausing | destroying | applying | recording | inspecting => exact kept rfl

end Creation

namespace Timer

variable {token : Token} {task : String} {e : Failure}

/-- A timer that ends without a fault does not turn it into one. -/
theorem finish_ne_error (stop : Stop) (served : Option Place) :
    (finish token task stop served (.ok ()) d).1 ≠ .done (.error e) := by
  intro failed
  rw [finish] at failed
  split at failed
  · cases failed
  split at failed
  · cases failed
  split at failed
  · cases failed
  · cases failed

/-- A timer fails only over a task that is not scheduled, if the schedules of the others can be
read. -/
theorem unscheduled_of_error {p : Phase}
    (timely : ∀ b, d.registry.get? task = some b → (d.taskOf b).Timely)
    (failed : (turn token task p d).1 = .done (.error e)) :
    ∃ b, d.registry.get? task = some b ∧ (d.taskOf b).isScheduled = false := by
  cases p with
  | start stop served =>
      cases there : d.registry.get? task with
      | none =>
          rw [turn, there] at failed
          exact absurd failed (finish_ne_error stop served)
      | some b =>
          refine ⟨b, rfl, Bool.eq_false_iff.mpr fun timed => ?_⟩
          obtain ⟨s, goes⟩ : ∃ s, turn token task (.start stop served) d =
              (.next (.planning stop b s), d) := begins there (timely b there) timed
          rw [goes] at failed
          cases failed
  | planning stop served s =>
      rw [turn] at failed
      split at failed
      · exact absurd failed (finish_ne_error stop _)
      · cases failed
  | sleeping stop served s due =>
      rw [turn] at failed
      split at failed
      · exact absurd failed (finish_ne_error stop _)
      split at failed
      · split at failed
        · cases failed
        · exact absurd failed (finish_ne_error stop _)
      · cases failed
  | running stop served s run =>
      rw [turn] at failed
      split at failed
      · cases failed
      · cases failed
      · exact absurd failed (finish_ne_error stop _)
      · cases failed

end Timer

namespace Traffic

/-- Every task that is registered, or that a creation has in hand, can be timed. -/
structure Punctual (t : Traffic) : Prop where
  registered : ∀ n e, t.daemon.registry.find? n = some e → (t.daemon.taskOf e.runner).Timely
  creating : ∀ i token goal p, t.going? i = some (.create token goal p) → p.Timely t.daemon

variable {t t' : Traffic}

theorem opening_punctual {d : Daemon}
    (timely : ∀ n e, d.registry.find? n = some e → (d.taskOf e.runner).Timely) :
    (opening d).Punctual where
  registered := timely
  creating _ _ _ _ going := absurd going nofun

theorem Punctual.goes (h : t.Punctual) (sound : t.Sound) (goes : Goes t t') : t'.Punctual where
  registered := by
    refine sound.registered_goes (P := fun d b => (d.taskOf b).Timely) goes
      (fun b inside timely => ?_) h.registered fun i b fresh => ?_
    · exact (sound.steady_goes goes).timely inside timely
    · obtain ⟨token, goal, p, going, mine⟩ := creation_of_fresh fresh
      exact h.creating i token goal p going _ (Creation.Phase.task?_of_fresh mine)
  creating := by
    refine goes.elim (fun q i token goal p going => ?_) (fun e i token goal p going => ?_)
      fun j o out going may i token goal p there => ?_
    · rcases going?_call going with old | begun
      · exact h.creating i token goal p old
      · cases q <;> cases begun
        exact nofun
    · exact (h.creating i token goal p going).steady (affect_steady e t.daemon) (sound.made going)
    · show p.Timely out.2
      obtain ⟨-, next | ⟨-, rfl⟩⟩ | ⟨-, before⟩ | ⟨-, crew, w, other, -⟩ :=
        going?_take_cases going there
      · obtain ⟨p₀, token', rfl, daemon, turned⟩ := may.creation_next next
        rw [daemon]
        exact Creation.turn_timely (sound.made going) (h.creating j token goal p₀ going) turned
      · have inside := sound.made going
        exact (h.creating j token goal p going).steady (sound.progress going may).steady inside
      · exact (h.creating i token goal p before).steady (sound.progress going may).steady
          (sound.made before)
      · cases other

theorem Punctual.goesOn (h : t.Punctual) (sound : t.Sound) (on : GoesOn t t') : t'.Punctual := by
  induction on with
  | refl => exact h
  | tail before last ih => exact ih.goes (sound.goesOn before) last

theorem Punctual.timely (h : t.Punctual) {name : String} {b : Place}
    (there : t.daemon.registry.get? name = some b) : (t.daemon.taskOf b).Timely := by
  obtain ⟨e, found, rfl⟩ := Option.map_eq_some_iff.mp there
  exact h.registered name e found

end Traffic

end TaskSync
