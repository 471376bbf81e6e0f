import TaskSync.Command.Basic
import TaskSync.Proofs.Config.Finalizing
import TaskSync.Proofs.Traffic.Punctual
import TaskSync.Proofs.Traffic.Timers

/-!
# What an accepted configuration is good for

Once a configuration is accepted nothing that is made of it can fail for its contents: the command
that checks it lists all its tasks, a creation goes on to make each of them, and no timer ever finds
a scheduled task with a schedule that cannot be read.
-/

namespace TaskSync

/-- The task is made of the configuration and says what it says; a creation goes on to make it
unless the name is taken, and a timer can begin with it if it is scheduled. -/
structure Task.Embodies (t : Task) (c : TaskConfig) : Prop extends t.Meets c where
  made : ofConfig c = .ok t
  created : ∀ d : Daemon, d.registry.contains c.nameOrEmpty = false →
    Creation.begin c d = (.next (.making t), d)
  begins : t.isScheduled → ∃ s, Timer.schedule t.name t = .ok s

namespace Config

variable {c : Config}

theorem exists_embodies {t : TaskConfig} (valid : t.IsValid) (here : t ∈ c.finalize.tasks) :
    ∃ task : Task, task.Embodies t := by
  have accepted := TaskConfig.validate_eq_ok_iff.mpr valid
  obtain ⟨task, made⟩ := Task.ofConfig_of_validate accepted
  obtain ⟨s, -, rfl⟩ := List.mem_map.mp here
  have meets := Task.meets_of_isValid valid made
  refine ⟨task, meets, made, fun d free => ?_, Timer.schedule_of_timely meets.timely⟩
  exact (Creation.begin_finalize s _ _ d task).mpr ⟨accepted, free, made⟩

theorem exists_tasks {ts : List TaskConfig} (valid : ∀ t ∈ ts, t.IsValid)
    (here : ∀ t ∈ ts, t ∈ c.finalize.tasks) :
    ∃ tasks, List.Forall₂ (fun t (task : Task) => task.Embodies t) ts tasks := by
  induction ts with
  | nil => exact ⟨[], .nil⟩
  | cons t ts ih =>
      obtain ⟨task, embodies⟩ :=
        exists_embodies (valid t List.mem_cons_self) (here t List.mem_cons_self)
      obtain ⟨tasks, each⟩ := ih (fun s later => valid s (.tail t later))
        fun s later => here s (.tail t later)
      exact ⟨task :: tasks, .cons embodies each⟩

end Config

namespace Command

/-- What is printed of tasks that are all valid. -/
def listing (tasks : List Task) : String :=
  String.join (tasks.map validTaskLine) ++ "\n" ++ toString tasks.length ++ " task(s) valid\n"

theorem validate_of_made {c : Config} {tasks : List Task} (accepted : c.validate = .ok ())
    (made : List.Forall₂ (fun t task => Task.ofConfig t = .ok task) c.tasks tasks) :
    validate c = .ok (listing tasks) := by
  have lines : ∀ {ts : List TaskConfig} {tasks : List Task},
      List.Forall₂ (fun t task => Task.ofConfig t = .ok task) ts tasks →
        (ts.mapM fun t => ((Task.ofConfig t).map validTaskLine).mapError fun e =>
          (⟨"Invalid task " ++ t.nameOrEmpty, [e.message]⟩ : Complaint)) =
            .ok (tasks.map validTaskLine) := by
    intro ts tasks made
    induction made with
    | nil => rfl
    | cons first rest ih =>
        rw [List.mapM_cons, ih, first]
        rfl
  rw [validate, accepted, lines made, listing, made.length_eq]
  rfl

end Command

namespace Config

/-- A configuration is accepted exactly when it is valid, and refused for a repeated name exactly
when nothing is wrong up to there. An accepted one gives a task for each of its parts, so neither
the command line nor a creation has anything left to refuse; and whatever calls do, no timer fails
over a task that is scheduled. -/
theorem validation_suffices (c : Config) :
    (c.validate = .ok () ↔ c.IsValid) ∧
    (∀ n, c.validate = .error (.duplicateTask n) ↔ c.RepeatsName n) ∧
    (c.finalize.validate = .ok () →
      ∃ tasks, List.Forall₂ (fun t (task : Task) => task.Embodies t) c.finalize.tasks tasks ∧
        Command.validate c.finalize = .ok (Command.listing tasks)) ∧
    ∀ (d : Daemon) (t : Traffic), d.AtRest →
      (∀ n e, d.registry.find? n = some e → (d.taskOf e.runner).Timely) →
      Traffic.GoesOn (Traffic.opening d) t →
      ∀ name b, t.daemon.registry.get? name = some b → (t.daemon.taskOf b).isScheduled →
        ∀ token p e, (Timer.turn token name p t.daemon).1 ≠ .done (.error e) := by
  refine ⟨validate_eq_ok_iff, fun n => validate_eq_duplicateTask_iff, fun accepted => ?_,
    fun d t rest timely on name b there timed token p e failed => ?_⟩
  · have valid := validate_eq_ok_iff.mp accepted
    obtain ⟨tasks, each⟩ := exists_tasks valid.tasks fun t here => here
    exact ⟨tasks, each, Command.validate_of_made accepted (each.imp fun _ _ h => h.made)⟩
  · have punctual := (Traffic.opening_punctual timely).goesOn (Traffic.opening_sound rest) on
    obtain ⟨b', there', untimed⟩ :=
      Timer.unscheduled_of_error (fun b => punctual.timely) failed
    cases there.symm.trans there'
    cases timed.symm.trans untimed

theorem halfMinute_fits : 30 < 2 ^ 64 := by decide

/-- A task that waits for changes, half of whose buffer period is set, and one that is scheduled. -/
def sampleFleet : Config :=
  { Config.default with
    bufferPeriod? := some ⟨none, none, some (.ofSecs 30 halfMinute_fits)⟩
    tasks := [
      { Traffic.sampleTask with
        name := some "web", bufferPeriod := some ⟨none, some (.ofSecs 1 Task.second_fits), none⟩ },
      { Traffic.timedTask with name := some "nightly" }] }

/-- The scheduled task is created, and a controller starts its timer. -/
def firstTimer : Traffic := (Traffic.opening Traffic.controlled).run (Traffic.timerEvents.take 12)

theorem validation_suffices_sample :
    sampleFleet.finalize.validate = .ok () ∧
      (∃ tasks, List.Forall₂ (fun t (task : Task) => task.Embodies t) sampleFleet.finalize.tasks
          tasks ∧ Command.validate sampleFleet.finalize = .ok (Command.listing tasks)) ∧
      ∀ token p e, (Timer.turn token "a" p firstTimer.daemon).1 ≠ .done (.error e) := by
  obtain ⟨-, -, makes, times⟩ := validation_suffices sampleFleet
  refine ⟨by rfl, makes (by rfl), ?_⟩
  exact times Traffic.controlled firstTimer (Daemon.atRest_of_empty rfl)
    (fun n e found => by cases found) (.run _ _) "a" 0 (by decide +kernel) (by decide +kernel)

end Config

end TaskSync
