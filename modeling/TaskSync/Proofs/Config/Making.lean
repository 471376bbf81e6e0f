import TaskSync.Controller.Timer
import TaskSync.Proofs.Config.Canonical

/-!
# Tasks of valid configurations

What a task says that has been made from a valid configuration, once that is finalized: when it is
scheduled, its cron expression is the one that was checked and it gathers no changes; when it
gathers changes, its shorter wait does not exceed the longer one. A timer can therefore begin with
any such task that is scheduled.
-/

namespace TaskSync

namespace Task

/-- The task keeps to the configuration, and its times can be worked with. -/
structure Meets (t : Task) (c : TaskConfig) : Prop where
  kind : t.isScheduled = c.isScheduled
  schedule : ∀ cron, t.schedule? = some cron ↔ c.condition = some (.schedule cron)
  readable : ∀ cron ∈ t.schedule?, (Cron.read? cron).isSome
  unbuffered : t.isScheduled → t.bufferPeriod = none
  waits : ∀ p ∈ t.bufferPeriod, p.min ≤ p.max

/-- A scheduled task has a cron expression that can be read. -/
def Timely (t : Task) : Prop :=
  t.isScheduled → ∃ cron s, t.schedule? = some cron ∧ Cron.read? cron = some s

variable {c : TaskConfig} {t : Task} {period : PeriodConfig} {dir : Path}

theorem schedule?_eq_some {cron : String} :
    t.schedule? = some cron ↔ t.condition = some (.schedule cron) := by
  rw [schedule?]
  split
  next cron' set =>
    rw [set, Option.some.injEq, Option.some.injEq, Condition.schedule.injEq]
  next other =>
    exact ⟨nofun, fun set => absurd set (other cron)⟩

theorem meets_of_isValid (valid : (c.finalize period dir).IsValid)
    (made : ofConfig (c.finalize period dir) = .ok t) : t.Meets (c.finalize period dir) := by
  have conveys := conveys_of_ofConfig made
  have schedule : ∀ cron, t.schedule? = some cron ↔
      (c.finalize period dir).condition = some (.schedule cron) := by
    intro cron
    rw [schedule?_eq_some, conveys.condition]
  obtain ⟨p, set, settled⟩ := c.isSettled_of_finalize period dir
  have waits := conveys.bufferPeriod
  rw [set, Option.bind_some] at waits
  refine ⟨conveys.isScheduled, schedule, fun cron named => ?_, fun timed => ?_,
    fun q here => ?_⟩
  · exact valid.condition _ ((schedule cron).mp named)
  · rw [conveys.isScheduled] at timed
    have off : (c.finalize period dir).bufferPeriod = some .disabled := congrArg some (if_pos timed)
    rw [waits, Option.some.inj (set.symm.trans off)]
    rfl
  · rw [waits] at here
    have ordered := valid.bufferPeriod p set
    rcases settled with rfl | ⟨min, max, rfl⟩
    · cases here
    · cases here
      exact ordered min rfl max rfl

theorem Meets.timely (h : t.Meets c) : t.Timely := by
  intro timed
  rw [h.kind, TaskConfig.isScheduled] at timed
  obtain ⟨x, set, timed⟩ := (Option.any_eq_true _ _).mp timed
  cases x with
  | services | catalogServices => cases timed
  | schedule cron =>
      have named := (h.schedule cron).mpr set
      obtain ⟨s, read⟩ := Option.isSome_iff_exists.mp (h.readable cron named)
      exact ⟨cron, s, named, read⟩

/-- Whether it is switched on has no bearing on the times of a task. -/
theorem timely_enabled {on : Bool} : Timely { t with enabled := on } ↔ t.Timely := Iff.rfl

end Task

/-! ### Timers -/

namespace Timer

variable {token : Token} {task : String} {d : Daemon} {b : Place}

theorem schedule_of_timely {t : Task} (timely : t.Timely) (timed : t.isScheduled) :
    ∃ s, schedule task t = .ok s := by
  obtain ⟨cron, s, named, read⟩ := timely timed
  refine ⟨s, ?_⟩
  rw [schedule, named]
  simp only [read]

/-- A timer that finds a task it can work with goes on to its first time. -/
theorem begins {stop : Stop} {served : Option Place} (there : d.registry.get? task = some b)
    (timely : (d.taskOf b).Timely) (timed : (d.taskOf b).isScheduled) :
    ∃ s, turn token task (.start stop served) d = (.next (.planning stop b s), d) := by
  obtain ⟨s, known⟩ : ∃ s, schedule task (d.taskOf b) = .ok s := schedule_of_timely timely timed
  refine ⟨s, ?_⟩
  rw [turn, there]
  simp only [known]

end Timer

end TaskSync
