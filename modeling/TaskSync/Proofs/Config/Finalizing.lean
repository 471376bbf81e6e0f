import Mathlib.Data.List.Forall2
import TaskSync.Config.Basic
import TaskSync.Daemon.Create
import TaskSync.Proofs.Config.Changes

/-!
# Finalizing

What `finalize` writes stays when a configuration is finalized again, whatever the common period
and directory are then: the first time sets every part that the second one would look for. Of what
was set before, the buffer period alone may change.
-/

namespace TaskSync

namespace PeriodConfig

variable {p : PeriodConfig}

/-- Every part is set, and a period that is off does not wait. -/
structure IsComplete (p : PeriodConfig) : Prop where
  enabled : p.enabled.isSome
  min : p.min.isSome
  max : p.max.isSome
  off : p.enabled = some false → p.min = some .zero ∧ p.max = some .zero

theorem IsSettled.isComplete (settled : p.IsSettled) : p.IsComplete := by
  rcases settled with rfl | ⟨min, max, rfl⟩
  · exact ⟨rfl, rfl, rfl, fun _ => ⟨rfl, rfl⟩⟩
  · exact ⟨rfl, rfl, rfl, nofun⟩

/-- The parts that are set are in the other period, but for the waits of one that is off. -/
structure Conserves (p q : PeriodConfig) : Prop where
  enabled : ∀ b ∈ p.enabled, q.enabled = some b
  min : q.isEnabled → ∀ d ∈ p.min, q.min = some d
  max : q.isEnabled → ∀ d ∈ p.max, q.max = some d

theorem conserves_finalize (p parent : PeriodConfig) : p.Conserves (p.finalize parent) := by
  have flag : ∀ b ∈ p.enabled, p.resolvedEnabled parent = b := by
    intro b set
    rw [resolvedEnabled, set, Option.getD_some]
  unfold finalize
  split
  · rename_i on
    refine ⟨fun b set => ?_, fun _ d set => ?_, fun _ d set => ?_⟩
    · rw [← flag b set, on]
    · rw [set, Option.getD_some]
    · rw [set, Option.getD_some]
  · rename_i off
    refine ⟨fun b set => ?_, nofun, nofun⟩
    rw [← flag b set, Bool.of_not_eq_true off]
    rfl

end PeriodConfig

namespace TaskConfig

/-- What a task needs is set, its buffer period with every part of it. A scheduled task does not
wait. -/
structure IsComplete (c : TaskConfig) : Prop where
  enabled : c.enabled.isSome
  description : c.description.isSome
  version : c.version.isSome
  bufferPeriod : ∃ p ∈ c.bufferPeriod, p.IsComplete
  scheduled : c.isScheduled → c.bufferPeriod = some .disabled

theorem isComplete_finalize (c : TaskConfig) (period : PeriodConfig) (dir : Path) :
    (c.finalize period dir).IsComplete where
  enabled := rfl
  description := rfl
  version := rfl
  bufferPeriod := by
    obtain ⟨p, full, settled⟩ := c.isSettled_of_finalize period dir
    exact ⟨p, full, settled.isComplete⟩
  scheduled timed := congrArg some (if_pos timed)

/-- The parts that are set are in the other configuration, but for the buffer period. -/
structure Conserves (c other : TaskConfig) : Prop where
  name : other.name = c.name
  enabled : ∀ b ∈ c.enabled, other.enabled = some b
  workingDir : ∀ d ∈ c.workingDir, other.workingDir = some d
  changed : c.changedFields other =
    if ∃ p ∈ c.bufferPeriod, other.bufferPeriod ≠ some p then ["buffer_period"] else []

theorem conserves_finalize (c : TaskConfig) (period : PeriodConfig) (dir : Path) :
    c.Conserves (c.finalize period dir) where
  name := rfl
  enabled b set := by
    simp only [finalize, Option.mem_def.mp set, Option.getD_some]
  workingDir d set := by
    simp only [finalize, Option.mem_def.mp set]
    rfl
  changed := by
    have periods : (∃ p ∈ c.bufferPeriod, c.settledPeriod p period ≠ p) ↔
        ∃ p ∈ c.bufferPeriod, (c.finalize period dir).bufferPeriod ≠ some p := by
      refine exists_congr fun p => and_congr_right fun set => ?_
      rw [bufferPeriod_finalize set, ne_eq, ne_eq, Option.some.injEq]
    have kept := c.changedFields_finalize period dir c.bindings
    rw [differsList_self, if_neg Bool.false_ne_true, List.nil_append] at kept
    exact kept.trans (if_congr periods rfl rfl)

end TaskConfig

/-- A creation makes the task of a finalized configuration as it stands. -/
theorem Creation.begin_finalize (c : TaskConfig) (period : PeriodConfig) (dir : Path)
    (d : Daemon) (task : Task) :
    Creation.begin (c.finalize period dir) d = (.next (.making task), d) ↔
      (c.finalize period dir).validate = .ok () ∧
        d.registry.contains c.nameOrEmpty = false ∧
        Task.ofConfig (c.finalize period dir) = .ok task := by
  have named : (c.finalize period dir).nameOrEmpty = c.nameOrEmpty := rfl
  simp only [Creation.begin, c.finalize_finalize, named]
  cases (c.finalize period dir).validate with
  | error e => simp [fail]
  | ok =>
    cases d.registry.contains c.nameOrEmpty with
    | true => simp [fail]
    | false =>
      cases Task.ofConfig (c.finalize period dir) with
      | error e => simp [fail]
      | ok made => simp

namespace Config

/-- What the configuration says about the process the other one says too, and what is set of its
tasks is set so in the tasks of the other one, buffer periods aside. -/
structure Conserves (c other : Config) : Prop where
  workingDir : other.workingDir = c.workingDir
  databaseUrl : other.databaseUrl = c.databaseUrl
  logLevel : other.logLevel = c.logLevel
  eventHistory : other.eventHistory = c.eventHistory
  globalPeriod : other.globalPeriod = c.globalPeriod
  onceMode : other.onceMode = c.onceMode
  retry : other.retry = c.retry
  tasks : List.Forall₂ TaskConfig.Conserves c.tasks other.tasks

/-- What the process and its tasks need is set. -/
structure IsComplete (c : Config) : Prop where
  workingDir : c.workingDir?.isSome
  bufferPeriod : ∃ p ∈ c.bufferPeriod?, p.IsComplete
  databaseUrl : c.databaseUrl?.isSome
  logLevel : c.logLevel?.isSome
  eventHistory : c.eventHistory?.isSome
  tasks : ∀ t ∈ c.tasks, t.IsComplete

/-- What holds of configurations of tasks that are finalized holds of the tasks of a process. -/
theorem forall_tasks_finalize {P : TaskConfig → Prop}
    (finalized : ∀ (t : TaskConfig) period dir, P (t.finalize period dir)) (c : Config) :
    ∀ t ∈ c.finalize.tasks, P t := by
  intro t here
  obtain ⟨s, -, rfl⟩ := List.mem_map.mp here
  exact finalized s _ _

theorem tasks_absorb (c : Config) :
    ∀ t ∈ c.finalize.tasks, ∀ period dir, t.finalize period dir = t :=
  c.forall_tasks_finalize fun t _ _ _ _ => t.finalize_finalize _ _ _ _

theorem isComplete_finalize (c : Config) : c.finalize.IsComplete where
  workingDir := rfl
  bufferPeriod := ⟨_, rfl, (PeriodConfig.isSettled_finalize _ _).isComplete⟩
  databaseUrl := rfl
  logLevel := rfl
  eventHistory := rfl
  tasks := c.forall_tasks_finalize TaskConfig.isComplete_finalize

theorem globalPeriod_finalize (c : Config) : c.finalize.globalPeriod = c.globalPeriod :=
  (PeriodConfig.isSettled_finalize _ _).finalize .fallback

theorem conserves_finalize (c : Config) : c.Conserves c.finalize where
  workingDir := rfl
  databaseUrl := rfl
  logLevel := rfl
  eventHistory := rfl
  globalPeriod := c.globalPeriod_finalize
  onceMode := rfl
  retry := rfl
  tasks := by
    refine List.forall₂_map_right_iff.mpr (List.forall₂_same.mpr fun t _ => ?_)
    exact t.conserves_finalize _ _

theorem finalize_finalize (c : Config) : c.finalize.finalize = c.finalize := by
  have tasks :
      c.finalize.tasks.map (fun t => t.finalize c.globalPeriod c.workingDir) = c.finalize.tasks :=
    (List.map_congr_left fun t here => c.tasks_absorb t here _ _).trans (List.map_id _)
  show { c.finalize with
    bufferPeriod? := some c.finalize.globalPeriod
    tasks := c.finalize.tasks.map fun t : TaskConfig =>
      t.finalize c.finalize.globalPeriod c.workingDir } = _
  rw [c.globalPeriod_finalize, tasks]
  rfl

/-- Periods, tasks and processes are finalized once and for all: no other common period or
directory changes them again, a creation that finalizes a task's configuration once more makes the
task that it describes, and of what was set the buffer period alone is altered. -/
theorem finalize_once :
    (∀ p parent : PeriodConfig,
      (∀ other, (p.finalize parent).finalize other = p.finalize parent) ∧
        (p.finalize parent).IsComplete ∧ p.Conserves (p.finalize parent)) ∧
    (∀ (c : TaskConfig) (period : PeriodConfig) (dir : Path),
      (∀ other home, (c.finalize period dir).finalize other home = c.finalize period dir) ∧
        (c.finalize period dir).IsComplete ∧ c.Conserves (c.finalize period dir) ∧
        ∀ (d : Daemon) (task : Task),
          Creation.begin (c.finalize period dir) d = (.next (.making task), d) ↔
            (c.finalize period dir).validate = .ok () ∧
              d.registry.contains c.nameOrEmpty = false ∧
              Task.ofConfig (c.finalize period dir) = .ok task) ∧
    ∀ c : Config, c.finalize.finalize = c.finalize ∧
      (∀ t ∈ c.finalize.tasks, ∀ period dir, t.finalize period dir = t) ∧
      c.finalize.IsComplete ∧ c.Conserves c.finalize := by
  refine ⟨fun p parent => ?_, fun c period dir => ?_, fun c => ?_⟩
  · have settled := p.isSettled_finalize parent
    exact ⟨settled.finalize, settled.isComplete, p.conserves_finalize parent⟩
  · exact ⟨fun other home => c.finalize_finalize period other dir home,
      c.isComplete_finalize period dir, c.conserves_finalize period dir,
      Creation.begin_finalize c period dir⟩
  · exact ⟨c.finalize_finalize, c.tasks_absorb, c.isComplete_finalize, c.conserves_finalize⟩

end Config

end TaskSync
