import TaskSync.Proofs.Config.Making
import TaskSync.Proofs.Data.Path

/-!
# Directories that tasks are given

A task that says nothing about its directory works in one of its own, directly under the common
one. The rule for names excludes whatever means more than one component to a path, and names are
distinct, so that these directories stay inside the common one and apart from each other.
-/

namespace TaskSync

namespace TaskConfig

theorem not_isNameLetter_dot : ¬ IsNameLetter '.' := by
  rw [← isNameChar_iff]
  decide

theorem not_isNameLetter_slash : ¬ IsNameLetter '/' := by
  rw [← isNameChar_iff]
  decide

/-- No name that is accepted means anything but itself to a path. -/
theorem isPlain_of_isNameLetter {name : String} (nonempty : name ≠ "")
    (letters : ∀ x ∈ name.toList, IsNameLetter x) : Path.IsPlain name.toList where
  ne_nil := mt String.toList_eq_nil_iff.mp nonempty
  ne_dot := fun dot => not_isNameLetter_dot (letters '.' (dot ▸ List.mem_cons_self))
  ne_dots := fun dots => not_isNameLetter_dot (letters '.' (dots ▸ List.mem_cons_self))
  slashless := fun slash => not_isNameLetter_slash (letters '/' slash)

theorem IsValid.isPlain {c : TaskConfig} (h : c.IsValid) {name : String}
    (named : c.name = some name) : Path.IsPlain name.toList := by
  obtain ⟨own, there, nonempty, letters⟩ := h.name
  cases named.symm.trans there
  exact isPlain_of_isNameLetter nonempty letters

end TaskConfig

namespace Config

/-- The task at place `i` says nothing about its directory; once that is filled in, `task` is made
of it. -/
structure Unplaced (c : Config) (i : Nat) (task : Task) : Prop where
  silent : ∃ t, c.tasks[i]? = some t ∧ t.workingDir = none
  filled : ∃ t, c.finalize.tasks[i]? = some t ∧ t.name = some task.name ∧
    t.workingDir = some task.workingDir ∧ Task.ofConfig t = .ok task

variable {c : Config}

/-- Tasks keep their places when they are finalized. -/
theorem tasks_finalize_of_getElem? {i : Nat} {t : TaskConfig} (here : c.tasks[i]? = some t) :
    c.finalize.tasks[i]? = some (t.finalize c.globalPeriod c.workingDir) := by
  rw [finalize, List.getElem?_map, here, Option.map_some]

theorem exists_unplaced (valid : c.finalize.IsValid) {i : Nat} {t : TaskConfig}
    (here : c.tasks[i]? = some t) (silent : t.workingDir = none) : ∃ task, c.Unplaced i task := by
  have there := tasks_finalize_of_getElem? here
  have accepted := TaskConfig.validate_eq_ok_iff.mpr (valid.tasks _ (List.mem_of_getElem? there))
  obtain ⟨task, made⟩ := Task.ofConfig_of_validate accepted
  have same := Task.toConfig_of_finalized made
  have name := congrArg TaskConfig.name same
  have home := congrArg TaskConfig.workingDir same
  exact ⟨task, ⟨t, here, silent⟩, _, there, name.symm, home.symm, made⟩

/-- Such a task works in a directory of its name. -/
theorem Unplaced.isChild (valid : c.finalize.IsValid) {i : Nat} {task : Task}
    (h : c.Unplaced i task) : task.workingDir.IsChild c.workingDir task.name := by
  obtain ⟨t, here, silent⟩ := h.silent
  obtain ⟨t', there, named, placed, -⟩ := h.filled
  have plain := (valid.tasks _ (List.mem_of_getElem? there)).isPlain named
  cases there.symm.trans (tasks_finalize_of_getElem? here)
  have join : (t.finalize c.globalPeriod c.workingDir).workingDir =
      some (c.workingDir.join task.name) := by
    have named : t.name = some task.name := named
    rw [TaskConfig.finalize, silent, named]
    rfl
  rw [← Option.some.inj (join.symm.trans placed)]
  exact c.workingDir.isChild_join plain

theorem Unplaced.named {i : Nat} {task : Task} (h : c.Unplaced i task) :
    (c.finalize.tasks.map TaskConfig.nameOrEmpty)[i]? = some task.name := by
  obtain ⟨t, here, named, -⟩ := h.filled
  rw [List.getElem?_map, here, Option.map_some, TaskConfig.nameOrEmpty, named, Option.getD_some]

theorem Unplaced.name_ne (valid : c.finalize.IsValid) {i j : Nat} {a b : Task}
    (h : c.Unplaced i a) (h' : c.Unplaced j b) (other : i ≠ j) : a.name ≠ b.name := by
  intro same
  obtain ⟨inside, -⟩ := List.getElem?_eq_some_iff.mp h.named
  have again := h.named.trans ((congrArg some same).trans h'.named.symm)
  exact other ((List.getElem?_inj inside valid.names).mp again)

/-- Whatever the common directory is, each task that leaves its own open is given the one of its
name in there, and no two of them share one. -/
theorem default_directories (c : Config) (accepted : c.finalize.validate = .ok ()) :
    (∀ i t, c.tasks[i]? = some t → t.workingDir = none → ∃ task, c.Unplaced i task) ∧
    (∀ i task, c.Unplaced i task → task.workingDir.IsChild c.workingDir task.name) ∧
    ∀ i j a b, c.Unplaced i a → c.Unplaced j b → i ≠ j →
      (a.workingDir == b.workingDir) = false := by
  have valid := validate_eq_ok_iff.mp accepted
  refine ⟨fun i t here silent => exists_unplaced valid here silent,
    fun i task h => h.isChild valid, fun i j a b h h' other => ?_⟩
  exact (h.isChild valid).apart (h'.isChild valid) (h.name_ne valid h' other)

/-- Two tasks that leave their directories open, around one that sets its own, under a path that
ends with slashes. -/
def openDirectories : Config :=
  let bare : TaskConfig := (TaskConfig.empty.withModule "m").withServices ["api"]
  { Config.default with
    workingDir? := some ⟨"/srv/tasks//"⟩
    tasks := [
      { bare with name := some "web" },
      { bare with name := some "db", workingDir := some ⟨"/srv/tasks/web"⟩ },
      { bare with name := some "web-2" }] }

theorem default_directories_sample :
    openDirectories.finalize.validate = .ok () ∧
      ∃ a b, openDirectories.Unplaced 0 a ∧ openDirectories.Unplaced 2 b ∧
        a.workingDir.IsChild ⟨"/srv/tasks//"⟩ a.name ∧
        (a.workingDir == b.workingDir) = false := by
  have accepted : openDirectories.finalize.validate = .ok () := by rfl
  obtain ⟨given, child, apart⟩ := default_directories openDirectories accepted
  obtain ⟨a, first⟩ := given 0 _ rfl rfl
  obtain ⟨b, last⟩ := given 2 _ rfl rfl
  exact ⟨accepted, a, b, first, last, child 0 a first, apart 0 2 a b first last (by decide)⟩

end Config

end TaskSync
