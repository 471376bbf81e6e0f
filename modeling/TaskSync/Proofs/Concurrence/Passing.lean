import Mathlib.Data.List.Forall2
import Mathlib.Data.List.Nodup
import TaskSync.Proofs.Concurrence.Halting
import TaskSync.Proofs.Concurrence.Interruption

/-!
# A pass over all tasks at the same time

Whatever the order of their turns, creations under different names each end as they do alone. So the
failure of one is no matter of the others, exactly the tasks are added whose own creation succeeds,
and the answer of the pass lists the failures in the order of the tasks. If nothing fails, a pass
that takes one task after the other fails at nothing either, unless it is interrupted, and both
leave the same.
-/

namespace TaskSync

namespace Concurrent

variable {token : Token} {d d' s : Daemon} {ms : List Member} {confs : List TaskConfig}
variable {conf : TaskConfig} {i : Nat}

/-! ### The answer -/

/-- The failures of creations, in their order. -/
def failures (ms : List Member) : List (String × Failure) := ms.filterMap Member.failure?

/-- How a pass is answered whose creations have come to this. -/
structure Answers (ms : List Member) (r : Except Failure Unit) : Prop where
  ok : r = .ok () ↔ failures ms = []
  canceled : r = .error .canceled ↔ failures ms ≠ [] ∧ ∀ f ∈ failures ms, f.2 = .canceled
  failed : (∃ f ∈ failures ms, f.2 ≠ .canceled) → r = .error (.onceFailed (failures ms))

theorem isCanceled_iff {e : Failure} : e.isCanceled = true ↔ e = .canceled := by
  cases e <;> simp [Failure.isCanceled]

theorem result_answers (ms : List Member) : Answers ms (result ms) := by
  have all_canceled : (failures ms).all (fun f => f.2.isCanceled) = true ↔
      ∀ f ∈ failures ms, f.2 = .canceled := by
    simp only [List.all_eq_true, isCanceled_iff]
  have answer : result ms = if failures ms = [] then .ok () else
      if (failures ms).all (fun f => f.2.isCanceled) then .error .canceled
      else .error (.onceFailed (failures ms)) := by
    unfold result failures
    split <;> rename_i eq
    · rw [if_pos eq]
    · rw [if_neg eq]
  rw [answer]
  by_cases clean : failures ms = []
  · rw [if_pos clean]
    exact ⟨by simp [clean], by simp [clean], by simp [clean]⟩
  · rw [if_neg clean]
    by_cases canceled : (failures ms).all (fun f => f.2.isCanceled) = true
    · rw [if_pos canceled]
      have all := all_canceled.mp canceled
      refine ⟨by simp [clean], ⟨fun _ => ⟨clean, all⟩, fun _ => rfl⟩, ?_⟩
      rintro ⟨f, here, other⟩
      exact absurd (all f here) other
    · rw [if_neg canceled]
      have other : ¬ ∀ f ∈ failures ms, f.2 = .canceled :=
        fun all => canceled (all_canceled.mpr all)
      refine ⟨by simp [clean], ⟨fun h => ?_, fun h => absurd h.2 other⟩, fun _ => rfl⟩
      cases h

theorem mem_failures {task : String} {e : Failure} :
    (task, e) ∈ failures ms ↔ .ended task (.error e) ∈ ms := by
  unfold failures
  rw [List.mem_filterMap]
  constructor
  · rintro ⟨m, here, failed⟩
    cases m with
    | creating task' p => cases failed
    | ended task' r =>
        cases r with
        | ok c => cases failed
        | error e' =>
            cases failed
            exact here
  · exact fun here => ⟨_, here, rfl⟩

/-! ### One creation alone -/

theorem play_ended (token : Token) (beats : List Beat) (task : String) (r : Creation.Result)
    (d : Daemon) :
    ∃ d', play token beats [.ended task r] d = ([.ended task r], d') ∧ d.Drifts d' := by
  induction beats generalizing d with
  | nil => exact ⟨d, rfl, .refl d⟩
  | cons beat beats ih =>
      cases beat with
      | outside clock tokens happenings =>
          obtain ⟨d', played, drift⟩ := ih { d with clock, tokens, happenings }
          exact ⟨d', played, Daemon.Drifts.trans ⟨rfl⟩ drift⟩
      | turn i =>
          obtain ⟨d', played, drift⟩ := ih d
          refine ⟨d', ?_, drift⟩
          cases i with
          | zero => exact played
          | succ i => exact played

/-- A creation that is played alone finishes as creations do that nobody interferes with. -/
theorem finishes_of_play {beats : List Beat} {task task' : String} {p : Creation.Phase}
    {r : Creation.Result}
    (h : play token beats [.creating task p] d = ([.ended task' r], s)) :
    ∃ d₀ d', d.Drifts d₀ ∧ Finishes (Creation.turn token .runAndAdd) p d₀ r d' ∧
      d'.Drifts s := by
  induction beats generalizing p d with
  | nil => cases h
  | cons beat beats ih =>
      cases beat with
      | outside clock tokens happenings =>
          obtain ⟨d₀, d', drift, finishes, after⟩ := ih h
          exact ⟨d₀, d', Daemon.Drifts.trans ⟨rfl⟩ drift, finishes, after⟩
      | turn i =>
          cases i with
          | succ i => exact ih h
          | zero =>
              have here : [Member.creating task p][0]? = some (.creating task p) := rfl
              rw [play, step_turn token d here] at h
              cases turned : Creation.turn token .runAndAdd p d with
              | mk t d₁ =>
                cases t with
                | next p' =>
                    simp only [Member.advance, Member.turn, turned] at h
                    obtain ⟨d₀, d', drift, finishes, after⟩ := ih h
                    exact ⟨d, d', .refl d, .next turned drift finishes, after⟩
                | wait on =>
                    simp only [Member.advance, Member.turn, turned] at h
                    obtain ⟨d₀, d', drift, finishes, after⟩ := ih h
                    exact ⟨d, d', .refl d, .wait turned drift finishes, after⟩
                | done r' =>
                    simp only [Member.advance, Member.turn, turned] at h
                    obtain ⟨d₂, played, drift⟩ := play_ended token beats task r' d₁
                    have same : ([Member.ended task r'], d₂) = ([.ended task' r], s) :=
                      played.symm.trans h
                    cases same
                    exact ⟨d, d₁, .refl d, .done turned, drift⟩

/-! ### All creations -/

section

variable {alone : Nat → List Member × Daemon} {d₁ : Daemon}

/-- A creation that has ended has the result that it has alone. -/
theorem Accord.ended (h : Accord confs d₁ alone ms d) (here : confs[i]? = some conf)
    {task : String} {r : Creation.Result} (there : ms[i]? = some (.ended task r)) :
    task = conf.nameOrEmpty ∧ ∃ s, alone i = ([.ended conf.nameOrEmpty r], s) ∧
      s.Along conf.nameOrEmpty d ∧ r.Abreast conf (d₁.registry.find? conf.nameOrEmpty) d r := by
  obtain ⟨m, m', s, played, there', along, abreast⟩ := h.member i conf here
  obtain rfl := Option.some.inj (there.symm.trans there')
  cases abreast with
  | @ended r₁ _ result =>
      obtain rfl : r₁ = r := by
        cases result with
        | failed e => rfl
        | created c => rfl
      exact ⟨rfl, s, played, along, result⟩

/-- At the end, all have ended. -/
theorem Accord.all_ended (h : Accord confs d₁ alone ms d) (finished : ms.all (·.isEnded) = true)
    (here : confs[i]? = some conf) : ∃ r, ms[i]? = some (.ended conf.nameOrEmpty r) := by
  obtain ⟨m, m', s, -, there, -, -⟩ := h.member i conf here
  have ended := List.all_eq_true.mp finished _ (List.mem_of_getElem? there)
  cases m' with
  | creating task p => cases ended
  | ended task r =>
      obtain ⟨rfl, -⟩ := h.ended here there
      exact ⟨r, there⟩

/-- An ended creation is that of a configuration, under its name. -/
theorem Accord.named (h : Accord confs d₁ alone ms d) {task : String} {r : Creation.Result}
    (member : Member.ended task r ∈ ms) : ∃ conf ∈ confs, conf.nameOrEmpty = task ∧
      r.Abreast conf (d₁.registry.find? conf.nameOrEmpty) d r := by
  obtain ⟨i, there⟩ := List.getElem?_of_mem member
  have inside : i < confs.length := by
    rw [← h.length]
    exact (List.getElem?_eq_some_iff.mp there).1
  obtain ⟨rfl, s, -, -, result⟩ := h.ended (List.getElem?_eq_getElem inside) there
  exact ⟨confs[i], List.getElem_mem inside, rfl, result⟩

/-- Failures stand in the order of the configurations. -/
theorem Accord.order (h : Accord confs d₁ alone ms d) (finished : ms.all (·.isEnded) = true) :
    ((failures ms).map (·.1)).Sublist (confs.map TaskConfig.nameOrEmpty) := by
  have paired : List.Forall₂ (fun (conf : TaskConfig) m =>
      ∃ r, m = Member.ended conf.nameOrEmpty r) confs ms := by
    refine List.forall₂_iff_get.mpr ⟨h.length.symm, fun i inside inside' => ?_⟩
    obtain ⟨r, there⟩ := h.all_ended finished (List.getElem?_eq_getElem inside)
    rw [List.getElem?_eq_getElem inside'] at there
    exact ⟨r, Option.some.inj there⟩
  unfold failures
  clear h finished
  induction paired with
  | nil => exact .slnil
  | @cons conf m confs ms ended _ ih =>
      obtain ⟨r, rfl⟩ := ended
      cases r with
      | ok c => exact ih.cons _
      | error e => exact ih.cons_cons _

end

/-- Configurations under the same different names in the same order are the same, if under each name
the same is found. -/
theorem tasks_ext {tasks tasks' : List TaskConfig}
    (names : tasks.map (·.name) = tasks'.map (·.name)) (distinct : (tasks.map (·.name)).Nodup)
    (same : ∀ name, name ∈ tasks.map (·.name) →
      tasks.find? (fun c => c.name == name) = tasks'.find? (fun c => c.name == name)) :
    tasks = tasks' := by
  induction tasks generalizing tasks' with
  | nil => exact (List.map_eq_nil_iff.mp names.symm).symm
  | cons c tasks ih =>
      obtain ⟨c', tasks', rfl⟩ : ∃ c' rest, tasks' = c' :: rest := by
        cases tasks' with
        | nil => cases names
        | cons c' rest => exact ⟨c', rest, rfl⟩
      rw [List.map_cons, List.map_cons, List.cons.injEq] at names
      obtain ⟨name, names⟩ := names
      rw [List.map_cons, List.nodup_cons] at distinct
      have first := same c.name List.mem_cons_self
      rw [List.find?_cons_of_pos (by simp), List.find?_cons_of_pos (by simp [name])] at first
      obtain rfl := Option.some.inj first
      refine congrArg (c :: ·) (ih names distinct.2 ?_)
      intro n here
      have apart : ¬ (c.name == n) = true := by
        rw [beq_iff_eq]
        rintro rfl
        exact distinct.1 here
      have later := same n (.tail _ here)
      rwa [List.find?_cons_of_neg (p := fun c : TaskConfig => c.name == n) apart,
        List.find?_cons_of_neg (p := fun c : TaskConfig => c.name == n) apart] at later

/-- What the creation in a position comes to alone, given what it has seen among the others. -/
def alone (token : Token) (beats : List Beat) (confs : List TaskConfig) (d : Daemon) (i : Nat) :
    List Member × Daemon :=
  play token (seen token i beats (confs.map .ofConfig) d) (confs[i]?.map Member.ofConfig).toList d

section

variable {beats : List Beat} {d₁ : Daemon}

theorem play_accord (token : Token) (beats : List Beat) (reliable : d₁.Reliable)
    (distinct : (d₁.store.tasks.map TaskConfig.nameOrEmpty).Nodup)
    (played : play token beats (d₁.store.tasks.map .ofConfig) d₁ = (ms, d)) :
    Accord d₁.store.tasks d₁ (alone token beats d₁.store.tasks d₁) ms d := by
  have accord := (Accord.start reliable rfl).play token distinct beats
  rw [played] at accord
  exact accord

/-- A creation that has ended has finished alone, and left the same under its name. -/
theorem finishes_of_alone (here : confs[i]? = some conf) {r : Creation.Result}
    (played : alone token beats confs d₁ i = ([.ended conf.nameOrEmpty r], s))
    (along : s.Along conf.nameOrEmpty d) :
    ∃ d₀ d', d₁.Drifts d₀ ∧ Finishes (Creation.turn token .runAndAdd) (.start conf) d₀ r d' ∧
      d.store.getTask conf.nameOrEmpty = d'.store.getTask conf.nameOrEmpty ∧
      d.store.bareRecords conf.nameOrEmpty = d'.store.bareRecords conf.nameOrEmpty := by
  rw [alone, here] at played
  obtain ⟨d₀, d', drift, finishes, after⟩ := finishes_of_play played
  refine ⟨d₀, d', drift, finishes, ?_, ?_⟩
  · rw [← along.task, after.store]
  · rw [← along.records, after.store]

/-- Under a name whose creation does not succeed, or that is none of the pass, everything is as it
was. -/
theorem Accord.others (h : Accord confs d₁ (alone token beats confs d₁) ms d)
    (reliable : d₁.Reliable) (finished : ms.all (·.isEnded) = true) {name : String}
    (failed : ∀ c, .ended name (.ok c) ∉ ms) :
    d.registry.find? name = d₁.registry.find? name ∧
      d.store.getTask name = d₁.store.getTask name ∧
      d.store.bareRecords name = d₁.store.bareRecords name := by
  by_cases member : name ∈ confs.map TaskConfig.nameOrEmpty
  · obtain ⟨conf, at_, rfl⟩ := List.mem_map.mp member
    obtain ⟨i, here⟩ := List.getElem?_of_mem at_
    obtain ⟨r, there⟩ := h.all_ended finished here
    obtain ⟨-, s, played, along, result⟩ := h.ended here there
    cases r with
    | ok c => exact absurd (List.mem_of_getElem? there) (failed c)
    | error e =>
        obtain ⟨d₀, d', drift, finishes, task, records⟩ := finishes_of_alone here played along
        have reliable₀ := drift.quiet.reliable reliable
        have store := (Creation.untouched_of_finishes reliable₀ finishes).trans drift.store
        cases result with
        | failed e entry => exact ⟨entry, by rw [task, store], by rw [records, store]⟩
  · have spared := h.foreign name member
    exact ⟨spared.entry, spared.task, spared.bareRecords⟩

/-- A task whose creation succeeds had a free name, and is registered with a backend of its own and
stored as the creation answers. -/
theorem Accord.created (h : Accord confs d₁ (alone token beats confs d₁) ms d)
    {name : String} {c : Created} (member : .ended name (.ok c) ∈ ms) :
    d₁.registry.find? name = none ∧
      ∃ b canonical, c = .config canonical ∧ d.registry.get? name = some b ∧
        (d.backend b).label.task = name ∧ d.store.getTask name = some canonical := by
  obtain ⟨conf, -, rfl, result⟩ := h.named member
  cases result with
  | @created b canonical free named stored registered =>
      exact ⟨free, b, canonical, rfl, registered.entry, registered.label, stored⟩

/-- If nothing has failed, every creation has succeeded. -/
theorem Accord.clean (h : Accord confs d₁ (alone token beats confs d₁) ms d)
    (finished : ms.all (·.isEnded) = true) (clean : failures ms = [])
    (here : confs[i]? = some conf) : ∃ c, ms[i]? = some (.ended conf.nameOrEmpty (.ok c)) := by
  obtain ⟨r, there⟩ := h.all_ended finished here
  cases r with
  | ok c => exact ⟨c, there⟩
  | error e =>
      have member := mem_failures.mpr (List.mem_of_getElem? there)
      rw [clean] at member
      cases member

/-- A creation that succeeds, hooks switching nothing, leaves what its configuration says. -/
theorem Accord.success (h : Accord confs d₁ (alone token beats confs d₁) ms d)
    (reliable : d₁.Reliable) (noEnable : d₁.Avoids .enable) (noDisable : d₁.Avoids .disable)
    (here : confs[i]? = some conf) {c : Created}
    (there : ms[i]? = some (.ended conf.nameOrEmpty (.ok c))) :
    conf.name = some conf.nameOrEmpty ∧ d.registry.contains conf.nameOrEmpty = true ∧
      ∃ task, Task.ofConfig (conf.finalize d₁.store.config.globalPeriod
          d₁.store.config.workingDir) = .ok task ∧
        d.store.getTask conf.nameOrEmpty = some task.toConfig ∧
        d.store.bareRecords conf.nameOrEmpty = d₁.store.recordsAfter task := by
  obtain ⟨-, s, played, along, result⟩ := h.ended here there
  cases result with
  | created canonical free named stored registered =>
      obtain ⟨d₀, d', drift, finishes, task, records⟩ := finishes_of_alone here played along
      obtain ⟨own, accepts, kept, recorded⟩ := Creation.pays_of_finishes
        (drift.quiet.reliable reliable) (drift.quiet.avoids _ noEnable)
        (drift.quiet.avoids _ noDisable) finishes
      obtain ⟨-, made, name, -⟩ := accepts
      rw [drift.store] at made recorded
      rw [name] at kept recorded
      exact ⟨named, Registry.contains_of_get? registered.entry, own, made, task.trans kept,
        records.trans recorded⟩

end

/-! ### Two passes -/

/-- Both have registered the same names and stored the same configurations in the same order, and
the records of every task are the same but for their identifiers and times. -/
structure Agrees (d d' : Daemon) : Prop where
  registered : ∀ name, d.registry.contains name = d'.registry.contains name
  stored : d.store.allTasks = d'.store.allTasks
  records : ∀ name, d.store.bareRecords name = d'.store.bareRecords name

section

variable {beats beats' : List Beat} {token' : Token} {d₁ : Daemon} {ms' : List Member}

/-- A creation that succeeds in one pass fails in another one only if it is interrupted. -/
theorem Accord.interrupts (h : Accord confs d₁ (alone token beats confs d₁) ms d)
    (h' : Accord confs d₁ (alone token' beats' confs d₁) ms' d') (reliable : d₁.Reliable)
    (noEnable : d₁.Avoids .enable) (noDisable : d₁.Avoids .disable) {c : Created} {e : Failure}
    (here : confs[i]? = some conf) (succeeds : ms[i]? = some (.ended conf.nameOrEmpty (.ok c)))
    (fails : ms'[i]? = some (.ended conf.nameOrEmpty (.error e))) :
    e.Interrupts conf.nameOrEmpty := by
  obtain ⟨-, s, played, along, -⟩ := h.ended here succeeds
  obtain ⟨-, s', played', along', -⟩ := h'.ended here fails
  obtain ⟨d₀, e₀, drift, finishes, -⟩ := finishes_of_alone here played along
  obtain ⟨d₀', e₀', drift', finishes', -⟩ := finishes_of_alone here played' along'
  exact Creation.interrupts_of_finishes reliable noEnable noDisable drift drift' finishes finishes'

/-- Passes over the same tasks agree of which neither has failures, in whatever order their
creations have taken turns. -/
theorem Accord.agrees (h : Accord confs d₁ (alone token beats confs d₁) ms d)
    (h' : Accord confs d₁ (alone token' beats' confs d₁) ms' d')
    (distinct : (confs.map TaskConfig.nameOrEmpty).Nodup) (reliable : d₁.Reliable)
    (noEnable : d₁.Avoids .enable) (noDisable : d₁.Avoids .disable)
    (finished : ms.all (·.isEnded) = true) (clean : failures ms = [])
    (finished' : ms'.all (·.isEnded) = true) (clean' : failures ms' = []) : Agrees d d' := by
  have same (name : String) : d.registry.contains name = d'.registry.contains name ∧
      d.store.getTask name = d'.store.getTask name ∧
      d.store.bareRecords name = d'.store.bareRecords name := by
    by_cases member : name ∈ confs.map TaskConfig.nameOrEmpty
    · obtain ⟨conf, at_, rfl⟩ := List.mem_map.mp member
      obtain ⟨i, here⟩ := List.getElem?_of_mem at_
      obtain ⟨c, there⟩ := h.clean finished clean here
      obtain ⟨c', there'⟩ := h'.clean finished' clean' here
      obtain ⟨-, listed, task, made, stored, recorded⟩ :=
        h.success reliable noEnable noDisable here there
      obtain ⟨-, listed', task', made', stored', recorded'⟩ :=
        h'.success reliable noEnable noDisable here there'
      obtain rfl : task = task' := Except.ok.inj (made.symm.trans made')
      exact ⟨listed.trans listed'.symm, stored.trans stored'.symm, recorded.trans recorded'.symm⟩
    · have spared := h.foreign name member
      have spared' := h'.foreign name member
      refine ⟨?_, spared.task.trans spared'.task.symm,
        spared.bareRecords.trans spared'.bareRecords.symm⟩
      unfold Registry.contains
      rw [spared.entry, spared'.entry]
  -- both stores have the names in the order of the configurations, and under each name the same
  have stored : d.store.tasks = d'.store.tasks := by
    refine tasks_ext (h.names.trans h'.names.symm) ?_ ?_
    · rw [h.names]
      refine List.Nodup.of_map (·.getD "") ?_
      rw [List.map_map]
      exact distinct
    · intro name here
      rw [h.names] at here
      obtain ⟨conf, at_, rfl⟩ := List.mem_map.mp here
      obtain ⟨i, there⟩ := List.getElem?_of_mem at_
      obtain ⟨c, ended⟩ := h.clean finished clean there
      obtain ⟨named, -⟩ := h.success reliable noEnable noDisable there ended
      rw [named]
      exact (same conf.nameOrEmpty).2.1
  exact ⟨fun name => (same name).1, stored, fun name => (same name).2.2⟩

end

end Concurrent

open Concurrent (Beat Member play)

namespace Once

variable {token : Token} {s : Surroundings} {d d' : Daemon}

/-- A pass was interrupted that is answered like this: the caller has given up, or rendering has
taken too long for a task. -/
def Interrupted (r : Result) : Prop :=
  r = .error .canceled ∨ ∃ task e, r = .error (.taskFailed task e) ∧ e.Interrupts task

/-- What has come of a pass over the stored tasks of a daemon when all its creations have ended. -/
structure Completed (token : Token) (d : Daemon) (beats : List Beat) (ms : List Member)
    (d' : Daemon) : Prop where
  /-- Every task has a creation, which has ended as it does alone, given what it has seen. -/
  alone : ∀ i conf, d.store.allTasks[i]? = some conf → ∃ r s,
    ms[i]? = some (.ended conf.nameOrEmpty r) ∧
      Concurrent.alone token beats d.store.allTasks d.tasks.2 i =
        ([.ended conf.nameOrEmpty r], s)
  /-- Exactly those tasks are newly registered whose creation has succeeded, -/
  added : ∀ name, d.registry.find? name = none ∧ d'.registry.contains name = true ↔
    ∃ c, .ended name (.ok c) ∈ ms
  /-- each with a backend of its own, and stored as the creation has answered. -/
  created : ∀ name c, .ended name (.ok c) ∈ ms → ∃ b canonical, c = .config canonical ∧
    d'.registry.get? name = some b ∧ (d'.backend b).label.task = name ∧
      d'.store.getTask name = some canonical
  /-- Under all other names, also those whose creation has failed, nothing has changed. -/
  others : ∀ name, (∀ c, .ended name (.ok c) ∉ ms) →
    d'.registry.find? name = d.registry.find? name ∧
      d'.store.getTask name = d.store.getTask name ∧
      d'.store.bareRecords name = d.store.bareRecords name
  /-- The answer is right if nothing failed, lists every failure once, in the order of the tasks, if
  one is no cancellation, and is a cancellation otherwise. -/
  answers : Concurrent.Answers ms (Concurrent.result ms)
  listed : ∀ task e, (task, e) ∈ Concurrent.failures ms ↔ .ended task (.error e) ∈ ms
  order : ((Concurrent.failures ms).map (·.1)).Sublist
    (d.store.allTasks.map TaskConfig.nameOrEmpty)
  once : (Concurrent.failures ms).Nodup
  /-- If nothing failed, a pass that takes one task after the other does not fail either and leaves
  the same, unless it is interrupted. -/
  agrees : Concurrent.result ms = .ok () → d.Avoids .enable → d.Avoids .disable →
    ∀ token' s rounds r d'', s.Fair →
      carryOut token' .consecutive s rounds 0 .start d = some (r, d'') →
        r = .ok () ∧ Concurrent.Agrees d' d'' ∨ Interrupted r

/-- A pass begins by reading the stored tasks. -/
theorem carryOut_start (token : Token) (mode : PassMode) (s : Surroundings)
    {confs : List TaskConfig} (read : d.tasks = (.ok confs, d')) :
    ∃ waiting due, ∀ rounds, carryOut token mode s rounds 0 .start d =
      carryOut token mode s rounds 0 (.passing (.start mode confs) waiting due) d' := by
  refine ⟨decide (0 < d'.setting.watcher.size),
    d'.setting.watcher.wait.after.map (d'.clock + ·), fun rounds => ?_⟩
  cases rounds with
  | zero => rfl
  | succ rounds =>
      simp only [carryOut, go, read]

/-- A pass that takes one task after the other is one way for the creations to interleave, up to
where it stops. -/
theorem consecutive_beats (fair : s.Fair) (reliable : d.Reliable)
    (calm : d.setting.watcher.wait.result = .ok ()) {r : Result} {rounds : Nat}
    (carried : carryOut token .consecutive s rounds 0 .start d = some (r, d')) :
    ∃ beats ms k stop, play token beats (d.store.allTasks.map .ofConfig) d.tasks.2 = (ms, d') ∧
      Concurrent.Stopped d.store.allTasks k stop ms ∧
      r = stop.result ((d.store.allTasks[k]?.map TaskConfig.nameOrEmpty).getD "") := by
  obtain ⟨faults, read, unmoved⟩ := tasks_unmoved reliable
  generalize { d with storeFaults := faults } = d₁ at read unmoved
  obtain ⟨waiting, due, starts⟩ := carryOut_start token .consecutive s read
  rw [starts] at carried
  have calm₁ : d₁.setting.watcher.wait.result = .ok () := by
    rw [unmoved.steady.setting, calm]
  have finishes := carryOut_finishes fair calm₁ carried
  obtain ⟨k, stop, stops, answered⟩ := Consecutive.stops_of_finishes finishes
  obtain ⟨beats, ms, played, stopped⟩ := Concurrent.stops_beats stops []
  rw [read]
  exact ⟨beats, ms, k, stop, played, stopped, answered⟩

/-- A pass over all tasks at the same time is another one. -/
theorem concurrent_beats (fair : s.Fair) (reliable : d.Reliable)
    (calm : d.setting.watcher.wait.result = .ok ()) {r : Result} {rounds : Nat}
    (carried : carryOut token .concurrent s rounds 0 .start d = some (r, d')) :
    ∃ beats ms, play token beats (d.store.allTasks.map .ofConfig) d.tasks.2 = (ms, d') ∧
      ms.all (·.isEnded) = true ∧ r = Concurrent.result ms := by
  obtain ⟨faults, read, unmoved⟩ := tasks_unmoved reliable
  generalize { d with storeFaults := faults } = d₁ at read unmoved
  obtain ⟨waiting, due, starts⟩ := carryOut_start token .concurrent s read
  rw [starts] at carried
  have calm₁ : d₁.setting.watcher.wait.result = .ok () := by
    rw [unmoved.steady.setting, calm]
  rw [read]
  exact carryOut_beats fair calm₁ carried

/-- It comes to its end. -/
theorem concurrent_ends (token : Token) (fair : s.Fair) (reliable : d.Reliable)
    (calm : d.setting.watcher.wait.result = .ok ()) :
    ∃ rounds r d', carryOut token .concurrent s rounds 0 .start d = some (r, d') := by
  obtain ⟨faults, read, unmoved⟩ := tasks_unmoved reliable
  generalize { d with storeFaults := faults } = d₁ at read unmoved
  have calm₁ : d₁.setting.watcher.wait.result = .ok () := by
    rw [unmoved.steady.setting, calm]
  obtain ⟨waiting, due, starts⟩ := carryOut_start token .concurrent s read
  obtain ⟨n, ended⟩ := Concurrent.all_end_in_time token fair
    (d.store.allTasks.map Member.ofConfig) d₁
  obtain ⟨rounds, r, d', carried⟩ := carryOut_course fair calm₁ due n 0 waiting
    (by rw [Nat.zero_add]; exact ended)
  exact ⟨rounds, r, d', (starts rounds).trans carried⟩

/-- A failure that interrupts a creation interrupts the pass. -/
theorem interrupted_of_failed {e : Failure} {task : String} (h : e.Interrupts task) :
    Interrupted ((Consecutive.Stop.failed e).result task) := by
  rw [Consecutive.Stop.result]
  split
  · exact .inl rfl
  · exact .inr ⟨task, e, rfl, h⟩

/-- A pass over all stored tasks at the same time comes to its end, with an answer that its
creations have come to in some order of their turns; and whatever this order, the same comes of
them. -/
theorem concurrent_pass (token : Token) (s : Surroundings) (fair : s.Fair) (d : Daemon)
    (reliable : d.Reliable) (calm : d.setting.watcher.wait.result = .ok ())
    (distinct : (d.store.allTasks.map TaskConfig.nameOrEmpty).Nodup) :
    (∀ beats ms d', play token beats (d.store.allTasks.map .ofConfig) d.tasks.2 = (ms, d') →
      ms.all (·.isEnded) = true → Completed token d beats ms d') ∧
    (∃ rounds r d', carryOut token .concurrent s rounds 0 .start d = some (r, d')) ∧
    ∀ rounds r d', carryOut token .concurrent s rounds 0 .start d = some (r, d') →
      ∃ beats ms, play token beats (d.store.allTasks.map .ofConfig) d.tasks.2 = (ms, d') ∧
        ms.all (·.isEnded) = true ∧ r = Concurrent.result ms := by
  refine ⟨fun beats ms d' played finished => ?_, concurrent_ends token fair reliable calm,
    fun rounds r d' carried => concurrent_beats fair reliable calm carried⟩
  -- reading the tasks only takes an answer from the script of the store's faults
  obtain ⟨faults, read, unmoved⟩ := tasks_unmoved reliable
  have opening : d.tasks.2 = { d with storeFaults := faults } := by rw [read]
  have reliable₁ := unmoved.steady.reliable reliable
  rw [opening] at played
  have accord := Concurrent.play_accord token beats reliable₁ distinct played
  have fresh := (accord.order finished).nodup distinct
  refine {
    alone := fun i conf here => ?_
    added := fun name => ⟨fun h => ?_, fun ⟨c, member⟩ => ?_⟩
    created := fun name c member => (accord.created member).2
    others := fun name failed => accord.others reliable₁ finished failed
    answers := Concurrent.result_answers ms
    listed := fun task e => Concurrent.mem_failures
    order := accord.order finished
    once := fresh.of_map _
    agrees := ?_ }
  · obtain ⟨r, there⟩ := accord.all_ended finished here
    obtain ⟨-, s, alone, -⟩ := accord.ended here there
    rw [opening]
    exact ⟨r, s, there, alone⟩
  · by_contra unlisted
    have kept := (accord.others reliable₁ finished fun c here => unlisted ⟨c, here⟩).1
    have missing : d'.registry.find? name = .none := kept.trans h.1
    rw [Registry.contains, missing] at h
    cases h.2
  · obtain ⟨free, b, canonical, -, registered, -⟩ := accord.created member
    exact ⟨free, Registry.contains_of_get? registered⟩
  · intro good noEnable noDisable token' s' rounds r d'' fair' carried
    have clean := (Concurrent.result_answers ms).ok.mp good
    have enable := unmoved.steady.avoids _ noEnable
    have disable := unmoved.steady.avoids _ noDisable
    obtain ⟨beats', ms', k, stop, played', stopped, rfl⟩ :=
      consecutive_beats fair' reliable calm carried
    rw [opening] at played'
    -- the other pass is an interleaving as well, so its creations are compared one by one
    have accord' := Concurrent.play_accord token' beats' reliable₁ distinct played'
    cases stop with
    | through =>
        obtain ⟨finished', clean'⟩ := stopped.through rfl
        exact .inl ⟨rfl, accord.agrees accord' distinct reliable₁ enable disable finished clean
          finished' clean'⟩
    | canceled => exact .inr (.inl rfl)
    | failed e =>
        obtain ⟨conf, here, fails⟩ := stopped.failed e rfl
        obtain ⟨c, succeeds⟩ := accord.clean finished clean here
        rw [here]
        exact .inr (interrupted_of_failed (accord.interrupts accord' reliable₁ enable disable here
          succeeds fails))

/-- Two tasks, of which the first one renders slowly and is applied with this result. -/
def samplePair (applied : Except BackendError Unit) : Daemon :=
  { Traffic.sample.daemon .default with
    setting := { Traffic.sample.setting with
      backends := [("b", [{ Traffic.sample.setting.otherwise with applies := .always applied }])]
      otherwise := .plain }
    store := .new { (default : Config) with
      tasks := [((TaskConfig.named "b").withModule "m").withServices ["s"], Traffic.sampleTask] } }

theorem samplePair_avoids (a : Action) : (samplePair (.ok ())).Avoids a where
  made b h member := by
    have unmade : (samplePair (.ok ())).backend b = default := by
      simp [Daemon.backend, samplePair, Scenario.daemon]
    rw [unmade] at member
    cases member
  named n scripts found s member h hook := by
    have found := (SortedMap.get?_cons n "b" _ []).symm.trans found
    split at found
    · cases found
      obtain rfl := List.mem_singleton.mp member
      cases hook
    · cases found
  otherwise := nofun

theorem concurrent_pass_sample :
    (carryOut ⟨0⟩ .concurrent (.ticking 10) 20 0 .start
      (samplePair (.error (.backend "refused")))).map (·.1) =
        some (.error (.onceFailed [("b", .applyFailed "b" 1 (.backend "refused"))])) ∧
      ∃ beats ms d', play ⟨0⟩ beats ((samplePair (.ok ())).store.allTasks.map .ofConfig)
          (samplePair (.ok ())).tasks.2 = (ms, d') ∧
        Completed ⟨0⟩ (samplePair (.ok ())) beats ms d' ∧ Concurrent.result ms = .ok () ∧
        ∃ rounds d'', carryOut ⟨0⟩ .consecutive (.ticking 10) rounds 0 .start
          (samplePair (.ok ())) = some (.ok (), d'') ∧ Concurrent.Agrees d' d'' := by
  refine ⟨by rfl, ?_⟩
  have fair : (Surroundings.ticking 10).Fair := Surroundings.ticking_fair (by decide)
  obtain ⟨completes, -, explained⟩ := concurrent_pass ⟨0⟩ (.ticking 10) fair (samplePair (.ok ()))
    nofun rfl (by decide)
  obtain ⟨d', carried⟩ : ∃ d', carryOut ⟨0⟩ .concurrent (.ticking 10) 20 0 .start
    (samplePair (.ok ())) = some (.ok (), d') := ⟨_, rfl⟩
  obtain ⟨d'', carried'⟩ : ∃ d'', carryOut ⟨0⟩ .consecutive (.ticking 10) 20 0 .start
    (samplePair (.ok ())) = some (.ok (), d'') := ⟨_, rfl⟩
  obtain ⟨beats, ms, played, finished, good⟩ := explained 20 _ d' carried
  have completed := completes beats ms d' played finished
  refine ⟨beats, ms, d', played, completed, good.symm, 20, d'', carried', ?_⟩
  obtain ⟨-, agrees⟩ | no | ⟨task, e, no, -⟩ := completed.agrees good.symm
    (samplePair_avoids .enable) (samplePair_avoids .disable) ⟨0⟩ (.ticking 10) 20 _ d'' fair
    carried'
  · exact agrees
  · cases no
  · cases no

end Once

end TaskSync
