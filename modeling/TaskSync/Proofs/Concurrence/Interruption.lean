import TaskSync.Proofs.Concurrence.Abreast
import TaskSync.Proofs.Concurrence.Outcome

/-!
# What a creation ends in unless it is interrupted

Whether a creation succeeds is settled by the script of its backend: some first answers say that
rendering is incomplete, the next one that it is complete, and then applying succeeds. Time and
tokens have no part in this, but they can interrupt the creation. So a creation that succeeds at one
time fails at another one only because it is interrupted.
-/

namespace TaskSync

/-- A creation was interrupted that fails like this: the caller has given up, or rendering has taken
too long. -/
inductive Failure.Interrupts (task : String) : Failure → Prop where
  | canceled : Interrupts task .canceled
  | timeout : Interrupts task (.initializationTimeout task)
  | render : Interrupts task (.render task .canceled)
  | apply : Interrupts task (.applyFailed task 1 .canceled)

/-! ### Scripts -/

namespace Script

/-- Rendering comes out complete before it fails. -/
inductive Reaches : Script (Except BackendError Bool) → Prop where
  | complete {s : Script (Except BackendError Bool)} (answer : s.next.1 = .ok true) : Reaches s
  | incomplete {s : Script (Except BackendError Bool)} (answer : s.next.1 = .ok false)
      (more : Reaches s.next.2) : Reaches s

variable {s : Script (Except BackendError Bool)}

theorem reaches_next (answer : s.next.1 = .ok false) : s.next.2.Reaches ↔ s.Reaches := by
  refine ⟨.incomplete answer, fun h => ?_⟩
  cases h with
  | complete answer' => cases answer.symm.trans answer'
  | incomplete _ more => exact more

theorem not_reaches {e : BackendError} (answer : s.next.1 = .error e) : ¬ s.Reaches := by
  intro h
  cases h with
  | complete answer' => cases answer.symm.trans answer'
  | incomplete answer' _ => cases answer.symm.trans answer'

end Script

namespace BackendScript

/-- With these answers, a creation succeeds whose task is enabled or not. -/
def Suffices (enabled : Bool) (s : BackendScript) : Prop :=
  s.renders.Reaches ∧ (enabled = true → s.applies.next.1 = .ok ())

/-- The same answers are left. -/
structure Alike (s s' : BackendScript) : Prop where
  renders : s'.renders = s.renders
  applies : s'.applies = s.applies

theorem Alike.suffices {s s' : BackendScript} (h : s.Alike s') (enabled : Bool) :
    s'.Suffices enabled ↔ s.Suffices enabled := by
  unfold Suffices
  rw [h.renders, h.applies]

end BackendScript

namespace TimedCall

variable {α : Type}

/-- How a turn of a call goes with a script, and what it leaves of it. -/
inductive Answered (c : TimedCall α) (s : BackendScript) :
    Turn Pending (Except BackendError α) → BackendScript → Prop where
  | next {p : Pending} {s' : BackendScript} (same : s.Alike s') : Answered c s (.next p) s'
  | wait {on : List Wait} {s' : BackendScript} (same : s.Alike s') : Answered c s (.wait on) s'
  | interrupted {s' : BackendScript} (same : s.Alike s') :
      Answered c s (.done (.error .canceled)) s'
  | answered {s₁ s' : BackendScript} {r : Except BackendError α} (same : s.Alike s₁)
      (answer : c.answer s₁ = (r, s')) : Answered c s (.done r) s'

theorem turn_answered (c : TimedCall α) (takes : c.Takes)
    (patient : ∀ s : BackendScript, s.Alike (c.delay s).2) {b : Place} {d : Daemon}
    (unlisted : d.Unlisted b) (token : Token) (p : Pending) :
    Answered c (d.backend b).script (c.turn b token p d).1
      ((c.turn b token p d).2.backend b).script := by
  cases p with
  | unsent =>
      have delayed := (Daemon.answer_attends b d takes.1).unlisted unlisted
      have called := (Daemon.call_attends delayed c.kind).unlisted delayed
      have script : (((d.answer b c.delay).2.call b c.kind).backend b).script =
          (c.delay (d.backend b).script).2 := by
        rw [Daemon.call_backend delayed.inside]
        exact congrArg Backend.script (Daemon.answer_backend c.delay unlisted.inside)
      have same := patient (d.backend b).script
      rw [← script] at same
      simp only [turn]
      split
      · rw [Daemon.answer_backend c.answer called.inside]
        exact .answered same rfl
      · split
        · exact .interrupted same
        · exact .next same
  | delayed due =>
      have same : (d.backend b).script.Alike (d.backend b).script := ⟨rfl, rfl⟩
      simp only [turn]
      split
      · exact .interrupted same
      · split
        · have inside : b < (d.log (.waited (d.backend b).label c.kind)).backends.size :=
            unlisted.inside
          rw [Daemon.answer_backend c.answer inside]
          exact .answered same rfl
        · exact .wait same

end TimedCall

namespace Creation

/-- A backend can be made for the task, and the creation of the task can succeed with it. -/
def Offers (d : Daemon) (task : Task) : Prop :=
  ∃ b d', d.make task = (.ok b, d') ∧ (d'.backend b).script.Suffices task.enabled

theorem Offers.alike {s d : Daemon} {task : Task} (setting : s.setting = d.setting)
    (made : s.made.get? task.name = d.made.get? task.name) (h : Offers s task) :
    Offers d task := by
  obtain ⟨b, s', went, suffices_⟩ := h
  obtain ⟨e, failed, -⟩ | ⟨place, place', backend⟩ := make_alike setting made
  · rw [went] at failed
    cases failed
  · rw [went] at place backend
    obtain rfl : b = s.backends.size := Except.ok.inj place
    refine ⟨d.backends.size, (d.make task).2, Prod.ext place' rfl, ?_⟩
    rw [← backend]
    exact suffices_

theorem offers_drifts {d d' : Daemon} (drift : d.Drifts d') (task : Task) :
    Offers d' task ↔ Offers d task := by
  have setting := drift.quiet.setting
  have made : d'.made = d.made := by rw [drift.frame]
  exact ⟨.alike setting (by rw [made]), .alike setting.symm (by rw [made])⟩

/-- If it is not interrupted, the creation succeeds if `B` holds, and fails otherwise. -/
def Phase.Fated (B : Prop) (d₀ : Daemon) (task : Task) (d : Daemon) : Phase → Prop
  | .start _ | .making _ => Offers d task ↔ B
  | .rendering _ _ | .pausing _ _ =>
    (d.backend d₀.backends.size).script.Suffices task.enabled ↔ B
  | .destroying _ r => ∃ e, r = .error e ∧ (B → e.Interrupts task.name)
  | .applying _ record _ =>
    record.taskName = task.name ∧
      ((d.backend d₀.backends.size).script.applies.next.1 = .ok () ↔ B)
  | .recording _ _ | .storing _ => B
  | .inspecting _ => False

/-- So it has ended. -/
def Settles (B : Prop) (task : Task) : Result → Prop
  | .ok _ => B
  | .error e => B → e.Interrupts task.name

section

variable {B : Prop} {d₀ d d' : Daemon} {conf : TaskConfig} {task : Task} {p : Phase} {token : Token}
variable {history : Task → List Hook → List CallKind → Prop}

theorem Phase.Fated.drifts (h : p.Fated B d₀ task d) (drift : d.Drifts d') :
    p.Fated B d₀ task d' := by
  have backend : d'.backend d₀.backends.size = d.backend d₀.backends.size := by
    unfold Daemon.backend
    rw [drift.backends]
  cases p <;> simp only [Fated, offers_drifts drift, backend] at h ⊢ <;> exact h

variable (accepts : Accepts d₀ conf task) (noEnable : d₀.Avoids .enable)
  (noDisable : d₀.Avoids .disable)

include accepts

theorem begin_fated (h : (Phase.start conf).Tends .runAndAdd d₀ conf d)
    (fated : (Phase.start conf).Fated B d₀ task d) :
    Leads (fun p d => p.Fated B d₀ task d) (fun r _ => Settles B task r) p (begin conf d) := by
  obtain ⟨-, unmoved, store⟩ := h
  have free : d.registry.contains (conf.finalize d₀.store.config.globalPeriod
      d₀.store.config.workingDir).nameOrEmpty = false := by
    rw [unmoved.registry]
    exact Registry.contains_eq_false.mpr (accepts.name ▸ accepts.free)
  have went : begin conf d = (.next (.making task), d) := by
    simp only [begin, store, accepts.valid, free, accepts.made, Bool.false_eq_true, if_false]
  rw [went]
  exact .next fated

theorem make_fated (token : Token) {own : Task}
    (h : (Phase.making own).Tends .runAndAdd d₀ conf d)
    (fated : (Phase.making own).Fated B d₀ task d) :
    Leads (fun p d => p.Fated B d₀ task d) (fun r _ => Settles B task r) (.making own)
      (turn token .runAndAdd (.making own) d) := by
  obtain ⟨accepts', unmoved⟩ := h
  obtain rfl : own = task := Except.ok.inj (accepts'.made.symm.trans accepts.made)
  simp only [turn]
  split
  next e d' failed =>
    refine .done fun so => ?_
    obtain ⟨b, d₁, made, -⟩ := fated.mpr so
    cases failed.symm.trans made
  next b d' made =>
    obtain ⟨rfl, -⟩ := Raised.of_make unmoved made
    refine .next ⟨fun enough => fated.mp ⟨_, d', made, enough⟩, fun so => ?_⟩
    obtain ⟨b, d₁, made', enough⟩ := fated.mpr so
    cases made.symm.trans made'
    exact enough

include noEnable noDisable

/-- The backend has rendered, and it depends on applying whether the creation succeeds. -/
theorem rendered_fated (h : Holds d₀ conf d fun _ _ kinds => Tries kinds)
    (fated : (task.enabled = true →
      (d.backend d₀.backends.size).script.applies.next.1 = .ok ()) ↔ B) :
    Leads (fun p d => p.Fated B d₀ task d) (fun r _ => Settles B task r) p
      (rendered .runAndAdd d₀.backends.size d) := by
  have called := h.attended (Daemon.call_attends h.unlisted .override)
  have script : ((d.call d₀.backends.size .override).backend d₀.backends.size).script =
      (d.backend d₀.backends.size).script := by
    rw [Daemon.call_backend h.unlisted.inside]
    rfl
  unfold rendered
  simp only
  rw [called.taskOf accepts noEnable noDisable]
  split
  next enabled =>
    refine .next ⟨rfl, ?_⟩
    show ((d.call d₀.backends.size .override).backend _).script.applies.next.1 = .ok () ↔ B
    rw [script, ← fated]
    exact ⟨fun ok _ => ok, fun ok => ok enabled⟩
  next disabled =>
    obtain ⟨listed, went⟩ := register_next called
    rw [went]
    exact .next (fated.mp fun enabled => absurd enabled disabled)

theorem render_fated (token : Token) {t : Trial} (call : Pending)
    (h : (Phase.rendering t call).Tends .runAndAdd d₀ conf d)
    (fated : (Phase.rendering t call).Fated B d₀ task d) :
    Leads (fun p d => p.Fated B d₀ task d) (fun r _ => Settles B task r) (.rendering t call)
      (render token .runAndAdd t call d) := by
  obtain ⟨place, held⟩ := h
  have fated : (d.backend d₀.backends.size).script.Suffices task.enabled ↔ B := fated
  have held' := held.renders token call
  have answered := TimedCall.render.turn_answered TimedCall.render_takes
    (fun _ => ⟨rfl, rfl⟩) held.unlisted token call
  unfold render
  simp only
  rw [place, held.taskOf accepts noEnable noDisable]
  split
  · exact .done fun _ => .canceled
  split
  · exact .next ⟨_, rfl, fun _ => .timeout⟩
  split
  · refine .next ?_
    show ((d.call d₀.backends.size .override).backend _).script.Suffices task.enabled ↔ B
    rw [Daemon.call_backend held.unlisted.inside]
    exact fated
  · split <;> rename_i eq <;> rw [eq] at held' answered
    · cases answered with
      | next same => exact .next ((same.suffices _).trans fated)
    · cases answered with
      | wait same => exact .wait ((same.suffices _).trans fated)
    · cases answered with
      | answered same answer =>
          obtain ⟨first, rest⟩ := Prod.mk.inj answer
          rw [same.renders] at first
          refine rendered_fated accepts noEnable noDisable held' ?_
          rw [← rest, ← fated]
          show (_ → _) ↔ (d.backend d₀.backends.size).script.renders.Reaches ∧ (_ → _)
          rw [same.applies]
          exact ⟨fun ok => ⟨.complete first, ok⟩, And.right⟩
    · cases answered with
      | answered same answer =>
          obtain ⟨first, rest⟩ := Prod.mk.inj answer
          refine .next (Iff.trans ?_ fated)
          rw [← same.suffices, ← rest]
          exact and_congr (Script.reaches_next first) Iff.rfl
    · cases answered with
      | interrupted same => exact .next ⟨_, rfl, fun _ => .render⟩
      | answered same answer =>
          obtain ⟨first, -⟩ := Prod.mk.inj answer
          rw [same.renders] at first
          exact .next ⟨_, rfl, fun so => absurd (fated.mpr so).1 (Script.not_reaches first)⟩

omit noEnable noDisable accepts in
theorem apply_fated (token : Token) {b : Place} {record : RunRecord} (call : Pending)
    (h : (Phase.applying b record call).Tends .runAndAdd d₀ conf d)
    (fated : (Phase.applying b record call).Fated B d₀ task d) :
    Leads (fun p d => p.Fated B d₀ task d) (fun r _ => Settles B task r) (.applying b record call)
      (turn token .runAndAdd (.applying b record call) d) := by
  obtain ⟨rfl, held⟩ := h
  obtain ⟨about, fated⟩ := fated
  have answered := TimedCall.apply.turn_answered TimedCall.apply_takes
    (fun _ => ⟨rfl, rfl⟩) held.unlisted token call
  simp only [turn]
  split <;> rename_i eq <;> rw [eq] at answered
  · cases answered with
    | next same => exact .next ⟨about, by rw [same.applies]; exact fated⟩
  · cases answered with
    | wait same => exact .wait ⟨about, by rw [same.applies]; exact fated⟩
  · rw [about]
    cases answered with
    | interrupted same => exact .done fun _ => .apply
    | answered same answer =>
        obtain ⟨first, -⟩ := Prod.mk.inj answer
        rw [same.applies] at first
        refine .done fun so => ?_
        cases first.symm.trans (fated.mpr so)
  · cases answered with
    | answered same answer =>
        obtain ⟨first, -⟩ := Prod.mk.inj answer
        rw [same.applies] at first
        exact .next (fated.mp first)

theorem turn_fated (reliable : d₀.Reliable) (token : Token) (tends : p.Tends .runAndAdd d₀ conf d)
    (fated : p.Fated B d₀ task d) :
    Leads (fun p d => p.Fated B d₀ task d) (fun r _ => Settles B task r) p
      (turn token .runAndAdd p d) := by
  cases p with
  | start c =>
      obtain rfl : c = conf := tends.1
      exact begin_fated accepts tends fated
  | making own => exact make_fated accepts token tends fated
  | rendering t call => exact render_fated accepts noEnable noDisable token call tends fated
  | pausing t due =>
      simp only [turn]
      split
      · exact .done fun _ => .canceled
      split
      · exact .next fated
      · exact .wait fated
  | destroying b result =>
      obtain ⟨e, rfl, interrupts⟩ := fated
      exact .done interrupts
  | applying b record call => exact apply_fated token call tends fated
  | recording b record =>
      obtain ⟨rfl, held⟩ := tends
      have stored := (Daemon.Unmoved.write d .addRecord record.taskName
        fun s => (rfl : (s.addRecord record).config = s.config)).trans
        (.notifyCompletion _ record.taskName)
      obtain ⟨listed, went⟩ := register_next (held.unmoved stored)
      have went : turn token .runAndAdd (.recording d₀.backends.size record) d = _ := went
      rw [went]
      exact .next fated
  | storing own =>
      obtain ⟨task', adds, -⟩ := tends
      obtain ⟨hooks, before, -, raised⟩ := adds.raised
      obtain ⟨faults, stored, -⟩ :=
        Daemon.setTask_ok (raised.steady.reliable reliable) own.toConfig
      simp only [turn, stored]
      exact .done fated
  | inspecting b => exact tends.elim

/-- A creation succeeds if its backend lets it, and fails otherwise, unless it is interrupted. -/
theorem settles_of_finishes (reliable : d₀.Reliable) {r : Result}
    (h : Finishes (turn token .runAndAdd) (.start conf) d₀ r d) :
    Settles (Offers d₀ task) task r := by
  have acts : Goal.runAndAdd ≠ .inspect := by decide
  have ends := h.induct (fun p d => p.Tends .runAndAdd d₀ conf d ∧
      p.Fated (Offers d₀ task) d₀ task d)
    (fun r d => Ends .runAndAdd d₀ conf d r ∧ Settles (Offers d₀ task) task r)
    (fun p _ inv => (turn_leads acts reliable token p inv.1).and
      (turn_fated accepts noEnable noDisable reliable token inv.1 inv.2))
    (fun p d d' inv drift => ⟨inv.1.drifts drift, inv.2.drifts drift⟩)
    ⟨⟨rfl, .refl d₀, rfl⟩, Iff.rfl⟩
  exact ends.2

end

/-- A creation that succeeds at one time fails at another one only if it is interrupted. -/
theorem interrupts_of_finishes {d d₁ d₂ e₁ e₂ : Daemon} {conf : TaskConfig} {token token' : Token}
    {c : Created} {e : Failure} (reliable : d.Reliable) (noEnable : d.Avoids .enable)
    (noDisable : d.Avoids .disable) (drift : d.Drifts d₁) (drift' : d.Drifts d₂)
    (succeeds : Finishes (turn token .runAndAdd) (.start conf) d₁ (.ok c) e₁)
    (fails : Finishes (turn token' .runAndAdd) (.start conf) d₂ (.error e) e₂) :
    e.Interrupts conf.nameOrEmpty := by
  have acts : Goal.runAndAdd ≠ .inspect := by decide
  obtain ⟨task, adds, -⟩ := ends_of_finishes acts (drift.quiet.reliable reliable) succeeds
  have accepts := adds.accepts
  have accepts' : Accepts d₂ conf task := by
    obtain ⟨valid, made, name, free⟩ := accepts
    rw [drift.store, ← drift'.store] at valid made
    rw [drift.registry, ← drift'.registry] at free
    exact ⟨valid, made, name, free⟩
  -- whether the backend suffices can be told at the beginning, and has nothing to do with time
  have offers : Offers d₁ task := settles_of_finishes accepts (drift.quiet.avoids _ noEnable)
    (drift.quiet.avoids _ noDisable) (drift.quiet.reliable reliable) succeeds
  have settles := settles_of_finishes accepts' (drift'.quiet.avoids _ noEnable)
    (drift'.quiet.avoids _ noDisable) (drift'.quiet.reliable reliable) fails
  rw [← accepts.name]
  exact settles ((offers_drifts drift' task).mpr ((offers_drifts drift task).mp offers))

end Creation

end TaskSync
