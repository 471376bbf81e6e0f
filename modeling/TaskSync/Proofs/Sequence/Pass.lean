import TaskSync.Controller.Once
import TaskSync.Proofs.Sequence.Creation

/-!
# A pass that takes one task after the other

A pass stops at a position of its list: where a creation fails, where the token has been canceled
before one begins, or at the end. The creations before that position have all succeeded, each one in
the daemon that the one before has left; so their tasks are registered, with backends in places one
after the other, and nothing else is.
-/

namespace TaskSync

/-- The backend was made for the task of a configuration, has rendered, and has been applied exactly
once if the task was enabled then; the last it was told is to use its buffer period. -/
def Backend.Ran (config : Config) (conf : TaskConfig) (b : Backend) : Prop :=
  ∃ task before, Task.ofConfig (conf.finalize config.globalPeriod config.workingDir) = .ok task ∧
    b.label.task = conf.nameOrEmpty ∧ (∀ kind ∈ before, kind = .render ∨ kind = .override) ∧
    b.calls = .buffer ::
      (if flagAfter b.script.hooks task.enabled before = true then .apply :: before else before)

namespace Consecutive

/-- Why a pass goes no further. -/
inductive Stop where
  | through
  | canceled
  | failed (e : Failure)

/-- What a pass answers that stops at a task. -/
def Stop.result (task : String) : Stop → Except Failure Unit
  | through => .ok ()
  | canceled => .error .canceled
  | failed e => if e.isCanceled then .error .canceled else .error (.taskFailed task e)

/-- The first position of a list whose creation fails, or before whose creation the token is
canceled, and why the pass stops there. -/
inductive Stops (token : Token) : Daemon → List TaskConfig → Nat → Stop → Daemon → Prop where
  | through (d : Daemon) : Stops token d [] 0 .through d
  | canceled {d : Daemon} {conf : TaskConfig} {rest : List TaskConfig}
      (canceled : d.isCanceled token = true) : Stops token d (conf :: rest) 0 .canceled d
  | failed {d d₀ d' : Daemon} {conf : TaskConfig} {rest : List TaskConfig} {e : Failure}
      (patient : d.isCanceled token = false) (drift : d.Drifts d₀)
      (creation : Finishes (Creation.turn token .runAndAdd) (.start conf) d₀ (.error e) d') :
      Stops token d (conf :: rest) 0 (.failed e) d'
  | created {d d₀ d₁ d₂ d' : Daemon} {conf : TaskConfig} {rest : List TaskConfig} {c : Created}
      {k : Nat} {stop : Stop} (patient : d.isCanceled token = false) (drift : d.Drifts d₀)
      (creation : Finishes (Creation.turn token .runAndAdd) (.start conf) d₀ (.ok c) d₁)
      (between : d₁.Drifts d₂) (more : Stops token d₂ rest k stop d') :
      Stops token d (conf :: rest) (k + 1) stop d'

/-- What a pass leaves behind that stops at position `k`. -/
structure Leaves (d : Daemon) (confs : List TaskConfig) (k : Nat) (stop : Stop) (d' : Daemon) :
    Prop where
  position : k ≤ confs.length
  through : stop = .through ↔ k = confs.length
  steady : d.Steady d'
  config : d'.store.config = d.store.config
  /-- The tasks before the position were unknown, and their names are all different. -/
  fresh : ∀ conf ∈ confs.take k, d.registry.find? conf.nameOrEmpty = none
  distinct : ((confs.take k).map TaskConfig.nameOrEmpty).Nodup
  /-- They are registered, each with the backend that was made for it. -/
  registered : ∀ i conf, (confs.take k)[i]? = some conf →
    d'.registry.get? conf.nameOrEmpty = some (d.backends.size + i) ∧
      (d'.backend (d.backends.size + i)).Ran d.store.config conf
  /-- Of all other names, nothing has changed. -/
  others : ∀ name, name ∉ (confs.take k).map TaskConfig.nameOrEmpty →
    d'.registry.find? name = d.registry.find? name
  kept : ∀ b, b < d.backends.size → d'.backend b = d.backend b
  /-- Backends were asked for in order, none for a task behind the position, and one for the task
  in it only if it is its creation that failed. -/
  asked : d'.asked = d.asked ++ (confs.take k).map TaskConfig.nameOrEmpty ∨
    (∃ e, stop = .failed e) ∧
      d'.asked = d.asked ++ (confs.take (k + 1)).map TaskConfig.nameOrEmpty

variable {token : Token} {d d₀ d₁ d₂ d' : Daemon} {conf : TaskConfig} {confs rest : List TaskConfig}

/-! ### Creations of a pass -/

/-- A creation that is part of a pass is a creation, and the pass goes on from where it ends. -/
theorem finishes_creating {name : String} {p : Creation.Phase} {r : Except Failure Unit}
    (h : Finishes (turn token) (.creating name p rest) d r d') :
    (∃ e, Finishes (Creation.turn token .runAndAdd) p d (.error e) d' ∧
        r = (Stop.failed e).result name) ∨
      ∃ c d₁ d₂, Finishes (Creation.turn token .runAndAdd) p d (.ok c) d₁ ∧ d₁.Drifts d₂ ∧
        Finishes (turn token) (.between rest) d₂ r d' := by
  generalize at_ : Phase.creating name p rest = phase at h
  induction h generalizing p with
  | done turned =>
      subst at_
      simp only [turn] at turned
      split at turned
      · cases turned
      · cases turned
      · cases turned
      next ended =>
        cases turned
        exact .inl ⟨.canceled, .done ended, rfl⟩
      next e _ uncanceled ended =>
        cases turned
        refine .inl ⟨e, .done ended, ?_⟩
        cases e <;> first | rfl | exact absurd rfl uncanceled
  | next turned drift more ih =>
      subst at_
      simp only [turn] at turned
      split at turned
      next went =>
        cases turned
        rcases ih rfl with ⟨e, creation, answered⟩ | ⟨c, d₁, d₂, creation, drift', after⟩
        · exact .inl ⟨e, .next went drift creation, answered⟩
        · exact .inr ⟨c, d₁, d₂, .next went drift creation, drift', after⟩
      · cases turned
      next ended =>
        cases turned
        exact .inr ⟨_, _, _, .done ended, drift, more⟩
      · cases turned
      · cases turned
  | wait turned drift _ ih =>
      subst at_
      simp only [turn] at turned
      split at turned
      · cases turned
      next waited =>
        cases turned
        rcases ih rfl with ⟨e, creation, answered⟩ | ⟨c, d₁, d₂, creation, drift', after⟩
        · exact .inl ⟨e, .wait waited drift creation, answered⟩
        · exact .inr ⟨c, d₁, d₂, .wait waited drift creation, drift', after⟩
      · cases turned
      · cases turned
      · cases turned

theorem stops_of_finishes {r : Except Failure Unit}
    (h : Finishes (turn token) (.between confs) d r d') :
    ∃ k stop, Stops token d confs k stop d' ∧
      r = stop.result ((confs[k]?.map TaskConfig.nameOrEmpty).getD "") := by
  induction confs generalizing d with
  | nil =>
      cases h with
      | done turned =>
          cases turned
          exact ⟨0, .through, .through _, rfl⟩
      | next turned => cases turned
      | wait turned => cases turned
  | cons conf rest ih =>
      cases h with
      | done turned =>
          simp only [turn] at turned
          split at turned
          next canceled =>
            cases turned
            exact ⟨0, .canceled, .canceled canceled, rfl⟩
          · cases turned
      | next turned drift more =>
          simp only [turn] at turned
          split at turned
          · cases turned
          next patient =>
            cases turned
            have patient := Bool.eq_false_iff.mpr patient
            rcases finishes_creating more with ⟨e, creation, answered⟩ |
              ⟨c, d₁, d₂, creation, between, after⟩
            · exact ⟨0, .failed e, .failed patient drift creation, answered⟩
            · obtain ⟨k, stop, stops, answered⟩ := ih after
              exact ⟨k + 1, stop, .created patient drift creation between stops, answered⟩
      | wait turned =>
          simp only [turn] at turned
          split at turned <;> cases turned

/-! ### What they leave behind -/

namespace Leaves

theorem unmoved {k : Nat} {stop : Stop} (between : d.Unmoved d₀)
    (h : Leaves d₀ confs k stop d') : Leaves d confs k stop d' where
  position := h.position
  through := h.through
  steady := between.steady.trans h.steady
  config := h.config.trans between.config
  fresh c here := by
    rw [← between.registry]
    exact h.fresh c here
  distinct := h.distinct
  registered i c here := by
    have registered := h.registered i c here
    rw [between.backends, between.config] at registered
    exact registered
  others name foreign := by
    rw [← between.registry]
    exact h.others name foreign
  kept b inside := by
    rw [← between.backend]
    refine h.kept b ?_
    rw [between.backends]
    exact inside
  asked := by
    rw [← between.asked]
    exact h.asked

/-- A pass that has done nothing yet. -/
theorem of_unmoved {stop : Stop} (unmoved : d.Unmoved d') (whole : stop = .through ↔ confs = []) :
    Leaves d confs 0 stop d' where
  position := Nat.zero_le _
  through := by rw [whole, eq_comm (a := 0), List.length_eq_zero_iff]
  steady := unmoved.steady
  config := unmoved.config
  fresh c here := absurd here List.not_mem_nil
  distinct := .nil
  registered i c here := absurd here (by simp)
  others name _ := by rw [unmoved.registry]
  kept b _ := unmoved.backend b
  asked := .inl (by rw [unmoved.asked]; exact (List.append_nil _).symm)

/-- A pass whose next creation has failed. -/
theorem of_refuses {e : Failure} (refused : Creation.Refuses d conf d') :
    Leaves d (conf :: rest) 0 (.failed e) d' where
  position := Nat.zero_le _
  through := ⟨nofun, nofun⟩
  steady := refused.steady
  config := refused.config
  fresh c here := absurd here List.not_mem_nil
  distinct := .nil
  registered i c here := absurd here (by simp)
  others name _ := by rw [refused.registry]
  kept b inside := refused.others b (Nat.ne_of_lt inside)
  asked := by
    rcases refused.asked with same | more
    · exact .inl (by rw [same]; exact (List.append_nil _).symm)
    · exact .inr ⟨⟨e, rfl⟩, more⟩

/-- A pass whose next creation has succeeded goes on as one over the tasks behind. -/
theorem cons {k : Nat} {stop : Stop} {task : Task}
    (added : Creation.Adds .runAndAdd d conf task d₁)
    (between : d₁.Unmoved d₂) (h : Leaves d₂ rest k stop d') :
    Leaves d (conf :: rest) (k + 1) stop d' := by
  obtain ⟨⟨-, made, name, free⟩, ⟨hooks, before, tries, raised⟩, ids, listed⟩ :=
    added.unmoved between
  have own : d₂.registry.find? conf.nameOrEmpty = some ⟨d.registry.nextId, d.backends.size, ids,
      false, false⟩ := by
    rw [Registry.find?_add listed, if_pos name.symm]
  have apart : conf.nameOrEmpty ∉ (rest.take k).map TaskConfig.nameOrEmpty := by
    intro again
    obtain ⟨c, here, same⟩ := List.mem_map.mp again
    rw [← same, h.fresh c here] at own
    cases own
  have inside : d.backends.size < d₂.backends.size := Nat.lt_of_lt_of_eq (Nat.lt_succ_self _)
    raised.size.symm
  refine {
    position := Nat.succ_le_succ h.position
    through := h.through.trans (Nat.succ_inj (a := k) (b := rest.length)).symm
    steady := raised.steady.trans h.steady
    config := h.config.trans raised.config
    fresh := ?_
    distinct := List.nodup_cons.mpr ⟨apart, h.distinct⟩
    registered := ?_
    others := ?_
    kept := ?_
    asked := ?_ }
  · intro c here
    rcases List.mem_cons.mp here with rfl | behind
    · rw [← name]
      exact free
    · have unknown := h.fresh c behind
      rw [Registry.find?_add listed] at unknown
      split at unknown
      · cases unknown
      · exact unknown
  · intro i c here
    cases i with
    | zero =>
      obtain rfl : conf = c := Option.some.inj here
      refine ⟨?_, task, before, made, ?_, tries, ?_⟩
      · rw [Registry.get?, h.others _ apart, own]
        rfl
      · rw [Nat.add_zero, h.kept _ inside, raised.label, name]
      · rw [Nat.add_zero, h.kept _ inside, raised.calls, raised.script]
        simp [Creation.calls]
    | succ i =>
      have later := h.registered i c here
      rw [raised.size, raised.config, Nat.add_right_comm, Nat.add_assoc] at later
      exact later
  · intro other foreign
    obtain ⟨ahead, behind⟩ := not_or.mp fun there => foreign (List.mem_cons.mpr there)
    rw [h.others other behind, Registry.find?_add listed, if_neg (name ▸ ahead)]
  · intro b before
    rw [h.kept b (Nat.lt_trans before inside), raised.others b (Nat.ne_of_lt before)]
  · rcases h.asked with all | ⟨failed, more⟩
    · refine .inl ?_
      rw [all, raised.asked, name, List.append_assoc]
      rfl
    · refine .inr ⟨failed, ?_⟩
      rw [more, raised.asked, name, List.append_assoc]
      rfl

end Leaves

theorem leaves_of_stops {k : Nat} {stop : Stop} (reliable : d.Reliable)
    (h : Stops token d confs k stop d') : Leaves d confs k stop d' := by
  have acts : Goal.runAndAdd ≠ .inspect := by decide
  induction h with
  | through d => exact .of_unmoved (.refl d) ⟨fun _ => rfl, fun _ => rfl⟩
  | canceled _ => exact .of_unmoved (.refl _) ⟨nofun, nofun⟩
  | failed _ drift creation =>
      have unmoved := Daemon.Unmoved.of_drifts drift
      have ends := Creation.ends_of_finishes acts (unmoved.steady.reliable reliable) creation
      exact (Leaves.of_refuses ends).unmoved unmoved
  | created _ drift creation between _ ih =>
      have unmoved := Daemon.Unmoved.of_drifts drift
      have started := unmoved.steady.reliable reliable
      obtain ⟨task, added, -⟩ := Creation.ends_of_finishes acts started creation
      have between := Daemon.Unmoved.of_drifts between
      obtain ⟨hooks, before, -, raised⟩ := added.raised
      have rest := ih ((raised.steady.trans between.steady).reliable started)
      exact (Leaves.cons added between rest).unmoved unmoved

end Consecutive

end TaskSync
