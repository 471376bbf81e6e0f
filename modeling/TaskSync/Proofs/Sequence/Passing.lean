import TaskSync.Proofs.Sequence.Halting
import TaskSync.Proofs.Sequence.Pass
import TaskSync.Proofs.Traffic.Exclusion

/-!
# Passes that come to their end

A pass over all stored tasks, one after the other, is carried out in rounds, beside a wait for the
watcher. Each of its creations comes to an end, and so does the pass; what it answers and leaves
behind is said by the position at which it stops.
-/

namespace TaskSync

open Daemon (Instant)

theorem Daemon.Drifts.trans {d d' d'' : Daemon} (h : d.Drifts d') (h' : d'.Drifts d'') :
    d.Drifts d'' := by
  refine ⟨h'.frame.trans ?_⟩
  rw [h.frame]

namespace Consecutive

variable {token : Token} {s : Surroundings} {n left : Nat} {d : Daemon} {p : Phase}

theorem turn_instant (token : Token) (p : Phase) (d : Daemon) :
    d.Instant (turn token p d).2 := by
  cases p with
  | between confs =>
      cases confs with
      | nil => exact .refl d
      | cons conf rest =>
          simp only [turn]
          split
          · exact .refl d
          · exact .refl d
  | creating task phase rest =>
      have instant := Creation.turn_instant token .runAndAdd phase d
      simp only [turn]
      split <;> rename_i eq <;> rw [eq] at instant <;> exact instant

theorem setting_turn {t : Turn Phase (Except Failure Unit)} {d' : Daemon}
    (turned : turn token p d = (t, d')) : d'.setting = d.setting := by
  have instant := turn_instant token p d
  rw [turned] at instant
  exact instant.setting

/-- A creation that comes to its end lets the pass go on. -/
theorem halts_creating {name : String} {phase : Creation.Phase} {rest : List TaskConfig}
    (goes : Ceases (turn token) s 0 (.between rest))
    (h : Halts (Creation.turn token .runAndAdd) s n left phase d) :
    Halts (turn token) s n left (.creating name phase rest) d := by
  induction h with
  | done turned =>
      rename_i n left p d d' r
      cases ended : turn token (.creating name p rest) d with
      | mk t d₁ =>
        have answered := ended
        simp only [turn, turned] at answered
        split at answered <;> rename_i eq <;> cases eq <;> cases answered
        · exact .next ended (goes _ _ _ (Nat.zero_le _))
        · exact .done ended
        · exact .done ended
  | next turned _ ih => exact .next (by simp only [turn, turned]) ih
  | wait turned _ ih => exact .wait (by simp only [turn, turned]; rfl) ih
  | pause _ ih => exact .pause ih

theorem between_ceases (fair : s.Fair) (confs : List TaskConfig) :
    Ceases (turn token) s 0 (.between confs) := by
  have still (p : Phase) (d : Daemon) : (turn token p d).2.clock = d.clock :=
    (turn_instant token p d).clock
  induction confs with
  | nil => exact .of_turn fair.lasts still fun d _ => .done trivial
  | cons conf rest ih =>
      refine .of_turn fair.lasts still fun d _ => ?_
      simp only [turn]
      split
      · exact .done trivial
      · refine .next fun n left d _ => halts_creating ih ?_
        exact Creation.ceases fair.lasts _ n left d (Nat.zero_le _)

end Consecutive

namespace Once

/-- Carries out a pass in so many rounds, from the n-th on, if it takes no more. -/
def carryOut (token : Token) (mode : PassMode) (s : Surroundings) :
    Nat → Nat → Phase → Daemon → Option (Result × Daemon)
  | 0, _, _, _ => none
  | rounds + 1, n, p, d =>
    match go token mode (s.share n) p d with
    | (.waiting p _, d) | (.paused p, d) => carryOut token mode s rounds (n + 1) p (s.between n d)
    | (.ended r, d) => some (r, d)

variable {token : Token} {s : Surroundings} {d d' : Daemon}
variable {p q : Consecutive.Phase} {share : Nat}

/-! ### A round of a pass -/

theorem advance_ended (waiting : Bool) (due : Option Nat) {r : Result}
    (h : settle (Consecutive.turn token) share p d = (.ended r, d')) :
    advance token share (.consecutive p) waiting due d = (.ended r, d') := by
  simp only [advance, Pass.go, h]

theorem advance_paused (waiting : Bool) (due : Option Nat)
    (h : settle (Consecutive.turn token) share p d = (.paused q, d')) :
    advance token share (.consecutive p) waiting due d =
      (.paused (.passing (.consecutive q) waiting due), d') := by
  simp only [advance, Pass.go, h]

/-- A watcher whose wait does not fail is never seen to have failed. -/
theorem look_calm (token : Token) (due : Option Nat)
    (calm : d.setting.watcher.wait.result = .ok ()) :
    look token due d = .stillWaiting ∨ look token due d = .over := by
  simp only [look, calm]
  split
  · exact .inr rfl
  split
  · exact .inr rfl
  · exact .inl rfl

/-- Such a watcher lets the pass go on. -/
theorem advance_waiting (waiting : Bool) (due : Option Nat) {on : List Wait}
    (calm : d'.setting.watcher.wait.result = .ok ())
    (h : settle (Consecutive.turn token) share p d = (.waiting q on, d')) :
    ∃ waiting' on', advance token share (.consecutive p) waiting due d =
      (.waiting (.passing (.consecutive q) waiting' due) on', d') := by
  simp only [advance, Pass.go, h]
  split
  · obtain seen | seen := look_calm token due calm
    · rw [seen]
      exact ⟨_, _, rfl⟩
    · rw [seen]
      exact ⟨_, _, rfl⟩
  · exact ⟨_, _, rfl⟩

/-! ### Rounds until the end -/

/-- A pass that comes to its end is carried out, however its rounds fall. -/
theorem carryOut_of_halts (mode : PassMode) (fair : s.Fair) {n left : Nat}
    (h : Halts (Consecutive.turn token) s n left p d)
    (calm : d.setting.watcher.wait.result = .ok ()) {e : Daemon} (waiting : Bool)
    (due : Option Nat)
    (so_far : settle (Consecutive.turn token) (s.share n) q e =
      settle (Consecutive.turn token) left p d) :
    ∃ rounds r d' d₀,
      carryOut token mode s rounds n (.passing (.consecutive q) waiting due) e = some (r, d') ∧
        d.Drifts d₀ ∧ (0 < left → d₀ = d) ∧ Finishes (Consecutive.turn token) p d₀ r d' := by
  induction h generalizing q e waiting with
  | @done n left p d d' r turned =>
      simp only [settle, turned] at so_far
      refine ⟨1, r, d', d, ?_, .refl d, fun _ => rfl, .done turned⟩
      simp only [carryOut, go, advance_ended waiting due so_far]
  | @next n left p p' d d' turned _ ih =>
      simp only [settle, turned] at so_far
      obtain ⟨rounds, r, d₂, d₁, carried, drift, -, finishes⟩ :=
        ih (by rw [Consecutive.setting_turn turned, calm]) waiting so_far
      exact ⟨rounds, r, d₂, d, carried, .refl d, fun _ => rfl, .next turned drift finishes⟩
  | @wait n left p on d d' turned _ ih =>
      simp only [settle, turned] at so_far
      have calm' : d'.setting.watcher.wait.result = .ok () := by
        rw [Consecutive.setting_turn turned, calm]
      have between := fair.drifts n d'
      obtain ⟨waiting', on', advanced⟩ := advance_waiting waiting due calm' so_far
      obtain ⟨rounds, r, d₂, d₁, carried, drift, -, finishes⟩ :=
        ih (by rw [between.quiet.setting, calm']) waiting' rfl
      refine ⟨rounds + 1, r, d₂, d, ?_, .refl d, fun _ => rfl,
        .wait turned (between.trans drift) finishes⟩
      simp only [carryOut, go, advanced]
      exact carried
  | @pause n p d _ ih =>
      have between := fair.drifts n d
      have advanced := advance_paused waiting due so_far
      obtain ⟨rounds, r, d₂, d₁, carried, drift, -, finishes⟩ :=
        ih (by rw [between.quiet.setting, calm]) waiting rfl
      refine ⟨rounds + 1, r, d₂, d₁, ?_, between.trans drift, fun positive => ?_, finishes⟩
      rotate_left
      · exact absurd positive (Nat.lt_irrefl 0)
      simp only [carryOut, go, advanced]
      exact carried

/-- Reading the stored tasks changes nothing but what is left of the faults of the store. -/
theorem tasks_unmoved (reliable : d.Reliable) :
    ∃ faults, d.tasks = (.ok d.store.allTasks, { d with storeFaults := faults }) ∧
      d.Unmoved { d with storeFaults := faults } := by
  obtain ⟨faults, after, holds⟩ := d.access_frame .getAllTasks
  obtain ⟨succeeds, silent⟩ := holds reliable
  have unmoved : d.Unmoved { d with storeFaults := faults } :=
    ⟨.of_backends rfl rfl rfl (fun _ => .refl _) fun _ => silent, rfl, rfl, rfl, rfl⟩
  refine ⟨faults, ?_, unmoved⟩
  unfold Daemon.tasks Daemon.look
  rw [← after]
  simp only [succeeds]
  rw [after]
  rfl

/-- A pass over the stored tasks, one after the other, comes to its end. It stops at the first
position whose creation fails or before which the token is canceled, and answers and leaves behind
what the position says. -/
theorem consecutive_pass (token : Token) (s : Surroundings) (fair : s.Fair) (d : Daemon)
    (reliable : d.Reliable) (calm : d.setting.watcher.wait.result = .ok ()) :
    ∃ rounds r d', carryOut token .consecutive s rounds 0 .start d = some (r, d') ∧
      ∃ k stop, Consecutive.Stops token d.tasks.2 d.store.allTasks k stop d' ∧
        r = stop.result ((d.store.allTasks[k]?.map TaskConfig.nameOrEmpty).getD "") ∧
        Consecutive.Leaves d d.store.allTasks k stop d' := by
  obtain ⟨faults, read, unmoved⟩ := tasks_unmoved reliable
  generalize { d with storeFaults := faults } = d₁ at read unmoved
  have calm' : d₁.setting.watcher.wait.result = .ok () := by
    rw [unmoved.steady.setting, calm]
  have halts : Halts (Consecutive.turn token) s 0 (s.share 0) (.between d.store.allTasks) d₁ :=
    Consecutive.between_ceases fair _ 0 (s.share 0) d₁ (Nat.zero_le _)
  obtain ⟨rounds, r, d', d₀, carried, -, same, finishes⟩ := carryOut_of_halts .consecutive fair
    halts calm' (decide (0 < d₁.setting.watcher.size))
    (d₁.setting.watcher.wait.after.map (d₁.clock + ·)) rfl
  obtain rfl := same (fair.turns 0)
  obtain ⟨k, stop, stops, answered⟩ := Consecutive.stops_of_finishes finishes
  have leaves := Consecutive.leaves_of_stops (unmoved.steady.reliable reliable) stops
  refine ⟨rounds, r, d', ?_, k, stop, ?_, answered, leaves.unmoved unmoved⟩
  · cases rounds with
    | zero => exact carried
    | succ rounds =>
        rw [← carried]
        simp only [carryOut, go, read]
        rfl
  · rw [read]
    exact stops

/-- Two configurations of one name: the second creation is refused. -/
def samplePass : Daemon :=
  { Traffic.sample.daemon .default with
    store := .new { (default : Config) with tasks := [Traffic.sampleTask, Traffic.sampleTask] } }

theorem consecutive_pass_sample :
    (carryOut ⟨0⟩ .consecutive (.ticking 10) 20 0 .start samplePass).map (·.1) =
        some (.error (.taskFailed "a" (.nameTaken "a"))) ∧
      ∃ rounds r d', carryOut ⟨0⟩ .consecutive (.ticking 10) rounds 0 .start samplePass =
          some (r, d') ∧
        ∃ k stop, Consecutive.Stops ⟨0⟩ samplePass.tasks.2 samplePass.store.allTasks k stop d' ∧
          r = stop.result ((samplePass.store.allTasks[k]?.map TaskConfig.nameOrEmpty).getD "") ∧
          Consecutive.Leaves samplePass samplePass.store.allTasks k stop d' :=
  ⟨by rfl, consecutive_pass ⟨0⟩ (.ticking 10) (Surroundings.ticking_fair (by decide)) samplePass
    nofun rfl⟩

end Once

end TaskSync
