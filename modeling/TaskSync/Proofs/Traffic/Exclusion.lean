import TaskSync.Proofs.Traffic.Sound
import TaskSync.Scenario.Basic

/-!
# Mutual exclusion

Between the turn in which a call takes the guard of an entry and the one in which it gives it back,
no other call is there, and a registered backend is called in between only. The flag of an entry is
the existence of such a call, so it is down whenever there is none, whichever way the calls ended.
-/

namespace TaskSync.Traffic

/-- The calls keep out of each other's way. -/
structure Excludes (t : Traffic) : Prop where
  /-- An entry is in the hands of one call at most. -/
  once : ∀ i j g, t.guard? i = some g → t.guard? j = some g → i = j
  /-- An entry is active exactly while it is in the hands of a call. -/
  flag : ∀ n e, t.daemon.registry.find? n = some e →
    (e.active = true ↔ ∃ i, t.guard? i = some ⟨e.id⟩)
  /-- Who may call the backend of an entry has the entry in hand. -/
  guarded : ∀ n e i, t.daemon.registry.find? n = some e →
    (t.stake i).backend? = some e.runner → t.guard? i = some ⟨e.id⟩
  alone : ∀ n e i j, t.daemon.registry.find? n = some e → (t.stake i).backend? = some e.runner →
    (t.stake j).backend? = some e.runner → i = j
  /-- The next turn of a call, whichever comes next and whichever it may take, calls no backend
  that the call may not call. -/
  calls : ∀ i o out, t.going? i = some o → o.May t.daemon out →
    ∃ lines, (t.take i out).daemon.journal = lines ++ t.daemon.journal ∧
      ∀ x ∈ lines, ∀ l, x.about? = some l →
        ∃ b, (t.stake i).backend? = some b ∧ l = (t.daemon.backend b).label

theorem Sound.guarded {t : Traffic} (h : t.Sound) {n : String} {e : Entry Place} {i : Nat}
    (found : t.daemon.registry.find? n = some e) (may : (t.stake i).backend? = some e.runner) :
    t.guard? i = some ⟨e.id⟩ := by
  cases stake : t.stake i with
  | nothing | queued | removing =>
      rw [stake] at may
      cases may
  | fresh b =>
      rw [stake] at may
      cases may
      exact absurd rfl ((h.fresh i _ stake).1 n e found)
  | working g b =>
      rw [stake] at may
      cases may
      rw [guard?, stake, h.working i g _ stake n e found rfl]
      rfl

theorem take_lines {t : Traffic} {i : Nat} {o : Operation} {out : Operation.Outcome}
    (going : t.going? i = some o) (may : o.May t.daemon out) :
    ∃ lines, (t.take i out).daemon.journal = lines ++ t.daemon.journal ∧
      ∀ x ∈ lines, ∀ l, x.about? = some l →
        ∃ b, (t.stake i).backend? = some b ∧ l = (t.daemon.backend b).label := by
  rw [stake_of_going going]
  exact may.leaves.lines

theorem Sound.excludes {t : Traffic} (h : t.Sound) : t.Excludes where
  once := h.exclusive.once
  flag := h.exclusive.flag
  guarded _ _ _ found may := h.guarded found may
  alone _ e i j found mine yours :=
    h.exclusive.once i j ⟨e.id⟩ (h.guarded found mine) (h.guarded found yours)
  calls _ _ _ := take_lines

/-- Mutual exclusion, in whatever way the calls have come there. -/
theorem mutual_exclusion (d : Daemon) (rest : d.AtRest) (t : Traffic)
    (reached : GoesOn (opening d) t) : t.Excludes :=
  ((opening_sound rest).goesOn reached).excludes

/-- A scenario in which rendering takes five milliseconds. -/
def sample : Scenario where
  config := default
  mode := .consecutive
  setting := ⟨[], { BackendScript.plain with renderDelays := .always 5 }, none, [], .quiet⟩
  storeFaults := []
  busCapacity := Bus.defaultCapacity
  retrySeed := 0
  wall := default
  steps := []

theorem sample_avoids (a : Action) : (sample.daemon .default).Avoids a where
  made b h member := by
    have none : ((sample.daemon .default).backend b).script.hooks = [] := by
      have unmade : (sample.daemon .default).backend b = default := by
        simp [Daemon.backend, Scenario.daemon]
      rw [unmade]
      rfl
    rw [none] at member
    cases member
  named := nofun
  otherwise := nofun

theorem sample_reliable : (sample.daemon .default).Reliable := nofun

/-- A task that watches one service. -/
def sampleTask : TaskConfig := ((TaskConfig.named "a").withModule "m").withServices ["s"]

/-- The task is registered, a run renders it, another run and a deletion wait, an update is
refused. -/
def sampleEvents : List Event :=
  [.call (.create ⟨0⟩ .add sampleTask), .turn 0, .turn 0, .turn 0, .pass 5, .turn 0, .turn 0,
    .call (.run ⟨0⟩ "a"), .turn 1, .turn 1,
    .call (.run ⟨0⟩ "a"), .turn 2,
    .call (.delete ⟨0⟩ "a"), .turn 3,
    .call (.update (sampleTask.withEnabled false) .default), .turn 4]

theorem mutual_exclusion_sample :
    (sample.daemon .default).AtRest ∧
      ((opening (sample.daemon .default)).run sampleEvents).Excludes ∧
      ((opening (sample.daemon .default)).run sampleEvents).stake 1 = .working ⟨0⟩ 0 ∧
      ((opening (sample.daemon .default)).run sampleEvents).stake 2 = .queued "a" 0 :=
  ⟨Daemon.atRest_of_empty rfl,
    mutual_exclusion _ (Daemon.atRest_of_empty rfl) _ (GoesOn.run _ sampleEvents), by decide,
    by decide⟩

end TaskSync.Traffic
