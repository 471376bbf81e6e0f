import TaskSync.Proofs.Sequence.Creation

/-!
# Rounds

An operation is let go on in rounds: in each it takes turns until it has to wait, ends or has had
its share, and between two rounds time passes and tokens are canceled. An operation whose waits are
all for a time comes to its end, as long as every round has a turn at least and the clock goes on.
-/

namespace TaskSync

/-- How many turns each round has, and what happens between a round and the one after it. -/
structure Surroundings where
  share : Nat → Nat
  between : Nat → Daemon → Daemon

namespace Surroundings

/-- Every round has a turn, and the clock passes every time. -/
structure Fair (s : Surroundings) : Prop where
  turns : ∀ n, 0 < s.share n
  drifts : ∀ n (d : Daemon), d.Drifts (s.between n d)
  onward : ∀ n (d : Daemon), d.clock ≤ (s.between n d).clock
  passes : ∀ ms, ∃ n, ∀ m, n ≤ m → ∀ d, ms ≤ (s.between m d).clock

/-- Every round has a turn, and the clock passes every time, whatever else happens. -/
structure Lasts (s : Surroundings) : Prop where
  turns : ∀ n, 0 < s.share n
  onward : ∀ n (d : Daemon), d.clock ≤ (s.between n d).clock
  passes : ∀ ms, ∃ n, ∀ m, n ≤ m → ∀ d, ms ≤ (s.between m d).clock

theorem Fair.lasts {s : Surroundings} (h : s.Fair) : s.Lasts := ⟨h.turns, h.onward, h.passes⟩

/-- One turn a round, and the clock stands at so many milliseconds after each. -/
def ticking (ms : Nat) : Surroundings where
  share _ := 1
  between n d := { d with clock := max d.clock (ms * n) }

theorem ticking_fair {ms : Nat} (goes : 0 < ms) : (ticking ms).Fair where
  turns _ := Nat.one_pos
  drifts _ _ := ⟨rfl⟩
  onward _ _ := Nat.le_max_left _ _
  passes late := by
    refine ⟨late, fun m after d => ?_⟩
    calc late ≤ m := after
      _ ≤ ms * m := Nat.le_mul_of_pos_left m goes
      _ ≤ max d.clock (ms * m) := Nat.le_max_right _ _

end Surroundings

/-- With so many turns left of a round, the operation comes to its end in this round or in one of
those that follow. -/
inductive Halts {π ρ : Type} (turn : π → Daemon → Turn π ρ × Daemon) (s : Surroundings) :
    Nat → Nat → π → Daemon → Prop where
  | done {n left : Nat} {p : π} {d d' : Daemon} {r : ρ} (turned : turn p d = (.done r, d')) :
      Halts turn s n (left + 1) p d
  | next {n left : Nat} {p p' : π} {d d' : Daemon} (turned : turn p d = (.next p', d'))
      (rest : Halts turn s n left p' d') : Halts turn s n (left + 1) p d
  | wait {n left : Nat} {p : π} {on : List Wait} {d d' : Daemon}
      (turned : turn p d = (.wait on, d'))
      (rest : Halts turn s (n + 1) (s.share (n + 1)) p (s.between n d')) :
      Halts turn s n (left + 1) p d
  | pause {n : Nat} {p : π} {d : Daemon}
      (rest : Halts turn s (n + 1) (s.share (n + 1)) p (s.between n d)) : Halts turn s n 0 p d

/-- From this time on, the operation comes to its end whenever it goes on from the phase. -/
def Ceases {π ρ : Type} (turn : π → Daemon → Turn π ρ × Daemon) (s : Surroundings) (ms : Nat)
    (p : π) : Prop :=
  ∀ n left d, ms ≤ d.clock → Halts turn s n left p d

namespace Ceases

variable {π ρ : Type} {turn : π → Daemon → Turn π ρ × Daemon} {s : Surroundings} {c : Nat}
variable {p : π}

theorem mono {ms : Nat} (h : Ceases turn s c p) (later : c ≤ ms) : Ceases turn s ms p :=
  fun n left d after => h n left d (Nat.le_trans later after)

/-- A turn that leads to phases from which the operation comes to its end. -/
theorem of_turn (lasts : s.Lasts) (still : ∀ p d, (turn p d).2.clock = d.clock)
    (h : ∀ d, c ≤ d.clock →
      Leads (fun p' _ => Ceases turn s c p') (fun _ _ => True) p (turn p d)) :
    Ceases turn s c p := by
  have goes : ∀ n left d, c ≤ d.clock → Halts turn s n (left + 1) p d := by
    intro n left d after
    have led := h d after
    have clock := still p d
    cases turned : turn p d with
    | mk t d' =>
      rw [turned] at led clock
      have after' : c ≤ d'.clock := clock ▸ after
      cases led with
      | next kept => exact .next turned (kept n left d' after')
      | wait kept => exact .wait turned (kept _ _ _ (Nat.le_trans after' (lasts.onward n d')))
      | done => exact .done turned
  intro n left d after
  cases left with
  | succ left => exact goes n left d after
  | zero =>
      have share : s.share (n + 1) = s.share (n + 1) - 1 + 1 :=
        (Nat.sub_add_cancel (lasts.turns (n + 1))).symm
      refine .pause ?_
      rw [share]
      exact goes _ _ _ (Nat.le_trans after (lasts.onward n d))

section

variable (group : π → Prop)

/-- A round that goes about in a group of phases, if the operation comes to its end from there in
the rounds that follow. -/
theorem round (still : ∀ p d, (turn p d).2.clock = d.clock)
    (h : ∀ p, group p → ∀ d, c ≤ d.clock →
      Leads (fun p' _ => group p' ∨ Ceases turn s c p') (fun _ _ => True) p (turn p d))
    {n : Nat} (follows : ∀ p, group p → ∀ d, c ≤ d.clock →
      Halts turn s (n + 1) (s.share (n + 1)) p (s.between n d)) (left : Nat) {d : Daemon}
    (inside : group p) (begun : c ≤ d.clock) :
    Halts turn s n left p d := by
  induction left generalizing p d with
  | zero => exact .pause (follows p inside d begun)
  | succ left ih =>
      have led := h p inside d begun
      have clock := still p d
      cases turned : turn p d with
      | mk t d' =>
        rw [turned] at led clock
        have begun' : c ≤ d'.clock := clock ▸ begun
        cases led with
        | next kept =>
            rcases kept with inside' | ceases
            · exact .next turned (ih inside' begun')
            · exact .next turned (ceases n left d' begun')
        | wait kept => exact .wait turned (follows p inside d' begun')
        | done => exact .done turned

/-- An operation may go about in a group of phases for a while, if from some time on it comes to
its end from there too. -/
theorem of_group (ms : Nat) (lasts : s.Lasts) (still : ∀ p d, (turn p d).2.clock = d.clock)
    (late : ∀ p, group p → Ceases turn s (max c ms) p)
    (h : ∀ p, group p → ∀ d, c ≤ d.clock →
      Leads (fun p' _ => group p' ∨ Ceases turn s c p') (fun _ _ => True) p (turn p d))
    (inside : group p) : Ceases turn s c p := by
  obtain ⟨last, passed⟩ := lasts.passes ms
  -- by the number of rounds until the time has come
  have ends : ∀ rounds n, last ≤ n + rounds → ∀ p, group p → ∀ left d, c ≤ d.clock →
      Halts turn s n left p d := by
    intro rounds
    induction rounds with
    | zero =>
        intro n come p inside left d begun
        refine round group still h (fun p inside d begun => ?_) left inside begun
        have begun' := Nat.le_trans begun (lasts.onward n d)
        exact late p inside _ _ _ (Nat.max_le.mpr ⟨begun', passed n come d⟩)
    | succ rounds ih =>
        intro n come p inside left d begun
        refine round group still h (fun p inside d begun => ?_) left inside begun
        exact ih (n + 1) (by omega) p inside _ _ (Nat.le_trans begun (lasts.onward n d))
  exact fun n left d begun => ends last n (Nat.le_add_left last n) p inside left d begun

end

end Ceases

end TaskSync
