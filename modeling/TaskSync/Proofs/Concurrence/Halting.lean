import TaskSync.Proofs.Concurrence.Rounds

/-!
# Creations at the same time come to their ends

To one creation of a pass, the other ones are what happens between its own rounds. They take no
time, so a clock that goes on between the rounds of the pass goes on between those of each creation.
Every creation comes to its end in such surroundings, and so does the pass.
-/

namespace TaskSync

namespace Concurrent

/-- The creations and the daemon at the beginning of the n-th round. -/
def course (token : Token) (s : Surroundings) (ms : List Member) (d : Daemon) :
    Nat → List Member × Daemon
  | 0 => (ms, d)
  | n + 1 =>
    ((Once.round token (s.share n) (course token s ms d n).1 (course token s ms d n).2).1.members,
      s.between n
        (Once.round token (s.share n) (course token s ms d n).1 (course token s ms d n).2).2)

/-- The daemon that the creation in a position finds in the n-th round. -/
def found (token : Token) (s : Surroundings) (ms : List Member) (d : Daemon) (i n : Nat) : Daemon :=
  (Once.round token (s.share n) ((course token s ms d n).1.take i) (course token s ms d n).2).2

/-- The surroundings of the creation in a position: after a round of its own, it finds the daemon in
the next one as the others have left it. -/
def about (token : Token) (s : Surroundings) (ms : List Member) (d : Daemon) (i : Nat) :
    Surroundings where
  share := s.share
  between n e :=
    { found token s ms d i (n + 1) with
      clock := max e.clock (found token s ms d i (n + 1)).clock }

variable {token : Token} {s : Surroundings} {ms : List Member} {d : Daemon} {i n : Nat}

theorem round_getElem? {share : Nat} {m : Member} (here : ms[i]? = some m) :
    (Once.round token share ms d).1.members[i]? =
      some (m.settled token share (Once.round token share (ms.take i) d).2).1 := by
  induction ms generalizing i d with
  | nil => cases here
  | cons m₀ ms ih =>
      rw [(Once.round_cons token share m₀ ms d).1]
      cases i with
      | zero =>
          cases here
          rfl
      | succ i =>
          rw [List.take_succ_cons, (Once.round_cons token share m₀ (ms.take i) d).2]
          exact ih here

theorem round_length {share : Nat} (ms : List Member) (d : Daemon) :
    (Once.round token share ms d).1.members.length = ms.length := by
  induction ms generalizing d with
  | nil => rfl
  | cons m ms ih =>
      rw [(Once.round_cons token share m ms d).1, List.length_cons, List.length_cons, ih]

theorem settled_ended (share : Nat) (task : String) (r : Creation.Result) (d : Daemon) :
    (Member.ended task r).settled token share d = (.ended task r, d) := by
  cases share with
  | zero => rfl
  | succ share => exact settled_done rfl

/-! ### Rounds of one creation -/

theorem course_getElem? {m : Member} (here : (course token s ms d n).1[i]? = some m) :
    (course token s ms d (n + 1)).1[i]? =
      some (m.settled token (s.share n) (found token s ms d i n)).1 :=
  round_getElem? here

theorem course_length (token : Token) (s : Surroundings) (ms : List Member) (d : Daemon) (n : Nat) :
    (course token s ms d n).1.length = ms.length := by
  induction n with
  | zero => rfl
  | succ n ih => exact (round_length _ _).trans ih

/-- A creation that has ended stays as it is. -/
theorem ended_later {task : String} {r : Creation.Result} {n' : Nat}
    (here : (course token s ms d n).1[i]? = some (.ended task r)) (later : n ≤ n') :
    (course token s ms d n').1[i]? = some (.ended task r) := by
  induction later with
  | refl => exact here
  | step _ ih =>
      rw [course_getElem? ih, settled_ended]

theorem found_clock (token : Token) (s : Surroundings) (ms : List Member) (d : Daemon) (i n : Nat) :
    (found token s ms d i n).clock = (course token s ms d n).2.clock :=
  (Once.round_instant _ _).clock

theorem about_lasts (fair : s.Fair) : (about token s ms d i).Lasts where
  turns := fair.turns
  onward _ _ := Nat.le_max_left _ _
  passes late := by
    obtain ⟨n, passed⟩ := fair.passes late
    refine ⟨n, fun m after e => ?_⟩
    calc late ≤ (course token s ms d (m + 1)).2.clock := passed m after _
      _ = (found token s ms d i (m + 1)).clock := (found_clock token s ms d i (m + 1)).symm
      _ ≤ ((about token s ms d i).between m e).clock := Nat.le_max_right _ _

/-- What comes between two rounds of a creation is what it finds. -/
theorem about_between (fair : s.Fair) {e : Daemon}
    (clock : e.clock = (course token s ms d n).2.clock) :
    (about token s ms d i).between n e = found token s ms d i (n + 1) := by
  have onward : e.clock ≤ (found token s ms d i (n + 1)).clock := by
    calc e.clock = (course token s ms d n).2.clock := clock
      _ = (Once.round token (s.share n) (course token s ms d n).1
            (course token s ms d n).2).2.clock := (Once.round_instant _ _).clock.symm
      _ ≤ (course token s ms d (n + 1)).2.clock := fair.onward n _
      _ = (found token s ms d i (n + 1)).clock := (found_clock token s ms d i (n + 1)).symm
  show { found token s ms d i (n + 1) with
    clock := max e.clock (found token s ms d i (n + 1)).clock } = _
  rw [Nat.max_eq_right onward]

/-- A creation that comes to its end in its surroundings comes to it among the others. -/
theorem ended_of_halts (fair : s.Fair) {task : String} {left : Nat} {p : Creation.Phase}
    {e : Daemon} (h : Halts (Creation.turn token .runAndAdd) (about token s ms d i) n left p e)
    (clock : e.clock = (course token s ms d n).2.clock) {m : Member}
    (here : (course token s ms d n).1[i]? = some m)
    (so_far : m.settled token (s.share n) (found token s ms d i n) =
      (Member.creating task p).settled token left e) :
    ∃ n' r, (course token s ms d n').1[i]? = some (.ended task r) := by
  -- `so_far`: what is left of its n-th round is what the creation does from here on its own
  induction h generalizing m with
  | @done n left p e e' r turned =>
      have ended : (Member.creating task p).turn token e = (.done (.ended task r), e') := by
        simp only [Member.turn, turned]
      refine ⟨n + 1, r, ?_⟩
      rw [course_getElem? here, so_far, settled_done ended]
  | @next n left p p' e e' turned _ ih =>
      have went : (Member.creating task p).turn token e = (.next (.creating task p'), e') := by
        simp only [Member.turn, turned]
      have instant := Creation.turn_instant token .runAndAdd p e
      rw [turned] at instant
      exact ih (instant.clock.trans clock) here (so_far.trans (settled_next went))
  | @wait n left p on e e' turned _ ih =>
      have waited : (Member.creating task p).turn token e = (.wait on, e') := by
        simp only [Member.turn, turned]
      have instant := Creation.turn_instant token .runAndAdd p e
      rw [turned] at instant
      have between := about_between (i := i) fair (instant.clock.trans clock)
      have there := course_getElem? here
      rw [so_far, settled_wait waited] at there
      exact ih (by rw [between, found_clock]) there (by rw [between]; rfl)
  | @pause n p e _ ih =>
      have between := about_between (i := i) fair clock
      have there := course_getElem? here
      rw [so_far] at there
      exact ih (by rw [between, found_clock]) there (by rw [between]; rfl)

/-! ### All creations -/

/-- Every creation comes to its end. -/
theorem ends_in_time (token : Token) (fair : s.Fair) (d : Daemon) (inside : i < ms.length) :
    ∃ n task r, (course token s ms d n).1[i]? = some (.ended task r) := by
  have here : (course token s ms d 0).1[i]? = some ms[i] := List.getElem?_eq_getElem inside
  cases first : ms[i] with
  | ended task r => exact ⟨0, task, r, first ▸ here⟩
  | creating task p =>
      rw [first] at here
      have halts : Halts (Creation.turn token .runAndAdd) (about token s ms d i) 0 (s.share 0) p
          (found token s ms d i 0) :=
        Creation.ceases (about_lasts fair) p 0 (s.share 0) _ (Nat.zero_le _)
      obtain ⟨n, r, ended⟩ := ended_of_halts fair halts (found_clock token s ms d i 0) here rfl
      exact ⟨n, task, r, ended⟩

/-- From some round on, all have come to their ends. -/
theorem all_end_in_time (token : Token) (fair : s.Fair) (ms : List Member) (d : Daemon) :
    ∃ n, (course token s ms d (n + 1)).1.all (·.isEnded) = true := by
  have first : ∀ k, k ≤ ms.length → ∃ n, ∀ i < k, ∃ task r,
      (course token s ms d n).1[i]? = some (.ended task r) := by
    intro k
    induction k with
    | zero => exact fun _ => ⟨0, fun i before => absurd before (Nat.not_lt_zero i)⟩
    | succ k ih =>
        intro within
        obtain ⟨n, ended⟩ := ih (Nat.le_of_succ_le within)
        obtain ⟨n', task, r, last⟩ := ends_in_time token fair d within
        refine ⟨max n n', fun i before => ?_⟩
        rcases Nat.lt_succ_iff_lt_or_eq.mp before with earlier | rfl
        · obtain ⟨task, r, there⟩ := ended i earlier
          exact ⟨task, r, ended_later there (Nat.le_max_left n n')⟩
        · exact ⟨task, r, ended_later last (Nat.le_max_right n n')⟩
  obtain ⟨n, ended⟩ := first ms.length (Nat.le_refl _)
  refine ⟨n, List.all_eq_true.mpr fun m member => ?_⟩
  obtain ⟨i, inside, rfl⟩ := List.getElem_of_mem member
  obtain ⟨task, r, before⟩ := ended i (course_length token s ms d (n + 1) ▸ inside)
  have there := ended_later before (Nat.le_succ n)
  rw [List.getElem?_eq_getElem inside] at there
  rw [Option.some.inj there]
  rfl

end Concurrent

namespace Once

variable {token : Token} {s : Surroundings} {ms : List Concurrent.Member} {d : Daemon}

theorem course_setting (fair : s.Fair) (n : Nat) :
    (Concurrent.course token s ms d n).2.setting = d.setting := by
  induction n with
  | zero => rfl
  | succ n ih =>
      have between := fair.drifts n (round token (s.share n) (Concurrent.course token s ms d n).1
        (Concurrent.course token s ms d n).2).2
      exact (between.quiet.setting.trans (round_instant _ _).setting).trans ih

/-- A pass is carried out to the end once all its creations have come to theirs. -/
theorem carryOut_course (fair : s.Fair) (calm : d.setting.watcher.wait.result = .ok ())
    (due : Option Nat) (k n : Nat) (waiting : Bool)
    (ended : (Concurrent.course token s ms d (n + k + 1)).1.all (·.isEnded) = true) :
    ∃ rounds r d', carryOut token .concurrent s rounds n
      (.passing (.concurrent (Concurrent.course token s ms d n).1) waiting due)
      (Concurrent.course token s ms d n).2 = some (r, d') := by
  induction k generalizing n waiting with
  | zero => exact ⟨1, _, _, carryOut_ended 0 waiting due ended⟩
  | succ k ih =>
      by_cases finished : (Concurrent.course token s ms d (n + 1)).1.all (·.isEnded) = true
      · exact ⟨1, _, _, carryOut_ended 0 waiting due finished⟩
      · have calm' : (Concurrent.course token s ms d n).2.setting.watcher.wait.result = .ok () := by
          rw [course_setting fair, calm]
        obtain ⟨waiting', goes⟩ := carryOut_goes (s := s) waiting due calm' finished
        have shifted : n + 1 + k + 1 = n + (k + 1) + 1 := by omega
        obtain ⟨rounds, r, d', carried⟩ := ih (n + 1) waiting' (by rw [shifted]; exact ended)
        exact ⟨rounds + 1, r, d', (goes rounds).trans carried⟩

end Once

end TaskSync
