import TaskSync.Proofs.Concurrence.Interleaving
import TaskSync.Proofs.Sequence.Passing

/-!
# A pass in rounds

A pass over all tasks at the same time goes on in rounds, in each of which every creation goes on as
far as it can, in the order of the tasks. The rounds are one way for the creations to interleave. So
are the turns of a pass that takes one task after the other.
-/

namespace TaskSync

namespace Concurrent

/-- A creation after it has gone on as far as it could. -/
def Member.settled (token : Token) (share : Nat) (m : Member) (d : Daemon) : Member × Daemon :=
  match settle (Member.turn token) share m d with
  | (.waiting m _, d) => (m, d)
  | (.paused m, d) => (m, d)
  | (.ended m, d) => (m, d)

variable {token : Token} {share i : Nat} {m m' : Member} {d d' : Daemon} {ms : List Member}

theorem settled_next (h : m.turn token d = (.next m', d')) :
    m.settled token (share + 1) d = m'.settled token share d' := by
  simp only [Member.settled, settle, h]

theorem settled_wait {on : List Wait} (h : m.turn token d = (.wait on, d')) :
    m.settled token (share + 1) d = (m, d') := by
  simp only [Member.settled, settle, h]

theorem settled_done (h : m.turn token d = (.done m', d')) :
    m.settled token (share + 1) d = (m', d') := by
  simp only [Member.settled, settle, h]

/-! ### Rounds as beats -/

/-- A creation goes on by turns of its own. -/
theorem settled_beats (token : Token) (share : Nat) (d : Daemon) (here : ms[i]? = some m) :
    ∃ beats, play token beats ms d =
      (ms.set i (m.settled token share d).1, (m.settled token share d).2) := by
  induction share generalizing ms m d with
  | zero =>
      obtain ⟨inside, rfl⟩ := List.getElem?_eq_some_iff.mp here
      refine ⟨[], Prod.ext ?_ rfl⟩
      exact (List.set_getElem_self inside).symm
  | succ share ih =>
      have went := step_turn token d here
      cases turned : m.turn token d with
      | mk t d' =>
        cases t with
        | next m' =>
            have again : (ms.set i m')[i]? = some m' :=
              List.getElem?_set_self (List.getElem?_eq_some_iff.mp here).1
            obtain ⟨beats, played⟩ := ih d' again
            refine ⟨.turn i :: beats, ?_⟩
            rw [settled_next turned, play, went]
            simp only [Member.advance, turned, played, List.set_set]
        | wait on =>
            refine ⟨[.turn i], ?_⟩
            rw [settled_wait turned, play, went]
            simp only [Member.advance, turned, play]
        | done m' =>
            refine ⟨[.turn i], ?_⟩
            rw [settled_done turned, play, went]
            simp only [Member.advance, turned, play]

end Concurrent

/-- Turns that take no time take none together. -/
theorem settle_instant {π ρ : Type} {turn : π → Daemon → Turn π ρ × Daemon}
    (instant : ∀ p (d : Daemon), d.Instant (turn p d).2) (share : Nat) (p : π) (d : Daemon) :
    d.Instant (settle turn share p d).2 := by
  induction share generalizing p d with
  | zero => exact .refl d
  | succ share ih =>
      have first := instant p d
      unfold settle
      split <;> rename_i turned <;> rw [turned] at first
      · exact first.trans (ih _ _)
      · exact first
      · exact first

/-- Something outside that has come between two turns. -/
theorem Daemon.Drifts.beat {d d' : Daemon} (h : d.Drifts d') : ∃ beat : Concurrent.Beat,
    ∀ token ms, beat.step token ms d = (ms, d') := by
  refine ⟨.outside d'.clock d'.tokens d'.happenings, fun token ms => ?_⟩
  exact congrArg (ms, ·) h.frame.symm

open Concurrent (Beat Member play)

namespace Concurrent

variable {token : Token}

theorem Member.turn_instant (token : Token) (m : Member) (d : Daemon) :
    d.Instant (m.turn token d).2 := by
  cases m with
  | ended task r => exact .refl d
  | creating task phase =>
      have instant := Creation.turn_instant token .runAndAdd phase d
      simp only [turn]
      split <;> rename_i eq <;> rw [eq] at instant <;> exact instant

theorem Member.settled_instant (token : Token) (share : Nat) (m : Member) (d : Daemon) :
    d.Instant (m.settled token share d).2 := by
  have instant := settle_instant (Member.turn_instant token) share m d
  unfold settled
  split <;> rename_i eq <;> rw [eq] at instant <;> exact instant

end Concurrent

namespace Once

variable {token : Token} {share n rounds : Nat} {s : Surroundings} {d d' : Daemon}
variable {ms : List Member} {waiting : Bool} {due : Option Nat}

theorem round_cons (token : Token) (share : Nat) (m : Member) (ms : List Member) (d : Daemon) :
    (round token share (m :: ms) d).1.members = (m.settled token share d).1 ::
        (round token share ms (m.settled token share d).2).1.members ∧
      (round token share (m :: ms) d).2 =
        (round token share ms (m.settled token share d).2).2 := by
  cases went : settle (Member.turn token) share m d with
  | mk rest d' =>
    cases rest with
    | waiting m' on => simp only [round, Member.settled, went, and_self]
    | ended m' => simp only [round, Member.settled, went, and_self]
    | paused m' => simp only [round, Member.settled, went, and_self]

/-- In a round, one creation after the other goes on by turns of its own. -/
theorem round_beats (token : Token) (share : Nat) (before ms : List Member) (d : Daemon) :
    ∃ beats, play token beats (before ++ ms) d =
      (before ++ (round token share ms d).1.members, (round token share ms d).2) := by
  induction ms generalizing before d with
  | nil => exact ⟨[], rfl⟩
  | cons m ms ih =>
      have here : (before ++ m :: ms)[before.length]? = some m := by
        rw [List.getElem?_append_right (Nat.le_refl _), Nat.sub_self]
        rfl
      obtain ⟨beats, played⟩ := Concurrent.settled_beats token share d here
      obtain ⟨beats', played'⟩ := ih (before ++ [(m.settled token share d).1])
        (m.settled token share d).2
      obtain ⟨members, after⟩ := round_cons token share m ms d
      refine ⟨beats ++ beats', ?_⟩
      rw [Concurrent.play_append, played, members, after]
      simpa using played'

theorem round_instant (ms : List Member) (d : Daemon) :
    d.Instant (round token share ms d).2 := by
  induction ms generalizing d with
  | nil => exact .refl d
  | cons m ms ih =>
      rw [(round_cons token share m ms d).2]
      exact (m.settled_instant token share d).trans (ih _)

/-! ### The whole pass -/

/-- A pass whose creations have all ended in a round ends in that round. -/
theorem carryOut_ended (rounds : Nat) (waiting : Bool) (due : Option Nat)
    (finished : (round token (s.share n) ms d).1.members.all (·.isEnded) = true) :
    carryOut token .concurrent s (rounds + 1) n (.passing (.concurrent ms) waiting due) d =
      some (Concurrent.result (round token (s.share n) ms d).1.members,
        (round token (s.share n) ms d).2) := by
  simp only [carryOut, go, advance, Pass.go, finished, if_pos]

/-- Any other round is followed by the next one, if the watcher's wait does not fail. -/
theorem carryOut_goes (waiting : Bool) (due : Option Nat)
    (calm : d.setting.watcher.wait.result = .ok ())
    (going : ¬ (round token (s.share n) ms d).1.members.all (·.isEnded) = true) :
    ∃ waiting', ∀ rounds,
      carryOut token .concurrent s (rounds + 1) n (.passing (.concurrent ms) waiting due) d =
        carryOut token .concurrent s rounds (n + 1)
          (.passing (.concurrent (round token (s.share n) ms d).1.members) waiting' due)
          (s.between n (round token (s.share n) ms d).2) := by
  have calm' : (round token (s.share n) ms d).2.setting.watcher.wait.result = .ok () := by
    rw [(round_instant ms d).setting, calm]
  simp only [carryOut, go, advance, Pass.go, if_neg going]
  by_cases paused : (round token (s.share n) ms d).1.paused = true
  · exact ⟨waiting, fun rounds => by simp only [if_pos paused]⟩
  · simp only [if_neg paused]
    cases waiting with
    | false => exact ⟨false, fun rounds => rfl⟩
    | true =>
        obtain seen | seen := look_calm token due calm'
        · exact ⟨true, fun rounds => by simp only [if_pos, seen]⟩
        · exact ⟨false, fun rounds => by simp only [if_pos, seen]⟩

/-- What a pass over creations answers is what their interleaving has come to. -/
theorem carryOut_beats (fair : s.Fair) (calm : d.setting.watcher.wait.result = .ok ())
    {r : Result} (h : carryOut token .concurrent s rounds n
      (.passing (.concurrent ms) waiting due) d = some (r, d')) :
    ∃ beats members, play token beats ms d = (members, d') ∧
      members.all (·.isEnded) = true ∧ r = Concurrent.result members := by
  induction rounds generalizing n ms waiting d with
  | zero => cases h
  | succ rounds ih =>
      obtain ⟨beats, played⟩ := round_beats token (s.share n) [] ms d
      by_cases finished : (round token (s.share n) ms d).1.members.all (·.isEnded) = true
      · rw [carryOut_ended rounds waiting due finished] at h
        cases h
        exact ⟨beats, _, played, finished, rfl⟩
      · obtain ⟨waiting', goes⟩ := carryOut_goes waiting due calm finished
        rw [goes] at h
        have between := fair.drifts n (round token (s.share n) ms d).2
        have calm' : (s.between n (round token (s.share n) ms d).2).setting.watcher.wait.result =
            .ok () := by
          rw [between.quiet.setting, (round_instant ms d).setting, calm]
        obtain ⟨beats', members, played', ended, answered⟩ := ih calm' h
        obtain ⟨beat, stepped⟩ := between.beat
        refine ⟨beats ++ beat :: beats', members, ?_, ended, answered⟩
        rw [Concurrent.play_append]
        simp only [List.nil_append] at played
        rw [played, play, stepped]
        exact played'

/-! ### One task after the other -/

section

variable {p q : Consecutive.Phase}

/-- Turns up to a wait or to the end of a round are the first turns of what finishes later. -/
theorem settle_finishes {π ρ : Type} {turn : π → Daemon → Turn π ρ × Daemon} {p q : π} {r : ρ}
    {d d₁ d₂ d' : Daemon} (some_turns : 0 < share) (drift : d₁.Drifts d₂)
    (rest : Finishes turn q d₂ r d')
    (h : (∃ on, settle turn share p d = (.waiting q on, d₁)) ∨
      settle turn share p d = (.paused q, d₁)) : Finishes turn p d r d' := by
  induction share generalizing p d with
  | zero => cases some_turns
  | succ share ih =>
      cases turned : turn p d with
      | mk t d₃ =>
        cases t with
        | next p' =>
            simp only [settle, turned] at h
            cases share with
            | zero =>
                obtain ⟨on, no⟩ | paused := h
                · cases no
                · cases paused
                  exact .next turned drift rest
            | succ share => exact .next turned (.refl d₃) (ih (Nat.succ_pos share) h)
        | wait on =>
            simp only [settle, turned] at h
            obtain ⟨on', waits⟩ | no := h
            · cases waits
              exact .wait turned drift rest
            · cases no
        | done r' =>
            simp only [settle, turned] at h
            obtain ⟨on', no⟩ | no := h
            · cases no
            · cases no

/-- A pass that was carried out has finished, one turn after the other. -/
theorem carryOut_finishes (fair : s.Fair) (calm : d.setting.watcher.wait.result = .ok ())
    {r : Result} (h : carryOut token .consecutive s rounds n
      (.passing (.consecutive p) waiting due) d = some (r, d')) :
    Finishes (Consecutive.turn token) p d r d' := by
  induction rounds generalizing n p waiting d with
  | zero => cases h
  | succ rounds ih =>
      have instant := settle_instant (Consecutive.turn_instant token) (s.share n) p d
      have later (d₁ : Daemon) (same : d₁.setting = d.setting) :
          (s.between n d₁).setting.watcher.wait.result = .ok () := by
        rw [(fair.drifts n d₁).quiet.setting, same, calm]
      cases went : settle (Consecutive.turn token) (s.share n) p d with
      | mk rest d₁ =>
        rw [went] at instant
        cases rest with
        | ended r' =>
            simp only [carryOut, go, advance_ended waiting due went] at h
            cases h
            exact .of_settle went
        | paused q =>
            simp only [carryOut, go, advance_paused waiting due went] at h
            exact settle_finishes (fair.turns n) (fair.drifts n d₁)
              (ih (later d₁ instant.setting) h) (.inr went)
        | waiting q on =>
            have calm' : d₁.setting.watcher.wait.result = .ok () := by
              rw [instant.setting, calm]
            obtain ⟨waiting', on', advanced⟩ := advance_waiting waiting due calm' went
            simp only [carryOut, go, advanced] at h
            exact settle_finishes (fair.turns n) (fair.drifts n d₁)
              (ih (later d₁ instant.setting) h) (.inl ⟨on, went⟩)

end

end Once

namespace Concurrent

variable {token : Token} {d d' : Daemon} {ms : List Member}

/-- A creation that finishes has turns of its own only. -/
theorem finishes_beats {task : String} {p : Creation.Phase} {r : Creation.Result} {i : Nat}
    (h : Finishes (Creation.turn token .runAndAdd) p d r d')
    (here : ms[i]? = some (.creating task p)) :
    ∃ beats, play token beats ms d = (ms.set i (.ended task r), d') := by
  induction h generalizing ms with
  | done turned =>
      refine ⟨[.turn i], ?_⟩
      rw [play, step_turn token _ here]
      simp only [Member.advance, Member.turn, turned, play]
  | @next p p' d d₁ d₂ d' r turned drift _ ih =>
      have inside := (List.getElem?_eq_some_iff.mp here).1
      obtain ⟨beat, stepped⟩ := drift.beat
      have later : (ms.set i (.creating task p'))[i]? = some (.creating task p') :=
        List.getElem?_set_self inside
      obtain ⟨beats, played⟩ := ih later
      refine ⟨.turn i :: beat :: beats, ?_⟩
      rw [play, step_turn token _ here]
      simp only [Member.advance, Member.turn, turned, play, stepped, played, List.set_set]
  | @wait p on d d₁ d₂ d' r turned drift _ ih =>
      obtain ⟨beat, stepped⟩ := drift.beat
      obtain ⟨beats, played⟩ := ih here
      refine ⟨.turn i :: beat :: beats, ?_⟩
      obtain ⟨inside, same⟩ := List.getElem?_eq_some_iff.mp here
      rw [play, step_turn token _ here]
      simp only [Member.advance, Member.turn, turned, play, stepped, ← same, List.set_getElem_self]
      exact played

/-- The next creation of a pass goes from its beginning to its end. -/
theorem creation_beats {d₀ : Daemon} {conf : TaskConfig} {r : Creation.Result}
    (drift : d.Drifts d₀)
    (h : Finishes (Creation.turn token .runAndAdd) (.start conf) d₀ r d')
    (before : List Member) (rest : List TaskConfig) :
    ∃ beats, play token beats (before ++ (conf :: rest).map .ofConfig) d =
      (before ++ .ended conf.nameOrEmpty r :: rest.map .ofConfig, d') := by
  have here : (before ++ (conf :: rest).map Member.ofConfig)[before.length]? =
      some (.creating conf.nameOrEmpty (.start conf)) := by
    rw [List.getElem?_append_right (Nat.le_refl _), Nat.sub_self]
    rfl
  obtain ⟨beat, stepped⟩ := drift.beat
  obtain ⟨beats, played⟩ := finishes_beats h here
  refine ⟨beat :: beats, ?_⟩
  rw [play, stepped, played]
  simp

/-- What a pass that takes one task after the other has made of the creations when it stops at a
position: all have succeeded if it has gone through, and the one in the position has failed if that
is why it stops. -/
structure Stopped (confs : List TaskConfig) (k : Nat) (stop : Consecutive.Stop)
    (members : List Member) : Prop where
  through : stop = .through → members.all (·.isEnded) = true ∧
    members.filterMap Member.failure? = []
  failed : ∀ e, stop = .failed e → ∃ conf, confs[k]? = some conf ∧
    members[k]? = some (.ended conf.nameOrEmpty (.error e))

/-- A pass that takes one task after the other is one way for the creations to interleave. -/
theorem stops_beats {k : Nat} {confs : List TaskConfig} {stop : Consecutive.Stop}
    (h : Consecutive.Stops token d confs k stop d') (before : List Member) :
    ∃ beats members, play token beats (before ++ confs.map .ofConfig) d =
      (before ++ members, d') ∧ Stopped confs k stop members := by
  induction h generalizing before with
  | through d => exact ⟨[], [], rfl, ⟨fun _ => ⟨rfl, rfl⟩, fun _ no => by cases no⟩⟩
  | canceled => exact ⟨[], _, rfl, ⟨(fun no => by cases no), fun _ no => by cases no⟩⟩
  | @failed d d₀ d' conf rest e patient drift creation =>
      obtain ⟨beats, played⟩ := creation_beats drift creation before rest
      refine ⟨beats, _, played, ⟨(fun no => by cases no), fun e' same => ?_⟩⟩
      cases same
      exact ⟨conf, rfl, rfl⟩
  | @created d d₀ d₁ d₂ d' conf rest c k stop patient drift creation between _ ih =>
      obtain ⟨beats, played⟩ := creation_beats drift creation before rest
      obtain ⟨beat, stepped⟩ := between.beat
      obtain ⟨beats', members, played', stopped⟩ := ih (before ++ [.ended conf.nameOrEmpty (.ok c)])
      refine ⟨beats ++ beat :: beats', .ended conf.nameOrEmpty (.ok c) :: members, ?_,
        ⟨stopped.through, stopped.failed⟩⟩
      rw [List.append_assoc, List.append_assoc] at played'
      rw [play_append, played, play, stepped]
      exact played'

end Concurrent

end TaskSync
