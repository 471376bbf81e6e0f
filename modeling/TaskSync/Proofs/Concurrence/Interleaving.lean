import TaskSync.Controller.Once
import TaskSync.Proofs.Concurrence.Abreast

/-!
# Creations that interleave

The creations of a pass take turns in any order, and between two turns time passes and tokens are
canceled. What one of them has seen of all this, the clock and the tokens at each of its own turns,
is enough to play it alone; and alone it goes from turn to turn as it does among the others, as
long as all names are different.
-/

namespace TaskSync

namespace Concurrent

/-- What can come next: a turn of the creation in this position, or something outside, where time
passes and tokens are canceled. -/
inductive Beat where
  | turn (i : Nat)
  | outside (clock : Nat) (tokens : Tokens) (happenings : List Happening)

/-- A creation after one more turn. -/
def Member.advance (token : Token) (m : Member) (d : Daemon) : Member × Daemon :=
  match m.turn token d with
  | (.next m, d) => (m, d)
  | (.wait _, d) => (m, d)
  | (.done m, d) => (m, d)

def Beat.step (token : Token) (ms : List Member) (d : Daemon) : Beat → List Member × Daemon
  | turn i =>
    match ms[i]? with
    | some m => (ms.set i (m.advance token d).1, (m.advance token d).2)
    | none => (ms, d)
  | outside clock tokens happenings => (ms, { d with clock, tokens, happenings })

/-- Plays creations in the order of the beats. -/
def play (token : Token) : List Beat → List Member → Daemon → List Member × Daemon
  | [], ms, d => (ms, d)
  | beat :: beats, ms, d =>
    play token beats (beat.step token ms d).1 (beat.step token ms d).2

/-- What the creation in a position has of a beat, as beats of that creation alone. -/
def Beat.seen (i : Nat) (d : Daemon) : Beat → List Beat
  | turn j => if j = i then [.outside d.clock d.tokens [], .turn 0] else []
  | outside _ _ _ => []

/-- What it has of all of them. -/
def seen (token : Token) (i : Nat) : List Beat → List Member → Daemon → List Beat
  | [], _, _ => []
  | beat :: beats, ms, d =>
    beat.seen i d ++ seen token i beats (beat.step token ms d).1 (beat.step token ms d).2

variable {token : Token} {conf : TaskConfig} {confs : List TaskConfig}
variable {entry : Option (Entry Place)} {d₀ s s' d d' : Daemon} {m m' : Member} {ms : List Member}

theorem play_append (beats beats' : List Beat) (ms : List Member) (d : Daemon) :
    play token (beats ++ beats') ms d =
      play token beats' (play token beats ms d).1 (play token beats ms d).2 := by
  induction beats generalizing ms d with
  | nil => rfl
  | cons beat beats ih => exact ih _ _

theorem step_turn {i : Nat} (token : Token) (d : Daemon) (here : ms[i]? = some m) :
    (Beat.turn i).step token ms d = (ms.set i (m.advance token d).1, (m.advance token d).2) := by
  simp only [Beat.step, here]

/-! ### One creation -/

/-- The creation is in the same place, alone and among others. -/
inductive Member.Abreast (conf : TaskConfig) (entry : Option (Entry Place)) (s d : Daemon) :
    Member → Member → Prop where
  | creating {p p' : Creation.Phase} (abreast : p.Abreast conf entry s d p') :
      Abreast conf entry s d (.creating conf.nameOrEmpty p) (.creating conf.nameOrEmpty p')
  | ended {r r' : Creation.Result} (result : r.Abreast conf entry d r') :
      Abreast conf entry s d (.ended conf.nameOrEmpty r) (.ended conf.nameOrEmpty r')

/-- It has found and left the same under its name. -/
structure Beside (conf : TaskConfig) (entry : Option (Entry Place)) (m m' : Member)
    (s d : Daemon) : Prop where
  along : s.Along conf.nameOrEmpty d
  abreast : m.Abreast conf entry s d m'

namespace Beside

theorem start (conf : TaskConfig) (reliable : d.Reliable) :
    Beside conf (d.registry.find? conf.nameOrEmpty) (.ofConfig conf) (.ofConfig conf) d d :=
  ⟨.refl _ reliable, .creating (.start rfl rfl)⟩

theorem spares (h : Beside conf entry m m' s d) (left : s.Spares conf.nameOrEmpty s')
    (right : d.Spares conf.nameOrEmpty d') : Beside conf entry m m' s' d' := by
  refine ⟨h.along.retains left.toRetains right.toRetains, ?_⟩
  cases h.abreast with
  | creating abreast => exact .creating (abreast.spares left right)
  | ended result => exact .ended (result.spares right)

/-- A turn with the same clock and the same tokens. -/
theorem advance (token : Token) (h : Beside conf entry m m' s d) (clock : s.clock = d.clock)
    (tokens : s.tokens = d.tokens) (here : conf.name ∈ d.store.tasks.map (·.name)) :
    Beside conf entry (m.advance token s).1 (m'.advance token d).1 (m.advance token s).2
        (m'.advance token d).2 ∧
      ∀ other, other ≠ conf.nameOrEmpty → d.Spares other (m'.advance token d).2 := by
  obtain ⟨along, abreast⟩ := h
  cases abreast with
  | ended result => exact ⟨⟨along, .ended result⟩, fun other _ => .refl other d⟩
  | creating abreast =>
      have couples := Creation.turn_couples token clock tokens here along abreast
      simp only [Member.advance, Member.turn]
      generalize Creation.turn token .runAndAdd _ s = out at couples ⊢
      generalize Creation.turn token .runAndAdd _ d = out' at couples ⊢
      cases couples with
      | next kept => exact ⟨⟨kept.along, .creating kept.abreast⟩, kept.far⟩
      | wait kept => exact ⟨⟨kept.along, .creating kept.abreast⟩, kept.far⟩
      | done shown => exact ⟨⟨shown.along, .ended shown.result⟩, shown.far⟩

end Beside

/-! ### All creations -/

/-- Every creation of the pass is where it is when it is played alone, and whatever has another name
is as it was in the beginning. -/
structure Accord (confs : List TaskConfig) (d₀ : Daemon) (alone : Nat → List Member × Daemon)
    (ms : List Member) (d : Daemon) : Prop where
  names : d.store.tasks.map (·.name) = confs.map (·.name)
  foreign : ∀ name, name ∉ confs.map TaskConfig.nameOrEmpty → d₀.Spares name d
  length : ms.length = confs.length
  member : ∀ i conf, confs[i]? = some conf → ∃ m m' s, alone i = ([m], s) ∧ ms[i]? = some m' ∧
    Beside conf (d₀.registry.find? conf.nameOrEmpty) m m' s d

theorem names_apart (distinct : (confs.map TaskConfig.nameOrEmpty).Nodup) {i j : Nat}
    {conf' : TaskConfig} (here : confs[i]? = some conf) (there : confs[j]? = some conf')
    (apart : i ≠ j) : conf.nameOrEmpty ≠ conf'.nameOrEmpty := by
  intro same
  have inside : i < (confs.map TaskConfig.nameOrEmpty).length := by
    rw [List.length_map]
    exact (List.getElem?_eq_some_iff.mp here).1
  refine apart ((List.getElem?_inj inside distinct).mp ?_)
  rw [List.getElem?_map, List.getElem?_map, here, there, Option.map_some, Option.map_some, same]

theorem exists_other (name : String) : ∃ other, other ≠ name := by
  by_cases empty : name = ""
  · exact ⟨"a", by rw [empty]; decide⟩
  · exact ⟨"", Ne.symm empty⟩

namespace Accord

variable {alone : Nat → List Member × Daemon}

theorem start (reliable : d.Reliable) (stored : d.store.tasks = confs) :
    Accord confs d (fun i => ((confs[i]?.map Member.ofConfig).toList, d))
      (confs.map .ofConfig) d where
  names := by rw [stored]
  foreign name _ := .refl name d
  length := List.length_map _
  member i conf here := by
    refine ⟨.ofConfig conf, .ofConfig conf, d, ?_, ?_, .start conf reliable⟩
    · rw [here]
      rfl
    · rw [List.getElem?_map, here]
      rfl

/-- A turn concerns the creation that has it: it goes on as it does alone. Nobody else notices. -/
theorem turn (token : Token) (distinct : (confs.map TaskConfig.nameOrEmpty).Nodup)
    (h : Accord confs d₀ alone ms d) {j : Nat} (taken : ms[j]? = some m') :
    Accord confs d₀ (fun i => play token ((Beat.turn j).seen i d) (alone i).1 (alone i).2)
      (ms.set j (m'.advance token d).1) (m'.advance token d).2 := by
  have inside : j < confs.length := by
    rw [← h.length]
    exact (List.getElem?_eq_some_iff.mp taken).1
  obtain ⟨conf, at_⟩ : ∃ conf, confs[j]? = some conf := ⟨_, List.getElem?_eq_getElem inside⟩
  obtain ⟨m, m₁, s, played, there, beside⟩ := h.member j conf at_
  obtain rfl : m' = m₁ := Option.some.inj (taken.symm.trans there)
  have stored : conf.name ∈ d.store.tasks.map (·.name) := by
    rw [h.names]
    exact List.mem_map_of_mem (List.mem_of_getElem? at_)
  -- alone, it is given the clock and the tokens that it finds among the others
  have drift : s.Drifts { s with clock := d.clock, tokens := d.tokens, happenings := [] } := ⟨rfl⟩
  obtain ⟨advanced, far⟩ := (beside.spares (.of_drifts drift) (.refl _ d)).advance token rfl rfl
    stored
  refine ⟨?_, fun name foreign => ?_, ?_, fun i conf' here => ?_⟩
  · obtain ⟨other, apart⟩ := exists_other conf.nameOrEmpty
    rw [(far other apart).names, h.names]
  · refine (h.foreign name foreign).trans (far name fun same => foreign ?_)
    rw [same]
    exact List.mem_map_of_mem (List.mem_of_getElem? at_)
  · rw [List.length_set]
    exact h.length
  · by_cases same : j = i
    · subst same
      obtain rfl : conf = conf' := Option.some.inj (at_.symm.trans here)
      refine ⟨_, _, _, ?_, List.getElem?_set_self (h.length ▸ inside), advanced⟩
      simp only [Beat.seen, if_pos, played]
      rfl
    · obtain ⟨m, m', s, alone, there, beside⟩ := h.member i conf' here
      refine ⟨m, m', s, by simp only [Beat.seen, if_neg same]; exact alone, ?_,
        beside.spares (.refl _ s) (far _ (names_apart distinct here at_ (Ne.symm same)))⟩
      rw [List.getElem?_set_ne same]
      exact there

theorem step (token : Token) (distinct : (confs.map TaskConfig.nameOrEmpty).Nodup)
    (h : Accord confs d₀ alone ms d) (beat : Beat) :
    Accord confs d₀ (fun i => play token (beat.seen i d) (alone i).1 (alone i).2)
      (beat.step token ms d).1 (beat.step token ms d).2 := by
  cases beat with
  | outside clock tokens happenings =>
      have drift : d.Drifts { d with clock, tokens, happenings } := ⟨rfl⟩
      refine ⟨h.names, fun name foreign => (h.foreign name foreign).trans (.of_drifts drift),
        h.length, fun i conf here => ?_⟩
      obtain ⟨m, m', s, alone, there, beside⟩ := h.member i conf here
      exact ⟨m, m', s, alone, there, beside.spares (.refl _ s) (.of_drifts drift)⟩
  | turn j =>
      cases taken : ms[j]? with
      | some m =>
          rw [step_turn token d taken]
          exact h.turn token distinct taken
      | none =>
          have idle : (Beat.turn j).step token ms d = (ms, d) := by
            simp only [Beat.step, taken]
          rw [idle]
          refine ⟨h.names, h.foreign, h.length, fun i conf here => ?_⟩
          obtain ⟨m, m', s, alone, there, beside⟩ := h.member i conf here
          have other : j ≠ i := by
            rintro rfl
            rw [taken] at there
            cases there
          exact ⟨m, m', s, by simp only [Beat.seen, if_neg other]; exact alone, there, beside⟩

theorem play (token : Token) (distinct : (confs.map TaskConfig.nameOrEmpty).Nodup)
    (beats : List Beat) (h : Accord confs d₀ alone ms d) :
    Accord confs d₀
      (fun i => Concurrent.play token (seen token i beats ms d) (alone i).1 (alone i).2)
      (Concurrent.play token beats ms d).1 (Concurrent.play token beats ms d).2 := by
  induction beats generalizing ms d alone with
  | nil => exact h
  | cons beat beats ih =>
      have rest := ih (h.step token distinct beat)
      refine ⟨rest.names, rest.foreign, rest.length, fun i conf here => ?_⟩
      obtain ⟨m, m', s, alone', there, beside⟩ := rest.member i conf here
      refine ⟨m, m', s, ?_, there, beside⟩
      rw [← alone', seen, play_append]

end Accord

end Concurrent

end TaskSync
