import TaskSync.Proofs.Traffic.Custody

/-!
# Labels

A backend is labelled with the name of its task when it is made, and the label stays. Hooks go by
the label, the registry goes by the name; a backend in the registry is found under both.
-/

namespace TaskSync

/-- The label says what task the backend is for. -/
def Daemon.Labels (d : Daemon) (b : Place) : Prop :=
  (d.backend b).label.task = (d.taskOf b).name

section

variable {d d' : Daemon} {b : Place}

theorem Daemon.Labels.steady (h : d.Labels b) (steady : d.Steady d')
    (inside : b < d.backends.size) : d'.Labels b := by
  unfold Labels
  rw [(steady.backend b inside).label, steady.name inside]
  exact h

theorem Daemon.make_labels {t : Task} (made : d.make t = (.ok b, d')) : d'.Labels b := by
  unfold make at made
  simp only at made
  split at made
  · cases made
  · cases made
    show ((d.backends.push _).getD d.backends.size default).label.task =
      ((d.backends.push _).getD d.backends.size default).task.name
    rw [backend_push, if_pos rfl]
    rfl

/-- A backend that a creation has in hand after a turn is labelled if those before it were. -/
theorem Creation.turn_labels {token : Token} {goal : Goal} {p p' : Phase}
    (inside : ∀ b, p.stake = .fresh b → b < d.backends.size)
    (labels : ∀ b, p.stake = .fresh b → d.Labels b)
    (next : (turn token goal p d).1 = .next p') (fresh : p'.stake = .fresh b) :
    (turn token goal p d).2.Labels b := by
  have kept {c : Place} (mine : p.stake = .fresh c) : (turn token goal p d).2.Labels b := by
    have handling := turn_handling token goal d mine
    rw [next] at handling
    cases handling with
    | keeps same =>
        cases fresh.symm.trans same
        exact (labels b mine).steady (turn_steady token goal p d inside) (inside b mine)
    | registers task => cases fresh
  cases p with
  | start conf =>
      obtain ⟨task, rfl, -⟩ := begin_name next
      cases fresh
  | making task =>
      simp only [turn] at next ⊢
      split at next
      · cases next
      next b' d₁ made =>
        cases next
        cases fresh
        exact Daemon.make_labels made
  | storing task =>
      obtain ⟨⟨r, done⟩, -⟩ := storing_ends token goal task d
      cases done.symm.trans next
  | rendering | pausing | destroying | applying | recording | inspecting => exact kept rfl

namespace Operation

variable {o : Operation} {out : Outcome}

theorem May.labels (may : o.May d out)
    (inside : ∀ b, o.stake = .fresh b → b < d.backends.size)
    (labels : ∀ b, o.stake = .fresh b → d.Labels b)
    (fresh : out.1.stake Operation.stake o = .fresh b) : out.2.Labels b := by
  cases turned : out.1 with
  | next o' =>
      rw [turned] at fresh
      obtain ⟨token, goal, p, rfl, -⟩ := creates_of_fresh fresh d
      obtain ⟨p₀, token', rfl, daemon, next⟩ := may.creation_next turned
      rw [daemon]
      exact Creation.turn_labels inside labels next fresh
  | wait on =>
      rw [turned] at fresh
      exact (labels b fresh).steady (may.progress inside).steady (inside b fresh)
  | done r =>
      rw [turned] at fresh
      cases fresh

end Operation

end

namespace Traffic

/-- All backends that are registered, or that a call has in hand, are labelled. -/
structure Labelled (t : Traffic) : Prop where
  registered : ∀ n e, t.daemon.registry.find? n = some e → t.daemon.Labels e.runner
  fresh : ∀ i b, t.stake i = .fresh b → t.daemon.Labels b

variable {t t' : Traffic}

/-- What backends keep, and what those have that a call has for itself, the registered ones have. -/
theorem Sound.registered_goes {P : Daemon → Place → Prop} (h : t.Sound) (goes : Goes t t')
    (kept : ∀ b, b < t.daemon.backends.size → P t.daemon b → P t'.daemon b)
    (registered : ∀ n e, t.daemon.registry.find? n = some e → P t.daemon e.runner)
    (fresh : ∀ i b, t.stake i = .fresh b → P t.daemon b) (n : String) (f : Entry Place)
    (found : t'.daemon.registry.find? n = some f) : P t'.daemon f.runner := by
  rcases h.entry_goes goes found with ⟨e, there, continues⟩ | ⟨-, i, -, -, -, -, -, mine, -⟩
  · rw [continues.runner]
    exact kept _ (h.inside n e there) (registered n e there)
  · exact kept _ (h.fresh_inside mine) (fresh i _ mine)

theorem Labelled.goes (h : t.Labelled) (sound : t.Sound) (goes : Goes t t') : t'.Labelled where
  registered := sound.registered_goes goes
    (fun _ inside labels => labels.steady (sound.steady_goes goes) inside) h.registered h.fresh
  fresh := by
    refine goes.elim (fun q i b fresh => ?_) (fun e i b fresh => ?_)
      fun j o out going may i b fresh => ?_
    · exact h.fresh i b ((congrFun (stake_call t q) i).symm.trans fresh)
    · have fresh : t.stake i = .fresh b := fresh
      exact (h.fresh i b fresh).steady (affect_steady e t.daemon) (sound.fresh_inside fresh)
    · have mine : t.stake j = o.stake := stake_of_going going
      have inside : ∀ b, o.stake = .fresh b → b < t.daemon.backends.size := fun c same =>
        sound.fresh_inside (mine.trans same)
      show out.2.Labels b
      rw [stake_take going] at fresh
      by_cases same : i = j
      · subst same
        rw [Function.update_self] at fresh
        exact may.labels inside (fun c before => h.fresh i c (mine.trans before)) fresh
      · rw [Function.update_of_ne same] at fresh
        exact (h.fresh i b fresh).steady (may.progress inside).steady (sound.fresh_inside fresh)

theorem Labelled.goesOn (h : t.Labelled) (sound : t.Sound) (on : GoesOn t t') : t'.Labelled := by
  induction on with
  | refl => exact h
  | tail before last ih => exact ih.goes (sound.goesOn before) last

end Traffic

end TaskSync
