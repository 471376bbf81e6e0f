import TaskSync.Proofs.Operation.Creates
import TaskSync.Proofs.Traffic.Faithful
import TaskSync.Proofs.Traffic.Numbers

/-!
# Names that nobody has

A name is vacant while no task is registered under it and no creation of it is under way. As long
as nobody begins one, it stays vacant, and no call has anything to store under it: what could be
stored is in the hands of calls that hold the guard of a registered entry of that name, and there is
none.
-/

namespace TaskSync

/-- The event begins a creation of the name. -/
def Event.Creates : Event → String → Prop
  | .call (.create _ _ conf), name => conf.nameOrEmpty = name
  | _, _ => False

def Call.isCreation : Call → Bool
  | .going (.create _ _ _) => true
  | _ => false

namespace Traffic

/-- No call is a creation of the name. -/
def Uncreated (t : Traffic) (name : String) : Prop :=
  ∀ i o, t.going? i = some o → ¬ o.Creates t.daemon name

/-- Where nobody creates anything, nobody creates the name. -/
theorem Uncreated.of_calls {t : Traffic} (none : t.calls.all (!·.isCreation) = true)
    (name : String) : t.Uncreated name := by
  rintro i o going ⟨token, goal, p, rfl, _⟩
  have creation := List.all_eq_true.mp none _ (List.mem_of_getElem? (going?_eq_some.mp going))
  cases creation

/-- A turn begins no creation. -/
theorem Uncreated.take {t : Traffic} {name : String} (h : t.Uncreated name) (sound : t.Sound)
    {i : Nat} {o : Operation} {out : Operation.Outcome} (going : t.going? i = some o)
    (may : o.May t.daemon out) : (t.take i out).Uncreated name := by
  have steady := (sound.progress going may).steady
  rintro j o' found ⟨token, goal, p, rfl, same⟩
  replace same : p.name out.2 = name := same
  rcases going?_take_cases going found with
    ⟨rfl, next | ⟨-, rfl⟩⟩ | ⟨-, old⟩ | ⟨-, crew, w, errand, -⟩
  · -- the creation took the turn itself
    obtain ⟨p₀, heeded, rfl, daemon, next⟩ := may.creation_next next
    rw [daemon, Creation.turn_name (sound.made going) next] at same
    exact h j _ going ⟨token, goal, p₀, rfl, same⟩
  · rw [Creation.Phase.name_steady steady (sound.made going)] at same
    exact h j _ going ⟨token, goal, p, rfl, same⟩
  · rw [Creation.Phase.name_steady steady (sound.made old)] at same
    exact h j _ old ⟨token, goal, p, rfl, same⟩
  · cases errand

/-- As long as nobody begins to create the name, nobody creates it. -/
theorem Uncreated.goes {t t' : Traffic} {name : String} (h : t.Uncreated name) (sound : t.Sound)
    (goes : GoesBy (¬ ·.Creates name) t t') : t'.Uncreated name := by
  refine goes.elim (fun q other => ?_) (fun e _ => ?_) fun _ _ _ going may => h.take sound going may
  · rintro j o going ⟨token, goal, p, rfl, same⟩
    rcases going?_call going with old | new
    · exact h j _ old ⟨token, goal, p, rfl, same⟩
    · cases q with
      | create token' goal' conf =>
          cases new
          exact other same
      | update | run | delete | control => cases new
  · rintro j o going ⟨token, goal, p, rfl, same⟩
    replace same : p.name (e.affect t.daemon) = name := same
    rw [Creation.Phase.name_steady (affect_steady e t.daemon) (sound.made going)] at same
    exact h j _ going ⟨token, goal, p, rfl, same⟩

/-- The name is free, and no creation of it is under way. -/
structure Vacant (t : Traffic) (name : String) : Prop where
  faithful : t.Faithful
  reliable : t.daemon.Reliable
  absent : t.daemon.registry.find? name = none
  uncreated : t.Uncreated name

namespace Vacant

variable {t t' : Traffic} {name : String}

/-- No call has anything in hand to be stored under a vacant name. -/
theorem fills_ne (h : t.Vacant name) {i : Nat} {o : Operation} (going : t.going? i = some o)
    {w : Write} (write : o.write? = some w) : w.fills? ≠ some name := by
  intro fills
  rcases Operation.fills_names write fills with
    ⟨member, b, backend⟩ | ⟨token, goal, task, rfl, same⟩
  · have task := h.faithful.apt i o going name member b backend
    have stake := stake_of_going going
    cases is : o.stake with
    | nothing | queued | removing =>
        rw [is] at backend
        cases backend
    | fresh c =>
        rw [is] at backend
        cases backend
        refine h.uncreated i o going ?_
        rw [task]
        exact o.creates_of_fresh is t.daemon
    | working g c =>
        rw [is] at backend
        cases backend
        obtain ⟨e, found, _⟩ := h.faithful.rightful i g b (stake.trans is)
        rw [← task, h.absent] at found
        cases found
  · exact h.uncreated i _ going ⟨token, goal, _, rfl, same⟩

/-- Nothing is put into the store under a vacant name. -/
theorem goes_store (h : t.Vacant name) (goes : Goes t t') :
    (t'.daemon.store.getTask name = t.daemon.store.getTask name ∨
        t'.daemon.store.getTask name = none) ∧
      (t'.daemon.store.recordsOf name = t.daemon.store.recordsOf name ∨
        t'.daemon.store.recordsOf name = []) := by
  refine goes.elim (fun _ => ⟨.inl rfl, .inl rfl⟩) (fun e => ?_) fun i o out going may => ?_
  · exact ⟨.inl (congrArg (·.getTask name) (affect_store e t.daemon)),
      .inl (congrArg (·.recordsOf name) (affect_store e t.daemon))⟩
  · show (out.2.store.getTask name = _ ∨ out.2.store.getTask name = none) ∧
      (out.2.store.recordsOf name = _ ∨ out.2.store.recordsOf name = [])
    rcases may.leaves.store with same | ⟨w, write, same⟩
    · rw [same]
      exact ⟨.inl rfl, .inl rfl⟩
    · rw [same]
      have other := h.fills_ne going write
      exact ⟨w.getTask_apply other, w.recordsOf_apply other⟩

/-- A name stays vacant as long as nobody begins to create it. -/
theorem goes (h : t.Vacant name) (goes : GoesBy (fun e => e ≠ .start ∧ ¬ e.Creates name) t t') :
    t'.Vacant name := by
  refine ⟨h.faithful.goes (goes.mono fun _ kept => kept.1),
    (h.faithful.sound.steady_goes goes.goes).reliable h.reliable, ?_,
    h.uncreated.goes h.faithful.sound (goes.mono fun _ kept => kept.2)⟩
  cases found : t'.daemon.registry.find? name with
  | none => rfl
  | some f =>
      rcases h.faithful.sound.entry_goes goes.goes found with
        ⟨e, there, _⟩ | ⟨_, i, o, _, going, _, _, fresh, rfl⟩
      · rw [h.absent] at there
        cases there
      · rw [stake_of_going going] at fresh
        exact absurd (o.creates_of_fresh fresh t.daemon) (h.uncreated i o going)

end Vacant

end Traffic

end TaskSync
