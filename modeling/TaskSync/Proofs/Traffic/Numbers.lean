import TaskSync.Proofs.Traffic.Faithful

/-!
# Entries and their numbers

Entries are numbered in the order in which they are registered, and no number is given twice. So the
number of an entry tells how far back it goes: an entry whose number was given before some point
stood in the registry at that point, under the same name and with the same backend.
-/

namespace TaskSync

open Registry (Path)

theorem Registry.Path.nextId {δ : Type} {loose : Prop} {closing : String → Prop}
    {g g' : Option Guard} {r s : Registry δ} (p : Path loose closing g r g' s) :
    s.nextId = r.nextId := by
  induction p with
  | refl => rfl
  | mark _ _ ih | release _ ih => exact ih
  | unregister _ _ removed ih | remove _ _ _ _ removed ih => exact (nextId_delete removed).trans ih
  | activate _ taken ih =>
      obtain ⟨_, _, _, _, rfl⟩ := tryActivate_eq_some taken
      exact ih

/-- The entry goes back to an earlier one. -/
structure Entry.Continues (f e : Entry Place) : Prop where
  id : f.id = e.id
  runner : f.runner = e.runner
  marked : e.marked = true → f.marked = true

theorem Entry.Continues.trans {f g e : Entry Place} (h : f.Continues g) (h' : g.Continues e) :
    f.Continues e where
  id := h.id.trans h'.id
  runner := h.runner.trans h'.runner
  marked before := h.marked (h'.marked before)

theorem Registry.Path.continues {loose : Prop} {closing : String → Prop} {g g' : Option Guard}
    {r s : Registry Place} (p : Path loose closing g r g' s) {name : String} {f : Entry Place}
    (found : s.find? name = some f) : ∃ e, r.find? name = some e ∧ f.Continues e := by
  obtain ⟨e, there, id, runner, _, marked⟩ := p.entry_before found
  exact ⟨e, there, id, runner, marked⟩

/-- An entry that is there after a turn was there before, or was registered by it. -/
theorem Progress.continues {closing : String → Prop} {old new : Stake} {d d' : Daemon}
    (p : Progress closing old new d d') {name : String} {f : Entry Place}
    (found : d'.registry.find? name = some f) :
    (∃ e, d.registry.find? name = some e ∧ f.Continues e) ∨
      f.id = d.registry.nextId ∧ old = .fresh f.runner ∧ name = (d.taskOf f.runner).name := by
  cases p with
  | move m => exact .inl (m.path.continues found)
  | enlist before after steady path added =>
      rw [Registry.find?_add added] at found
      split at found
      next here =>
        cases found
        exact .inr ⟨path.nextId, before, here⟩
      · exact .inl (path.continues found)

theorem Progress.nextId_le {closing : String → Prop} {old new : Stake} {d d' : Daemon}
    (p : Progress closing old new d d') : d.registry.nextId ≤ d'.registry.nextId := by
  cases p with
  | move m => exact Nat.le_of_eq m.path.nextId.symm
  | enlist before after steady path added =>
      rw [Registry.nextId_add added, path.nextId]
      exact Nat.le_succ _

namespace Traffic

variable {t t' : Traffic} {name : String} {f : Entry Place} {b : Place}

/-- What happens outside of all calls registers nothing. -/
theorem affect_continues (event : Event) (d : Daemon)
    (found : (event.affect d).registry.find? name = some f) :
    ∃ e, d.registry.find? name = some e ∧ f.Continues e := by
  by_cases start : event = .start
  · subst start
    obtain ⟨lines, frame⟩ := start_frame d
    rw [show Event.start.affect d = d.start.2 from rfl, frame] at found
    cases found
  · exact ((affect_quiet start d).path (fun _ => False) none).continues found

theorem affect_nextId (event : Event) (d : Daemon) :
    (event.affect d).registry.nextId = d.registry.nextId := by
  by_cases start : event = .start
  · subst start
    obtain ⟨lines, frame⟩ := start_frame d
    rw [show Event.start.affect d = d.start.2 from rfl, frame]
    rfl
  · exact ((affect_quiet start d).path (fun _ => False) none).nextId

/-- An entry that is there afterwards was there before, or the call that had its backend in hand
registered it. -/
theorem Sound.entry_goes (h : t.Sound) (goes : Goes t t')
    (found : t'.daemon.registry.find? name = some f) :
    (∃ e, t.daemon.registry.find? name = some e ∧ f.Continues e) ∨
      f.id = t.daemon.registry.nextId ∧ ∃ i o out, t.going? i = some o ∧ o.May t.daemon out ∧
        t' = t.take i out ∧ t.stake i = .fresh f.runner ∧
        name = (t.daemon.taskOf f.runner).name := by
  revert found
  refine goes.elim (fun _ found => .inl ⟨f, found, rfl, rfl, id⟩)
    (fun e found => .inl (affect_continues e t.daemon found)) fun i o out going may found => ?_
  exact ((h.progress going may).continues found).imp_right fun ⟨number, fresh, named⟩ =>
    ⟨number, i, o, out, going, may, rfl, fresh, named⟩

/-- A backend that was made before and that no call has in hand stays so. -/
theorem Sound.unborn_goes (h : t.Sound) (goes : Goes t t') (inside : b < t.daemon.backends.size)
    (unborn : ∀ i, t.stake i ≠ .fresh b) (i : Nat) : t'.stake i ≠ .fresh b := by
  revert i
  refine goes.elim (fun q i fresh => ?_) (fun _ => unborn) fun j o out going may i fresh => ?_
  · exact unborn i ((congrFun (stake_call t q) i).symm.trans fresh)
  · by_cases same : i = j
    · subst same
      have progress := h.progress going may
      rw [fresh] at progress
      cases progress with
      | move m =>
          rcases m.fresh b rfl with old | ⟨made, -⟩
          · exact unborn i old.symm
          · exact absurd inside (by rw [made]; exact Nat.lt_irrefl _)
      | enlist _ after => cases after
    · rw [stake_take going, Function.update_of_ne same] at fresh
      exact unborn i fresh

theorem Sound.nextId_goes (h : t.Sound) (goes : Goes t t') :
    t.daemon.registry.nextId ≤ t'.daemon.registry.nextId := by
  refine goes.elim (fun _ => Nat.le_refl _) (fun e => Nat.le_of_eq (affect_nextId e t.daemon).symm)
    fun _ _ _ going may => (h.progress going may).nextId_le

theorem Sound.nextId_goesOn (h : t.Sound) (goes : GoesOn t t') :
    t.daemon.registry.nextId ≤ t'.daemon.registry.nextId := by
  induction goes with
  | refl => exact Nat.le_refl _
  | tail before last ih => exact Nat.le_trans ih ((h.goesOn before).nextId_goes last)

/-- An entry whose number was given by some point was there at that point. -/
theorem Sound.entry_goesOn (h : t.Sound) (goes : GoesOn t t')
    (found : t'.daemon.registry.find? name = some f) (old : f.id < t.daemon.registry.nextId) :
    ∃ e, t.daemon.registry.find? name = some e ∧ f.Continues e := by
  induction goes using Relation.ReflTransGen.head_induction_on with
  | refl => exact ⟨f, found, rfl, rfl, id⟩
  | head first _ ih =>
      obtain ⟨e, there, later⟩ :=
        ih (h.goes first) (Nat.lt_of_lt_of_le old (h.nextId_goes first))
      rcases h.entry_goes first there with ⟨e', before, earlier⟩ | ⟨number, _⟩
      · exact ⟨e', before, later.trans earlier⟩
      · rw [later.id, number] at old
        exact absurd old (Nat.lt_irrefl _)

end Traffic

end TaskSync
