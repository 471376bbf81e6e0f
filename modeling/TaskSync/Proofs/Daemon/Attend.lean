import TaskSync.Proofs.Run.Effect

/-!
# Calls of a backend that is not registered

As long as the name of a backend's task is free, the hooks of the backend cannot reach the
registry: what they ask for concerns an entry that does not exist. So a call of such a backend
changes that backend alone, and of its task the enabled flag at most, which is then what the hooks
of the calls so far have made of it.
-/

namespace TaskSync

/-- What an action makes of the enabled flag. -/
def Action.flag (on : Bool) : Action → Bool
  | .enable => true
  | .disable => false
  | _ => on

/-- The enabled flag after the calls of a backend, the last one first, that nobody but its hooks
switches. -/
def Backend.flagAfter (hooks : List Hook) (on : Bool) : List CallKind → Bool
  | [] => on
  | kind :: calls =>
    ((hooks.filter fun h => h.kind = kind && h.nth = (kind :: calls).count kind).flatMap
      (·.actions)).foldl Action.flag (flagAfter hooks on calls)

/-- The flag of the backend's task is what its hooks have made of `on`. -/
def Backend.Flagged (b : Backend) (on : Bool) : Prop :=
  b.task.enabled = Backend.flagAfter b.script.hooks on b.calls

theorem Backend.setEnabled_same (b : Backend) : b.setEnabled b.task.enabled = b := rfl

namespace JournalEntry

/-- The task that a backend was asked for. -/
def made? : JournalEntry → Option String
  | .made label => some label.task
  | _ => none

end JournalEntry

theorem Registry.mark_of_free {δ : Type} {r : Registry δ} {name : String}
    (free : r.find? name = none) : r.mark name = r := by
  have other : ∀ e ∈ r.tasks, ¬ e.1 = name := by
    intro e here same
    have found : r.find? name ≠ none := by
      unfold find? SortedMap.get?
      rw [Ne, List.lookup_eq_none_iff]
      intro all
      exact absurd (all e here) (by simp [same])
    exact found free
  have same : (r.tasks.map fun e =>
      if e.1 == name then (e.1, { e.2 with marked := true }) else e) = r.tasks.map id :=
    List.map_congr_left fun e here => by simp [other e here]
  unfold mark update
  rw [same, List.map_id]

namespace Daemon

/-- The tasks that backends were asked for, in order. -/
def asked (d : Daemon) : List String := d.journal.reverse.filterMap JournalEntry.made?

/-! ### Hooks -/

section Hooks

variable {d : Daemon} {b : Place}

theorem perform_registry (a : Action) (free : d.registry.find? (d.backend b).label.task = none) :
    (d.perform b a).registry = d.registry := by
  cases a with
  | cancel token =>
      obtain ⟨ts, hs, h⟩ := cancel_frame (d.namedToken token).2 (d.namedToken token).1
      have same : d.perform b (.cancel token) = { d with tokens := ts, happenings := hs } := h
      rw [same]
  | enable => rfl
  | disable => rfl
  | mark => exact Registry.mark_of_free free
  | delete =>
      obtain ⟨r, box, hs, h, registry⟩ := requestDeletion_frame d (d.backend b).label.task
      have same : d.perform b .delete =
          { d with registry := r, deletes := box, happenings := hs } :=
        h
      rw [same]
      rcases registry with rfl | rfl
      · rfl
      · exact Registry.mark_of_free free
  | unregister =>
      cases removed : d.registry.delete (d.backend b).label.task with
      | ok registry =>
          obtain ⟨e, found, -⟩ := Registry.delete_eq_ok removed
          rw [free] at found
          cases found
      | error e =>
          have same : d.perform b .unregister = d := by
            simp only [perform, removed]
          rw [same]

theorem perform_backend (a : Action) (inside : b < d.backends.size) (c : Place) :
    (d.perform b a).backend c =
      if c = b then (d.backend b).setEnabled (a.flag (d.backend b).task.enabled)
      else d.backend c := by
  have switched (on : Bool) :
      (d.setBackend b ((d.backend b).setEnabled on)).backend c =
        if c = b then (d.backend b).setEnabled on else d.backend c := by
    rw [backend_setBackend]
    simp [inside]
  have aside (h : (d.perform b a).backends = d.backends)
      (same : a.flag (d.backend b).task.enabled = (d.backend b).task.enabled) :
      (d.perform b a).backend c =
        if c = b then (d.backend b).setEnabled (a.flag (d.backend b).task.enabled)
        else d.backend c := by
    have kept : (d.perform b a).backend c = d.backend c := by
      unfold backend
      rw [h]
    rw [same, Backend.setEnabled_same, kept]
    split
    next here => rw [here]
    · rfl
  cases a with
  | enable => exact switched true
  | disable => exact switched false
  | cancel token =>
      obtain ⟨ts, hs, h⟩ := cancel_frame (d.namedToken token).2 (d.namedToken token).1
      have same : d.perform b (.cancel token) = { d with tokens := ts, happenings := hs } := h
      exact aside (by rw [same]) rfl
  | mark => exact aside rfl rfl
  | delete =>
      obtain ⟨r, box, hs, h, -⟩ := requestDeletion_frame d (d.backend b).label.task
      have same : d.perform b .delete =
          { d with registry := r, deletes := box, happenings := hs } :=
        h
      exact aside (by rw [same]) rfl
  | unregister =>
      refine aside ?_ rfl
      simp only [perform]
      split <;> rfl

theorem perform_size (a : Action) : (d.perform b a).backends.size = d.backends.size := by
  cases a with
  | cancel token =>
      obtain ⟨ts, hs, h⟩ := cancel_frame (d.namedToken token).2 (d.namedToken token).1
      have same : d.perform b (.cancel token) = { d with tokens := ts, happenings := hs } := h
      rw [same]
  | enable => exact Array.size_setIfInBounds
  | disable => exact Array.size_setIfInBounds
  | mark => rfl
  | delete =>
      obtain ⟨r, box, hs, h, -⟩ := requestDeletion_frame d (d.backend b).label.task
      have same : d.perform b .delete =
          { d with registry := r, deletes := box, happenings := hs } :=
        h
      rw [same]
  | unregister =>
      simp only [perform]
      split <;> rfl

/-- Hooks switch the task of their backend, and change no backend else. -/
theorem foldl_perform_backend (actions : List Action) (inside : b < d.backends.size) (c : Place) :
    (actions.foldl (fun d a => d.perform b a) d).backend c =
      if c = b then
        (d.backend b).setEnabled (actions.foldl Action.flag (d.backend b).task.enabled)
      else d.backend c := by
  induction actions generalizing d with
  | nil =>
      split
      next here => exact here ▸ (Backend.setEnabled_same _).symm
      · rfl
  | cons a actions ih =>
      have backend := perform_backend a inside
      have size : b < (d.perform b a).backends.size := by
        rw [perform_size]
        exact inside
      rw [List.foldl_cons, ih size, backend b, if_pos rfl]
      split
      · rfl
      next other => rw [backend c, if_neg other]

theorem foldl_perform_registry (actions : List Action) (inside : b < d.backends.size)
    (free : d.registry.find? (d.backend b).label.task = none) :
    (actions.foldl (fun d a => d.perform b a) d).registry = d.registry := by
  induction actions generalizing d with
  | nil => rfl
  | cons a actions ih =>
      have registry := perform_registry a free
      have label : ((d.perform b a).backend b).label = (d.backend b).label := by
        rw [perform_backend a inside b, if_pos rfl]
        rfl
      have size : b < (d.perform b a).backends.size := by
        rw [perform_size]
        exact inside
      exact (ih size (by rw [registry, label]; exact free)).trans registry

end Hooks

/-! ### Calls -/

/-- A backend that was made, whose name is free. -/
structure Unlisted (b : Place) (d : Daemon) : Prop where
  inside : b < d.backends.size
  free : d.registry.find? (d.backend b).label.task = none

/-- What a turn does that attends to one backend alone: the calls that are noted, the last one
first, change nothing but that backend. -/
structure Attends (b : Place) (kinds : List CallKind) (d d' : Daemon) : Prop where
  aside : ∃ lines, Aside lines d d' ∧ ∀ line ∈ lines, line.made? = none
  registry : d'.registry = d.registry
  others : ∀ c, c ≠ b → d'.backend c = d.backend c
  calls : (d'.backend b).calls = kinds ++ (d.backend b).calls
  flag : ∀ on, (d.backend b).Flagged on → (d'.backend b).Flagged on

namespace Attends

variable {b : Place} {kinds kinds' : List CallKind} {d d' d'' : Daemon}

theorem refl (b : Place) (d : Daemon) : Attends b [] d d :=
  ⟨⟨[], .refl d, nofun⟩, rfl, fun _ _ => rfl, rfl, fun _ h => h⟩

theorem trans (h : Attends b kinds d d') (h' : Attends b kinds' d' d'') :
    Attends b (kinds' ++ kinds) d d'' where
  aside := by
    obtain ⟨lines, aside, plain⟩ := h.aside
    obtain ⟨lines', aside', plain'⟩ := h'.aside
    exact ⟨lines' ++ lines, aside.trans aside', List.forall_mem_append.mpr ⟨plain', plain⟩⟩
  registry := h'.registry.trans h.registry
  others c other := (h'.others c other).trans (h.others c other)
  calls := by rw [h'.calls, h.calls, List.append_assoc]
  flag on flagged := h'.flag on (h.flag on flagged)

theorem follows (h : Attends b kinds d d') (c : Place) : (d.backend c).Follows (d'.backend c) := by
  obtain ⟨lines, aside, -⟩ := h.aside
  exact aside.backend c

theorem size (h : Attends b kinds d d') : d'.backends.size = d.backends.size := by
  obtain ⟨lines, aside, -⟩ := h.aside
  exact aside.size

theorem steady (h : Attends b kinds d d') : Steady d d' := by
  obtain ⟨lines, aside, -⟩ := h.aside
  exact aside.steady

theorem store (h : Attends b kinds d d') : d'.store = d.store := by
  obtain ⟨lines, aside, -⟩ := h.aside
  exact aside.store

theorem asked (h : Attends b kinds d d') : d'.asked = d.asked := by
  obtain ⟨lines, aside, plain⟩ := h.aside
  have none : lines.reverse.filterMap JournalEntry.made? = [] :=
    List.filterMap_eq_nil_iff.mpr fun line here => plain line (List.mem_reverse.mp here)
  unfold Daemon.asked
  rw [aside.journal, List.reverse_append, List.filterMap_append, none, List.append_nil]

theorem unlisted (h : Attends b kinds d d') (unlisted : Unlisted b d) : Unlisted b d' := by
  refine ⟨?_, ?_⟩
  · rw [h.size]
    exact unlisted.inside
  · rw [h.registry, (h.follows b).label]
    exact unlisted.free

/-- Only the script of a backend moves on. -/
theorem setScript (b : Place) (d : Daemon) {script : BackendScript}
    (templates : script.templates = (d.backend b).script.templates)
    (hooks : script.hooks = (d.backend b).script.hooks) :
    Attends b [] d (d.setBackend b { d.backend b with script }) where
  aside := ⟨[], .setBackend d b ⟨rfl, rfl, templates, hooks⟩ rfl, nofun⟩
  registry := rfl
  others c other := by
    rw [backend_setBackend, if_neg fun h => other h.1]
  calls := by
    rw [backend_setBackend]
    split <;> rfl
  flag on flagged := by
    rw [backend_setBackend]
    split
    · show _ = Backend.flagAfter script.hooks on _
      rw [hooks]
      exact flagged
    · exact flagged

theorem log (b : Place) (d : Daemon) {line : JournalEntry} (plain : line.made? = none) :
    Attends b [] d (d.log line) where
  aside := ⟨[line], .log d line, fun l here => by rw [List.mem_singleton.mp here]; exact plain⟩
  registry := rfl
  others _ _ := rfl
  calls := rfl
  flag _ h := h

end Attends

section

variable {d : Daemon} {b : Place}

/-- The hooks of a call make of the flag what they ask for. -/
theorem call_attends (unlisted : Unlisted b d) (kind : CallKind) :
    Attends b [kind] d (d.call b kind) := by
  obtain ⟨actions, asked⟩ : ∃ actions, actions = ((d.backend b).note kind).1 := ⟨_, rfl⟩
  obtain ⟨noted, change⟩ : ∃ noted, noted =
      (d.log (.called (d.backend b).label kind)).setBackend b ((d.backend b).note kind).2 :=
    ⟨_, rfl⟩
  have called : d.call b kind = actions.foldl (fun d a => d.perform b a) noted := by
    rw [asked, change]
    rfl
  have own : noted.backend b = ((d.backend b).note kind).2 := by
    rw [change, backend_setBackend, if_pos ⟨rfl, unlisted.inside⟩]
  have inside : b < noted.backends.size := by
    rw [change]
    exact Nat.lt_of_lt_of_eq unlisted.inside Array.size_setIfInBounds.symm
  have free : noted.registry.find? (noted.backend b).label.task = none := by
    rw [own, change]
    exact unlisted.free
  have registry := foldl_perform_registry actions inside free
  have backend := foldl_perform_backend actions inside
  refine ⟨⟨_, call_aside d b kind, fun line here => ?_⟩, ?_, fun c other => ?_, ?_, fun on h => ?_⟩
  · rw [List.mem_singleton.mp here]
    rfl
  · rw [called, registry, change]
    rfl
  · rw [called, backend, if_neg other, change, backend_setBackend, if_neg fun h => other h.1]
    rfl
  · rw [called, backend, if_pos rfl, own]
    rfl
  · rw [called, backend, if_pos rfl, own]
    show actions.foldl Action.flag (d.backend b).task.enabled = _
    rw [asked, h]
    rfl

theorem answer_attends {α : Type} (b : Place) (d : Daemon) {f : BackendScript → α × BackendScript}
    (takes : Takes f) : Attends b [] d (d.answer b f).2 :=
  .setScript b d (takes _).1 (takes _).2

end

end Daemon

namespace TimedCall

variable {α : Type}

theorem turn_attends (c : TimedCall α) (takes : c.Takes) {b : Place} (token : Token) (p : Pending)
    {d : Daemon} (unlisted : d.Unlisted b) :
    d.Attends b (p.toMake c.kind) (c.turn b token p d).2 := by
  cases p with
  | unsent =>
      have delayed := Daemon.answer_attends b d takes.1
      have called := delayed.trans (Daemon.call_attends (delayed.unlisted unlisted) c.kind)
      simp only [turn]
      split
      · exact called.trans (Daemon.answer_attends b _ takes.2)
      · split
        · exact called.trans (.log b _ rfl)
        · exact called
  | delayed due =>
      simp only [turn]
      split
      · exact .log b d rfl
      · split
        · exact (Daemon.Attends.log b d rfl).trans (Daemon.answer_attends b _ takes.2)
        · exact .refl b d

end TimedCall

end TaskSync
