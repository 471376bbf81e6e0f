import TaskSync.Proofs.Daemon.Steady

/-!
# Changes that no crew is part of

Nobody but a controller and its errands changes a crew or registers a stop. What others do on the
side cancels tokens and stops timers at most; and a token that is canceled stays so.
-/

namespace TaskSync

namespace Tokens

variable {ts : Tokens} {t : Token}

theorem isCanceled_iff :
    ts.isCanceled t = true ↔ ∃ s, ts.states[t.place]? = some s ∧ s.canceled = true :=
  Option.any_eq_true _ _

theorem isCanceled_push (h : ts.isCanceled t = true) (s : TokenState) :
    (ts.push s).2.isCanceled t = true := by
  obtain ⟨state, found, canceled⟩ := isCanceled_iff.mp h
  have inside : t.place < ts.states.length := (List.getElem?_eq_some_iff.mp found).1
  refine isCanceled_iff.mpr ⟨state, ?_, canceled⟩
  exact (List.getElem?_append_left inside).trans found

theorem isCanceled_named (h : ts.isCanceled t = true) (name : String) :
    (ts.named name).2.isCanceled t = true := by
  unfold named
  split
  · exact h
  · exact isCanceled_push h _

theorem isCanceled_cancel (h : ts.isCanceled t = true) (u : Token) :
    (ts.cancel u).2.isCanceled t = true := by
  obtain ⟨state, found, canceled⟩ := isCanceled_iff.mp h
  have after : (ts.cancel u).2.states[t.place]? = some
      (if (ts.family u).contains ⟨t.place⟩ then { state with canceled := true } else state) := by
    unfold cancel
    simp only [List.getElem?_map, List.getElem?_zipIdx, found, Option.map_some, Nat.zero_add]
  refine isCanceled_iff.mpr ⟨_, after, ?_⟩
  split
  · rfl
  · exact canceled

end Tokens

theorem SortedMap.get?_of_erase {α : Type} {key other : String} {x : α} {m : SortedMap α}
    (h : (m.erase key).get? other = some x) : other ≠ key ∧ m.get? other = some x := by
  rw [get?_erase] at h
  split at h
  · cases h
  · exact ⟨‹_›, h⟩

namespace Daemon

/-- Crews are left alone, no stop is registered, and what was canceled is canceled. -/
structure Detached (d d' : Daemon) : Prop where
  crews : d'.crews = d.crews
  stops : ∀ task stop, d'.stops.get? task = some stop → d.stops.get? task = some stop
  canceled : ∀ t, d.isCanceled t = true → d'.isCanceled t = true

namespace Detached

variable {d d' d'' : Daemon}

theorem refl (d : Daemon) : Detached d d := ⟨rfl, fun _ _ h => h, fun _ h => h⟩

theorem trans (h : Detached d d') (h' : Detached d' d'') : Detached d d'' where
  crews := h'.crews.trans h.crews
  stops task stop found := h.stops task stop (h'.stops task stop found)
  canceled t before := h'.canceled t (h.canceled t before)

theorem of_same (crews : d'.crews = d.crews) (stops : d'.stops = d.stops)
    (tokens : d'.tokens = d.tokens) : Detached d d' := by
  refine ⟨crews, fun task stop found => ?_, fun t before => ?_⟩
  · rw [stops] at found
    exact found
  · unfold isCanceled at before ⊢
    rw [tokens]
    exact before

theorem cancel (d : Daemon) (t : Token) : Detached d (d.cancel t) := by
  have canceled : ∀ u, d.isCanceled u = true →
      ({ d with tokens := (d.tokens.cancel t).2 } : Daemon).isCanceled u = true :=
    fun u before => Tokens.isCanceled_cancel before t
  obtain ⟨hs, after⟩ := foldl_signal (d.tokens.cancel t).1
    { d with tokens := (d.tokens.cancel t).2 }
  have same : d.cancel t = _ := after
  rw [same]
  exact ⟨rfl, fun _ _ h => h, canceled⟩

theorem namedToken (d : Daemon) (name : String) : Detached d (d.namedToken name).2 :=
  ⟨rfl, fun _ _ h => h, fun _ before => Tokens.isCanceled_named before name⟩

theorem stopTimer (d : Daemon) (task : String) : Detached d (d.stopTimer task) := by
  unfold Daemon.stopTimer
  split
  next stop _ =>
    have erased : Detached d { d with stops := d.stops.erase task } :=
      ⟨rfl, fun other stop found => (SortedMap.get?_of_erase found).2, fun _ h => h⟩
    exact erased.trans (.cancel _ stop.token)
  · exact .refl d

theorem releaseStop (d : Daemon) (task : String) (stop : Stop) :
    Detached d (d.releaseStop task stop) := by
  unfold Daemon.releaseStop
  split
  · exact ⟨rfl, fun other stop found => (SortedMap.get?_of_erase found).2, fun _ h => h⟩
  · exact .refl d

theorem requestDeletion (d : Daemon) (task : String) : Detached d (d.requestDeletion task) := by
  obtain ⟨r, box, hs, h, _⟩ := d.requestDeletion_frame task
  rw [h]
  exact .of_same rfl rfl rfl

theorem announceSchedule (d : Daemon) (task : String) : Detached d (d.announceSchedule task) := by
  obtain ⟨box, hs, h⟩ := d.announceSchedule_frame task
  rw [h]
  exact .of_same rfl rfl rfl

theorem notifyCompletion (d : Daemon) (task : String) : Detached d (d.notifyCompletion task) := by
  obtain ⟨c, h⟩ := d.notifyCompletion_frame task
  rw [h]
  exact .of_same rfl rfl rfl

theorem write (d : Daemon) (op : StoreOp) (task : String) (f : MemoryStore → MemoryStore) :
    Detached d (d.write op task f).2 := by
  obtain ⟨s, faults, after, _⟩ := d.write_frame op task f
  rw [after]
  exact .of_same rfl rfl rfl

theorem answer {α : Type} (d : Daemon) (b : Place) (f : BackendScript → α × BackendScript) :
    Detached d (d.answer b f).2 := .of_same rfl rfl rfl

theorem log (d : Daemon) (line : JournalEntry) : Detached d (d.log line) := .of_same rfl rfl rfl

theorem perform (d : Daemon) (b : Place) (a : Action) : Detached d (d.perform b a) := by
  cases a with
  | cancel token => exact (namedToken d token).trans (.cancel _ (d.namedToken token).1)
  | enable | disable | mark => exact .of_same rfl rfl rfl
  | delete => exact .requestDeletion d _
  | unregister =>
      unfold Daemon.perform
      simp only
      split
      · exact .of_same rfl rfl rfl
      · exact .refl d

theorem callAs (d : Daemon) (b : Place) (kind : CallKind) (line : JournalEntry) :
    Detached d (d.callAs b kind line) := by
  have hooks : ∀ (actions : List Action) (d : Daemon),
      Detached d (actions.foldl (fun d a => d.perform b a) d) := by
    intro actions
    induction actions with
    | nil => exact fun d => .refl d
    | cons a actions ih => exact fun d => (perform d b a).trans (ih _)
  refine .trans ?_ (hooks ((d.backend b).note kind).1 _)
  exact .of_same rfl rfl rfl

theorem call (d : Daemon) (b : Place) (kind : CallKind) : Detached d (d.call b kind) :=
  callAs d b kind _

theorem patch (d : Daemon) (b : Place) (on : Bool) (option : RunOption) :
    Detached d (d.patch b on option).2 := by
  have answered := (callAs d b .update (.updated (d.backend b).label on option)).trans
    (.answer _ b fun s : BackendScript =>
      (s.updates.next.1, { s with updates := s.updates.next.2 }))
  unfold Daemon.patch
  simp only
  split
  · exact answered
  · show Detached d (if option = .inspect then _ else _)
    split
    · exact answered
    · exact answered.trans (.of_same rfl rfl rfl)

theorem make {t : Task} {r : Except BackendError Place} (h : d.make t = (r, d')) :
    Detached d d' := by
  cases r with
  | error e =>
      obtain ⟨label, made, rfl⟩ := make_eq_error h
      exact .of_same rfl rfl rfl
  | ok b =>
      obtain ⟨_, label, made, script, rfl, _⟩ := make_eq_ok h
      exact .of_same rfl rfl rfl

end Detached

end Daemon

theorem TimedCall.turn_detached {α : Type} (c : TimedCall α) (b : Place) (token : Token)
    (p : Pending) (d : Daemon) : d.Detached (c.turn b token p d).2 := by
  cases p with
  | unsent =>
      have called := (Daemon.Detached.answer d b c.delay).trans (.call _ b c.kind)
      simp only [turn]
      split
      · exact called.trans (.answer _ b c.answer)
      · split
        · exact called.trans (.log _ _)
        · exact called
  | delayed due =>
      simp only [turn]
      split
      · exact .of_same rfl rfl rfl
      · split
        · exact .of_same rfl rfl rfl
        · exact .refl d

end TaskSync
