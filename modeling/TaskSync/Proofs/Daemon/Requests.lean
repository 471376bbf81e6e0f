import TaskSync.Proofs.Daemon.Steady

/-!
# Requests to delete

A task that is marked for deletion has its name in the queue of requests, unless there was no room
for it. `Gathers` says this of a change: the queue only grows at its end, and whatever got marked
on the way stands in it, or it is full. So does a call of a backend, whatever its hooks ask for, as
long as they set no mark of their own.
-/

namespace TaskSync

namespace Registry

variable {δ : Type} {r s t : Registry δ} {name : String}

/-- The entry under the name is marked, and was not before. -/
def NewMark (r s : Registry δ) (name : String) : Prop :=
  ∃ f, s.find? name = some f ∧ f.marked = true ∧
    ∀ e, r.find? name = some e → e.id = f.id → e.marked = false

theorem NewMark.split (h : NewMark r t name) (s : Registry δ) :
    NewMark r s name ∨ NewMark s t name := by
  obtain ⟨f, found, marked, unmarked⟩ := h
  by_cases before : ∃ e, s.find? name = some e ∧ e.id = f.id ∧ e.marked = true
  · obtain ⟨e, there, same, already⟩ := before
    exact .inl ⟨e, there, already, fun e' looked same' => unmarked e' looked (same'.trans same)⟩
  · refine .inr ⟨f, found, marked, fun e there same => ?_⟩
    cases already : e.marked with
    | false => rfl
    | true => exact absurd ⟨e, there, same, already⟩ before

/-- Marks that were there before are not new. -/
theorem not_newMark (kept : ∀ f, s.find? name = some f → f.marked = true →
    ∃ e, r.find? name = some e ∧ e.id = f.id ∧ e.marked = true) : ¬ NewMark r s name := by
  rintro ⟨f, found, marked, unmarked⟩
  obtain ⟨e, there, same, already⟩ := kept f found marked
  rw [unmarked e there same] at already
  cases already

theorem not_newMark_refl (r : Registry δ) (name : String) : ¬ NewMark r r name :=
  not_newMark fun f found marked => ⟨f, found, rfl, marked⟩

theorem newMark_mark {other : String} (h : NewMark r (r.mark other) name) : name = other := by
  by_contra apart
  refine not_newMark (fun f found marked => ?_) h
  rw [find?_mark] at found
  obtain ⟨e, there, rfl⟩ := Option.map_eq_some_iff.mp found
  exact ⟨e, there, rfl, by simpa [apart] using marked⟩

theorem not_newMark_activate {other : String} {g : Guard}
    (taken : r.tryActivate other = .ok (some g, s)) : ¬ NewMark r s name := by
  obtain ⟨_, _, _, _, rfl⟩ := tryActivate_eq_some taken
  refine not_newMark fun f found marked => ?_
  rw [find?_activate] at found
  obtain ⟨e, there, rfl⟩ := Option.map_eq_some_iff.mp found
  exact ⟨e, there, rfl, marked⟩

theorem not_newMark_release (r : Registry δ) (g : Guard) (name : String) :
    ¬ NewMark r (r.release g) name := by
  refine not_newMark fun f found marked => ?_
  rw [find?_release] at found
  obtain ⟨e, there, rfl⟩ := Option.map_eq_some_iff.mp found
  exact ⟨e, there, rfl, marked⟩

theorem not_newMark_delete {other : String} (removed : r.delete other = .ok s) :
    ¬ NewMark r s name := by
  refine not_newMark fun f found marked => ?_
  rw [find?_delete removed] at found
  split at found
  · cases found
  · exact ⟨f, found, rfl, marked⟩

theorem not_newMark_add {other : String} {b : δ} {ids : List String}
    (added : r.add other b ids = .ok s) : ¬ NewMark r s name := by
  refine not_newMark fun f found marked => ?_
  rw [find?_add added] at found
  split at found
  · cases found
    cases marked
  · exact ⟨f, found, rfl, marked⟩

end Registry

namespace Daemon

/-- The daemon has set this going on the side. -/
def Engaged (d : Daemon) (crew : Place) (w : Work) : Prop := .work crew w ∈ d.happenings

variable {crew : Place} {w : Work}

theorem engaged_signal (d : Daemon) (s : Signal) :
    (d.signal s).Engaged crew w ↔ d.Engaged crew w := by
  simp [Engaged, signal, happen]

theorem engaged_foldl_signal (us : List Token) (d : Daemon) :
    (us.foldl (fun d u => d.signal (.canceled u)) d).Engaged crew w ↔ d.Engaged crew w := by
  induction us generalizing d with
  | nil => exact .rfl
  | cons u us ih => exact (ih _).trans (engaged_signal d _)

theorem engaged_cancel (d : Daemon) (t : Token) : (d.cancel t).Engaged crew w ↔ d.Engaged crew w :=
  engaged_foldl_signal (d.tokens.cancel t).1 { d with tokens := (d.tokens.cancel t).2 }

theorem engaged_stopTimer (d : Daemon) (task : String) :
    (d.stopTimer task).Engaged crew w ↔ d.Engaged crew w := by
  unfold stopTimer
  split
  · exact engaged_cancel _ _
  · exact .rfl

theorem engaged_stopTimers (d : Daemon) : d.stopTimers.Engaged crew w ↔ d.Engaged crew w := by
  have cancels : ∀ (entries : SortedMap Stop) (d : Daemon),
      (entries.foldl (fun d entry => d.cancel entry.2.token) d).Engaged crew w ↔
        d.Engaged crew w := by
    intro entries
    induction entries with
    | nil => exact fun d => .rfl
    | cons entry entries ih => exact fun d => (ih _).trans (engaged_cancel d _)
  exact cancels d.stops { d with stops := [] }

/-- Requests are added at the end of the queue, and what got marked stands in it, unless it is
full. Nothing is set going. `loose` allows for marks without a request. -/
structure Gathers (loose : Prop) (d d' : Daemon) : Prop where
  capacity : d'.deletes.capacity = d.deletes.capacity
  items : d.deletes.items <+: d'.deletes.items
  marked : ∀ name, Registry.NewMark d.registry d'.registry name →
    name ∈ d'.deletes.items ∨ d'.deletes.isFull = true ∨ loose
  engaged : ∀ crew w, d'.Engaged crew w → d.Engaged crew w

namespace Gathers

variable {loose loose' : Prop} {d d' d'' : Daemon}

theorem mono (h : Gathers loose d d') (wider : loose → loose') : Gathers loose' d d' where
  capacity := h.capacity
  items := h.items
  marked name new := (h.marked name new).imp_right (.imp_right wider)
  engaged := h.engaged

/-- A full queue stays full as long as it only grows. -/
theorem full (h : Gathers loose d d') (before : d.deletes.isFull = true) :
    d'.deletes.isFull = true := by
  rw [Mailbox.isFull, decide_eq_true_eq] at before ⊢
  rw [h.capacity]
  exact Nat.le_trans before h.items.length_le

theorem trans (h : Gathers loose d d') (h' : Gathers loose d' d'') : Gathers loose d d'' where
  capacity := h'.capacity.trans h.capacity
  items := h.items.trans h'.items
  marked name new := by
    rcases new.split d'.registry with first | second
    · rcases h.marked name first with asked | full | free
      · exact .inl (h'.items.subset asked)
      · exact .inr (.inl (h'.full full))
      · exact .inr (.inr free)
    · exact h'.marked name second
  engaged crew w new := h.engaged crew w (h'.engaged crew w new)

/-- A change that leaves the queue alone and marks nothing. -/
theorem of_deletes (deletes : d'.deletes = d.deletes)
    (marks : ∀ name, ¬ Registry.NewMark d.registry d'.registry name)
    (engaged : ∀ crew w, d'.Engaged crew w → d.Engaged crew w) : Gathers loose d d' where
  capacity := by rw [deletes]
  items := deletes ▸ List.prefix_refl _
  marked name new := absurd new (marks name)
  engaged := engaged

theorem of_registry (deletes : d'.deletes = d.deletes) (registry : d'.registry = d.registry)
    (engaged : ∀ crew w, d'.Engaged crew w → d.Engaged crew w) : Gathers loose d d' :=
  .of_deletes deletes (fun name => registry ▸ Registry.not_newMark_refl _ name) engaged

theorem of_same (deletes : d'.deletes = d.deletes) (registry : d'.registry = d.registry)
    (happenings : d'.happenings = d.happenings) : Gathers loose d d' := by
  refine .of_registry deletes registry fun crew w h => ?_
  unfold Engaged at h ⊢
  rw [← happenings]
  exact h

theorem refl (d : Daemon) : Gathers loose d d := .of_same rfl rfl rfl

theorem release (d : Daemon) (g : Guard) : Gathers loose d (d.release g) :=
  .of_deletes rfl (fun name => Registry.not_newMark_release d.registry g name) fun _ _ h => h

theorem cancel (d : Daemon) (t : Token) : Gathers loose d (d.cancel t) := by
  obtain ⟨ts, hs, h⟩ := d.cancel_frame t
  refine .of_registry ?_ ?_ fun _ _ h => (d.engaged_cancel t).mp h
  · rw [h]
  · rw [h]

theorem publish (d : Daemon) (n : Notice) : Gathers loose d (d.publish n) := .of_same rfl rfl rfl

theorem log (d : Daemon) (line : JournalEntry) : Gathers loose d (d.log line) :=
  .of_same rfl rfl rfl

theorem setBackend (d : Daemon) (b : Place) (x : Backend) : Gathers loose d (d.setBackend b x) :=
  .of_same rfl rfl rfl

theorem answer {α : Type} (d : Daemon) (b : Place) (f : BackendScript → α × BackendScript) :
    Gathers loose d (d.answer b f).2 := .of_same rfl rfl rfl

/-- A request that finds no room is dropped, though the task is marked. -/
theorem request (d : Daemon) (task : String) : Gathers loose d (d.requestDeletion task) := by
  unfold requestDeletion
  split
  · exact .refl d
  · simp only
    split
    next deletes offered =>
      unfold Mailbox.offer? at offered
      split at offered
      · cases offered
      · cases offered
        refine ⟨rfl, List.prefix_append _ _, fun name new => .inl ?_, fun crew w h => ?_⟩
        · obtain rfl : name = task := Registry.newMark_mark new
          exact List.mem_append_right _ List.mem_cons_self
        · exact (engaged_signal _ _).mp h
    next refused =>
      unfold Mailbox.offer? at refused
      split at refused
      next full => exact ⟨rfl, List.prefix_refl _, fun _ _ => .inr (.inl full), fun _ _ h => h⟩
      · cases refused

theorem notifyCompletion (d : Daemon) (task : String) :
    Gathers loose d (d.notifyCompletion task) := by
  obtain ⟨c, h⟩ := d.notifyCompletion_frame task
  rw [h]
  exact .of_same rfl rfl rfl

theorem announceSchedule (d : Daemon) (task : String) :
    Gathers loose d (d.announceSchedule task) := by
  unfold Daemon.announceSchedule
  split
  · exact .of_registry rfl rfl fun _ _ h => (engaged_signal _ _).mp h
  · exact .refl d

theorem write (d : Daemon) (op : StoreOp) (task : String) (f : MemoryStore → MemoryStore) :
    Gathers loose d (d.write op task f).2 := by
  obtain ⟨s, faults, after, _⟩ := d.write_frame op task f
  rw [after]
  exact .of_same rfl rfl rfl

end Gathers

/-! ### Calls of backends -/

theorem perform_gathers {loose : Prop} (d : Daemon) (b : Place) {a : Action}
    (free : a = .mark → loose) : Gathers loose d (d.perform b a) := by
  cases a with
  | cancel token =>
      have named : Gathers loose d (d.namedToken token).2 := .of_same rfl rfl rfl
      exact named.trans (.cancel _ (d.namedToken token).1)
  | enable | disable => exact .of_same rfl rfl rfl
  | mark => exact ⟨rfl, List.prefix_refl _, fun _ _ => .inr (.inr (free rfl)), fun _ _ h => h⟩
  | delete => exact .request d _
  | unregister =>
      unfold perform
      simp only
      split
      next registry removed =>
        exact .of_deletes rfl (fun _ => Registry.not_newMark_delete removed) fun _ _ h => h
      · exact .refl d

theorem foldl_perform_gathers {loose : Prop} (b : Place) (actions : List Action) (d : Daemon)
    (free : Action.mark ∈ actions → loose) :
    Gathers loose d (actions.foldl (fun d a => d.perform b a) d) := by
  induction actions generalizing d with
  | nil => exact .refl d
  | cons a actions ih =>
      refine (perform_gathers d b fun same => free ?_).trans
        (ih (d.perform b a) fun member => free (List.mem_cons_of_mem a member))
      rw [same]
      exact List.mem_cons_self

theorem callAs_gathers (d : Daemon) (b : Place) (kind : CallKind) (line : JournalEntry) :
    Gathers (¬ d.Avoids .mark) d (d.callAs b kind line) := by
  have noted : Gathers (¬ d.Avoids .mark) d
      ((d.log line).setBackend b ((d.backend b).note kind).2) := .of_same rfl rfl rfl
  refine noted.trans (foldl_perform_gathers b ((d.backend b).note kind).1 _ fun member avoids => ?_)
  obtain ⟨hook, chosen, has⟩ := List.mem_flatMap.mp member
  exact avoids.made b hook (List.mem_filter.mp chosen).1 has

theorem call_gathers (d : Daemon) (b : Place) (kind : CallKind) :
    Gathers (¬ d.Avoids .mark) d (d.call b kind) := callAs_gathers d b kind _

/-- A call made later in the turn. -/
theorem Gathers.call {d d₁ : Daemon} (h : Gathers (¬ d.Avoids .mark) d d₁) (steady : d.Steady d₁)
    (b : Place) (kind : CallKind) : Gathers (¬ d.Avoids .mark) d (d₁.call b kind) :=
  h.trans ((call_gathers d₁ b kind).mono fun free avoids => free (steady.avoids _ avoids))

theorem patch_gathers (d : Daemon) (b : Place) (on : Bool) (option : RunOption) :
    Gathers (¬ d.Avoids .mark) d (d.patch b on option).2 := by
  have called := callAs_gathers d b .update (.updated (d.backend b).label on option)
  have answered := called.trans (.answer _ b fun s : BackendScript =>
    (s.updates.next.1, { s with updates := s.updates.next.2 }))
  unfold patch
  simp only
  split
  · exact answered
  · show Gathers _ d (if option = .inspect then _ else _)
    split
    · exact answered
    · exact answered.trans (.setBackend _ b _)

theorem make_gathers {loose : Prop} {d d' : Daemon} {t : Task} {r : Except BackendError Place}
    (h : d.make t = (r, d')) : Gathers loose d d' := by
  cases r with
  | error e =>
      obtain ⟨label, made, rfl⟩ := make_eq_error h
      exact .of_same rfl rfl rfl
  | ok b =>
      obtain ⟨_, label, made, script, rfl, _⟩ := make_eq_ok h
      exact .of_same rfl rfl rfl

end Daemon

theorem TimedCall.turn_gathers {α : Type} (c : TimedCall α) (takes : c.Takes) (b : Place)
    (token : Token) (p : Pending) (d : Daemon) :
    Daemon.Gathers (¬ d.Avoids .mark) d (c.turn b token p d).2 := by
  cases p with
  | unsent =>
      have called :=
        Daemon.Gathers.call (.answer d b c.delay) (d.answer_aside b takes.1).steady b c.kind
      simp only [turn]
      split
      · exact called.trans (.answer _ b c.answer)
      · split
        · exact called.trans (.log _ _)
        · exact called
  | delayed due =>
      simp only [turn]
      split
      · exact .of_same rfl rfl rfl
      · split
        · exact .of_same rfl rfl rfl
        · exact .refl d

end TaskSync
