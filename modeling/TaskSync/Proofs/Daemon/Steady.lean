import TaskSync.Daemon.Ask
import TaskSync.Proofs.Daemon.Aside

/-!
# What no operation changes

The setting, the retry configuration and the lasting part of every backend outlive all operations.
`Steady` collects this, with two properties of the surroundings that are never lost: hooks that
avoid an action go on to avoid it, and a store that cannot fail goes on not to fail. The frames
below say of each way to change a daemon which of its fields it reaches.
-/

namespace TaskSync

/-- The script has no fault in store. -/
structure Script.Silent (s : Script (Option String)) : Prop where
  first : ∀ x ∈ s.first, x = none
  after : s.after = none

theorem Script.Silent.next {s : Script (Option String)} (h : s.Silent) :
    s.next.1 = none ∧ s.next.2.Silent := by
  obtain ⟨first, after⟩ := s
  cases first with
  | nil => exact ⟨h.after, h⟩
  | cons x xs =>
      exact ⟨h.first x List.mem_cons_self,
        fun y member => h.first y (List.mem_cons_of_mem x member), h.after⟩

namespace Daemon

/-- No use of the store fails. -/
def Reliable (d : Daemon) : Prop := ∀ e ∈ d.storeFaults, e.2.Silent

/-- What lasts from one daemon to a later one. -/
structure Steady (d d' : Daemon) : Prop where
  setting : d'.setting = d.setting
  retry : d'.retry = d.retry
  size : d.backends.size ≤ d'.backends.size
  backend : ∀ b, b < d.backends.size → (d.backend b).Follows (d'.backend b)
  avoids : ∀ a, d.Avoids a → d'.Avoids a
  reliable : d.Reliable → d'.Reliable

namespace Steady

variable {d d' d'' : Daemon}

theorem refl (d : Daemon) : Steady d d where
  setting := rfl
  retry := rfl
  size := Nat.le_refl _
  backend _ _ := .refl _
  avoids _ h := h
  reliable h := h

theorem trans (h : Steady d d') (h' : Steady d' d'') : Steady d d'' where
  setting := h'.setting.trans h.setting
  retry := h'.retry.trans h.retry
  size := Nat.le_trans h.size h'.size
  backend b inside :=
    (h.backend b inside).trans (h'.backend b (Nat.lt_of_lt_of_le inside h.size))
  avoids a avoids := h'.avoids a (h.avoids a avoids)
  reliable reliable := h'.reliable (h.reliable reliable)

/-- Backends that follow on from those before are enough, if no fault was added. -/
theorem of_backends (setting : d'.setting = d.setting) (retry : d'.retry = d.retry)
    (size : d'.backends.size = d.backends.size)
    (backend : ∀ b, (d.backend b).Follows (d'.backend b))
    (reliable : d.Reliable → d'.Reliable) : Steady d d' where
  setting := setting
  retry := retry
  size := Nat.le_of_eq size.symm
  backend b _ := backend b
  avoids a h := by
    refine ⟨fun b => ((backend b).avoids_iff a).mpr (h.made b), ?_, ?_⟩
    · rw [setting]
      exact h.named
    · rw [setting]
      exact h.otherwise
  reliable := reliable

/-- A change of other fields. -/
theorem of_same (setting : d'.setting = d.setting) (retry : d'.retry = d.retry)
    (backends : d'.backends = d.backends) (storeFaults : d'.storeFaults = d.storeFaults) :
    Steady d d' := by
  refine of_backends setting retry (congrArg Array.size backends) (fun b => ?_) fun h => ?_
  · unfold Daemon.backend
    rw [backends]
    exact .refl _
  · unfold Reliable
    rw [storeFaults]
    exact h

theorem name (h : Steady d d') {b : Place} (inside : b < d.backends.size) :
    (d'.taskOf b).name = (d.taskOf b).name := (h.backend b inside).name

end Steady

theorem Aside.steady {lines : List JournalEntry} {d d' : Daemon} (h : Aside lines d d') :
    Steady d d' := by
  refine .of_backends h.setting h.retry h.size h.backend fun reliable => ?_
  unfold Reliable
  rw [h.storeFaults]
  exact reliable

/-- A change that takes and gives no guard and registers nothing. -/
structure Quiet (d d' : Daemon) : Prop extends Steady d d' where
  path : ∀ closing g, Registry.Path (¬ d.Avoids .unregister) closing g d.registry g d'.registry

namespace Quiet

variable {d d' d'' : Daemon}

theorem refl (d : Daemon) : Quiet d d := ⟨.refl d, fun _ g => .refl g _⟩

theorem trans (h : Quiet d d') (h' : Quiet d' d'') : Quiet d d'' where
  toSteady := h.toSteady.trans h'.toSteady
  path closing g := by
    have second := (h'.path closing g).mono fun asked avoids => asked (h.avoids _ avoids)
    exact (h.path closing g).trans second

/-- A change that leaves the registry alone. -/
theorem of_registry (steady : Steady d d') (registry : d'.registry = d.registry) : Quiet d d' where
  toSteady := steady
  path _ g := by
    rw [registry]
    exact .refl g _

theorem of_same (setting : d'.setting = d.setting) (retry : d'.retry = d.retry)
    (backends : d'.backends = d.backends) (storeFaults : d'.storeFaults = d.storeFaults)
    (registry : d'.registry = d.registry) : Quiet d d' :=
  of_registry (.of_same setting retry backends storeFaults) registry

end Quiet

theorem Aside.quiet {lines : List JournalEntry} {d d' : Daemon} (h : Aside lines d d') :
    Quiet d d' := ⟨h.steady, h.registry⟩

/-! ### Frames -/

theorem notifyCompletion_frame (d : Daemon) (task : String) :
    ∃ c, d.notifyCompletion task = { d with completions := c } := by
  unfold notifyCompletion
  split
  · exact ⟨_, rfl⟩
  · exact ⟨d.completions, rfl⟩

theorem announceSchedule_frame (d : Daemon) (task : String) :
    ∃ box hs, d.announceSchedule task = { d with created := box, happenings := hs } := by
  unfold announceSchedule
  split
  · exact ⟨_, _, rfl⟩
  · exact ⟨d.created, d.happenings, rfl⟩

theorem stopTimer_frame (d : Daemon) (task : String) :
    ∃ ts hs stops, d.stopTimer task = { d with tokens := ts, happenings := hs, stops } := by
  unfold stopTimer
  split
  next stop _ =>
    obtain ⟨ts, hs, h⟩ := cancel_frame { d with stops := d.stops.erase task } stop.token
    exact ⟨ts, hs, _, h⟩
  · exact ⟨d.tokens, d.happenings, d.stops, rfl⟩

theorem notifyCompletion_quiet (d : Daemon) (task : String) :
    Quiet d (d.notifyCompletion task) := by
  obtain ⟨c, h⟩ := notifyCompletion_frame d task
  rw [h]
  exact .of_same rfl rfl rfl rfl rfl

theorem announceSchedule_quiet (d : Daemon) (task : String) :
    Quiet d (d.announceSchedule task) := by
  obtain ⟨box, hs, h⟩ := announceSchedule_frame d task
  rw [h]
  exact .of_same rfl rfl rfl rfl rfl

theorem cancel_quiet (d : Daemon) (t : Token) : Quiet d (d.cancel t) := by
  obtain ⟨ts, hs, h⟩ := cancel_frame d t
  rw [h]
  exact .of_same rfl rfl rfl rfl rfl

theorem requestDeletion_quiet (d : Daemon) (task : String) : Quiet d (d.requestDeletion task) := by
  obtain ⟨r, box, hs, h, registry⟩ := requestDeletion_frame d task
  rw [h]
  refine ⟨.of_same rfl rfl rfl rfl, fun _ g => ?_⟩
  rcases registry with rfl | rfl
  · exact .refl g _
  · exact .mark _ (.refl g _)

theorem stopTimers_frame (d : Daemon) :
    ∃ ts hs, d.stopTimers = { d with tokens := ts, happenings := hs, stops := [] } := by
  have cancels : ∀ (entries : SortedMap Stop) (d : Daemon), ∃ ts hs,
      entries.foldl (fun d entry => d.cancel entry.2.token) d =
        { d with tokens := ts, happenings := hs } := by
    intro entries
    induction entries with
    | nil => exact fun d => ⟨d.tokens, d.happenings, rfl⟩
    | cons entry entries ih =>
        intro d
        obtain ⟨ts, hs, h⟩ := cancel_frame d entry.2.token
        obtain ⟨ts', hs', h'⟩ := ih (d.cancel entry.2.token)
        exact ⟨ts', hs', by rw [List.foldl_cons, h', h]⟩
  exact cancels d.stops { d with stops := [] }

theorem registerStop_frame (d : Daemon) (task : String) :
    ∃ ts stops n, (d.registerStop task).2 = { d with tokens := ts, stops, nextStop := n } := by
  unfold registerStop
  split
  · exact ⟨d.tokens, d.stops, d.nextStop, rfl⟩
  · exact ⟨_, _, _, rfl⟩

theorem releaseStop_frame (d : Daemon) (task : String) (stop : Stop) :
    ∃ stops, d.releaseStop task stop = { d with stops } := by
  unfold releaseStop
  split
  · exact ⟨_, rfl⟩
  · exact ⟨d.stops, rfl⟩

/-! ### The store -/

theorem mem_of_lookup {α : Type} {op : StoreOp} {x : α} {faults : List (StoreOp × α)}
    (h : faults.lookup op = some x) : (op, x) ∈ faults := by
  induction faults with
  | nil => cases h
  | cons e rest ih =>
      rw [List.lookup_cons] at h
      split at h
      next same =>
        cases h
        have : op = e.1 := by simpa using same
        rw [this]
        exact List.mem_cons_self
      · exact List.mem_cons_of_mem e (ih h)

theorem access_frame (d : Daemon) (op : StoreOp) :
    ∃ faults, (d.access op).2 = { d with storeFaults := faults } ∧
      (d.Reliable → (d.access op).1 = .ok () ∧ ∀ e ∈ faults, e.2.Silent) := by
  unfold access
  split
  · exact ⟨d.storeFaults, rfl, fun reliable => ⟨rfl, reliable⟩⟩
  next faults found =>
    refine ⟨_, rfl, fun reliable => ?_⟩
    obtain ⟨none, silent⟩ := (reliable _ (mem_of_lookup found)).next
    refine ⟨?_, fun e member => ?_⟩
    · simp only [none]
    · obtain ⟨old, there, rfl⟩ := List.mem_map.mp member
      split
      · exact silent
      · exact reliable old there

/-- A write is noted whether or not it succeeds, and succeeds if the store cannot fail. -/
theorem write_frame (d : Daemon) (op : StoreOp) (task : String) (f : MemoryStore → MemoryStore) :
    ∃ s faults, (d.write op task f).2 =
        { d with store := s, storeFaults := faults, journal := .written op task :: d.journal } ∧
      ((d.write op task f).1 = .ok () ∧ s = f d.store ∨
        (∃ e, (d.write op task f).1 = .error e) ∧ s = d.store) ∧
      (d.Reliable → (d.write op task f).1 = .ok () ∧ s = f d.store ∧ ∀ e ∈ faults, e.2.Silent) := by
  obtain ⟨faults, after, reliable⟩ := access_frame (d.log (.written op task)) op
  unfold write
  cases h : (d.log (.written op task)).access op with
  | mk r d' =>
      rw [h] at after reliable
      cases after
      cases r with
      | ok u =>
          exact ⟨f d.store, faults, rfl, .inl ⟨rfl, rfl⟩, fun h => ⟨rfl, rfl, (reliable h).2⟩⟩
      | error e =>
          refine ⟨d.store, faults, rfl, .inr ⟨⟨e, rfl⟩, rfl⟩, fun h => ?_⟩
          cases (reliable h).1

/-- What the store will not take fails. -/
theorem write_refused {d : Daemon} {op : StoreOp} (refused : d.willTake op = false) (task : String)
    (f : MemoryStore → MemoryStore) : ∃ e, (d.write op task f).1 = .error e := by
  have same : ((d.log (.written op task)).access op).1 = (d.access op).1 := by
    unfold access
    cases h : d.storeFaults.lookup op with
    | none =>
        rw [show (d.log (.written op task)).storeFaults.lookup op = none from h]
    | some faults =>
        rw [show (d.log (.written op task)).storeFaults.lookup op = some faults from h]
  unfold willTake at refused
  unfold write
  cases h : (d.log (.written op task)).access op with
  | mk r d' =>
      rw [h] at same
      cases r with
      | ok u =>
          rw [← same] at refused
          cases refused
      | error e => exact ⟨e, rfl⟩

theorem write_quiet (d : Daemon) (op : StoreOp) (task : String) (f : MemoryStore → MemoryStore) :
    Quiet d (d.write op task f).2 := by
  obtain ⟨s, faults, after, _, reliable⟩ := write_frame d op task f
  rw [after]
  exact .of_registry (.of_backends rfl rfl rfl (fun _ => .refl _) fun h => (reliable h).2.2) rfl

/-! ### Backends made and switched -/

/-- The script of the n-th backend of a name is one of those that the setting has for it. -/
theorem script_mem (named : Option (List BackendScript)) (n : Nat) (otherwise : BackendScript) :
    (match named with
      | some scripts => (scripts[n]? <|> scripts.getLast?).getD otherwise
      | none => otherwise) = otherwise ∨
    ∃ scripts, named = some scripts ∧
      (match named with
        | some scripts => (scripts[n]? <|> scripts.getLast?).getD otherwise
        | none => otherwise) ∈ scripts := by
  cases named with
  | none => exact .inl rfl
  | some scripts =>
      cases nth : scripts[n]? with
      | some s => exact .inr ⟨scripts, rfl, by simpa [nth] using List.mem_of_getElem? nth⟩
      | none =>
          cases last : scripts.getLast? with
          | some s =>
              exact .inr ⟨scripts, rfl, by simpa [nth, last] using List.mem_of_getLast? last⟩
          | none => exact .inl (by simp [nth, last])

/-- A backend that is made takes the next place and runs its task by a script of the setting. -/
theorem make_eq_ok {d d' : Daemon} {t : Task} {b : Place} (h : d.make t = (.ok b, d')) :
    b = d.backends.size ∧ ∃ label made script,
      d' = { d with
        made := made
        journal := .made label :: d.journal
        backends := d.backends.push (.new label t script) } ∧
      (script = d.setting.otherwise ∨
        ∃ scripts, d.setting.backends.get? t.name = some scripts ∧ script ∈ scripts) := by
  unfold make at h
  simp only at h
  split at h
  · cases h
  · cases h
    refine ⟨rfl, _, _, _, rfl, ?_⟩
    exact script_mem (d.setting.backends.get? t.name) _ d.setting.otherwise

theorem make_eq_error {d d' : Daemon} {t : Task} {e : BackendError}
    (h : d.make t = (.error e, d')) :
    ∃ label made, d' = { d with made := made, journal := .made label :: d.journal } := by
  unfold make at h
  simp only at h
  split at h
  · cases h
    exact ⟨_, _, rfl⟩
  · cases h

theorem backend_push (d : Daemon) (b : Place) (x : Backend) :
    (d.backends.push x).getD b default = if b = d.backends.size then x else d.backend b := by
  simp only [backend, Array.getD_eq_getD_getElem?, Array.getElem?_push]
  split <;> rfl

theorem make_quiet {d d' : Daemon} {t : Task} {r : Except BackendError Place}
    (h : d.make t = (r, d')) : Quiet d d' := by
  cases r with
  | error e =>
      obtain ⟨label, made, rfl⟩ := make_eq_error h
      exact .of_same rfl rfl rfl rfl rfl
  | ok b =>
      obtain ⟨_, label, made, script, rfl, chosen⟩ := make_eq_ok h
      refine .of_registry ⟨rfl, rfl, ?_, fun b inside => ?_, fun a avoids => ⟨fun b => ?_,
        avoids.named, avoids.otherwise⟩, id⟩ rfl
      · show _ ≤ (d.backends.push _).size
        rw [Array.size_push]
        exact Nat.le_succ _
      · show (d.backend b).Follows ((d.backends.push _).getD b default)
        rw [backend_push, if_neg (Nat.ne_of_lt inside)]
        exact .refl _
      · show ((d.backends.push _).getD b default).script.Avoids a
        rw [backend_push]
        split
        · rcases chosen with rfl | ⟨scripts, named, member⟩
          · exact avoids.otherwise
          · exact avoids.named _ scripts named script member
        · exact avoids.made b

/-- A patch that succeeds switches the task, unless it was an inspection; one that fails does
not. -/
theorem patch_cases (d : Daemon) (b : Place) (on : Bool) (option : RunOption) :
    ∃ d₁, Aside [.updated (d.backend b).label on option] d d₁ ∧
      ((∃ e, d.patch b on option = (.error e, d₁)) ∨
        ∃ plan, d.patch b on option =
          (.ok plan, if option = .inspect then d₁
            else d₁.setBackend b ((d₁.backend b).setEnabled on))) := by
  have called := callAs_aside d b .update (.updated (d.backend b).label on option)
  have takes : Takes fun s : BackendScript =>
      (s.updates.next.1, { s with updates := s.updates.next.2 }) := fun s => ⟨rfl, rfl⟩
  refine ⟨_, called.trans (answer_aside _ b takes), ?_⟩
  unfold patch
  simp only
  split
  next _ e _ => exact .inl ⟨e, rfl⟩
  next => exact .inr ⟨_, rfl⟩

theorem setEnabled_quiet (d : Daemon) (b : Place) (on : Bool) :
    Quiet d (d.setBackend b ((d.backend b).setEnabled on)) :=
  .of_registry (.of_backends rfl rfl Array.size_setIfInBounds
    (setBackend_follows d b (.setEnabled _ on)) id) rfl

theorem patch_quiet (d : Daemon) (b : Place) (on : Bool) (option : RunOption) :
    Quiet d (d.patch b on option).2 := by
  obtain ⟨d₁, aside, ⟨e, h⟩ | ⟨plan, h⟩⟩ := patch_cases d b on option
  · rw [h]
    exact aside.quiet
  · rw [h]
    show Quiet d (if option = .inspect then d₁
      else d₁.setBackend b ((d₁.backend b).setEnabled on))
    split
    · exact aside.quiet
    · exact aside.quiet.trans (setEnabled_quiet d₁ b on)

end Daemon

end TaskSync
