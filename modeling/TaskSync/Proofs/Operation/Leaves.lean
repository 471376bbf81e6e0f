import TaskSync.Proofs.Operation.Crew

/-!
# What a turn leaves behind

In one turn an operation calls one backend at most, the one it has a stake in, and makes one change
that lasts at most: it writes to the store, or it switches a task. Which change that is can be read
off the operation before the turn, so a statement about writes in flight is one about the
operations under way.
-/

namespace TaskSync

/-- A change that lasts: of the store, or of the enabled flag of a backend's task. -/
inductive Write where
  | config (c : TaskConfig)
  | noConfig (task : String)
  | record (r : RunRecord)
  | noRecords (task : String)
  | switch (backend : Place)

def Write.apply : Write → MemoryStore → MemoryStore
  | config c, s => s.setTask c
  | noConfig task, s => s.deleteTask task
  | record r, s => s.addRecord r
  | noRecords task, s => s.deleteRecords task
  | switch _, s => s

/-- The backend whose call a line of the journal is about. -/
def JournalEntry.about? : JournalEntry → Option Label
  | called l _ | updated l _ _ | waited l _ | interrupted l _ => some l
  | factoryStarted | made _ | written _ _ => none

def Run.Phase.write? : Run.Phase → Option Write
  | .recording h _ _ => some (.record h.record)
  | _ => none

def Update.Phase.write? : Update.Phase → Option Write
  | .patching h => if h.option = .inspect then none else some (.switch h.backend)
  | .recording _ record _ => some (.record record)
  | .storing _ conf _ => some (.config conf)
  | .start _ _ => none

def Deletion.Phase.write? : Deletion.Phase → Option Write
  | .deletingTask task _ => some (.noConfig task)
  | .deletingRecords task _ => some (.noRecords task)
  | _ => none

def Creation.Phase.write? : Creation.Phase → Option Write
  | .recording _ record => some (.record record)
  | .storing task => some (.config task.toConfig)
  | _ => none

def Timer.Phase.write? : Timer.Phase → Option Write
  | .running _ _ _ run => run.write?
  | _ => none

def Errand.write? : Errand → Option Write
  | .watch _ => none
  | .timer _ phase => phase.write?
  | .run phase => phase.write?
  | .delete phase => phase.write?

/-- The change that the next turn makes. -/
def Operation.write? : Operation → Option Write
  | .create _ _ phase => phase.write?
  | .update phase => phase.write?
  | .run _ phase => phase.write?
  | .delete _ phase => phase.write?
  | .control _ _ => none
  | .errand _ e => e.write?

/-- A turn calls no backend but this one and makes no lasting change but this one. -/
structure Leaves (backend? : Option Place) (write? : Option Write) (d d' : Daemon) : Prop where
  steady : d.Steady d'
  label : ∀ b, backend? = some b → (d'.backend b).label = (d.backend b).label
  lines : ∃ lines, d'.journal = lines ++ d.journal ∧ ∀ x ∈ lines, ∀ l, x.about? = some l →
    ∃ b, backend? = some b ∧ l = (d.backend b).label
  store : d'.store = d.store ∨ ∃ w, write? = some w ∧ d'.store = w.apply d.store
  reliable : d.Reliable → d'.store = write?.elim d.store (·.apply d.store)
  task : d.Avoids .enable → d.Avoids .disable → ∀ b, b < d.backends.size →
    write? ≠ some (.switch b) → d'.taskOf b = d.taskOf b

namespace Leaves

variable {backend? : Option Place} {write? : Option Write} {d d₁ d₂ : Daemon}

theorem of_same (setting : d₁.setting = d.setting) (retry : d₁.retry = d.retry)
    (backends : d₁.backends = d.backends) (storeFaults : d₁.storeFaults = d.storeFaults)
    (store : d₁.store = d.store) (journal : d₁.journal = d.journal) :
    Leaves backend? none d d₁ where
  steady := .of_same setting retry backends storeFaults
  label b _ := by
    unfold Daemon.backend
    rw [backends]
  lines := ⟨[], journal, nofun⟩
  store := .inl store
  reliable _ := store
  task _ _ b _ _ := by
    unfold Daemon.taskOf Daemon.backend
    rw [backends]

theorem refl (d : Daemon) : Leaves backend? none d d := .of_same rfl rfl rfl rfl rfl rfl

theorem of_aloof (h : d.Aloof d₁) : Leaves backend? none d d₁ := by
  rw [h.frame]
  exact .of_same rfl rfl rfl rfl rfl rfl

theorem of_aside {lines : List JournalEntry} {b : Place} (h : Daemon.Aside lines d d₁)
    (about : ∀ x ∈ lines, ∀ l, x.about? = some l → l = (d.backend b).label) :
    Leaves (some b) none d d₁ where
  steady := h.steady
  label _ _ := (h.backend _).label
  lines := ⟨lines, h.journal, fun x member l h => ⟨b, rfl, about x member l h⟩⟩
  store := .inl h.store
  reliable _ := h.store
  task on off c _ _ := by
    show (d₁.backend c).task = (d.backend c).task
    rw [(h.backend c).task, h.enabled on off c]

theorem of_call (d : Daemon) (b : Place) (kind : CallKind) :
    Leaves (some b) none d (d.call b kind) := by
  refine .of_aside (d.call_aside b kind) fun x member l h => ?_
  obtain rfl := List.mem_singleton.mp member
  cases h
  rfl

theorem of_timed {α : Type} (c : TimedCall α) (takes : c.Takes) (b : Place) (token : Token)
    (p : Pending) (d : Daemon) : Leaves (some b) none d (c.turn b token p d).2 := by
  obtain ⟨lines, found, aside⟩ := c.turn_aside takes b token p d
  refine .of_aside aside fun x member l h => ?_
  cases found with
  | sent | interrupted | waited =>
      obtain rfl := List.mem_singleton.mp member
      cases h
      rfl
  | cut =>
      rcases List.mem_cons.mp member with rfl | member
      · cases h
        rfl
      · obtain rfl := List.mem_singleton.mp member
        cases h
        rfl
  | waiting => cases member

theorem of_write (d : Daemon) (op : StoreOp) (task : String) {f : MemoryStore → MemoryStore}
    (w : Write) (same : f d.store = w.apply d.store) :
    Leaves backend? (some w) d (d.write op task f).2 := by
  obtain ⟨s, faults, after, how, reliable⟩ := d.write_frame op task f
  rw [after]
  have steady := (d.write_quiet op task f).toSteady
  rw [after] at steady
  refine ⟨steady, fun _ _ => rfl, ⟨[.written op task], rfl, ?_⟩, ?_, fun h => ?_,
    fun _ _ _ _ _ => rfl⟩
  · intro x member l h
    obtain rfl := List.mem_singleton.mp member
    cases h
  · rcases how with ⟨_, rfl⟩ | ⟨_, rfl⟩
    · exact .inr ⟨w, rfl, same⟩
    · exact .inl rfl
  · obtain ⟨_, rfl, _⟩ := reliable h
    exact same

theorem store_eq (h : Leaves backend? none d d₁) : d₁.store = d.store := by
  rcases h.store with same | ⟨w, none, _⟩
  · exact same
  · cases none

theorem lines_trans {write?' : Option Write} (h : Leaves backend? write? d d₁)
    (h' : Leaves backend? write?' d₁ d₂) :
    ∃ lines, d₂.journal = lines ++ d.journal ∧ ∀ x ∈ lines, ∀ l, x.about? = some l →
      ∃ b, backend? = some b ∧ l = (d.backend b).label := by
  obtain ⟨lines, journal, about⟩ := h.lines
  obtain ⟨lines', journal', about'⟩ := h'.lines
  refine ⟨lines' ++ lines, by rw [journal', journal, List.append_assoc], fun x member l hx => ?_⟩
  rcases List.mem_append.mp member with member | member
  · obtain ⟨b, e, hl⟩ := about' x member l hx
    exact ⟨b, e, hl.trans (h.label b e)⟩
  · exact about x member l hx

/-- Nothing lasts before the last step. -/
theorem trans (h : Leaves backend? none d d₁) (h' : Leaves backend? write? d₁ d₂) :
    Leaves backend? write? d d₂ where
  steady := h.steady.trans h'.steady
  label b e := (h'.label b e).trans (h.label b e)
  lines := h.lines_trans h'
  store := by
    rw [← h.store_eq]
    exact h'.store
  reliable reliable := by
    rw [← h.store_eq]
    exact h'.reliable (h.steady.reliable reliable)
  task on off b inside other := by
    rw [h'.task (h.steady.avoids _ on) (h.steady.avoids _ off) b
      (Nat.lt_of_lt_of_le inside h.steady.size) other]
    exact h.task on off b inside nofun

/-- Nothing lasts after the first step. -/
theorem and_then (h : Leaves backend? write? d d₁) (h' : Leaves backend? none d₁ d₂) :
    Leaves backend? write? d d₂ where
  steady := h.steady.trans h'.steady
  label b e := (h'.label b e).trans (h.label b e)
  lines := h.lines_trans h'
  store := by
    rw [h'.store_eq]
    exact h.store
  reliable reliable := by
    rw [h'.store_eq]
    exact h.reliable reliable
  task on off b inside other := by
    rw [h'.task (h.steady.avoids _ on) (h.steady.avoids _ off) b
      (Nat.lt_of_lt_of_le inside h.steady.size) nofun]
    exact h.task on off b inside other

end Leaves

theorem Leaves.of_completion {backend? : Option Place} (d : Daemon) (task : String) :
    Leaves backend? none d (d.notifyCompletion task) := by
  obtain ⟨c, h⟩ := d.notifyCompletion_frame task
  rw [h]
  exact .of_same rfl rfl rfl rfl rfl rfl

namespace Run

theorem entered_leaves (task : String) (b : Place) (scheduled : Bool) (g : Guard) (d : Daemon) :
    Leaves none none d (entered task b scheduled g d).2 := by
  unfold entered
  split
  · exact .of_same rfl rfl rfl rfl rfl rfl
  · simp only
    split
    · exact .of_same rfl rfl rfl rfl rfl rfl
    · exact (Leaves.of_completion d task).trans (.of_same rfl rfl rfl rfl rfl rfl)

theorem enter_leaves (task : String) (b : Place) (d : Daemon) :
    Leaves none none d (enter task b d).2 := by
  unfold enter
  rcases Activation.look_cases task d with ⟨_, look⟩ | ⟨_, _, _, look⟩ | ⟨g, d₁, taken, look⟩
  · rw [look]
    exact .refl d
  · rw [look]
    exact .refl d
  · rw [look]
    obtain ⟨r, _, rfl⟩ := Daemon.tryActivate_eq_some taken
    refine .trans ?_ (entered_leaves task b false g _)
    exact .of_same rfl rfl rfl rfl rfl rfl

theorem enterScheduled_leaves (task : String) (b : Place) (d : Daemon) :
    Leaves none none d (enterScheduled task b d).2 := by
  unfold enterScheduled
  rcases Activation.look_cases task d with ⟨_, look⟩ | ⟨_, _, _, look⟩ | ⟨g, d₁, taken, look⟩
  · rw [look]
    exact .refl d
  · rw [look]
    exact .refl d
  · rw [look]
    obtain ⟨r, _, rfl⟩ := Daemon.tryActivate_eq_some taken
    refine .trans ?_ (entered_leaves task b true g _)
    exact .of_same rfl rfl rfl rfl rfl rfl

theorem begin_leaves (task : String) (d : Daemon) : Leaves none none d (begin task d).2 := by
  unfold begin
  split
  · exact .refl d
  split
  · exact .refl d
  split
  · exact enterScheduled_leaves task _ d
  · exact enter_leaves task _ d

theorem turn_leaves (token : Token) (p : Phase) (d : Daemon) :
    Leaves p.stake.backend? p.write? d (turn token p d).2 := by
  cases p with
  | start task => exact begin_leaves task d
  | queued task backend due =>
      simp only [turn]
      split
      · exact .refl d
      split
      · exact enter_leaves task backend d
      · exact .refl d
  | rendering h call =>
      have called := Leaves.of_timed .render TimedCall.render_takes h.backend token call d
      simp only [turn]
      split <;> rename_i eq <;> rw [eq] at called
      · exact called
      · exact called
      · exact called.and_then (.of_same rfl rfl rfl rfl rfl rfl)
      · exact called
      · split
        · exact called.and_then (.of_same rfl rfl rfl rfl rfl rfl)
        · exact called.and_then (.of_same rfl rfl rfl rfl rfl rfl)
  | applying h retries call =>
      have called := Leaves.of_timed .apply TimedCall.apply_takes h.backend token call d
      simp only [turn]
      split <;> rename_i eq <;> rw [eq] at called
      · exact called
      · exact called
      · unfold retry
        split
        · exact called.and_then (.of_same rfl rfl rfl rfl rfl rfl)
        · exact called.and_then (.of_same rfl rfl rfl rfl rfl rfl)
      · exact called.and_then (.of_same rfl rfl rfl rfl rfl rfl)
  | backingOff h retries due =>
      simp only [turn]
      split
      · exact .of_same rfl rfl rfl rfl rfl rfl
      split
      · exact .refl d
      · exact .refl d
  | recording h applied result =>
      have written : Leaves (some h.backend) (some (.record h.record)) d (d.addRecord h.record) :=
        .of_write d _ _ (.record h.record) rfl
      simp only [turn]
      split
      · refine written.and_then ((Leaves.of_completion _ h.task).trans ?_)
        exact .of_same rfl rfl rfl rfl rfl rfl
      · exact written.and_then (.of_same rfl rfl rfl rfl rfl rfl)

end Run

namespace Update

theorem settle_leaves (h : Held) (result : Except BackendError Plan) (d : Daemon) :
    Leaves (some h.backend) none d (settle h result d).2 := by
  unfold settle
  split
  · exact .of_same rfl rfl rfl rfl rfl rfl
  split
  · exact .of_same rfl rfl rfl rfl rfl rfl
  · exact .refl d

theorem begin_leaves (conf : TaskConfig) (option : RunOption) (d : Daemon) :
    Leaves none none d (begin conf option d).2 := by
  unfold begin
  simp only
  split
  · exact .refl d
  split
  · exact .refl d
  split
  · exact .refl d
  split
  · exact .refl d
  split
  · exact .refl d
  next d₁ busy =>
    obtain ⟨rfl, _⟩ := Daemon.tryActivate_eq_busy busy
    exact .refl _
  next g d₁ taken =>
    obtain ⟨r, _, rfl⟩ := Daemon.tryActivate_eq_some taken
    unfold entered
    simp only
    split
    · exact .of_same rfl rfl rfl rfl rfl rfl
    · exact .of_same rfl rfl rfl rfl rfl rfl

theorem patch_leaves (d : Daemon) (b : Place) (on : Bool) (option : RunOption) :
    Leaves (some b) (if option = .inspect then none else some (.switch b)) d
      (d.patch b on option).2 := by
  have steady := (d.patch_quiet b on option).toSteady
  obtain ⟨d₁, aside, how⟩ := d.patch_cases b on option
  have called : Leaves (some b) none d d₁ := by
    refine .of_aside aside fun x member l h => ?_
    obtain rfl := List.mem_singleton.mp member
    cases h
    rfl
  rcases how with ⟨e, h⟩ | ⟨plan, h⟩
  · rw [h]
    split
    · exact called
    · exact ⟨called.steady, called.label, called.lines, .inl called.store_eq, called.reliable,
        fun on off c inside _ => called.task on off c inside nofun⟩
  · rw [h] at steady ⊢
    split
    next inspect =>
      simp only
      exact called
    next other =>
      simp only [if_neg other] at steady ⊢
      refine ⟨steady, fun c e => ?_, called.lines, .inl called.store_eq, called.reliable,
        fun on' off' c inside apart => ?_⟩
      · exact (Daemon.setBackend_follows d₁ b (.setEnabled _ on) c).label.trans (called.label c e)
      · have elsewhere : c ≠ b := by
          rintro rfl
          exact apart rfl
        show ((d₁.setBackend b _).backend c).task = _
        rw [Daemon.backend_setBackend, if_neg fun here => elsewhere here.1]
        exact called.task on' off' c inside nofun

theorem turn_leaves (p : Phase) (d : Daemon) :
    Leaves p.stake.backend? p.write? d (turn p d).2 := by
  cases p with
  | start conf option => exact begin_leaves conf option d
  | patching h =>
      have patched := patch_leaves d h.backend h.enabled h.option
      simp only [turn]
      split
      · exact patched
      · exact patched.and_then (settle_leaves h _ _)
  | recording h record result =>
      have written : Leaves (some h.backend) (some (.record record)) d (d.addRecord record) :=
        .of_write d _ _ (.record record) rfl
      exact written.and_then (settle_leaves h result _)
  | storing h conf plan =>
      have written : Leaves (some h.backend) (some (.config conf)) d (d.setTask conf).2 :=
        .of_write d _ _ (.config conf) rfl
      simp only [turn]
      split <;> rename_i eq <;> rw [eq] at written
      · exact written.and_then (.of_same rfl rfl rfl rfl rfl rfl)
      · exact written.and_then (.of_same rfl rfl rfl rfl rfl rfl)

end Update

namespace Deletion

theorem entered_leaves (task : String) (b : Place) (g : Guard) (d : Daemon) :
    Leaves none none d (entered task b g d).2 := by
  have stopped : Leaves none none d
      (if (d.taskOf b).isScheduled then d.stopTimer task else d) := by
    obtain ⟨ts, hs, stops, h⟩ := d.stopTimer_frame task
    rw [h]
    split
    · exact .of_same rfl rfl rfl rfl rfl rfl
    · exact .refl d
  unfold entered
  simp only
  split
  · exact stopped.trans (.of_same rfl rfl rfl rfl rfl rfl)
  · exact stopped.trans (.of_same rfl rfl rfl rfl rfl rfl)

theorem enter_leaves (task : String) (b : Place) (d : Daemon) :
    Leaves none none d (enter task b d).2 := by
  unfold enter
  rcases Activation.look_cases task d with ⟨_, look⟩ | ⟨_, _, _, look⟩ | ⟨g, d₁, taken, look⟩
  · rw [look]
    exact .refl d
  · rw [look]
    exact .refl d
  · rw [look]
    obtain ⟨r, _, rfl⟩ := Daemon.tryActivate_eq_some taken
    refine .trans ?_ (entered_leaves task b g _)
    exact .of_same rfl rfl rfl rfl rfl rfl

theorem turn_leaves (token : Token) (p : Phase) (d : Daemon) :
    Leaves p.stake.backend? p.write? d (turn token p d).2 := by
  cases p with
  | start task =>
      simp only [turn]
      split
      · exact .refl d
      · exact enter_leaves task _ d
  | queued task backend due =>
      simp only [turn]
      split
      · exact .refl d
      split
      · exact enter_leaves task backend d
      · exact .refl d
  | deletingTask task guard =>
      have written : Leaves none (some (.noConfig task)) d (d.deleteTask task).2 :=
        .of_write d _ _ (.noConfig task) rfl
      simp only [turn]
      split <;> rename_i eq <;> rw [eq] at written
      · exact written.and_then (.of_same rfl rfl rfl rfl rfl rfl)
      · exact written
  | deletingRecords task guard =>
      have written : Leaves none (some (.noRecords task)) d (d.deleteRecords task).2 :=
        .of_write d _ _ (.noRecords task) rfl
      simp only [turn]
      split <;> rename_i eq <;> rw [eq] at written
      · exact written.and_then (.of_same rfl rfl rfl rfl rfl rfl)
      · exact written.and_then (.of_same rfl rfl rfl rfl rfl rfl)

end Deletion

namespace Creation

theorem register_leaves (b : Place) (d : Daemon) : Leaves (some b) none d (register b d).2 := by
  have called := Leaves.of_call d b .buffer
  unfold register
  simp only
  split
  · exact called
  · exact called.and_then (.of_same rfl rfl rfl rfl rfl rfl)

theorem rendered_leaves (goal : Goal) (b : Place) (d : Daemon) :
    Leaves (some b) none d (rendered goal b d).2 := by
  have called := Leaves.of_call d b .override
  unfold rendered
  simp only
  split
  · exact called
  · exact called.trans (register_leaves b _)
  · split
    · exact called.and_then (.of_same rfl rfl rfl rfl rfl rfl)
    · exact called.trans (register_leaves b _)

theorem render_leaves (token : Token) (goal : Goal) (t : Trial) (call : Pending) (d : Daemon) :
    Leaves (some t.backend) none d (render token goal t call d).2 := by
  unfold render
  simp only
  split
  · exact .refl d
  split
  · exact .refl d
  split
  · exact Leaves.of_call d t.backend .override
  · have called := Leaves.of_timed .render TimedCall.render_takes t.backend token call d
    split <;> rename_i eq <;> rw [eq] at called
    · exact called
    · exact called
    · exact called.trans (rendered_leaves goal t.backend _)
    · exact called
    · exact called

theorem begin_leaves (conf : TaskConfig) (d : Daemon) : (begin conf d).2 = d := by
  unfold begin
  simp only
  split
  · rfl
  split
  · rfl
  split
  · rfl
  · rfl

theorem turn_leaves (token : Token) (goal : Goal) (p : Phase) (d : Daemon) :
    Leaves p.stake.backend? p.write? d (turn token goal p d).2 := by
  cases p with
  | start conf =>
      simp only [turn, begin_leaves]
      exact .refl d
  | making task =>
      have made : Leaves none none d (d.make task).2 := by
        cases h : d.make task with
        | mk r d₁ =>
            have steady := (Daemon.make_quiet h).toSteady
            have unnamed (b : Place) (no : none = some b) :
                (d₁.backend b).label = (d.backend b).label := by cases no
            have written (label : Label) :
                ∀ x ∈ [JournalEntry.made label], ∀ l, x.about? = some l →
                  ∃ b, none = some b ∧ l = (d.backend b).label := by
              intro x member l about
              obtain rfl := List.mem_singleton.mp member
              cases about
            cases r with
            | error e =>
                obtain ⟨label, made, rfl⟩ := Daemon.make_eq_error h
                exact ⟨steady, unnamed, ⟨_, rfl, written label⟩, .inl rfl, fun _ => rfl,
                  fun _ _ _ _ _ => rfl⟩
            | ok b =>
                obtain ⟨_, label, made, script, rfl, _⟩ := Daemon.make_eq_ok h
                refine ⟨steady, unnamed, ⟨_, rfl, written label⟩, .inl rfl, fun _ => rfl,
                  fun _ _ c inside _ => ?_⟩
                show ((d.backends.push _).getD c default).task = _
                rw [Daemon.backend_push, if_neg (Nat.ne_of_lt inside)]
                rfl
      simp only [turn]
      split <;> rename_i eq <;> rw [eq] at made
      · exact made
      · exact made
  | rendering t call => exact render_leaves token goal t call d
  | pausing t due =>
      simp only [turn]
      split
      · exact .refl d
      split
      · exact .refl d
      · exact .refl d
  | destroying b result => exact .of_call d b .destroy
  | applying b record call =>
      have called := Leaves.of_timed .apply TimedCall.apply_takes b token call d
      simp only [turn]
      split <;> rename_i eq <;> rw [eq] at called
      · exact called
      · exact called
      · exact called
      · exact called.and_then (.of_same rfl rfl rfl rfl rfl rfl)
  | recording b record =>
      have written : Leaves (some b) (some (.record record)) d (d.addRecord record) :=
        .of_write d _ _ (.record record) rfl
      exact written.and_then ((Leaves.of_completion _ _).trans (register_leaves b _))
  | storing task =>
      have written : Leaves none (some (.config task.toConfig)) d (d.setTask task.toConfig).2 :=
        .of_write d _ _ (.config task.toConfig) rfl
      simp only [turn]
      split <;> rename_i eq <;> rw [eq] at written
      next e d₁ =>
        obtain ⟨r, box, hs, h, _⟩ := d₁.requestDeletion_frame task.name
        refine written.and_then ?_
        show Leaves none none d₁ (d₁.requestDeletion task.name)
        rw [h]
        exact .of_same rfl rfl rfl rfl rfl rfl
      next d₁ =>
        obtain ⟨box, hs, h⟩ := d₁.announceSchedule_frame task.name
        refine written.and_then ?_
        split
        · rw [h]
          exact .of_same rfl rfl rfl rfl rfl rfl
        · exact .of_same rfl rfl rfl rfl rfl rfl
  | inspecting b => exact .of_call d b .inspect

end Creation

namespace Timer

theorem turn_leaves (token : Token) (task : String) (p : Phase) (d : Daemon) :
    Leaves p.stake.backend? p.write? d (turn token task p d).2 := by
  have finished (stop : Stop) (served : Option Place) (result : Result) (d : Daemon) :
      d.Aloof (finish token task stop served result d).2 :=
    (finish_aloof token task stop served result d (.start stop served)).2
  cases p with
  | start stop served =>
      simp only [turn]
      split
      · exact .of_aloof (finished _ _ _ d)
      split
      · exact .of_aloof (finished _ _ _ d)
      · exact .refl d
  | planning stop served s =>
      simp only [turn]
      split
      · exact .of_aloof (finished _ _ _ d)
      · exact .refl d
  | sleeping stop served s due =>
      simp only [turn]
      split
      · exact .of_aloof (finished _ _ _ d)
      split
      · split
        · exact .refl d
        · exact .of_aloof (finished _ _ _ d)
      · exact .refl d
  | running stop served s run =>
      have ran := Run.turn_leaves token run d
      simp only [turn]
      split <;> rename_i eq <;> rw [eq] at ran
      · exact ran
      · exact ran
      · exact ran.and_then (.of_aloof (finished _ _ _ _))
      · exact ran

end Timer

namespace Operation

variable {π ρ : Type} (operation : π → Operation) (answer : ρ → Result) {out : Turn π ρ × Daemon}

theorem lift_snd (out : Turn π ρ × Daemon) : (lift operation answer out).2 = out.2 := by
  obtain ⟨phase | on | r, d⟩ := out <;> rfl

theorem lift_of_next {p : π} (h : out.1 = .next p) :
    (lift operation answer out).1 = .next (operation p) := by
  obtain ⟨_, d⟩ := out
  cases h
  rfl

theorem lift_of_wait {on : List Wait} (h : out.1 = .wait on) :
    (lift operation answer out).1 = .wait on := by
  obtain ⟨_, d⟩ := out
  cases h
  rfl

theorem lift_of_done {r : ρ} (h : out.1 = .done r) :
    (lift operation answer out).1 = .done (answer r) := by
  obtain ⟨_, d⟩ := out
  cases h
  rfl

end Operation

theorem Operation.lift_next {π ρ : Type} {operation : π → Operation} {answer : ρ → Result}
    {out : Turn π ρ × Daemon} (o : Operation) (h : (lift operation answer out).1 = .next o) :
    ∃ p, out.1 = .next p ∧ o = operation p ∧ (lift operation answer out).2 = out.2 := by
  obtain ⟨phase | on | r, d⟩ := out
  · cases h
    exact ⟨phase, rfl, rfl, rfl⟩
  · cases h
  · cases h

theorem Operation.lift_done {π ρ : Type} {operation : π → Operation} {answer : ρ → Result}
    {out : Turn π ρ × Daemon} {x : Result} (h : (lift operation answer out).1 = .done x) :
    ∃ r, out.1 = .done r ∧ x = answer r := by
  obtain ⟨phase | on | r, d⟩ := out
  · cases h
  · cases h
  · cases h
    exact ⟨r, rfl, rfl⟩

theorem Errand.settled_next {π ρ : Type} {errand : π → Errand} {leave : ρ → Daemon → Daemon}
    {out : Turn π ρ × Daemon} (e : Errand) (h : (settled errand leave out).1 = .next e) :
    ∃ p, out.1 = .next p ∧ e = errand p ∧ (settled errand leave out).2 = out.2 := by
  obtain ⟨phase | on | r, d⟩ := out
  · cases h
    exact ⟨phase, rfl, rfl, rfl⟩
  · cases h
  · cases h

namespace Errand

variable {π ρ : Type} (errand : π → Errand) (leave : ρ → Daemon → Daemon) {out : Turn π ρ × Daemon}

theorem settled_of_next {p : π} (h : out.1 = .next p) :
    (settled errand leave out).1 = .next (errand p) := by
  obtain ⟨_, d⟩ := out
  cases h
  rfl

theorem settled_of_wait {on : List Wait} (h : out.1 = .wait on) :
    (settled errand leave out).1 = .wait on := by
  obtain ⟨_, d⟩ := out
  cases h
  rfl

theorem settled_of_done {r : ρ} (h : out.1 = .done r) :
    (settled errand leave out).1 = .done () := by
  obtain ⟨_, d⟩ := out
  cases h
  rfl

end Errand

theorem Errand.settled_aloof {π ρ : Type} {errand : π → Errand} {leave : ρ → Daemon → Daemon}
    (aloof : ∀ r (d : Daemon), d.Aloof (leave r d)) (out : Turn π ρ × Daemon) :
    out.2.Aloof (settled errand leave out).2 := by
  obtain ⟨phase | on | r, d⟩ := out
  · exact .refl d
  · exact .refl d
  · exact aloof r d

theorem Errand.heed_leaves (token : Token) (crew : Place) (e : Errand) (d : Daemon) :
    Leaves e.stake.backend? e.write? d (e.heed token crew d).2 := by
  have left {π ρ : Type} (errand : π → Errand) (out : Turn π ρ × Daemon) :
      Leaves e.stake.backend? none out.2 (settled errand (fun _ => leave crew) out).2 :=
    .of_aloof (settled_aloof (fun _ d => leave_aloof crew d) out)
  cases e with
  | watch phase =>
      exact .of_aloof ((Watch.turn_aloof crew token phase d).trans
        (settled_aloof (fun r d => leaveWatch_aloof crew r d) _))
  | timer task phase =>
      exact (Timer.turn_leaves token task phase d).and_then (left _ _)
  | run phase => exact (Run.turn_leaves token phase d).and_then (left _ _)
  | delete phase => exact (Deletion.turn_leaves token phase d).and_then (left _ _)

/-- Every turn of every operation calls only the backend it has a stake in, and writes only what
the operation had in hand. -/
theorem Operation.heed_leaves (o : Operation) (token : Token) (d : Daemon) :
    Leaves o.stake.backend? o.write? d (o.heed token d).2 := by
  cases o with
  | create own goal phase =>
      rw [heed, lift_snd]
      exact Creation.turn_leaves token goal phase d
  | update phase =>
      rw [heed, lift_snd]
      exact Update.turn_leaves phase d
  | run own phase =>
      rw [heed, lift_snd]
      exact Run.turn_leaves token phase d
  | delete own phase =>
      rw [heed, lift_snd]
      exact Deletion.turn_leaves token phase d
  | control own phase =>
      rw [heed, lift_snd]
      exact .of_aloof (Controller.turn_aloof token phase d)
  | errand crew e =>
      rw [heed, lift_snd]
      exact Errand.heed_leaves token crew e d

end TaskSync
