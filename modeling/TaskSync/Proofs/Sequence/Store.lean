import TaskSync.Proofs.Sequence.Agreement
import TaskSync.Proofs.Traffic.Exclusion

/-!
# What the store holds between calls

The phase-by-phase agreement of registry and store, carried through whole calls and through
sequences of them. Beside it, what a call does to the configuration of a name that is not
registered: nothing, unless it is a creation of that name.
-/

namespace TaskSync

/-! ### Whole calls -/

/-- Registry and store agree, but for what the operation is about to store. -/
def Operation.Agrees (d : Daemon) : Operation → Prop
  | .create _ _ p => p.Agrees d
  | .update p => p.Agrees d
  | .run _ _ => d.Agrees
  | .delete _ p => p.Agrees d
  | .control _ _ | .errand _ _ => False

theorem Operation.turn_agrees (o : Operation) {d : Daemon} (plain : d.Plain) (h : o.Agrees d) :
    Keeps (fun o d => Operation.Agrees d o) Daemon.Agrees o (o.turn d) := by
  cases o with
  | create token goal p => exact (Creation.turn_agrees token goal p plain h).lift fun _ _ h => h
  | update p => exact (Update.turn_agrees p plain h).lift fun _ _ h => h
  | run token p =>
      have agrees := Run.turn_agrees token p plain h
      have kept : Keeps (fun _ d => d.Agrees) Daemon.Agrees p (Run.turn token p d) := by
        unfold Keeps
        split
        · exact agrees
        · exact agrees
        · exact agrees
      exact kept.lift fun _ _ h => h
  | delete token p => exact (Deletion.turn_agrees token p plain h).lift fun _ _ h => h
  | control token p => exact h.elim
  | errand crew e => exact h.elim

theorem Daemon.AgreesBut.drifts {d d' : Daemon} {except : String → Prop} (h : d.AgreesBut except)
    (drift : d.Drifts d') : d'.AgreesBut except := by
  refine h.kept (Nat.le_of_eq (by rw [drift.backends])) ?_ (fun b _ => drift.taskOf b)
    fun n f _ other => ⟨other, by rw [drift.store]⟩
  intro n f found
  rw [drift.registry] at found
  exact ⟨f, found, rfl⟩

theorem Operation.Agrees.drifts {o : Operation} {d d' : Daemon} (h : o.Agrees d)
    (drift : d.Drifts d') : o.Agrees d' := by
  have sole : ∀ b, Update.Sole b d → Update.Sole b d' := by
    intro b sole
    unfold Update.Sole
    rw [drift.backends, drift.taskOf, drift.registry]
    exact sole
  cases o with
  | create token goal p =>
      obtain ⟨agrees, same, placed⟩ := h
      refine ⟨agrees.drifts drift, fun task storing e found => ?_, fun b fresh => ?_⟩
      · rw [drift.registry] at found
        rw [drift.taskOf]
        exact same task storing e found
      · rw [drift.backends]
        exact placed b fresh
  | update p =>
      cases p with
      | start conf option => exact Daemon.AgreesBut.drifts h drift
      | patching held => exact ⟨sole _ h.1, Daemon.AgreesBut.drifts h.2 drift⟩
      | recording held record result =>
          obtain ⟨mine, enabled, agrees⟩ := h
          refine ⟨sole _ mine, ?_, ?_⟩
          · rw [drift.taskOf]
            exact enabled
          · rw [drift.taskOf]
            exact agrees.drifts drift
      | storing held conf plan =>
          obtain ⟨mine, same, agrees⟩ := h
          refine ⟨sole _ mine, ?_, ?_⟩
          · rw [drift.taskOf]
            exact same
          · rw [drift.taskOf]
            exact agrees.drifts drift
  | run token p => exact Daemon.AgreesBut.drifts h drift
  | delete token p =>
      refine ⟨h.1.drifts drift, fun task g storing => ?_⟩
      rw [drift.registry]
      exact h.2 task g storing
  | control token p => exact h.elim
  | errand crew e => exact h.elim

/-- An operation that has not begun has nothing to store. -/
theorem Request.agrees {q : Request} (alone : ∀ token, q ≠ .control token) {d : Daemon}
    (h : d.Agrees) : q.operation.Agrees d := by
  cases q with
  | create token goal conf =>
      refine ⟨h.weaken fun _ => False.elim, fun task no => ?_, fun b no => ?_⟩
      · cases no
      · cases no
  | update conf option => exact h
  | run token task => exact h
  | delete token task =>
      refine ⟨h, fun task g no => ?_⟩
      cases no
  | control token => exact absurd rfl (alone token)

theorem Keeps.and {π ρ : Type} {inv inv' : π → Daemon → Prop} {post post' : Daemon → Prop} {p : π}
    {out : Turn π ρ × Daemon} (h : Keeps inv post p out) (h' : Keeps inv' post' p out) :
    Keeps (fun p d => inv p d ∧ inv' p d) (fun d => post d ∧ post' d) p out := by
  obtain ⟨p' | on | r, d⟩ := out
  · exact ⟨h, h'⟩
  · exact ⟨h, h'⟩
  · exact ⟨h, h'⟩

theorem Keeps.of_after {π ρ : Type} {inv : Daemon → Prop} {p : π} {out : Turn π ρ × Daemon}
    (h : inv out.2) : Keeps (fun _ d => inv d) inv p out := by
  obtain ⟨p' | on | r, d⟩ := out <;> exact h

theorem Completes.agrees {o : Operation} {d d' : Daemon} {r : Operation.Result}
    (h : Completes o d r d') (plain : d.Plain) (agrees : o.Agrees d) : d'.Plain ∧ d'.Agrees := by
  refine Completes.induct (fun o d => d.Plain ∧ o.Agrees d)
    (fun d => d.Plain ∧ d.Agrees) (fun o d inv => ?_)
    (fun o d d' inv drift => ⟨inv.1.steady drift.quiet.toSteady, inv.2.drifts drift⟩) h
    ⟨plain, agrees⟩
  exact (Keeps.of_after (inv.1.steady (o.turn_leaves d).steady)).and (o.turn_agrees inv.1 inv.2)

theorem Served.agrees {event : Event} {d d' : Daemon} (h : Served event d d') (plain : d.Plain)
    (agrees : d.Agrees) : d'.Plain ∧ d'.Agrees := by
  cases h with
  | start d =>
      obtain ⟨lines, frame⟩ := Traffic.start_frame d
      rw [frame]
      exact ⟨plain.steady (.of_same rfl rfl rfl rfl), nofun, nofun, nofun⟩
  | requestDeletion task d =>
      have quiet := d.requestDeletion_quiet task
      obtain ⟨r, box, hs, frame, _⟩ := d.requestDeletion_frame task
      refine ⟨plain.steady quiet.toSteady, ?_⟩
      have sheds : d.Sheds (d.requestDeletion task) := .of_path (quiet.path (fun _ => False) none)
      rw [frame] at sheds ⊢
      exact agrees.kept (Nat.le_refl _) sheds (fun _ _ => rfl) fun _ _ _ other => ⟨other, rfl⟩
  | call alone completes => exact completes.agrees plain (Request.agrees alone agrees)

theorem Serves.agrees {events : List Event} {d d' : Daemon} (h : Serves d events d')
    (plain : d.Plain) (agrees : d.Agrees) : d'.Plain ∧ d'.Agrees := by
  induction h with
  | nil => exact ⟨plain, agrees⟩
  | cons first drift _ ih =>
      obtain ⟨plain, agrees⟩ := first.agrees plain agrees
      exact ih (plain.steady drift.quiet.toSteady) (agrees.drifts drift)

/-! ### Names that are not registered -/

/-- The event is a call that creates a task of the name and registers it. -/
def Event.Adds : Event → String → Prop
  | .call (.create _ goal conf), name => goal ≠ .inspect ∧ conf.nameOrEmpty = name
  | _, _ => False

/-- A creation that inspects its task has not applied, and will not store, anything. -/
def Creation.Phase.Inspecting : Phase → Prop
  | .applying _ _ _ | .recording _ _ | .storing _ => False
  | _ => True

theorem Creation.turn_inspecting {token : Token} {p p' : Phase} {d : Daemon} (h : p.Inspecting)
    (next : (turn token .inspect p d).1 = .next p') : p'.Inspecting := by
  cases p with
  | start conf =>
      obtain ⟨task, rfl, _⟩ := begin_name next
      trivial
  | making task =>
      simp only [turn] at next
      split at next
      · cases next
      · cases next
        trivial
  | rendering t call =>
      simp only [turn, render] at next
      split at next
      · cases next
      split at next
      · cases next
        trivial
      split at next
      · cases next
        trivial
      split at next
      · cases next
        trivial
      · cases next
      · cases next
        trivial
      · cases next
        trivial
      · cases next
        trivial
  | pausing t due =>
      simp only [turn] at next
      split at next
      · cases next
      split at next
      · cases next
        trivial
      · cases next
  | destroying b result => cases next
  | inspecting b =>
      cases next
      trivial
  | applying | recording | storing => exact h.elim

/-- The operation is not going to touch the configuration of the name. -/
def Operation.Spares (name : String) (d : Daemon) : Operation → Prop
  | .create _ goal p => p.name d ≠ name ∨ goal = .inspect ∧ p.Inspecting
  | .update p =>
    d.registry.find? name = none ∧ name ∉ p.names ∧
      ∀ b, p.stake.backend? = some b → (d.taskOf b).name ≠ name
  | .delete _ p => d.registry.find? name = none ∧ ∀ g, p ≠ .deletingTask name g
  | .run _ _ | .control _ _ | .errand _ _ => True

theorem Operation.Spares.untouched {o : Operation} {d : Daemon} {name : String}
    (agrees : o.Agrees d) (h : o.Spares name d) {w : Write} (write : o.write? = some w) :
    w.touches? ≠ some name := by
  cases o with
  | create token goal p =>
      cases p with
      | storing task =>
          cases write
          rintro ⟨rfl⟩
          rcases h with other | ⟨_, inspecting⟩
          · exact other rfl
          · exact inspecting
      | recording b record =>
          cases write
          rintro ⟨⟩
      | start | making | rendering | pausing | destroying | applying | inspecting => cases write
  | update p =>
      cases p with
      | start conf option => cases write
      | patching held =>
          simp only [write?, Update.Phase.write?] at write
          split at write
          · cases write
          · cases write
            rintro ⟨⟩
      | recording held record result =>
          cases write
          rintro ⟨⟩
      | storing held conf plan =>
          cases write
          intro touches
          exact h.2.1 (Option.mem_toList.mpr touches)
  | run token p =>
      obtain ⟨r, rfl⟩ := Run.write_record (p := p) write
      rintro ⟨⟩
  | delete token p =>
      cases p with
      | deletingTask task g =>
          cases write
          rintro ⟨rfl⟩
          exact h.2 g rfl
      | deletingRecords task g =>
          cases write
          rintro ⟨⟩
      | start | queued => cases write
  | control token p => exact agrees.elim
  | errand crew e => exact agrees.elim

theorem Update.Phase.stake_cases (p : Phase) :
    p.stake = .nothing ∨ ∃ g b, p.stake = .working g b := by
  cases p with
  | start conf option => exact .inl rfl
  | patching held => exact .inr ⟨_, _, rfl⟩
  | recording held record result => exact .inr ⟨_, _, rfl⟩
  | storing held conf plan => exact .inr ⟨_, _, rfl⟩

theorem Update.Phase.Agrees.known {p : Phase} {d : Daemon} (h : p.Agrees d) :
    (∀ n e, d.registry.find? n = some e → e.runner < d.backends.size ∧
      (d.taskOf e.runner).name = n) ∧
    ∀ b, p.stake.backend? = some b → b < d.backends.size := by
  cases p with
  | start conf option => exact ⟨fun n e found => ⟨h.inside n e found, h.named n e found⟩, nofun⟩
  | patching held =>
      refine ⟨fun n e found => ⟨h.2.inside n e found, h.2.named n e found⟩, fun b same => ?_⟩
      cases same
      exact h.1.1
  | recording held record result =>
      refine ⟨fun n e found => ⟨h.2.2.inside n e found, h.2.2.named n e found⟩, fun b same => ?_⟩
      cases same
      exact h.1.1
  | storing held conf plan =>
      refine ⟨fun n e found => ⟨h.2.2.inside n e found, h.2.2.named n e found⟩, fun b same => ?_⟩
      cases same
      exact h.1.1

/-- An update works on a task that is registered, so not on this one. -/
theorem Update.turn_spares {p : Phase} {d : Daemon} {name : String} (agrees : p.Agrees d)
    (h : (Operation.update p).Spares name d) :
    Keeps (fun p d => (Operation.update p).Spares name d) (fun _ => True) p (turn p d) := by
  have move := turn_move p d
  have steady := move.steady
  have absent : (turn p d).2.registry.find? name = none := by
    cases found : (turn p d).2.registry.find? name with
    | none => rfl
    | some f =>
        obtain ⟨e, there, _⟩ := move.path.entry_before found
        rw [h.1] at there
        cases there
  have same : ∀ b, p.stake.backend? = some b → ((turn p d).2.taskOf b).name ≠ name := by
    intro b backend
    rw [steady.name (agrees.known.2 b backend)]
    exact h.2.2 b backend
  unfold Keeps
  split
  next p' next =>
    rw [next] at move
    have backend : ∀ b, p'.stake.backend? = some b → ((turn p d).2.taskOf b).name ≠ name := by
      intro b backend
      rcases p'.stake_cases with nothing | ⟨g, c, working⟩
      · rw [nothing] at backend
        cases backend
      · rw [working] at backend
        cases backend
        rcases move.working g b working with old | ⟨task, e, found, _, runner | queued⟩
        · refine same b ?_
          have next : Turn.stake Phase.stake p (.next p' : Turn Phase Result) = p'.stake := rfl
          rw [← old, next, working]
          rfl
        · obtain ⟨inside, named⟩ := agrees.known.1 task e found
          rw [← runner, steady.name inside, named]
          rintro rfl
          rw [h.1] at found
          cases found
        · rcases p.stake_cases with nothing | ⟨g', c', working'⟩
          · rw [nothing] at queued
            cases queued
          · rw [working'] at queued
            cases queued
    refine ⟨absent, fun member => ?_, backend⟩
    rcases turn_inherits p d p' next name member with ⟨old, _⟩ | ⟨b, known, named⟩
    · exact h.2.1 old
    · exact backend b known named.symm
  · exact ⟨absent, h.2.1, same⟩
  · trivial

theorem Creation.turn_spares {token : Token} {goal : Goal} {p : Phase} {d : Daemon} {name : String}
    (agrees : p.Agrees d) (h : (Operation.create token goal p).Spares name d) :
    Keeps (fun p d => (Operation.create token goal p).Spares name d) (fun _ => True) p
      (turn token goal p d) := by
  unfold Keeps
  split
  next p' next =>
    rcases h with other | ⟨rfl, inspecting⟩
    · left
      rw [turn_name agrees.2.2 next]
      exact other
    · exact .inr ⟨rfl, turn_inspecting inspecting next⟩
  · rcases h with other | inspecting
    · left
      rw [Phase.name_steady (turn_leaves token goal p d).steady agrees.2.2]
      exact other
    · exact .inr inspecting
  · trivial

/-- A deletion goes on to the store with the name of an entry, so not with this one. -/
theorem Deletion.turn_spares {token : Token} {p : Phase} {d : Daemon} {name : String}
    (h : (Operation.delete token p).Spares name d) :
    Keeps (fun p d => (Operation.delete token p).Spares name d) (fun _ => True) p
      (turn token p d) := by
  have absent : (turn token p d).2.registry.find? name = none := by
    cases found : (turn token p d).2.registry.find? name with
    | none => rfl
    | some f =>
        obtain ⟨e, there, _⟩ := (turn_move token p d).path.entry_before found
        rw [h.1] at there
        cases there
  unfold Keeps
  split
  next p' next =>
    refine ⟨absent, fun g same => ?_⟩
    subst same
    obtain ⟨⟨e, found⟩, _⟩ := turn_next next
    rw [h.1] at found
    cases found
  · exact ⟨absent, h.2⟩
  · trivial

theorem Operation.turn_spares {o : Operation} {d : Daemon} {name : String} (agrees : o.Agrees d)
    (h : o.Spares name d) :
    Keeps (fun o d => o.Spares name d) (fun _ => True) o (o.turn d) := by
  cases o with
  | create token goal p => exact (Creation.turn_spares agrees h).lift fun _ _ h => h
  | update p => exact (Update.turn_spares agrees h).lift fun _ _ h => h
  | run token p =>
      have kept : Keeps (fun _ _ => True) (fun _ => True) p (Run.turn token p d) :=
        .of_after trivial
      exact kept.lift fun _ _ h => h
  | delete token p => exact (Deletion.turn_spares h).lift fun _ _ h => h
  | control token p => exact agrees.elim
  | errand crew e => exact agrees.elim

theorem Operation.Spares.drifts {o : Operation} {d d' : Daemon} {name : String}
    (h : o.Spares name d) (drift : d.Drifts d') : o.Spares name d' := by
  cases o with
  | create token goal p =>
      refine h.imp_left fun other => ?_
      have same : p.name d' = p.name d := by
        cases p <;> first | rfl | exact congrArg Task.name (drift.taskOf _)
      rw [same]
      exact other
  | update p =>
      refine ⟨?_, h.2.1, fun b backend => ?_⟩
      · rw [drift.registry]
        exact h.1
      · rw [drift.taskOf]
        exact h.2.2 b backend
  | delete token p =>
      refine ⟨?_, h.2⟩
      rw [drift.registry]
      exact h.1
  | run | control | errand => trivial

/-- A whole call that spares a name leaves its configuration as it is. -/
theorem Completes.spares {o : Operation} {d d' : Daemon} {r : Operation.Result} {name : String}
    (h : Completes o d r d') (plain : d.Plain) (agrees : o.Agrees d) (spares : o.Spares name d) :
    d'.store.getTask name = d.store.getTask name := by
  have whole := Completes.induct
    (fun o x => (x.Plain ∧ o.Agrees x) ∧ o.Spares name x ∧
      x.store.getTask name = d.store.getTask name)
    (fun x => (x.Plain ∧ x.Agrees) ∧ True ∧ x.store.getTask name = d.store.getTask name)
    (fun o x inv => ?_) (fun o x x' inv drift => ?_) h ⟨⟨plain, agrees⟩, spares, rfl⟩
  · exact whole.2.2
  · obtain ⟨⟨plain, agrees⟩, spares, same⟩ := inv
    have leaves := o.turn_leaves x
    have stored : (o.turn x).2.store.getTask name = d.store.getTask name :=
      (leaves.getTask_eq fun w write => spares.untouched agrees write).trans same
    exact ((Keeps.of_after (plain.steady leaves.steady)).and (o.turn_agrees plain agrees)).and
      ((Operation.turn_spares agrees spares).and (Keeps.of_after stored))
  · obtain ⟨⟨plain, agrees⟩, spares, same⟩ := inv
    refine ⟨⟨plain.steady drift.quiet.toSteady, agrees.drifts drift⟩, spares.drifts drift, ?_⟩
    rw [drift.store]
    exact same

theorem Served.spares {event : Event} {d d' : Daemon} {name : String} (h : Served event d d')
    (plain : d.Plain) (agrees : d.Agrees) (absent : d.registry.find? name = none)
    (other : ¬ event.Adds name) : d'.store.getTask name = d.store.getTask name := by
  cases h with
  | start d => exact congrArg (·.getTask name) (Traffic.affect_store .start d)
  | requestDeletion task d =>
      exact congrArg (·.getTask name) (Traffic.affect_store (.requestDeletion task) d)
  | @call q d d' r alone completes =>
      refine completes.spares plain (Request.agrees alone agrees) ?_
      cases q with
      | create token goal conf =>
          by_cases inspect : goal = .inspect
          · exact .inr ⟨inspect, trivial⟩
          · exact .inl fun same => other ⟨inspect, same⟩
      | update conf option => exact ⟨absent, nofun, nofun⟩
      | run token task => trivial
      | delete token task => exact ⟨absent, nofun⟩
      | control token => exact absurd rfl (alone token)

/-- Registry and store agree between calls, and no call but a creation of the name touches the
configuration of a name that is not registered. -/
theorem registry_store_agree (d : Daemon) (empty : d.registry = .empty) (reliable : d.Reliable)
    (on : d.Avoids .enable) (off : d.Avoids .disable) (events : List Event) (d' : Daemon)
    (served : Serves d events d') :
    (∀ n e, d'.registry.find? n = some e → (d'.taskOf e.runner).name = n ∧
      d'.store.getTask n = some (d'.taskOf e.runner).toConfig) ∧
    ∀ event d'', Served event d' d'' → ∀ n, d'.registry.find? n = none → ¬ event.Adds n →
      d''.store.getTask n = d'.store.getTask n := by
  have start : d.Agrees := by
    have none : ∀ n e, d.registry.find? n ≠ some e := by
      intro n e found
      rw [empty] at found
      cases found
    exact ⟨fun n e found => absurd found (none n e), fun n e found => absurd found (none n e),
      fun n e found => absurd found (none n e)⟩
  obtain ⟨plain, agrees⟩ := served.agrees ⟨reliable, on, off⟩ start
  exact ⟨fun n e found => ⟨agrees.named n e found, agrees.stored n e found id⟩,
    fun event d'' one n absent other => one.spares plain agrees absent other⟩

open Traffic in
/-- A task is created and then disabled. -/
theorem registry_store_agree_sample :
    ∃ d', (sample.daemon .default).serve 5 20
        [.create ⟨0⟩ .add sampleTask, .update (sampleTask.withEnabled false) .default] = some d' ∧
      (∀ n e, d'.registry.find? n = some e → (d'.taskOf e.runner).name = n ∧
        d'.store.getTask n = some (d'.taskOf e.runner).toConfig) ∧
      (d'.registry.find? "a").map (·.runner) = some 0 ∧ (d'.taskOf 0).enabled = false := by
  refine ⟨((sample.daemon .default).serve 5 20
    [.create ⟨0⟩ .add sampleTask, .update (sampleTask.withEnabled false) .default]).get (by decide),
    (Option.some_get _).symm, ?_, by decide, by decide⟩
  exact (registry_store_agree (sample.daemon .default) rfl sample_reliable (sample_avoids .enable)
    (sample_avoids .disable) _ _
    (Daemon.serves (by simp) (Option.some_get _).symm)).1

end TaskSync
