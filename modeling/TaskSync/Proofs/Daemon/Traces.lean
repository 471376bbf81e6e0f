import TaskSync.Proofs.Daemon.Aside
import TaskSync.Proofs.Daemon.Steady

/-!
# Traces

What an operation on tasks can leave behind: entries of the registry, requests for deletion, stored
configurations, announcements of new schedules, records of runs, notices and completions. A backend
whose hooks mark a task or take it out of the registry does so on its own account, so what it does
is kept apart from the traces of the operation that calls it.
-/

namespace TaskSync

/-- Something that is left behind. -/
inductive Trace where
  | entry (task : String) (backend : Place) (templates : List String)
  | deletion (task : String)
  | config (c : TaskConfig)
  | schedule (task : String)
  | record (r : RunRecord)
  | notice (n : Notice)
  | completion (task : String)

namespace Trace

/-- The task that it is about. -/
def task : Trace → String
  | entry task _ _ | deletion task | schedule task | completion task => task
  | config c => c.nameOrEmpty
  | record r => r.taskName
  | notice n => n.taskName

def leave : Trace → Daemon → Daemon
  | entry task b templates, d =>
    match d.registry.add task b templates with
    | .ok registry => { d with registry }
    | .error _ => d
  | deletion task, d => d.requestDeletion task
  | config c, d => { d with store := d.store.setTask c }
  | schedule task, d => d.announceSchedule task
  | record r, d => { d with store := d.store.addRecord r }
  | notice n, d => d.publish n
  | completion task, d => d.notifyCompletion task

/-- An entry is left under a name that is free. -/
def Fits (d : Daemon) : Trace → Prop
  | entry task _ _ => d.registry.contains task = false
  | _ => True

/-- It says no more than that a run has ended. -/
def OfRun : Trace → Prop
  | record _ | notice (.runCompleted _ _ _) | completion _ => True
  | _ => False

end Trace

/-- No hook marks the task, asks for its deletion or takes it out of the registry. -/
structure BackendScript.Discreet (s : BackendScript) : Prop where
  mark : s.Avoids .mark
  delete : s.Avoids .delete
  unregister : s.Avoids .unregister

namespace Backend.Follows

variable {b b' : Backend}

theorem discreet (h : b.Follows b') (discreet : b.script.Discreet) : b'.script.Discreet where
  mark := (h.avoids_iff _).mpr discreet.mark
  delete := (h.avoids_iff _).mpr discreet.delete
  unregister := (h.avoids_iff _).mpr discreet.unregister

theorem symm (h : b.Follows b') : b'.Follows b where
  label := h.label.symm
  task := by
    rw [h.task]
  templates := h.templates.symm
  hooks := h.hooks.symm

end Backend.Follows

namespace Daemon

/-- All that an operation can leave behind is the same. -/
structure SameTraces (d d' : Daemon) : Prop where
  registry : d'.registry = d.registry
  deletes : d'.deletes = d.deletes
  created : d'.created = d.created
  store : d'.store = d.store
  bus : d'.bus = d.bus
  completions : d'.completions = d.completions

/-- The hooks that are asked are the same as well. -/
structure Resembles (b? : Option Place) (d d' : Daemon) : Prop extends SameTraces d d' where
  backend : ∀ b, b? = some b → (d.backend b).Follows (d'.backend b)

/-- What was left behind, in order, apart from what the hooks of the backend have done. -/
inductive Imprints (b? : Option Place) : List Trace → Daemon → Daemon → Prop where
  | still {d d' : Daemon} (same : Resembles b? d d') : Imprints b? [] d d'
  | hook {xs : List Trace} {d d' : Daemon} {b : Place} {h : Hook} {a : Action} (own : b? = some b)
      (member : h ∈ (d.backend b).script.hooks) (asked : a ∈ h.actions)
      (rest : Imprints b? xs (d.perform b a) d') : Imprints b? xs d d'
  | trace {x : Trace} {xs : List Trace} {d d' : Daemon} (fits : x.Fits d)
      (rest : Imprints b? xs (x.leave d) d') : Imprints b? (x :: xs) d d'

/-- The tasks are as they were: registry, queues and stored configurations. -/
structure Untouched (d d' : Daemon) : Prop where
  registry : d'.registry = d.registry
  deletes : d'.deletes = d.deletes
  created : d'.created = d.created
  tasks : d'.store.tasks = d.store.tasks

/-- Nothing is told of a run, or of anything else. -/
structure Silent (d d' : Daemon) : Prop where
  records : d'.store.records = d.store.records
  bus : d'.bus = d.bus
  completions : d'.completions = d.completions

/-! ### Daemons that resemble one another -/

namespace Resembles

variable {b? : Option Place} {d d' d'' : Daemon}

theorem refl (d : Daemon) : Resembles b? d d := ⟨⟨rfl, rfl, rfl, rfl, rfl, rfl⟩, fun _ _ => .refl _⟩

theorem trans (h : Resembles b? d d') (h' : Resembles b? d' d'') : Resembles b? d d'' where
  registry := h'.registry.trans h.registry
  deletes := h'.deletes.trans h.deletes
  created := h'.created.trans h.created
  store := h'.store.trans h.store
  bus := h'.bus.trans h.bus
  completions := h'.completions.trans h.completions
  backend b own := (h.backend b own).trans (h'.backend b own)

theorem log (d : Daemon) (line : JournalEntry) : Resembles b? d (d.log line) :=
  ⟨⟨rfl, rfl, rfl, rfl, rfl, rfl⟩, fun _ _ => .refl _⟩

theorem setBackend (d : Daemon) (b : Place) {x : Backend} (h : (d.backend b).Follows x) :
    Resembles b? d (d.setBackend b x) :=
  ⟨⟨rfl, rfl, rfl, rfl, rfl, rfl⟩, fun c _ => setBackend_follows d b h c⟩

theorem answer {α : Type} (d : Daemon) (b : Place) {f : BackendScript → α × BackendScript}
    (takes : Takes f) : Resembles b? d (d.answer b f).2 :=
  .setBackend d b ⟨rfl, rfl, (takes (d.backend b).script).1, (takes (d.backend b).script).2⟩

/-- Requests for deletion go by what is registered and what is queued. -/
theorem requestDeletion (h : Resembles b? d d') (task : String) :
    Resembles b? (d.requestDeletion task) (d'.requestDeletion task) := by
  unfold Daemon.requestDeletion
  rw [h.registry]
  split
  · exact h
  · simp only [h.deletes]
    split
    · exact ⟨⟨rfl, rfl, h.created, h.store, h.bus, h.completions⟩, h.backend⟩
    · exact ⟨⟨rfl, rfl, h.created, h.store, h.bus, h.completions⟩, h.backend⟩

/-- What a hook does goes by the name of its backend's task. -/
theorem perform (h : Resembles b? d d') {b : Place} (own : b? = some b) (a : Action) :
    Resembles b? (d.perform b a) (d'.perform b a) := by
  have follows := h.backend b own
  cases a with
  | cancel token =>
      obtain ⟨ts, hs, after⟩ := cancel_frame (d.namedToken token).2 (d.namedToken token).1
      obtain ⟨ts', hs', after'⟩ := cancel_frame (d'.namedToken token).2 (d'.namedToken token).1
      have left : d.perform b (.cancel token) = { d with tokens := ts, happenings := hs } := after
      have right : d'.perform b (.cancel token) = { d' with tokens := ts', happenings := hs' } :=
        after'
      rw [left, right]
      exact ⟨⟨h.registry, h.deletes, h.created, h.store, h.bus, h.completions⟩, h.backend⟩
  | enable =>
      refine ⟨⟨h.registry, h.deletes, h.created, h.store, h.bus, h.completions⟩, fun c own' => ?_⟩
      exact ((setBackend_follows d b (.setEnabled _ true) c).symm.trans (h.backend c own')).trans
        (setBackend_follows d' b (.setEnabled _ true) c)
  | disable =>
      refine ⟨⟨h.registry, h.deletes, h.created, h.store, h.bus, h.completions⟩, fun c own' => ?_⟩
      exact ((setBackend_follows d b (.setEnabled _ false) c).symm.trans (h.backend c own')).trans
        (setBackend_follows d' b (.setEnabled _ false) c)
  | mark =>
      refine ⟨⟨?_, h.deletes, h.created, h.store, h.bus, h.completions⟩, h.backend⟩
      show d'.registry.mark (d'.backend b).label.task = d.registry.mark (d.backend b).label.task
      rw [h.registry, follows.label]
  | delete =>
      have same : d'.perform b .delete = d'.requestDeletion (d.backend b).label.task := by
        rw [← follows.label]
        rfl
      rw [same]
      exact h.requestDeletion _
  | unregister =>
      simp only [Daemon.perform, follows.label, h.registry]
      split
      · exact ⟨⟨rfl, h.deletes, h.created, h.store, h.bus, h.completions⟩, h.backend⟩
      · exact h

theorem leave (h : Resembles b? d d') (x : Trace) : Resembles b? (x.leave d) (x.leave d') := by
  cases x with
  | entry task b templates =>
      simp only [Trace.leave, h.registry]
      split
      · exact ⟨⟨rfl, h.deletes, h.created, h.store, h.bus, h.completions⟩, h.backend⟩
      · exact h
  | deletion task => exact h.requestDeletion task
  | config c =>
      exact ⟨⟨h.registry, h.deletes, h.created, congrArg (·.setTask c) h.store, h.bus,
        h.completions⟩, h.backend⟩
  | schedule task =>
      simp only [Trace.leave, announceSchedule, h.created]
      split
      · exact ⟨⟨h.registry, h.deletes, rfl, h.store, h.bus, h.completions⟩, h.backend⟩
      · exact h
  | record r =>
      exact ⟨⟨h.registry, h.deletes, h.created, congrArg (·.addRecord r) h.store, h.bus,
        h.completions⟩, h.backend⟩
  | notice n =>
      exact ⟨⟨h.registry, h.deletes, h.created, h.store,
        congrArg (fun bus => (bus.publish n).2) h.bus, h.completions⟩, h.backend⟩
  | completion task =>
      simp only [Trace.leave, Daemon.notifyCompletion, h.completions]
      split
      · exact ⟨⟨h.registry, h.deletes, h.created, h.store, h.bus, rfl⟩, h.backend⟩
      · exact h

end Resembles

/-! ### What is left behind in one turn after the other -/

namespace Imprints

variable {b? : Option Place} {b : Place} {xs ys : List Trace} {d d' d'' : Daemon}

theorem of_resembles (same : Resembles b? d d') (h : Imprints b? xs d' d'') :
    Imprints b? xs d d'' := by
  induction h generalizing d with
  | still rest => exact .still (same.trans rest)
  | hook own member asked _ ih =>
      refine .hook own ?_ asked (ih (same.perform own _))
      rw [← (same.backend _ own).hooks]
      exact member
  | @trace x xs d' d'' fits _ ih =>
      refine .trace ?_ (ih (same.leave x))
      cases x with
      | entry =>
          have free : d'.registry.contains _ = false := fits
          rw [same.registry] at free
          exact free
      | _ => trivial

theorem refl (d : Daemon) : Imprints b? [] d d := .still (.refl d)

/-- Without a backend there is no hook to ask. -/
theorem unowned (same : SameTraces d d') : Imprints none [] d d' :=
  .still ⟨same, fun _ own => absurd own.symm (Option.some_ne_none _)⟩

theorem trans (h : Imprints b? xs d d') (h' : Imprints b? ys d' d'') :
    Imprints b? (xs ++ ys) d d'' := by
  induction h with
  | still same => exact h'.of_resembles same
  | hook own member asked _ ih => exact .hook own member asked (ih h')
  | trace fits _ ih => exact .trace fits (ih h')

theorem leaves {x : Trace} (fits : x.Fits d) : Imprints b? [x] d (x.leave d) :=
  .trace fits (.refl _)

theorem perform_follows (d : Daemon) (b c : Place) (a : Action) :
    (d.backend c).Follows ((d.perform b a).backend c) := by
  cases a with
  | enable => exact setBackend_follows d b (.setEnabled _ true) c
  | disable => exact setBackend_follows d b (.setEnabled _ false) c
  | cancel token =>
      obtain ⟨ts, hs, after⟩ := cancel_frame (d.namedToken token).2 (d.namedToken token).1
      have same : d.perform b (.cancel token) = { d with tokens := ts, happenings := hs } := after
      rw [same]
      exact .refl _
  | mark => exact .refl _
  | delete =>
      obtain ⟨r, box, hs, after, -⟩ := d.requestDeletion_frame (d.backend b).label.task
      have same : d.perform b .delete = _ := after
      rw [same]
      exact .refl _
  | unregister =>
      simp only [Daemon.perform]
      split
      · exact .refl _
      · exact .refl _

theorem hooks (actions : List Action)
    (asked : ∀ a ∈ actions, ∃ h ∈ (d.backend b).script.hooks, a ∈ h.actions) :
    Imprints (some b) [] d (actions.foldl (fun d a => d.perform b a) d) := by
  induction actions generalizing d with
  | nil => exact .refl d
  | cons a actions ih =>
      obtain ⟨h, member, has⟩ := asked a List.mem_cons_self
      refine .hook rfl member has (ih fun a' here => ?_)
      obtain ⟨h', member', has'⟩ := asked a' (List.mem_cons_of_mem a here)
      refine ⟨h', ?_, has'⟩
      rw [(perform_follows d b b a).hooks]
      exact member'

/-- A call does what the hooks ask for. -/
theorem call (d : Daemon) (b : Place) (kind : CallKind) :
    Imprints (some b) [] d (d.call b kind) := by
  have noted : Resembles (some b) d
      ((d.log (.called (d.backend b).label kind)).setBackend b ((d.backend b).note kind).2) :=
    (Resembles.log d _).trans (.setBackend (d.log (.called (d.backend b).label kind)) b
      ⟨rfl, rfl, rfl, rfl⟩)
  refine (hooks ((d.backend b).note kind).1 fun a member => ?_).of_resembles noted
  obtain ⟨hook, chosen, has⟩ := List.mem_flatMap.mp member
  refine ⟨hook, ?_, has⟩
  rw [(noted.backend b rfl).hooks]
  exact (List.mem_filter.mp chosen).1

theorem timed {α : Type} (c : TimedCall α) (takes : c.Takes) (b : Place) (token : Token)
    (p : Pending) (d : Daemon) : Imprints (some b) [] d (c.turn b token p d).2 := by
  cases p with
  | unsent =>
      have called := (call (d.answer b c.delay).2 b c.kind).of_resembles (.answer d b takes.1)
      simp only [TimedCall.turn]
      split
      · exact called.trans (.still (.answer _ b takes.2))
      · split
        · exact called.trans (.still (.log _ _))
        · exact called
  | delayed due =>
      simp only [TimedCall.turn]
      split
      · exact .still (.log d _)
      · split
        · exact .still ((Resembles.log d _).trans (.answer _ b takes.2))
        · exact .refl d

/-- A record is left unless the store refuses it. -/
theorem addRecord (b? : Option Place) (d : Daemon) (r : RunRecord) :
    ∃ xs, (xs = [] ∨ xs = [.record r]) ∧ Imprints b? xs d (d.addRecord r) := by
  obtain ⟨s, faults, after, how, -⟩ := d.write_frame .addRecord r.taskName (·.addRecord r)
  have same : d.addRecord r = _ := after
  rw [same]
  rcases how with ⟨-, rfl⟩ | ⟨-, rfl⟩
  · exact ⟨[.record r], .inr rfl, (leaves (x := .record r) trivial).trans
      (.still ⟨⟨rfl, rfl, rfl, rfl, rfl, rfl⟩, fun _ _ => .refl _⟩)⟩
  · exact ⟨[], .inl rfl, .still ⟨⟨rfl, rfl, rfl, rfl, rfl, rfl⟩, fun _ _ => .refl _⟩⟩

/-! ### What is left alone -/

theorem leave_backends (x : Trace) (d : Daemon) : (x.leave d).backends = d.backends := by
  cases x with
  | entry =>
      simp only [Trace.leave]
      split <;> rfl
  | deletion task =>
      obtain ⟨r, box, hs, after, -⟩ := d.requestDeletion_frame task
      rw [show Trace.leave (.deletion task) d = _ from after]
  | schedule task =>
      obtain ⟨box, hs, after⟩ := d.announceSchedule_frame task
      rw [show Trace.leave (.schedule task) d = _ from after]
  | completion task =>
      obtain ⟨c, after⟩ := d.notifyCompletion_frame task
      rw [show Trace.leave (.completion task) d = _ from after]
  | config | record | notice => rfl

/-- What is left of a run is none of the business of the tasks. -/
theorem untouched (h : Imprints b? xs d d') (ofRun : ∀ x ∈ xs, x.OfRun)
    (discreet : ∀ b, b? = some b → (d.backend b).script.Discreet) : d.Untouched d' := by
  induction h with
  | still same =>
      exact ⟨same.registry, same.deletes, same.created, congrArg MemoryStore.tasks same.store⟩
  | @hook xs d d' b h a own member asked _ ih =>
      have rest := ih ofRun fun c own' => (perform_follows d b c a).discreet (discreet c own')
      have discreet := discreet b own
      have first : d.Untouched (d.perform b a) := by
        cases a with
        | mark => exact absurd asked (discreet.mark h member)
        | delete => exact absurd asked (discreet.delete h member)
        | unregister => exact absurd asked (discreet.unregister h member)
        | enable | disable => exact ⟨rfl, rfl, rfl, rfl⟩
        | cancel token =>
            obtain ⟨ts, hs, after⟩ := cancel_frame (d.namedToken token).2 (d.namedToken token).1
            rw [show d.perform b (.cancel token) = { d with tokens := ts, happenings := hs }
              from after]
            exact ⟨rfl, rfl, rfl, rfl⟩
      exact ⟨rest.registry.trans first.registry, rest.deletes.trans first.deletes,
        rest.created.trans first.created, rest.tasks.trans first.tasks⟩
  | @trace x xs d d' fits _ ih =>
      obtain ⟨own, others⟩ := List.forall_mem_cons.mp ofRun
      have rest := ih others fun b own' => by
        rw [show (x.leave d).backend b = d.backend b by
          unfold Daemon.backend
          rw [leave_backends]]
        exact discreet b own'
      have first : d.Untouched (x.leave d) := by
        cases x with
        | record | notice => exact ⟨rfl, rfl, rfl, rfl⟩
        | completion task =>
            obtain ⟨c, after⟩ := d.notifyCompletion_frame task
            rw [show Trace.leave (.completion task) d = _ from after]
            exact ⟨rfl, rfl, rfl, rfl⟩
        | _ => cases own
      exact ⟨rest.registry.trans first.registry, rest.deletes.trans first.deletes,
        rest.created.trans first.created, rest.tasks.trans first.tasks⟩

/-- Hooks tell nobody of a run. -/
theorem silent (h : Imprints b? [] d d') : d.Silent d' := by
  generalize none : [] = xs at h
  induction h with
  | still same =>
      exact ⟨congrArg MemoryStore.records same.store, same.bus, same.completions⟩
  | trace => cases none
  | @hook xs d d' b h a own member asked _ ih =>
      have rest := ih none
      have first : d.Silent (d.perform b a) := by
        have unheard : ¬ d.Avoids a := fun avoids => avoids.made b h member asked
        have aside := d.perform_aside b unheard
        exact ⟨congrArg MemoryStore.records aside.store, aside.bus, aside.completions⟩
      exact ⟨rest.records.trans first.records, rest.bus.trans first.bus,
        rest.completions.trans first.completions⟩

end Imprints

end Daemon

end TaskSync
