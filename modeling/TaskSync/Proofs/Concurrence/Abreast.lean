import TaskSync.Proofs.Daemon.Spares
import TaskSync.Proofs.Daemon.Twin
import TaskSync.Proofs.Sequence.Halting

/-!
# A creation among others and alone

Two daemons stand abreast in a creation if they agree on what belongs to the name of its task. One
of them may have made other backends in the meantime and registered, stored and recorded other
tasks, so the backend of the creation can have another place in it, and its run record another
number. A turn of the creation that both take with the same clock and the same tokens leaves them
abreast, has the same result in both, and spares all other names.
-/

namespace TaskSync

namespace Daemon

/-- Both daemons have the same under a name, backends and entries aside. -/
structure Along (name : String) (s d : Daemon) : Prop where
  setting : s.setting = d.setting
  wall : s.wall = d.wall
  config : s.store.config = d.store.config
  left : s.Reliable
  right : d.Reliable
  made : s.made.get? name = d.made.get? name
  task : s.store.getTask name = d.store.getTask name
  records : s.store.bareRecords name = d.store.bareRecords name

namespace Along

variable {name : String} {s s' d d' : Daemon}

theorem refl (name : String) (reliable : d.Reliable) : Along name d d :=
  ⟨rfl, rfl, rfl, reliable, reliable, rfl, rfl, rfl⟩

theorem retains (h : Along name s d) (left : Retains name s s') (right : Retains name d d') :
    Along name s' d' where
  setting := by rw [left.setting, right.setting, h.setting]
  wall := by rw [left.wall, right.wall, h.wall]
  config := by rw [left.config, right.config, h.config]
  left := left.reliable h.left
  right := right.reliable h.right
  made := by rw [left.made, right.made, h.made]
  task := by rw [left.task, right.task, h.task]
  records := by rw [left.bareRecords, right.bareRecords, h.records]

/-- The same backend is asked for in both. -/
theorem make (h : Along name s d) {t : Task} {r r' : Except BackendError Place}
    (own : t.name = name) (left : s.make t = (r, s')) (right : d.make t = (r', d')) :
    Along name s' d' := by
  obtain ⟨made, setting, wall, store, faults, -⟩ := make_made left
  obtain ⟨made', setting', wall', store', faults', -⟩ := make_made right
  refine ⟨?_, ?_, ?_, ?_, ?_, ?_, ?_, ?_⟩
  · rw [setting, setting', h.setting]
  · rw [wall, wall', h.wall]
  · rw [store, store', h.config]
  · unfold Reliable
    rw [faults]
    exact h.left
  · unfold Reliable
    rw [faults']
    exact h.right
  · rw [made, made', own, SortedMap.get?_put, SortedMap.get?_put, if_pos rfl, if_pos rfl, h.made]
  · rw [store, store', h.task]
  · rw [store, store', h.records]

/-- Records that differ in their numbers and times at most are added in both. -/
theorem addRecord (h : Along name s d) {r r' : RunRecord} (same : r.bare = r'.bare)
    (own : r.taskName = name) : Along name (s.addRecord r) (d.addRecord r') := by
  have own' : r'.taskName = name := (RunRecord.bare_taskName same).symm.trans own
  obtain ⟨faults, after, silent⟩ := addRecord_ok h.left r
  obtain ⟨faults', after', silent'⟩ := addRecord_ok h.right r'
  rw [after, after']
  refine ⟨h.setting, h.wall, h.config, silent, silent', h.made, h.task, ?_⟩
  show (s.store.addRecord r).bareRecords name = (d.store.addRecord r').bareRecords name
  have added := s.store.bareRecords_addRecord r
  have added' := d.store.bareRecords_addRecord r'
  rw [own] at added
  rw [own'] at added'
  rw [added, added', same, h.records, h.config]

/-- The same configuration is stored in both. -/
theorem setTask (h : Along name s d) (c : TaskConfig) :
    Along name (s.setTask c).2 (d.setTask c).2 := by
  obtain ⟨faults, after, silent⟩ := setTask_ok h.left c
  obtain ⟨faults', after', silent'⟩ := setTask_ok h.right c
  rw [after, after']
  refine ⟨h.setting, h.wall, h.config, silent, silent', h.made, ?_, h.records⟩
  show (s.store.setTask c).getTask name = (d.store.setTask c).getTask name
  rw [MemoryStore.getTask_setTask, MemoryStore.getTask_setTask, h.task]

end Along

end Daemon

open Daemon (Along Spares Retains Twin)

/-- Two turns, of which both go on, both wait or both end. -/
inductive Couples {π ρ : Type} (inv : π → π → Daemon → Daemon → Prop)
    (post : ρ → ρ → Daemon → Daemon → Prop) (p p' : π) :
    Turn π ρ × Daemon → Turn π ρ × Daemon → Prop where
  | next {q q' : π} {s d : Daemon} (kept : inv q q' s d) :
      Couples inv post p p' (.next q, s) (.next q', d)
  | wait {on on' : List Wait} {s d : Daemon} (kept : inv p p' s d) :
      Couples inv post p p' (.wait on, s) (.wait on', d)
  | done {r r' : ρ} {s d : Daemon} (shown : post r r' s d) :
      Couples inv post p p' (.done r, s) (.done r', d)

namespace Creation

variable {conf : TaskConfig} {entry : Option (Entry Place)} {d₀ s s' d d' : Daemon}
variable {b b' : Place}

/-- The creation has the same backend in both daemons, which is not registered. -/
structure Paired (conf : TaskConfig) (b b' : Place) (s d : Daemon) : Prop where
  named : conf.name = some conf.nameOrEmpty
  label : (d.backend b').label.task = conf.nameOrEmpty
  own : (d.taskOf b').name = conf.nameOrEmpty
  backend : s.backend b = d.backend b'
  left : s.Unlisted b
  right : d.Unlisted b'

/-- The task is registered, with a backend that was made for it. -/
structure Registered (conf : TaskConfig) (d : Daemon) (b : Place) : Prop where
  entry : d.registry.get? conf.nameOrEmpty = some b
  inside : b < d.backends.size
  label : (d.backend b).label.task = conf.nameOrEmpty

/-- The creation is in the same place in both daemons. `entry` is what the registry has under the
name as long as the creation has not registered its task. -/
inductive Phase.Abreast (conf : TaskConfig) (entry : Option (Entry Place)) (s d : Daemon) :
    Phase → Phase → Prop where
  | start (left : s.registry.find? conf.nameOrEmpty = entry)
      (right : d.registry.find? conf.nameOrEmpty = entry) :
      Abreast conf entry s d (.start conf) (.start conf)
  | making {task : Task} (free : entry = none) (named : conf.name = some conf.nameOrEmpty)
      (own : task.name = conf.nameOrEmpty) (left : s.registry.find? conf.nameOrEmpty = none)
      (right : d.registry.find? conf.nameOrEmpty = none) :
      Abreast conf entry s d (.making task) (.making task)
  | rendering {b b' : Place} {since : Nat} {overridden : Bool} {call : Pending}
      (free : entry = none) (pair : Paired conf b b' s d) :
      Abreast conf entry s d (.rendering ⟨b, since, overridden⟩ call)
        (.rendering ⟨b', since, overridden⟩ call)
  | pausing {b b' : Place} {since due : Nat} {overridden : Bool}
      (free : entry = none) (pair : Paired conf b b' s d) :
      Abreast conf entry s d (.pausing ⟨b, since, overridden⟩ due)
        (.pausing ⟨b', since, overridden⟩ due)
  | destroying {b b' : Place} {e : Failure} (free : entry = none) (pair : Paired conf b b' s d) :
      Abreast conf entry s d (.destroying b (.error e)) (.destroying b' (.error e))
  | applying {b b' : Place} {record record' : RunRecord} {call : Pending} (free : entry = none)
      (pair : Paired conf b b' s d) (same : record.bare = record'.bare)
      (about : record.taskName = conf.nameOrEmpty) :
      Abreast conf entry s d (.applying b record call) (.applying b' record' call)
  | recording {b b' : Place} {record record' : RunRecord} (free : entry = none)
      (pair : Paired conf b b' s d) (same : record.bare = record'.bare)
      (about : record.taskName = conf.nameOrEmpty) :
      Abreast conf entry s d (.recording b record) (.recording b' record')
  | storing {b : Place} {task : Task} (free : entry = none)
      (named : conf.name = some conf.nameOrEmpty) (own : task.name = conf.nameOrEmpty)
      (registered : Registered conf d b) :
      Abreast conf entry s d (.storing task) (.storing task)

/-- Both have come to the same. A creation that has failed leaves the entry of its name, one that
has succeeded was given a free name and has stored and registered its task. -/
inductive Result.Abreast (conf : TaskConfig) (entry : Option (Entry Place)) (d : Daemon) :
    Result → Result → Prop where
  | failed (e : Failure) (left : d.registry.find? conf.nameOrEmpty = entry) :
      Abreast conf entry d (.error e) (.error e)
  | created {b : Place} (c : TaskConfig) (free : entry = none)
      (named : conf.name = some conf.nameOrEmpty)
      (stored : d.store.getTask conf.nameOrEmpty = some c) (registered : Registered conf d b) :
      Abreast conf entry d (.ok (.config c)) (.ok (.config c))

/-- Both daemons stand abreast in a creation, and of them the second one, which was `d₀` before,
has what it had under other names. -/
structure Stands (conf : TaskConfig) (entry : Option (Entry Place)) (d₀ : Daemon) (p p' : Phase)
    (s d : Daemon) : Prop where
  along : Along conf.nameOrEmpty s d
  far : ∀ other, other ≠ conf.nameOrEmpty → d₀.Spares other d
  abreast : p.Abreast conf entry s d p'

/-- Both daemons stand abreast at the end of a creation. -/
structure Closes (conf : TaskConfig) (entry : Option (Entry Place)) (d₀ : Daemon) (r r' : Result)
    (s d : Daemon) : Prop where
  along : Along conf.nameOrEmpty s d
  far : ∀ other, other ≠ conf.nameOrEmpty → d₀.Spares other d
  result : r.Abreast conf entry d r'

/-! ### What others do -/

/-- Changes that leave the backend and the entry of the name. -/
theorem Paired.kept (h : Paired conf b b' s d) (size : s.backends.size ≤ s'.backends.size)
    (size' : d.backends.size ≤ d'.backends.size) (backend : s'.backend b = s.backend b)
    (backend' : d'.backend b' = d.backend b')
    (entry : s'.registry.find? conf.nameOrEmpty = s.registry.find? conf.nameOrEmpty)
    (entry' : d'.registry.find? conf.nameOrEmpty = d.registry.find? conf.nameOrEmpty) :
    Paired conf b b' s' d' := by
  have free := h.left.free
  have free' := h.right.free
  rw [h.backend, h.label] at free
  rw [h.label] at free'
  refine ⟨h.named, by rw [backend', h.label], ?_, by rw [backend, backend', h.backend],
    ⟨Nat.lt_of_lt_of_le h.left.inside size, ?_⟩, ⟨Nat.lt_of_lt_of_le h.right.inside size', ?_⟩⟩
  · unfold Daemon.taskOf
    rw [backend']
    exact h.own
  · rw [backend, h.backend, h.label, entry, free]
  · rw [backend', h.label, entry', free']

theorem Paired.spares (h : Paired conf b b' s d) (left : Spares conf.nameOrEmpty s s')
    (right : Spares conf.nameOrEmpty d d') : Paired conf b b' s' d' := by
  have backend : s'.backend b = s.backend b :=
    left.backend b h.left.inside (by rw [h.backend, h.label])
  exact h.kept left.size right.size backend (right.backend b' h.right.inside h.label) left.entry
    right.entry

/-- As long as the backend is not registered, the name is free. -/
theorem Paired.unnamed (h : Paired conf b b' s d) (free : entry = none) :
    d.registry.find? conf.nameOrEmpty = entry := by
  rw [free, ← h.label]
  exact h.right.free

theorem Registered.spares (h : Registered conf d b) (right : Spares conf.nameOrEmpty d d') :
    Registered conf d' b := by
  refine ⟨?_, Nat.lt_of_lt_of_le h.inside right.size, ?_⟩
  · rw [Registry.get?, right.entry]
    exact h.entry
  · rw [right.backend b h.inside h.label, h.label]

theorem Phase.Abreast.spares {p p' : Phase} (h : p.Abreast conf entry s d p')
    (left : Spares conf.nameOrEmpty s s') (right : Spares conf.nameOrEmpty d d') :
    p.Abreast conf entry s' d' p' := by
  cases h with
  | start here there => exact .start (left.entry.trans here) (right.entry.trans there)
  | making free named own here there =>
      exact .making free named own (left.entry.trans here) (right.entry.trans there)
  | rendering free pair => exact .rendering free (pair.spares left right)
  | pausing free pair => exact .pausing free (pair.spares left right)
  | destroying free pair => exact .destroying free (pair.spares left right)
  | applying free pair same about => exact .applying free (pair.spares left right) same about
  | recording free pair same about => exact .recording free (pair.spares left right) same about
  | storing free named own registered =>
      exact .storing free named own (registered.spares right)

theorem Result.Abreast.spares {r r' : Result} (h : r.Abreast conf entry d r')
    (right : Spares conf.nameOrEmpty d d') : r.Abreast conf entry d' r' := by
  cases h with
  | failed e there => exact .failed e (right.entry.trans there)
  | created c free named stored registered =>
      exact .created c free named (right.task.trans stored) (registered.spares right)

/-! ### In the middle of a turn -/

/-- Between the calls of a turn, both daemons agree on all that the calls read. -/
structure Midway (conf : TaskConfig) (d₀ : Daemon) (b b' : Place) (s d : Daemon) : Prop where
  along : Along conf.nameOrEmpty s d
  far : ∀ other, other ≠ conf.nameOrEmpty → d₀.Spares other d
  pair : Paired conf b b' s d
  clock : s.clock = d.clock
  tokens : s.tokens = d.tokens

namespace Midway

theorem twin (h : Midway conf d₀ b b' s d) : Twin b b' s d :=
  ⟨h.clock, h.along.wall, h.tokens, h.pair.backend, h.pair.left, h.pair.right⟩

theorem isCanceled (h : Midway conf d₀ b b' s d) (t : Token) : s.isCanceled t = d.isCanceled t :=
  h.twin.isCanceled t

theorem taskOf (h : Midway conf d₀ b b' s d) : s.taskOf b = d.taskOf b' := h.twin.taskOf

theorem attends {kinds kinds' : List CallKind} (h : Midway conf d₀ b b' s d)
    (left : s.Attends b kinds s') (right : d.Attends b' kinds' d') (twin : Twin b b' s' d') :
    Midway conf d₀ b b' s' d' where
  along := h.along.retains (.of_attends left) (.of_attends right)
  far other apart :=
    (h.far other apart).trans (.of_attends right (by rw [h.pair.label]; exact apart.symm))
  pair := by
    have follows := right.follows b'
    refine ⟨h.pair.named, by rw [follows.label, h.pair.label], ?_, twin.backend, twin.left,
      twin.right⟩
    show (d'.backend b').task.name = _
    rw [follows.name]
    exact h.pair.own
  clock := twin.clock
  tokens := twin.tokens

theorem call (h : Midway conf d₀ b b' s d) (kind : CallKind) :
    Midway conf d₀ b b' (s.call b kind) (d.call b' kind) :=
  h.attends (Daemon.call_attends h.pair.left kind) (Daemon.call_attends h.pair.right kind)
    (h.twin.call kind)

theorem timed {α : Type} (h : Midway conf d₀ b b' s d) (c : TimedCall α) (takes : c.Takes)
    (token : Token) (p : Pending) :
    (c.turn b token p s).1 = (c.turn b' token p d).1 ∧
      Midway conf d₀ b b' (c.turn b token p s).2 (c.turn b' token p d).2 := by
  obtain ⟨same, twin⟩ := c.turn_twin takes token p h.twin
  exact ⟨same, h.attends (c.turn_attends takes token p h.pair.left)
    (c.turn_attends takes token p h.pair.right) twin⟩

/-- Changes that spare all names. -/
theorem spares (h : Midway conf d₀ b b' s d) (left : ∀ name, Spares name s s')
    (right : ∀ name, Spares name d d') (clock : s'.clock = d'.clock)
    (tokens : s'.tokens = d'.tokens) : Midway conf d₀ b b' s' d' where
  along := h.along.retains (left _).toRetains (right _).toRetains
  far other apart := (h.far other apart).trans (right other)
  pair := h.pair.spares (left _) (right _)
  clock := clock
  tokens := tokens

end Midway

/-! ### Turns -/

section

variable {p p' : Phase} {token : Token}

/-- The name is free in both daemons, so both register the task. -/
theorem register_couples (free : entry = none) (h : Midway conf d₀ b b' s d) :
    Couples (Stands conf entry d₀) (Closes conf entry d₀) p p' (register b s) (register b' d) := by
  have called := h.call .buffer
  have unnamed := called.pair.left.free
  have unnamed' := called.pair.right.free
  rw [called.pair.backend, called.pair.label] at unnamed
  rw [called.pair.label] at unnamed'
  unfold register
  simp only
  rw [called.taskOf, called.pair.own]
  split
  next e failed =>
    obtain ⟨⟨f, found⟩, -⟩ := Registry.add_eq_error failed
    rw [unnamed] at found
    cases found
  next listed added =>
    split
    next e failed =>
      obtain ⟨⟨f, found⟩, -⟩ := Registry.add_eq_error failed
      rw [unnamed'] at found
      cases found
    next listed' added' =>
      refine .next ⟨?_, fun other apart => ?_, ?_⟩
      · exact ⟨called.along.setting, called.along.wall, called.along.config, called.along.left,
          called.along.right, called.along.made, called.along.task, called.along.records⟩
      · exact (called.far other apart).trans (.register added' apart)
      · have registered : Registered conf
            { d.call b' .buffer with registry := listed' } b' := by
          refine ⟨?_, called.pair.right.inside, called.pair.label⟩
          rw [Registry.get?, Registry.find?_add added', if_pos rfl]
          rfl
        exact .storing free h.pair.named called.pair.own registered

theorem rendered_couples (free : entry = none) (h : Midway conf d₀ b b' s d) :
    Couples (Stands conf entry d₀) (Closes conf entry d₀) p p' (rendered .runAndAdd b s)
      (rendered .runAndAdd b' d) := by
  have called := h.call .override
  unfold rendered
  simp only
  rw [called.taskOf]
  split
  · have started := called.spares (fun _ => .startRecord _ ((d.call b' .override).taskOf b'))
      (fun _ => .startRecord _ ((d.call b' .override).taskOf b')) called.clock called.tokens
    exact .next ⟨started.along, started.far, .applying free started.pair rfl called.pair.own⟩
  · exact register_couples free called

theorem render_couples (token : Token) (since : Nat) (overridden : Bool) (call : Pending)
    (free : entry = none) (h : Midway conf d₀ b b' s d) :
    Couples (Stands conf entry d₀) (Closes conf entry d₀) (.rendering ⟨b, since, overridden⟩ call)
      (.rendering ⟨b', since, overridden⟩ call)
      (render token .runAndAdd ⟨b, since, overridden⟩ call s)
      (render token .runAndAdd ⟨b', since, overridden⟩ call d) := by
  unfold render
  simp only
  rw [h.isCanceled, h.clock, h.taskOf]
  split
  · exact .done ⟨h.along, h.far, .failed _ (h.pair.unnamed free)⟩
  split
  · exact .next ⟨h.along, h.far, .destroying free h.pair⟩
  split
  · have called := h.call .override
    exact .next ⟨called.along, called.far, .rendering free called.pair⟩
  obtain ⟨same, midway⟩ := h.timed TimedCall.render TimedCall.render_takes token call
  cases left : TimedCall.render.turn b token call s with
  | mk o s₁ =>
    cases right : TimedCall.render.turn b' token call d with
    | mk o' d₁ =>
      rw [left, right] at same midway
      obtain rfl : o = o' := same
      split <;> rename_i eq <;> cases eq
      · exact .next ⟨midway.along, midway.far, .rendering free midway.pair⟩
      · exact .wait ⟨midway.along, midway.far, .rendering free midway.pair⟩
      · exact rendered_couples free midway
      · have clock : s₁.clock = d₁.clock := midway.clock
        rw [clock]
        exact .next ⟨midway.along, midway.far, .pausing free midway.pair⟩
      · exact .next ⟨midway.along, midway.far, .destroying free midway.pair⟩

theorem apply_couples (token : Token) {record record' : RunRecord} (call : Pending)
    (free : entry = none) (h : Midway conf d₀ b b' s d) (same : record.bare = record'.bare)
    (about : record.taskName = conf.nameOrEmpty) :
    Couples (Stands conf entry d₀) (Closes conf entry d₀) (.applying b record call)
      (.applying b' record' call) (turn token .runAndAdd (.applying b record call) s)
      (turn token .runAndAdd (.applying b' record' call) d) := by
  obtain ⟨alike, midway⟩ := h.timed TimedCall.apply TimedCall.apply_takes token call
  cases left : TimedCall.apply.turn b token call s with
  | mk o s₁ =>
    cases right : TimedCall.apply.turn b' token call d with
    | mk o' d₁ =>
      rw [left, right] at alike midway
      obtain rfl : o = o' := alike
      simp only [turn, left, right]
      split <;> rename_i eq <;> cases eq
      · exact .next ⟨midway.along, midway.far, .applying free midway.pair same about⟩
      · exact .wait ⟨midway.along, midway.far, .applying free midway.pair same about⟩
      · simp only
        rw [RunRecord.bare_taskName same]
        exact .done ⟨midway.along, midway.far, .failed _ (midway.pair.unnamed free)⟩
      · have wall : s₁.wall = d₁.wall := midway.along.wall
        have told := midway.spares
          (fun _ => .publish s₁ (.runCompleted record.taskName true none))
          (fun _ => .publish d₁ (.runCompleted record'.taskName true none)) midway.clock
          midway.tokens
        rw [wall]
        exact .next ⟨told.along, told.far,
          .recording free told.pair (RunRecord.bare_succeed same _) about⟩

theorem record_couples (token : Token) {record record' : RunRecord} (free : entry = none)
    (h : Midway conf d₀ b b' s d) (same : record.bare = record'.bare)
    (about : record.taskName = conf.nameOrEmpty) :
    Couples (Stands conf entry d₀) (Closes conf entry d₀) p p'
      (turn token .runAndAdd (.recording b record) s)
      (turn token .runAndAdd (.recording b' record') d) := by
  have about' : record'.taskName = conf.nameOrEmpty := (RunRecord.bare_taskName same) ▸ about
  have added : Midway conf d₀ b b' (s.addRecord record) (d.addRecord record') := by
    obtain ⟨faults, after, -⟩ := Daemon.addRecord_ok h.along.left record
    obtain ⟨faults', after', -⟩ := Daemon.addRecord_ok h.along.right record'
    refine ⟨h.along.addRecord same about, fun other apart => ?_, ?_, ?_, ?_⟩
    · exact (h.far other apart).trans (.addRecord h.along.right record' (about' ▸ apart))
    · rw [after, after']
      exact h.pair.kept (Nat.le_refl _) (Nat.le_refl _) rfl rfl rfl rfl
    · rw [after, after']
      exact h.clock
    · rw [after, after']
      exact h.tokens
  obtain ⟨c, noted⟩ := (s.addRecord record).notifyCompletion_frame record.taskName
  obtain ⟨c', noted'⟩ := (d.addRecord record').notifyCompletion_frame record'.taskName
  refine register_couples free (added.spares (fun _ => .notifyCompletion _ _)
    (fun _ => .notifyCompletion _ _) ?_ ?_)
  · rw [noted, noted']
    exact added.clock
  · rw [noted, noted']
    exact added.tokens

theorem store_couples (token : Token) {task : Task} (free : entry = none)
    (along : Along conf.nameOrEmpty s d)
    (far : ∀ other, other ≠ conf.nameOrEmpty → d₀.Spares other d)
    (here : conf.name ∈ d.store.tasks.map (·.name)) (named : conf.name = some conf.nameOrEmpty)
    (own : task.name = conf.nameOrEmpty) (registered : Registered conf d b) :
    Couples (Stands conf entry d₀) (Closes conf entry d₀) p p'
      (turn token .runAndAdd (.storing task) s) (turn token .runAndAdd (.storing task) d) := by
  have called : task.toConfig.name = some conf.nameOrEmpty := congrArg some own
  have stored := along.setTask task.toConfig
  obtain ⟨faults, left, -⟩ := Daemon.setTask_ok along.left task.toConfig
  obtain ⟨faults', right, -⟩ := Daemon.setTask_ok along.right task.toConfig
  have apart (other : String) (foreign : other ≠ conf.nameOrEmpty) :
      Spares other d (d.setTask task.toConfig).2 := by
    refine .setTask along.right (by rw [called, ← named]; exact here) fun same => ?_
    exact foreign (Option.some.inj (same.symm.trans called))
  have kept : (d.setTask task.toConfig).2.store.getTask conf.nameOrEmpty = some task.toConfig := by
    rw [right]
    exact (MemoryStore.getTask_setTask task.toConfig).trans (if_pos called)
  have registered' : Registered conf (d.setTask task.toConfig).2 b := by
    rw [right]
    exact ⟨registered.entry, registered.inside, registered.label⟩
  rw [left, right] at stored
  rw [right] at apart kept registered'
  simp only [turn, left, right]
  generalize { s with store := _, storeFaults := _, journal := _ } = s₁ at stored ⊢
  generalize { d with store := _, storeFaults := _, journal := _ } = d₁
    at stored apart kept registered' ⊢
  have told (d : Daemon) := Spares.announced conf.nameOrEmpty d task
    (.created task.name task.isScheduled)
  refine .done ⟨stored.retains (told s₁).toRetains (told d₁).toRetains,
    fun other foreign => ?_, .created _ free named ?_ (registered'.spares (told d₁))⟩
  · exact ((far other foreign).trans (apart other foreign)).trans
      (Spares.announced other d₁ task _)
  · rw [(told d₁).task]
    exact kept

theorem make_alike {t : Task} (setting : s.setting = d.setting)
    (made : s.made.get? t.name = d.made.get? t.name) :
    (∃ e, (s.make t).1 = .error e ∧ (d.make t).1 = .error e) ∨
      (s.make t).1 = .ok s.backends.size ∧ (d.make t).1 = .ok d.backends.size ∧
        (s.make t).2.backend s.backends.size = (d.make t).2.backend d.backends.size := by
  cases fails : d.setting.makeErrors.get? t.name with
  | some e =>
      refine .inl ⟨e, ?_, ?_⟩
      · simp only [Daemon.make, Daemon.log, setting, fails]
      · simp only [Daemon.make, Daemon.log, fails]
  | none =>
      simp only [Daemon.make, Daemon.log, setting, made, fails]
      refine .inr ⟨trivial, trivial, ?_⟩
      exact ((s.backend_push s.backends.size _).trans (if_pos rfl)).trans
        ((d.backend_push d.backends.size _).trans (if_pos rfl)).symm

theorem make_couples (token : Token) {task : Task} (free : entry = none)
    (clock : s.clock = d.clock) (along : Along conf.nameOrEmpty s d)
    (far : ∀ other, other ≠ conf.nameOrEmpty → d₀.Spares other d)
    (named : conf.name = some conf.nameOrEmpty) (own : task.name = conf.nameOrEmpty)
    (left : s.registry.find? conf.nameOrEmpty = none)
    (right : d.registry.find? conf.nameOrEmpty = none) :
    Couples (Stands conf entry d₀) (Closes conf entry d₀) p p'
      (turn token .runAndAdd (.making task) s) (turn token .runAndAdd (.making task) d) := by
  have alike := make_alike along.setting (own ▸ along.made : s.made.get? task.name = _)
  cases leftMade : s.make task with
  | mk r s₁ =>
    cases rightMade : d.make task with
    | mk r' d₁ =>
      have asked := along.make own leftMade rightMade
      obtain ⟨-, -, -, -, -, registry⟩ := Daemon.make_made leftMade
      obtain ⟨-, -, -, -, -, registry'⟩ := Daemon.make_made rightMade
      have apart (other : String) (foreign : other ≠ conf.nameOrEmpty) :
          d₀.Spares other d₁ :=
        (far other foreign).trans (.make rightMade (own ▸ foreign))
      have instant := (Daemon.Instant.make leftMade).clock
      have instant' := (Daemon.Instant.make rightMade).clock
      simp only [turn, leftMade, rightMade]
      rw [leftMade, rightMade] at alike
      obtain ⟨e, failed, failed'⟩ | ⟨place, place', backend⟩ := alike
      · obtain rfl : r = .error e := failed
        obtain rfl : r' = .error e := failed'
        exact .done ⟨asked, apart, .failed _ (by rw [registry', right, free])⟩
      · obtain rfl : r = .ok s.backends.size := place
        obtain rfl : r' = .ok d.backends.size := place'
        obtain ⟨serial, script, new⟩ := Daemon.make_new rightMade
        obtain ⟨-, label, counts, script₁, after, -⟩ := Daemon.make_eq_ok leftMade
        obtain ⟨-, label', counts', script₂, after', -⟩ := Daemon.make_eq_ok rightMade
        simp only [instant, instant', clock]
        refine .next ⟨asked, apart, .rendering free ⟨named, ?_, ?_, backend, ⟨?_, ?_⟩, ⟨?_, ?_⟩⟩⟩
        · rw [new]
          exact own
        · show (d₁.backend d.backends.size).task.name = _
          rw [new]
          exact own
        · rw [after]
          exact Nat.lt_of_lt_of_eq (Nat.lt_succ_self _) (Array.size_push _).symm
        · rw [backend, new, registry]
          exact (congrArg s.registry.find? own).trans left
        · rw [after']
          exact Nat.lt_of_lt_of_eq (Nat.lt_succ_self _) (Array.size_push _).symm
        · rw [new, registry']
          exact (congrArg d.registry.find? own).trans right

theorem begin_couples (along : Along conf.nameOrEmpty s d)
    (far : ∀ other, other ≠ conf.nameOrEmpty → d₀.Spares other d)
    (left : s.registry.find? conf.nameOrEmpty = entry)
    (right : d.registry.find? conf.nameOrEmpty = entry) :
    Couples (Stands conf entry d₀) (Closes conf entry d₀) p p' (begin conf s) (begin conf d) := by
  unfold begin
  simp only
  rw [along.config]
  split
  · exact .done ⟨along, far, .failed _ right⟩
  have taken : s.registry.contains (conf.finalize d.store.config.globalPeriod
      d.store.config.workingDir).nameOrEmpty = d.registry.contains
      (conf.finalize d.store.config.globalPeriod d.store.config.workingDir).nameOrEmpty :=
    congrArg Option.isSome (left.trans right.symm)
  rw [taken]
  split
  · exact .done ⟨along, far, .failed _ right⟩
  next untaken =>
    split
    · exact .done ⟨along, far, .failed _ right⟩
    next task made =>
      have name : task.name = conf.nameOrEmpty := (ofConfig_name made).trans rfl
      have finalized := ofConfig_named made
      have named : conf.name = some task.name := finalized
      have unknown : d.registry.find? conf.nameOrEmpty = none :=
        Registry.contains_eq_false.mp (Bool.eq_false_iff.mpr untaken)
      have free : entry = none := right.symm.trans unknown
      exact .next ⟨along, far,
        .making free (named.trans (congrArg some name)) name (left.trans free) unknown⟩

/-- A turn that is taken in both daemons with the same clock and the same tokens. -/
theorem turn_couples (token : Token) (clock : s.clock = d.clock) (tokens : s.tokens = d.tokens)
    (here : conf.name ∈ d.store.tasks.map (·.name)) (along : Along conf.nameOrEmpty s d)
    (abreast : p.Abreast conf entry s d p') :
    Couples (Stands conf entry d) (Closes conf entry d) p p' (turn token .runAndAdd p s)
      (turn token .runAndAdd p' d) := by
  have far : ∀ other, other ≠ conf.nameOrEmpty → d.Spares other d := fun other _ => .refl other d
  have midway {b b' : Place} (pair : Paired conf b b' s d) : Midway conf d b b' s d :=
    ⟨along, far, pair, clock, tokens⟩
  cases abreast with
  | start left right => exact begin_couples along far left right
  | making free named own left right =>
      exact make_couples token free clock along far named own left right
  | rendering free pair => exact render_couples token _ _ _ free (midway pair)
  | pausing free pair =>
      simp only [turn]
      rw [(midway pair).isCanceled, clock]
      split
      · exact .done ⟨along, far, .failed _ (pair.unnamed free)⟩
      split
      · exact .next ⟨along, far, .rendering free pair⟩
      · exact .wait ⟨along, far, .pausing free pair⟩
  | destroying free pair =>
      have called := (midway pair).call .destroy
      exact .done ⟨called.along, called.far, .failed _ (called.pair.unnamed free)⟩
  | applying free pair same about => exact apply_couples token _ free (midway pair) same about
  | recording free pair same about => exact record_couples token free (midway pair) same about
  | storing free named own registered =>
      exact store_couples token free along far here named own registered

end

end Creation

end TaskSync
