import TaskSync.Proofs.Operation.Creates
import TaskSync.Proofs.Traffic.Lines
import TaskSync.Proofs.Traffic.Origin

/-!
# A deletion and a creation of one name

A deletion takes the task out of the registry in one turn and its configuration out of the store in
a later one. From the first turn on the name is free, and a creation may register its task in
between. It is the line at the store that keeps the new configuration: the deletion has come to the
configurations when the name becomes free, so the creation, which comes when it has registered its
task, stands behind it and stores after it.
-/

namespace TaskSync

theorem Registry.contains_before {r s : Registry Place} {name : String}
    (before : ∀ f, s.find? name = some f → ∃ e, r.find? name = some e ∧ f.Continues e)
    (after : s.contains name = true) : r.contains name = true := by
  obtain ⟨f, found⟩ := Option.isSome_iff_exists.mp after
  obtain ⟨e, there, _⟩ := before f found
  exact Option.isSome_iff_exists.mpr ⟨e, there⟩

/-! ### What a creation comes to -/

namespace Creation

/-- The creation is not about to answer that it added a task whose backend goes. -/
def Phase.isPlain : Phase → Bool
  | .destroying _ (.ok (.config _)) => false
  | _ => true

/-- The creation has not answered, and does not answer in this turn, that it added its task. -/
inductive Unanswered : Turn Phase Result → Prop where
  | next {p : Phase} (plain : p.isPlain = true) : Unanswered (.next p)
  | wait (on : List Wait) : Unanswered (.wait on)
  | failed (e : Failure) : Unanswered (.done (.error e))
  | inspected (plan : Plan) : Unanswered (.done (.ok (.plan plan)))

theorem register_unanswered (b : Place) (d : Daemon) : Unanswered (register b d).1 := by
  unfold register
  simp only
  split
  · exact .next rfl
  · exact .next rfl

theorem rendered_unanswered (goal : Goal) (b : Place) (d : Daemon) :
    Unanswered (rendered goal b d).1 := by
  unfold rendered
  simp only
  split
  · exact .next rfl
  · exact register_unanswered b _
  · split
    · exact .next rfl
    · exact register_unanswered b _

theorem render_unanswered (token : Token) (goal : Goal) (t : Trial) (call : Pending) (d : Daemon) :
    Unanswered (render token goal t call d).1 := by
  unfold render
  simp only
  split
  · exact .failed _
  split
  · exact .next rfl
  split
  · exact .next rfl
  split
  · exact .next rfl
  · exact .wait _
  · exact rendered_unanswered goal _ _
  · exact .next rfl
  · exact .next rfl

/-- Up to the turn in which it stores the configuration, a creation does not say that it added its
task. -/
theorem turn_unanswered (token : Token) (goal : Goal) {p : Phase} (d : Daemon)
    (plain : p.isPlain = true) (early : ∀ task, p ≠ .storing task) :
    Unanswered (turn token goal p d).1 := by
  cases p with
  | start conf =>
      simp only [turn, begin]
      split
      · exact .failed _
      split
      · exact .failed _
      split
      · exact .failed _
      · exact .next rfl
  | making task =>
      simp only [turn]
      split
      · exact .failed _
      · exact .next rfl
  | rendering t call => exact render_unanswered token goal t call d
  | pausing t due =>
      simp only [turn]
      split
      · exact .failed _
      split
      · exact .next rfl
      · exact .wait _
  | destroying b result =>
      obtain e | c | plan := result
      · exact .failed e
      · cases plain
      · exact .inspected plan
  | applying b record call =>
      simp only [turn]
      split
      · exact .next rfl
      · exact .wait _
      · exact .failed _
      · exact .next rfl
  | recording b record => exact register_unanswered b _
  | storing task => exact absurd rfl (early task)
  | inspecting b =>
      simp only [turn]
      refine .next ?_
      cases (d.inspect b).1 with
      | error e => rfl
      | ok plan => rfl

/-- The turn in which a creation stores its task is its last one. -/
theorem storing_done (token : Token) (goal : Goal) (task : Task) (d : Daemon) :
    ∃ r, (turn token goal (.storing task) d).1 = .done r := by
  simp only [turn]
  split
  · exact ⟨_, rfl⟩
  · exact ⟨_, rfl⟩

/-- What the store does not take, the creation answers with a failure. -/
theorem storing_refused (token : Token) (goal : Goal) (task : Task) {d : Daemon}
    (refused : d.willTake .setTask = false) :
    ∃ e, (turn token goal (.storing task) d).1 = .done (.error e) := by
  obtain ⟨e, failed⟩ := d.write_refused refused task.toConfig.nameOrEmpty
    (·.setTask task.toConfig)
  replace failed : (d.setTask task.toConfig).1 = .error e := failed
  simp only [turn]
  split
  · exact ⟨_, rfl⟩
  next eq =>
    rw [eq] at failed
    cases failed

/-- A creation registers its task in the turn after which it stores it. -/
theorem registered_before (token : Token) (goal : Goal) {p : Phase} {d : Daemon} {name : String}
    (inside : ∀ b, p.stake = .fresh b → b < d.backends.size)
    (unregistered : ∀ task, (turn token goal p d).1 ≠ .next (.storing task))
    (after : (turn token goal p d).2.registry.contains name = true) :
    d.registry.contains name = true := by
  cases turn_advance token goal p d inside with
  | move m => exact Registry.contains_before (fun _ => m.path.continues) after
  | register _ phase => exact absurd phase (unregistered _)

end Creation

namespace Traffic

/-! ### The two calls -/

/-- The operation is the creation of the name, in the first place, or its deletion, in the
second. -/
inductive Takes (d : Daemon) (name : String) : Nat → Operation → Prop where
  | creation {token : Token} {goal : Goal} {p : Creation.Phase} (named : p.name d = name)
      (plain : p.isPlain = true) : Takes d name 0 (.create token goal p)
  | deletion {token : Token} {p : Deletion.Phase} (named : p.task = name) :
      Takes d name 1 (.delete token p)

namespace Takes

variable {d d' : Daemon} {name : String} {i : Nat} {o o' : Operation} {out : Operation.Outcome}

theorem steady (h : Takes d name i o) (steady : d.Steady d')
    (inside : ∀ b, o.stake = .fresh b → b < d.backends.size) : Takes d' name i o := by
  cases h with
  | creation named plain =>
      exact .creation ((Creation.Phase.name_steady steady inside).trans named) plain
  | deletion named => exact .deletion named

/-- Neither takes turns other than its own. -/
theorem heeds (h : Takes d name i o) (may : o.May d out) : ∃ token, out = o.heed token d := by
  cases h with
  | creation => cases may with | heed => exact ⟨_, rfl⟩
  | deletion => cases may with | heed => exact ⟨_, rfl⟩

/-- A creation of the name stays one, and so does a deletion. -/
theorem next (h : Takes d name i o) (inside : ∀ b, o.stake = .fresh b → b < d.backends.size)
    (may : o.May d out) (next : out.1 = .next o') : Takes out.2 name i o' := by
  obtain ⟨token, rfl⟩ := h.heeds may
  cases h with
  | @creation own goal p named plain =>
      obtain ⟨p', created, rfl, daemon⟩ := Operation.lift_next _ next
      rw [show ((Operation.create own goal p).heed token d).2 = _ from daemon]
      refine .creation ((Creation.turn_name inside created).trans named) ?_
      have unanswered : Creation.Unanswered (Creation.turn token goal p d).1 := by
        refine Creation.turn_unanswered token goal d plain fun task storing => ?_
        obtain ⟨r, done⟩ := Creation.storing_done token goal task d
        rw [storing, done] at created
        cases created
      rw [created] at unanswered
      cases unanswered with
      | next plain => exact plain
  | deletion named =>
      obtain ⟨p', deleted, rfl, _⟩ := Operation.lift_next _ next
      exact .deletion ((Deletion.turn_task deleted).trans named)

/-- Neither sets anything going on the side. -/
theorem engaged (h : Takes d name i o) (may : o.May d out) {crew : Place} {w : Work}
    (engaged : out.2.Engaged crew w) : d.Engaged crew w := by
  rcases may.requests with gathers | ⟨⟨token, p, rfl⟩, _⟩
  · exact gathers.engaged crew w engaged
  · cases h

end Takes

/-- The only calls are a creation and a deletion of the name. -/
structure Pair (name : String) (t : Traffic) : Prop where
  sound : t.Sound
  idle : ∀ crew w, ¬ t.daemon.Engaged crew w
  takes : ∀ i o, t.going? i = some o → Takes t.daemon name i o

namespace Pair

variable {name : String} {t t' : Traffic}

theorem inside (h : t.Pair name) {i : Nat} {o : Operation} (going : t.going? i = some o) (b : Place)
    (fresh : o.stake = .fresh b) : b < t.daemon.backends.size :=
  h.sound.fresh_inside ((stake_of_going going).trans fresh)

/-- Both calls have just been made. -/
theorem opening {d : Daemon} (rest : d.AtRest) {conf : TaskConfig} (named : conf.nameOrEmpty = name)
    (token token' : Token) (goal : Goal) :
    ((Traffic.opening d).run
      [.call (.create token goal conf), .call (.delete token' name)]).Pair name := by
  refine ⟨(opening_sound rest).goesOn (.run _ _), fun crew w => nofun, fun i o going => ?_⟩
  match i with
  | 0 =>
      cases going
      exact .creation named rfl
  | 1 =>
      cases going
      exact .deletion rfl
  | i + 2 => cases going

theorem goes (h : t.Pair name) (goes : GoesBy (fun e => ∀ q, e ≠ .call q) t t') :
    t'.Pair name := by
  have sound := h.sound.goes goes.goes
  have steady := h.sound.steady_goes goes.goes
  revert sound steady
  refine goes.elim (fun q alone => absurd rfl (alone q)) (fun e _ sound steady => ?_)
    fun i o out going may sound steady => ?_
  · exact ⟨sound, fun crew w engaged =>
        h.idle crew w ((affect_gathers e t.daemon).engaged crew w engaged),
      fun j o found => (h.takes j o found).steady steady (h.inside found)⟩
  · refine ⟨sound, fun crew w => List.not_mem_nil, fun j o' found => ?_⟩
    rcases going?_take_cases going found with
      ⟨rfl, next | ⟨-, rfl⟩⟩ | ⟨-, old⟩ | ⟨-, crew, w, -, engaged⟩
    · refine ((h.takes j o going).next (h.inside going) may next).steady
        (.of_same rfl rfl rfl rfl) fun b fresh => ?_
      exact sound.fresh_inside ((stake_of_going found).trans fresh)
    · exact (h.takes j o' going).steady steady (h.inside going)
    · exact (h.takes j o' old).steady steady (h.inside old)
    · exact absurd ((h.takes i o going).engaged may engaged) (h.idle crew w)

end Pair

/-- The creation has ended with this configuration. -/
def Created (t : Traffic) (c : TaskConfig) : Prop :=
  t.calls[0]? = some (.ended (.ok (.created (.config c))))

/-- The deletion has taken the name out of the registry and is to take it out of the store. -/
def Clears (t : Traffic) (name : String) : Prop :=
  ∃ token g, t.going? 1 = some (.delete token (.deletingTask name g))

namespace Lined

/-- The creation waits for the deletion at the store, or it has failed. -/
def Later (s : Lined) : Prop :=
  (∃ token goal task, s.traffic.going? 0 = some (.create token goal (.storing task)) ∧
    (s.lines .configs).holds 0 = true) ∨
  ∃ e, s.traffic.calls[0]? = some (.ended (.error e))

/-- A creation and a deletion of the name, where whoever has come to the store waits in line, and
the creation does not go before the deletion. -/
structure Orderly (name : String) (s : Lined) : Prop where
  pair : s.traffic.Pair name
  standing : s.Standing
  later : s.traffic.Clears name → s.traffic.daemon.registry.contains name = true → s.Later

namespace Orderly

variable {name : String} {s s' : Lined}

/-- A turn of the creation. If it registers the task, the creation comes to the store, where the
deletion stands already. -/
theorem later_creation {own token : Token} {goal : Goal} {p : Creation.Phase}
    {out : Operation.Outcome} (h : s.Orderly name)
    (going : s.traffic.going? 0 = some (.create own goal p))
    (admitted : s.Admits 0 (.create own goal p))
    (turned : out = (Operation.create own goal p).heed token s.traffic.daemon)
    (clears : (s.traffic.take 0 out).Clears name)
    (registered : (s.traffic.take 0 out).daemon.registry.contains name = true) :
    (s.take 0 out).Later := by
  obtain ⟨token', g, found⟩ := clears
  have clearing : s.traffic.going? 1 = some (.delete token' (.deletingTask name g)) := by
    rcases going?_take_cases going found with ⟨same, _⟩ | ⟨_, old⟩ | ⟨_, _, _, errand, _⟩
    · cases same
    · exact old
    · cases errand
  by_cases registers : ∃ task,
      (Creation.turn token goal p s.traffic.daemon).1 = .next (.storing task)
  · obtain ⟨task, next⟩ := registers
    replace next : out.1 = .next (.create own goal (.storing task)) := by
      rw [turned]
      exact Operation.lift_of_next _ _ next
    refine .inl ⟨own, goal, task, ?_, ?_⟩
    · rw [show (s.take 0 out).traffic = s.traffic.take 0 out from rfl, going?_take_self going,
        next]
    · have there := h.standing 1 _ .deleteTask clearing rfl
      show (s.moved 0 out.1 .configs).holds 0 = true
      rw [next, show StoreTable.configs = StoreOp.setTask.table from rfl, moved_self rfl]
      exact Line.holds_join (c := ⟨0, true⟩) (fun x member => (Line.mem_leave.mp member).2)
        ⟨_, Line.mem_leave.mpr ⟨there, nofun⟩, rfl⟩
  · have before : s.traffic.daemon.registry.contains name = true := by
      refine Creation.registered_before token goal (h.pair.sound.made going)
        (not_exists.mp registers) ?_
      rw [turned] at registered
      rw [← registered]
      exact congrArg (·.registry.contains name) (Operation.lift_snd _ _ _).symm
    rcases h.later ⟨token', g, clearing⟩ before with ⟨_, _, task, storing, held⟩ | ⟨e, failed⟩
    · -- only a refusal lets the creation go before the deletion
      rw [going] at storing
      cases storing
      obtain ⟨e, failed⟩ :=
        Creation.storing_refused token goal task (admitted .setTask rfl held)
      refine .inr ⟨e, ?_⟩
      rw [show (s.take 0 out).traffic = s.traffic.take 0 out from rfl, calls_take_self going,
        turned, show ((Operation.create own goal (.storing task)).heed token _).1 = _ from
          Operation.lift_of_done _ _ failed]
      rfl
    · rw [going?, failed] at going
      cases going

/-- A turn of the deletion. When it has the store still to clear, the name is free. -/
theorem later_deletion {own token : Token} {p : Deletion.Phase} {out : Operation.Outcome}
    (going : s.traffic.going? 1 = some (.delete own p))
    (turned : out = (Operation.delete own p).heed token s.traffic.daemon)
    (clears : (s.traffic.take 1 out).Clears name)
    (registered : (s.traffic.take 1 out).daemon.registry.contains name = true) : False := by
  obtain ⟨token', g, found⟩ := clears
  rcases going?_take_cases going found with
    ⟨_, next | ⟨⟨on, wait⟩, same⟩⟩ | ⟨apart, _⟩ | ⟨_, _, _, errand, _⟩
  · rw [turned] at next
    obtain ⟨p', deleted, same, daemon⟩ := Operation.lift_next _ next
    cases same
    have gone := (Deletion.turn_next deleted).2
    replace registered : out.2.registry.contains name = true := registered
    rw [turned, show ((Operation.delete own p).heed token _).2 = _ from daemon,
      Registry.contains, gone] at registered
    cases registered
  · cases same
    rw [turned] at wait
    have acts := Deletion.turn_acts token (.deletingTask name g) s.traffic.daemon
    rw [Operation.heed] at wait
    generalize Deletion.turn token (.deletingTask name g) s.traffic.daemon = acted at acts wait
    cases acts with
    | clears | fails => cases wait
  · exact apart rfl
  · cases errand

/-- At the beginning neither call has come to the store. -/
theorem opening {d : Daemon} (rest : d.AtRest) {conf : TaskConfig} (named : conf.nameOrEmpty = name)
    (token token' : Token) (goal : Goal) :
    (Lined.opening ((Traffic.opening d).run
      [.call (.create token goal conf), .call (.delete token' name)])).Orderly name where
  pair := .opening rest named token token' goal
  standing i o op going use := by
    match i with
    | 0 =>
        cases going
        cases use
    | 1 =>
        cases going
        cases use
    | i + 2 => cases going
  later clears := by
    obtain ⟨_, _, clearing⟩ := clears
    cases clearing

theorem goes (h : s.Orderly name) (goes : GoesBy (fun e => ∀ q, e ≠ .call q) s s') :
    s'.Orderly name := by
  refine ⟨h.pair.goes goes.traffic, h.standing.goes goes, ?_⟩
  refine goes.elim (fun q alone => absurd rfl (alone q))
    (fun e clears registered => h.later clears
      (Registry.contains_before (fun _ => affect_continues e _) registered))
    fun i o out going may admitted clears registered => ?_
  have takes := h.pair.takes i o going
  obtain ⟨token, turned⟩ := takes.heeds may
  cases takes with
  | creation => exact h.later_creation going admitted turned clears registered
  | deletion => exact (later_deletion going turned clears registered).elim

end Orderly

end Lined

/-- What the creation answered is stored, as long as the name is registered. -/
def Stores (t : Traffic) (name : String) (c : TaskConfig) : Prop :=
  t.Created c → t.daemon.registry.contains name = true → t.daemon.store.getTask name = some c

namespace Lined.Orderly

variable {name : String} {s s' : Lined}

end Lined.Orderly

end Traffic

end TaskSync
