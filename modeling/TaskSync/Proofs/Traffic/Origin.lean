import TaskSync.Proofs.Traffic.Removal
import TaskSync.Proofs.Traffic.Requests

/-!
# Where deletions come from

A controller deletes what was requested: every name in the queue, and every deletion that a
controller has set going, goes back to a request for that very name. The request says nothing about
the entry, though. It is by its number that an entry is known to have been there when the request
was queued; one that was registered under the name since is taken out all the same.
-/

namespace TaskSync

/-- A controller's deletion that goes on is the same deletion in another phase. -/
theorem Operation.May.errand_delete_next {o : Operation} {d : Daemon} {out : Operation.Outcome}
    (may : o.May d out) {crew : Place} {p' : Deletion.Phase}
    (next : out.1 = .next (.errand crew (.delete p'))) :
    ∃ p, o = .errand crew (.delete p) ∧ p'.task = p.task := by
  cases may with
  | heed =>
      cases o with
      | errand crew' e =>
          obtain ⟨e', settled, same, _⟩ := Operation.lift_next _ next
          cases same
          cases e with
          | delete p =>
              obtain ⟨p'', turned, same, _⟩ := Errand.settled_next _ settled
              cases same
              exact ⟨p, rfl, Deletion.turn_task turned⟩
          | watch | timer | run =>
              obtain ⟨_, _, other, _⟩ := Errand.settled_next _ settled
              cases other
      | create | update | run | delete | control =>
          obtain ⟨_, _, other, _⟩ := Operation.lift_next _ next
          cases other
  | deal =>
      obtain ⟨_, _, other, _⟩ := Operation.lift_next _ next
      cases other
  | fire | watchEnds =>
      obtain ⟨e', settled, same, _⟩ := Operation.lift_next _ next
      cases same
      obtain ⟨_, _, other, _⟩ := Errand.settled_next _ settled
      cases other
  | watchSends => cases next

namespace Traffic

/-- A request for the name is put in the queue. -/
def Queues (t t' : Traffic) (name : String) : Prop :=
  ∃ new, t'.daemon.deletes.items = t.daemon.deletes.items ++ new ∧ name ∈ new

/-- No controller has been asked to delete the name. -/
structure Unasked (t : Traffic) (name : String) : Prop where
  item : name ∉ t.daemon.deletes.items
  errand : ∀ i crew p, t.going? i = some (.errand crew (.delete p)) → p.task ≠ name
  /-- What was set going has become a call. -/
  idle : ∀ crew w, ¬ t.daemon.Engaged crew w

namespace Unasked

variable {t t' : Traffic} {name : String}

theorem opening {d : Daemon} (empty : d.deletes.items = []) :
    (Traffic.opening d).Unasked name where
  item member := by
    rw [show (Traffic.opening d).daemon.deletes.items = d.deletes.items from rfl, empty] at member
    cases member
  errand i crew p going := by cases going
  idle crew w := nofun

/-- Who only adds to the queue adds no request for the name, if none is queued. -/
theorem item_gathers {loose : Prop} {d' : Daemon} (h : t.Unasked name)
    (gathers : t.daemon.Gathers loose d')
    (unqueued : ∀ new, d'.deletes.items = t.daemon.deletes.items ++ new → name ∉ new) :
    name ∉ d'.deletes.items := by
  obtain ⟨new, items⟩ := gathers.items
  rw [← items]
  exact fun member => (List.mem_append.mp member).elim h.item (unqueued new items.symm)

theorem take (h : t.Unasked name) {i : Nat} {o : Operation} {out : Operation.Outcome}
    (going : t.going? i = some o) (may : o.May t.daemon out)
    (unqueued : ¬ t.Queues (t.take i out) name) : (t.take i out).Unasked name := by
  refine ⟨?_, fun j crew p found => ?_, fun crew w => List.not_mem_nil⟩
  · show name ∉ out.2.deletes.items
    rcases may.requests with gathers | ⟨_, hands⟩
    · exact h.item_gathers gathers fun new items member => unqueued ⟨new, items, member⟩
    · exact fun member => h.item (hands.items.subset member)
  · rcases going?_take_cases going found with
      ⟨rfl, next | ⟨-, rfl⟩⟩ | ⟨-, old⟩ | ⟨-, crew', w, same, engaged⟩
    · obtain ⟨p', rfl, task⟩ := may.errand_delete_next next
      rw [task]
      exact h.errand _ crew p' going
    · exact h.errand _ crew p going
    · exact h.errand j crew p old
    · -- a deletion that joins is for the name that was taken from the queue
      cases w with
      | delete task =>
          cases same
          rintro rfl
          rcases may.requests with gathers | ⟨_, hands⟩
          · exact h.idle _ _ (gathers.engaged _ _ engaged)
          · exact (hands.given _ _ engaged).elim (h.idle _ _) h.item
      | watch | timer | run => cases same

theorem goes (h : t.Unasked name) (goes : Goes t t') (unqueued : ¬ t.Queues t' name) :
    t'.Unasked name := by
  revert unqueued
  refine goes.elim (fun q _ => ?_) (fun e unqueued => ?_) fun i o out going may unqueued =>
    h.take going may unqueued
  · refine ⟨h.item, fun i crew p found => ?_, h.idle⟩
    rcases going?_call found with old | new
    · exact h.errand i crew p old
    · cases q <;> cases new
  · have gathers := affect_gathers e t.daemon
    exact ⟨h.item_gathers gathers fun new items member => unqueued ⟨new, items, member⟩, h.errand,
      fun crew w engaged => h.idle crew w (gathers.engaged crew w engaged)⟩

end Unasked

/-- The entry was there under the name, or was registered later. -/
def Precedes (t : Traffic) (name : String) (e : Entry Place) : Prop :=
  (∃ e₀, t.daemon.registry.find? name = some e₀ ∧ e.Continues e₀) ∨
    t.daemon.registry.nextId ≤ e.id

/-- Whatever happens on the way to an entry, the entry is there then or is registered later. -/
theorem Sound.precedes {t t' : Traffic} (sound : t.Sound) (on : GoesOn t t') {name : String}
    {e : Entry Place} (found : t'.daemon.registry.find? name = some e) : t.Precedes name e :=
  (Nat.lt_or_ge e.id t.daemon.registry.nextId).imp (sound.entry_goesOn on found) id

theorem Sound.unasked_goesOn {t t' : Traffic} (sound : t.Sound) {name : String}
    (h : t.Unasked name) {e : Entry Place} (found : t'.daemon.registry.find? name = some e)
    (on : GoesWithout (fun s s' => s.Queues s' name ∧ s.Precedes name e) t t') :
    t'.Unasked name := by
  induction on using Relation.ReflTransGen.head_induction_on with
  | refl => exact h
  | @head s s' first rest ih =>
      have later : GoesOn s' t' := GoesWithout.goesOn rest
      exact ih (sound.goes first.1) <| h.goes first.1 fun queues =>
        first.2 ⟨queues, sound.precedes (.head first.1 later) found⟩

/-- What a deletion takes out. In whatever way calls have come there: an entry goes in the turn of a
deletion of its name, which somebody called or a controller set going. In the latter case there is
no way from the beginning on which no request for that name was queued at a time when the entry was
there, or was still to be registered under the name. -/
theorem removal_requested (d : Daemon) (rest : d.AtRest) (loyal : d.Avoids .unregister)
    (empty : d.deletes.items = []) (t : Traffic) (reached : GoesOnBy (· ≠ .start) (opening d) t)
    (t' : Traffic) (goes : GoesBy (· ≠ .start) t t') (name : String) (e : Entry Place)
    (found : t.daemon.registry.find? name = some e)
    (gone : t'.daemon.registry.find? name = none) :
    ∃ i o out p, t.going? i = some o ∧ o.May t.daemon out ∧ t' = t.take i out ∧ p.task = name ∧
      ((∃ token, o = .delete token p) ∨
        (∃ crew, o = .errand crew (.delete p)) ∧
          ¬ GoesWithout (fun s s' => s.Queues s' name ∧ s.Precedes name e) (opening d) t) := by
  have faithful : t.Faithful := (opening_faithful rest loyal).goesOn reached
  obtain ⟨i, o, out, p, going, may, rfl, deletion, task, _⟩ := faithful.removed goes found gone
  refine ⟨i, o, out, p, going, may, rfl, task, ?_⟩
  cases o with
  | delete token phase =>
      cases deletion
      exact .inl ⟨token, rfl⟩
  | errand crew e' =>
      cases e' with
      | delete phase =>
          cases deletion
          refine .inr ⟨⟨crew, rfl⟩, fun on => ?_⟩
          exact ((opening_sound rest).unasked_goesOn (.opening empty) found on).errand i crew p
            going task
      | watch | timer | run => cases deletion
  | create | update | run | control => cases deletion

/-- The task of a daemon is requested to be deleted, and a controller has taken the request. -/
def requestedEvents : List Event :=
  [.requestDeletion (crowdName 0), .call (.control ⟨0⟩), .turn 0, .turn 0, .turn 0, .turn 0]

theorem removal_requested_sample :
    ¬ GoesWithout (fun s s' => s.Queues s' (crowdName 0) ∧
      s.Precedes (crowdName 0) ⟨0, 0, [], false, true⟩) (opening (crowd 1))
        ((opening (crowd 1)).run requestedEvents) := by
  have uncalled : ∀ i < 3, (((opening (crowd 1)).run requestedEvents).going? i).all
      (fun | .delete _ _ => false | _ => true) = true := by decide
  obtain ⟨i, o, out, p, going, -, -, -, ⟨token, rfl⟩ | ⟨-, queued⟩⟩ :=
    removal_requested (crowd 1) (crowd_atRest 1) (crowd_avoids 1 .unregister) rfl _
      (GoesOnBy.run _ requestedEvents (by simp [requestedEvents])) _
      (.event ((opening (crowd 1)).run requestedEvents) (e := .turn 2) nofun) (crowdName 0)
      ⟨0, 0, [], false, true⟩ rfl rfl
  · have other := uncalled i (going?_length going)
    rw [going] at other
    cases other
  · exact queued

/-- A request for a name that nobody has, and then the task is created under it, and a controller
takes the request. -/
def untimelyEvents : List Event :=
  [.call (.create ⟨0⟩ .add sampleTask), .turn 0, .turn 0, .turn 0, .pass 5, .turn 0, .turn 0,
    .call (.control ⟨0⟩), .turn 1, .turn 1, .turn 1, .turn 1]

/-- The request is queued though the name is not registered, and the task that is created under the
name afterwards is taken out. -/
theorem request_outlives_name :
    (opening (sample.daemon .default)).daemon.registry.find? "a" = none ∧
      (opening (sample.daemon .default)).Queues
        ((opening (sample.daemon .default)).step (.requestDeletion "a")) "a" ∧
      (((opening (sample.daemon .default)).step (.requestDeletion "a")).run
        untimelyEvents).daemon.registry.find? "a" = some ⟨0, 0, ["tmpl-a"], false, false⟩ ∧
      (((opening (sample.daemon .default)).step (.requestDeletion "a")).run
        untimelyEvents).going? 3 = some (.errand 0 (.delete (.start "a"))) ∧
      ((((opening (sample.daemon .default)).step (.requestDeletion "a")).run
        untimelyEvents).step (.turn 3)).daemon.registry.find? "a" = none :=
  ⟨rfl, ⟨["a"], rfl, List.mem_cons_self⟩, rfl, rfl, rfl⟩

end Traffic

end TaskSync
