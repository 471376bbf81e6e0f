import TaskSync.Proofs.Operation.Requests
import TaskSync.Proofs.Traffic.Exclusion
import TaskSync.Proofs.Traffic.Numbers

/-!
# Requests are carried out

A task that is marked for deletion is pursued: its name waits in the queue of requests, or a
deletion of it is under way that has not found it yet. There are two ways in which this ends early.
A request that finds the queue full is dropped, and a deletion that is canceled while it waits is
abandoned. Whatever is neither is deleted once the queue has been emptied and the deletions have
ended.
-/

namespace TaskSync

/-- The deletion has yet to find the task. -/
def Deletion.Phase.awaits (name : String) : Deletion.Phase → Bool
  | .start task | .queued task _ _ => task == name
  | .deletingTask _ _ | .deletingRecords _ _ => false

/-- The call is a deletion that has yet to find the task. -/
def Call.pursues (name : String) : Call → Bool
  | .going o => o.deletion?.any (·.awaits name)
  | .ended _ => false

namespace Traffic

/-- There is a request to delete the task, or a deletion that goes for it. -/
def Pursued (t : Traffic) (name : String) : Prop :=
  name ∈ t.daemon.deletes.items ∨ t.calls.any (·.pursues name) = true

instance (t : Traffic) (name : String) : Decidable (t.Pursued name) :=
  inferInstanceAs (Decidable (_ ∨ _))

/-- The task that has this number is marked, but its request finds no room in the queue. -/
structure Drops (t t' : Traffic) (name : String) (id : Nat) : Prop where
  marked : t.daemon.registry.NewMark t'.daemon.registry name
  entry : ∃ e, t'.daemon.registry.find? name = some e ∧ e.id = id
  refused : name ∉ t'.daemon.deletes.items
  full : t'.daemon.deletes.isFull = true

/-- A deletion ends that waited for the task of this number, because it was canceled. -/
structure Abandons (t t' : Traffic) (name : String) (id : Nat) : Prop where
  entry : ∃ e, t.daemon.registry.find? name = some e ∧ e.id = id
  deletion : ∃ i o b due r, t.going? i = some o ∧ o.deletion? = some (.queued name b due) ∧
    t.daemon.isCanceled (o.token t.daemon) = true ∧ t'.calls[i]? = some (.ended r)

/-- As long as nothing is canceled, nothing is abandoned. -/
theorem not_abandons {t t' : Traffic} {name : String} {id : Nat}
    (calm : t.daemon.tokens.states.all (!·.canceled) = true) : ¬ t.Abandons t' name id := by
  rintro ⟨-, i, o, b, due, r, -, -, canceled, -⟩
  obtain ⟨state, found, true⟩ := (Option.any_eq_true _ _).mp canceled
  have still := List.all_eq_true.mp calm state (List.mem_of_getElem? found)
  rw [true] at still
  cases still

/-! ### Deletions that wait -/

theorem pursues_going {t : Traffic} {i : Nat} {o : Operation} {p : Deletion.Phase} {name : String}
    (going : t.going? i = some o) (deletion : o.deletion? = some p)
    (awaits : p.awaits name = true) : t.Pursued name := by
  refine .inr (List.any_eq_true.mpr ⟨_, List.mem_of_getElem? (going?_eq_some.mp going), ?_⟩)
  rw [Call.pursues, deletion]
  exact awaits

theorem going_of_pursues {t : Traffic} {name : String}
    (h : t.calls.any (·.pursues name) = true) :
    ∃ i o p, t.going? i = some o ∧ o.deletion? = some p ∧ p.awaits name = true := by
  obtain ⟨c, member, pursues⟩ := List.any_eq_true.mp h
  obtain ⟨i, found⟩ := List.mem_iff_getElem?.mp member
  cases c with
  | ended r => cases pursues
  | going o =>
      obtain ⟨p, deletion, awaits⟩ := (Option.any_eq_true _ _).mp pursues
      exact ⟨i, o, p, going?_eq_some.mpr found, deletion, awaits⟩

end Traffic

/-- A deletion that waits for a registered task goes on waiting, takes it out, or is canceled. -/
theorem Deletion.turn_awaits (token : Token) {p : Phase} {d : Daemon} {name : String}
    {e : Entry Place} (awaits : p.awaits name = true) (found : d.registry.find? name = some e) :
    (∃ on, (turn token p d).1 = .wait on) ∨
      (∃ p', (turn token p d).1 = .next p' ∧ p'.awaits name = true) ∨
      (turn token p d).2.registry.find? name = none ∨
      d.isCanceled token = true ∧ (∃ b due, p = .queued name b due) ∧
        ∃ r, (turn token p d).1 = .done r := by
  have looking {b : Place} {out : Outcome} (looks : Looks name b d out) :
      (∃ p', out.1 = .next p' ∧ p'.awaits name = true) ∨ out.2.registry.find? name = none := by
    cases looks with
    | missing absent =>
        rw [absent] at found
        cases found
    | busy => exact .inl ⟨_, rfl, beq_self_eq_true name⟩
    | removes _ _ rest => exact .inr ((rest name).trans (if_pos rfl))
  generalize acted : turn token p d = out
  have acts := turn_acts token p d
  rw [acted] at acts
  cases acts with
  | @nobody task absent =>
      obtain rfl : task = name := eq_of_beq awaits
      rw [absent] at found
      cases found
  | @begins task b _ looks | @again task b _ _ looks =>
      obtain rfl : task = name := eq_of_beq awaits
      exact (looking looks).elim (fun h => .inr (.inl h)) fun h => .inr (.inr (.inl h))
  | @canceled task b due canceled =>
      obtain rfl : task = name := eq_of_beq awaits
      exact .inr (.inr (.inr ⟨canceled, ⟨b, due, rfl⟩, _, rfl⟩))
  | waits on => exact .inl ⟨on, rfl⟩
  | clears | fails | ends => cases awaits

/-- A turn that the deletion may take on a token that is not its own does not abandon it. -/
theorem Operation.Heeds.own_of_canceled {o : Operation} {d : Daemon} {token : Token}
    (heeds : o.Heeds d token) (canceled : d.isCanceled token = true) :
    d.isCanceled (o.token d) = true := by
  cases heeds with
  | own => exact canceled
  | late _ _ calm =>
      rw [calm] at canceled
      cases canceled

namespace Traffic

variable {t t' : Traffic} {name : String}

/-- The end of a request in the queue is the beginning of a deletion. -/
theorem pursued_of_item {i : Nat} {o : Operation} {out : Operation.Outcome}
    (may : o.May t.daemon out) (item : name ∈ t.daemon.deletes.items) :
    (t.take i out).Pursued name := by
  rcases may.requests with gathers | ⟨_, hands⟩
  · exact .inl (gathers.items.subset item)
  · rcases hands.taken name item with kept | ⟨crew, engaged⟩
    · exact .inl kept
    · obtain ⟨j, -, going⟩ := going?_take_engaged t i engaged
      exact pursues_going going rfl (beq_self_eq_true name)

/-- A task that is pursued is pursued after a turn as well, unless it is gone or its deletion was
abandoned. -/
theorem Pursued.take (h : t.Pursued name) {e f : Entry Place}
    (found : t.daemon.registry.find? name = some e) {i : Nat} {o : Operation}
    {out : Operation.Outcome} (going : t.going? i = some o) (may : o.May t.daemon out)
    (there : out.2.registry.find? name = some f) :
    (t.take i out).Pursued name ∨ t.Abandons (t.take i out) name e.id := by
  rcases h with item | pursues
  · exact .inl (pursued_of_item may item)
  obtain ⟨j, o', p, going', deletion, awaits⟩ := going_of_pursues pursues
  by_cases mine : j = i
  · subst mine
    obtain rfl := Option.some.inj (going.symm.trans going')
    obtain ⟨token, heeds, deletes⟩ := may.deletes deletion
    rcases Deletion.turn_awaits token awaits found with
      ⟨on, waits⟩ | ⟨p', goes, awaits'⟩ | gone | ⟨canceled, ⟨b, due, rfl⟩, r, done⟩
    · have still : (t.take j out).going? j = some o := by
        rw [going?_take_self going, deletes.wait on waits]
      exact .inl (pursues_going still deletion awaits)
    · obtain ⟨o', next, deletion'⟩ := deletes.next p' goes
      have still : (t.take j out).going? j = some o' := by rw [going?_take_self going, next]
      exact .inl (pursues_going still deletion' awaits')
    · rw [deletes.registry, gone] at there
      cases there
    · obtain ⟨r', ended⟩ := deletes.done r done
      refine .inr ⟨⟨e, found, rfl⟩, j, o, b, due, r', going, deletion,
        heeds.own_of_canceled canceled, ?_⟩
      rw [calls_take_self going, ended]
  · exact .inl (pursues_going ((going?_take_other mine (going?_length going')).trans going')
      deletion awaits)

/-- What happens outside of all calls only adds requests. -/
theorem affect_gathers (event : Event) (d : Daemon) : d.Gathers False (event.affect d) := by
  cases event with
  | call q => exact .refl d
  | turn i => exact .refl d
  | start =>
      obtain ⟨lines, frame⟩ := start_frame d
      rw [show Event.start.affect d = d.start.2 from rfl, frame]
      refine .of_deletes rfl (fun name => ?_) fun _ _ h => h
      rintro ⟨f, found, _⟩
      cases found
  | requestDeletion task => exact .request d task
  | cancel token => exact .cancel d token
  | listen =>
      obtain ⟨faults, c, h, _⟩ := listen_frame d
      rw [show Event.listen.affect d = d.listen.2 from rfl, h]
      exact .of_same rfl rfl rfl
  | trigger template =>
      simp only [Event.affect]
      split
      · exact .of_registry rfl rfl fun _ _ h => (Daemon.engaged_signal _ _).mp h
      · exact .refl d
  | pass ms => exact .of_same rfl rfl rfl
  | wall now => exact .of_same rfl rfl rfl

theorem Pursued.goes (h : t.Pursued name) (goes : Goes t t') {e f : Entry Place}
    (found : t.daemon.registry.find? name = some e)
    (there : t'.daemon.registry.find? name = some f) :
    t'.Pursued name ∨ t.Abandons t' name e.id := by
  revert there
  refine goes.elim (fun q _ => .inl ?_) (fun event _ => .inl ?_) fun i o out going may there =>
    h.take found going may there
  · refine h.imp_right fun pursues => ?_
    show (t.calls ++ _).any _ = true
    rw [List.any_append, pursues]
    rfl
  · exact h.imp_left fun item => (affect_gathers event t.daemon).items.subset item

/-- The request for a task that gets marked is queued, if there is room. -/
theorem queued_of_newMark (loyal : t.daemon.Avoids .mark) (goes : Goes t t')
    (new : t.daemon.registry.NewMark t'.daemon.registry name) :
    name ∈ t'.daemon.deletes.items ∨ t'.daemon.deletes.isFull = true := by
  revert new
  refine goes.elim (fun _ new => absurd new (Registry.not_newMark_refl _ name))
    (fun event new => ?_) fun i o out going may new => ?_
  · exact ((affect_gathers event t.daemon).marked name new).imp_right fun full =>
      full.resolve_right id
  · rcases may.requests with gathers | ⟨_, hands⟩
    · exact (gathers.marked name new).imp_right fun full =>
        full.resolve_right fun loose => loose loyal
    · replace new : t.daemon.registry.NewMark out.2.registry name := new
      rw [hands.registry] at new
      exact absurd new (Registry.not_newMark_refl _ name)

/-- A task that is marked goes on to be pursued, if it was at the beginning, unless its request is
dropped or its deletion abandoned on the way. -/
theorem Sound.pursued_goesOn (sound : t.Sound) (loyal : t.daemon.Avoids .mark) {id : Nat}
    (h : ∀ e, t.daemon.registry.find? name = some e → e.id = id → e.marked = true →
      t.Pursued name)
    (on : GoesWithout (fun s s' => s.Drops s' name id ∨ s.Abandons s' name id) t t') :
    ∀ e, t'.daemon.registry.find? name = some e → e.id = id → e.marked = true →
      t'.Pursued name := by
  induction on with
  | refl => exact h
  | @tail s s' before last ih =>
      obtain ⟨last, kept⟩ := last
      have loyal := (sound.steady_goesOn (GoesWithout.goesOn before)).avoids _ loyal
      intro e found same marked
      by_cases new : s.daemon.registry.NewMark s'.daemon.registry name
      · rcases queued_of_newMark loyal last new with item | full
        · exact .inl item
        · by_contra lost
          exact kept (.inl ⟨new, ⟨e, found, same⟩, fun item => lost (.inl item), full⟩)
      · -- the mark was there before, so the task was pursued before
        have before : ∃ e', s.daemon.registry.find? name = some e' ∧ e'.id = e.id ∧
            e'.marked = true := by
          by_contra none
          refine new ⟨e, found, marked, fun e' found' same' => ?_⟩
          cases already : e'.marked with
          | false => rfl
          | true => exact absurd ⟨e', found', same', already⟩ none
        obtain ⟨e', found', same', marked'⟩ := before
        refine ((ih e' found' (same'.trans same) marked').goes last found' found).resolve_right ?_
        rw [same', same]
        exact fun abandoned => kept (.inr abandoned)

/-- An entry that is pursued is gone when nothing pursues it any more, unless its deletion was
abandoned. -/
theorem Sound.unpursued_goesOn (sound : t.Sound) {e : Entry Place}
    (found : t.daemon.registry.find? name = some e) (h : t.Pursued name)
    (on : GoesWithout (fun s s' => s.Abandons s' name e.id) t t') (settled : ¬ t'.Pursued name)
    {f : Entry Place} (there : t'.daemon.registry.find? name = some f) : f.id ≠ e.id := by
  intro same
  have issued := sound.exclusive.issued name e found
  have pursued : ∀ g, t'.daemon.registry.find? name = some g → g.id = e.id → t'.Pursued name := by
    clear settled there
    induction on with
    | refl => exact fun _ _ _ => h
    | @tail s s' before last ih =>
        intro g found' same'
        have before := GoesWithout.goesOn before
        have old : g.id < s.daemon.registry.nextId := by
          rw [same']
          exact Nat.lt_of_lt_of_le issued (sound.nextId_goesOn before)
        obtain ⟨e', there', continues⟩ :=
          (sound.goesOn before).entry_goesOn (.single last.1) found' old
        have number : e'.id = e.id := continues.id.symm.trans same'
        refine ((ih e' there' number).goes last.1 there' found').resolve_right ?_
        rw [number]
        exact last.2
  exact settled (pursued f there same)

end Traffic

/-! ### The queue after requests -/

namespace Daemon

variable {d : Daemon} {task : String}

theorem requestDeletion_again (h : d.registry.isMarked task = true) :
    d.requestDeletion task = d := by
  unfold requestDeletion
  rw [if_pos h]

theorem requestDeletion_refused (h : d.registry.isMarked task = false)
    (full : d.deletes.isFull = true) :
    d.requestDeletion task = { d with registry := d.registry.mark task } := by
  unfold requestDeletion Mailbox.offer?
  simp [h, full]

theorem requestDeletion_queued (h : d.registry.isMarked task = false)
    (room : d.deletes.isFull = false) :
    d.requestDeletion task = ({ d with
      registry := d.registry.mark task
      deletes := { d.deletes with items := d.deletes.items ++ [task] } } : Daemon).signal
        .deleteArrived := by
  unfold requestDeletion Mailbox.offer?
  simp [h, room]

/-- What requests for tasks that are registered and not marked come to, one after the other. -/
structure Asked (d : Daemon) (asked : List String) (d' : Daemon) : Prop where
  capacity : d'.deletes.capacity = d.deletes.capacity
  bounded : d'.deletes.items.length ≤ d'.deletes.capacity
  order : d'.deletes.items.Sublist asked
  once : d'.deletes.items.Nodup
  room : ∀ n ∈ asked, n ∈ d'.deletes.items ∨ d'.deletes.isFull = true
  entries : ∀ n, d'.registry.find? n =
    (d.registry.find? n).map fun e => { e with marked := e.marked || decide (n ∈ asked) }

theorem Asked.start (d : Daemon) (empty : d.deletes.items = []) : d.Asked [] d where
  capacity := rfl
  bounded := by
    rw [empty]
    exact Nat.zero_le _
  order := by simp [empty]
  once := by
    rw [empty]
    exact List.nodup_nil
  room := nofun
  entries n := by simp

theorem Asked.request {d d' : Daemon} {asked : List String} (h : d.Asked asked d')
    {e : Entry Place} (known : d.registry.find? task = some e) (unmarked : e.marked = false) :
    d.Asked (asked ++ [task]) (d'.requestDeletion task) := by
  have marked : d'.registry.isMarked task = decide (task ∈ asked) := by
    simp [Registry.isMarked, h.entries task, known, unmarked]
  have entries (r : Registry Place) (same : r = d'.registry.mark task) (n : String) : r.find? n =
      (d.registry.find? n).map fun e =>
        { e with marked := e.marked || decide (n ∈ asked ++ [task]) } := by
    rw [same, Registry.find?_mark, h.entries n, Option.map_map]
    refine congrFun (congrArg Option.map (funext fun e => ?_)) _
    by_cases here : n = task
    · simp [here]
    · simp [here]
  by_cases before : task ∈ asked
  · rw [requestDeletion_again (by rw [marked, decide_eq_true before])]
    have same (n : String) : n ∈ asked ++ [task] ↔ n ∈ asked := by
      simp only [List.mem_append, List.mem_singleton, or_iff_left_iff_imp]
      rintro rfl
      exact before
    exact ⟨h.capacity, h.bounded, h.order.trans (List.sublist_append_left _ _), h.once,
      fun n member => h.room n ((same n).mp member), fun n => by simp only [same, h.entries n]⟩
  · have new : d'.registry.isMarked task = false := by rw [marked, decide_eq_false before]
    cases full : d'.deletes.isFull with
    | true =>
        rw [requestDeletion_refused new full]
        exact ⟨h.capacity, h.bounded, h.order.trans (List.sublist_append_left _ _), h.once,
          fun _ _ => .inr full, entries _ rfl⟩
    | false =>
        rw [requestDeletion_queued new full]
        have short : d'.deletes.items.length < d'.deletes.capacity := by
          simpa [Mailbox.isFull] using full
        refine ⟨h.capacity, ?_, h.order.append (List.Sublist.refl [task]), ?_, fun n member => ?_,
          entries _ rfl⟩
        · show (d'.deletes.items ++ [task]).length ≤ d'.deletes.capacity
          rw [List.length_append]
          exact short
        · refine List.nodup_append.mpr ⟨h.once, by simp, ?_⟩
          rintro a member b alone rfl
          obtain rfl := List.mem_singleton.mp alone
          exact before (h.order.subset member)
        · rcases List.mem_append.mp member with earlier | last
          · rcases h.room n earlier with item | refused
            · exact .inl (List.mem_append_left _ item)
            · rw [full] at refused
              cases refused
          · exact .inl (List.mem_append_right _ last)

theorem Asked.requests {d d' : Daemon} {asked : List String} (h : d.Asked asked d')
    {names : List String}
    (known : ∀ n ∈ names, ∃ e, d.registry.find? n = some e ∧ e.marked = false) :
    d.Asked (asked ++ names) (names.foldl requestDeletion d') := by
  induction names generalizing asked d' with
  | nil =>
      rw [List.append_nil]
      exact h
  | cons n names ih =>
      obtain ⟨e, found, unmarked⟩ := known n List.mem_cons_self
      have next := ih (h.request found unmarked) fun m member =>
        known m (List.mem_cons_of_mem n member)
      rw [List.append_assoc] at next
      exact next

end Daemon

namespace Traffic

/-- Requests that are made while no call takes a turn. -/
theorem run_requests (t : Traffic) (names : List String) :
    t.run (names.map .requestDeletion) =
      { t with daemon := names.foldl Daemon.requestDeletion t.daemon } := by
  induction names generalizing t with
  | nil => rfl
  | cons n names ih => exact ih _

/-- The queue after requests for registered tasks, before anything is taken from it. -/
theorem requests_asked {d : Daemon}
    (unmarked : ∀ n e, d.registry.find? n = some e → e.marked = false)
    (empty : d.deletes = .empty Daemon.queueCapacity) {names : List String}
    (known : ∀ n ∈ names, d.registry.contains n = true) :
    d.Asked names ((opening d).run (names.map .requestDeletion)).daemon ∧
      ((opening d).run (names.map .requestDeletion)).daemon.deletes.capacity =
        Daemon.queueCapacity := by
  have start : d.Asked [] (opening d).daemon := by
    have begun := Daemon.Asked.start d (by rw [empty]; rfl)
    exact ⟨begun.capacity, begun.bounded, begun.order, begun.once, begun.room, begun.entries⟩
  have asked := start.requests fun n member => by
    obtain ⟨e, found⟩ := Option.isSome_iff_exists.mp (known n member)
    exact ⟨e, found, unmarked n e found⟩
  rw [run_requests]
  refine ⟨asked, asked.capacity.trans ?_⟩
  rw [empty]
  rfl

/-- What becomes of requests to delete. First, whatever set of registered tasks they are for, when
they are all made before a controller looks at the queue: the queue holds those that found room, in
order and each task once; and when nothing pursues such a task any more and its deletion was not
abandoned, it is gone. Second, wherever calls are, a task that is not marked yet is pursued from the
moment it is marked for as long as it is registered, unless its request is dropped or its deletion
abandoned on the way. -/
theorem requests_carried_out (d : Daemon) (rest : d.AtRest)
    (unmarked : ∀ n e, d.registry.find? n = some e → e.marked = false)
    (empty : d.deletes = .empty Daemon.queueCapacity) (loyal : d.Avoids .mark) :
    (∀ names : List String, (∀ n ∈ names, d.registry.contains n = true) →
      ∀ t, (opening d).run (names.map .requestDeletion) = t →
        t.daemon.deletes.items.Sublist names ∧ t.daemon.deletes.items.Nodup ∧
        (t.daemon.deletes.items.length = Daemon.queueCapacity ∨
          ∀ n ∈ names, n ∈ t.daemon.deletes.items) ∧
        ∀ n ∈ t.daemon.deletes.items, ∀ e, d.registry.find? n = some e →
          ∀ t', GoesWithout (fun s s' => s.Abandons s' n e.id) t t' → ¬ t'.Pursued n →
            ∀ f, t'.daemon.registry.find? n = some f → f.id ≠ e.id) ∧
    ∀ s, GoesOn (opening d) s → ∀ (n : String) (f : Entry Place),
      (∀ e, s.daemon.registry.find? n = some e → e.id = f.id → e.marked = false) →
      ∀ t, GoesWithout (fun u u' => u.Drops u' n f.id ∨ u.Abandons u' n f.id) s t →
        t.daemon.registry.find? n = some f → f.marked = true → t.Pursued n := by
  have sound := opening_sound rest
  have loyal : (opening d).daemon.Avoids .mark := ⟨loyal.made, loyal.named, loyal.otherwise⟩
  constructor
  · rintro names known t rfl
    obtain ⟨asked, capacity⟩ := requests_asked unmarked empty known
    refine ⟨asked.order, asked.once, ?_, fun n item e found t' on settled f there => ?_⟩
    · by_cases full : ((opening d).run (names.map .requestDeletion)).daemon.deletes.isFull = true
      · rw [Mailbox.isFull, decide_eq_true_eq] at full
        rw [← capacity]
        exact .inl (Nat.le_antisymm asked.bounded full)
      · exact .inr fun n member => (asked.room n member).resolve_right full
    · have marked := asked.entries n
      rw [found] at marked
      exact (sound.goesOn (GoesOn.run _ _)).unpursued_goesOn marked (.inl item) on settled there
  · intro s reached n f unmarked t on found marked
    refine (sound.goesOn reached).pursued_goesOn
      ((sound.steady_goesOn reached).avoids _ loyal) (fun e there same already => ?_) on f found rfl
      marked
    rw [unmarked e there same] at already
    cases already

/-! ### More tasks than the queue has room for -/

/-- The name of a task of a crowd. -/
def crowdName (i : Nat) : String := .ofList (List.replicate (i + 1) 'a')

/-- A daemon at rest that has so many tasks. -/
def crowd (k : Nat) : Daemon :=
  { sample.daemon .default with
    tokens := Tokens.empty.fresh.2
    backends := ((List.range k).map fun i =>
      .new ⟨crowdName i, 1⟩ { (default : Task) with name := crowdName i } .plain).toArray
    registry := ⟨(List.range k).map fun i => (crowdName i, ⟨i, i, [], false, false⟩), [], k⟩ }

theorem crowdName_inj {i j : Nat} (h : crowdName i = crowdName j) : i = j := by
  have lengths := congrArg List.length (String.ofList_injective h)
  simpa using lengths

theorem crowd_entry {k : Nat} {n : String} {e : Entry Place}
    (found : (crowd k).registry.find? n = some e) :
    ∃ i, i < k ∧ n = crowdName i ∧ e = ⟨i, i, [], false, false⟩ := by
  obtain ⟨before, after, entries, _⟩ := List.lookup_eq_some_iff.mp found
  have member : (n, e) ∈ (crowd k).registry.tasks := by
    rw [entries]
    exact List.mem_append_right _ List.mem_cons_self
  obtain ⟨i, inside, same⟩ := List.mem_map.mp member
  cases same
  exact ⟨i, List.mem_range.mp inside, rfl, rfl⟩

theorem crowd_contains {k i : Nat} (inside : i < k) :
    (crowd k).registry.contains (crowdName i) = true := by
  refine List.lookup_isSome_iff.mpr ⟨_, List.mem_map.mpr ⟨i, List.mem_range.mpr inside, rfl⟩, ?_⟩
  exact beq_self_eq_true _

theorem crowd_backend {k i : Nat} (inside : i < k) : (crowd k).backend i =
    .new ⟨crowdName i, 1⟩ { (default : Task) with name := crowdName i } .plain := by
  simp [Daemon.backend, crowd, inside]

theorem crowd_atRest (k : Nat) : (crowd k).AtRest where
  idle := by
    refine ⟨fun n m e f found there same => ?_, fun n e found => ?_, fun n e found => ?_⟩
    · obtain ⟨i, _, rfl, rfl⟩ := crowd_entry found
      obtain ⟨j, _, rfl, rfl⟩ := crowd_entry there
      exact congrArg crowdName same
    · obtain ⟨i, inside, rfl, rfl⟩ := crowd_entry found
      exact inside
    · obtain ⟨i, _, rfl, rfl⟩ := crowd_entry found
      rfl
  indexed id n owner := by cases owner
  inside n e found := by
    obtain ⟨i, inside, rfl, rfl⟩ := crowd_entry found
    simpa [crowd] using inside
  named n e found := by
    obtain ⟨i, inside, rfl, rfl⟩ := crowd_entry found
    rw [Daemon.taskOf, crowd_backend inside]
    rfl

theorem crowd_unmarked (k : Nat) (n : String) (e : Entry Place)
    (found : (crowd k).registry.find? n = some e) : e.marked = false := by
  obtain ⟨i, _, rfl, rfl⟩ := crowd_entry found
  rfl

theorem crowd_avoids (k : Nat) (a : Action) : (crowd k).Avoids a where
  made b h member := by
    have none : ((crowd k).backend b).script.hooks = [] := by
      by_cases inside : b < k
      · rw [crowd_backend inside]
        rfl
      · simp [Daemon.backend, crowd, inside]
        rfl
    rw [none] at member
    cases member
  named := nofun
  otherwise := nofun

/-- A request for each task of a crowd. -/
def crowdRequests (k : Nat) : List Event := ((List.range k).map crowdName).map .requestDeletion

/-- A controller begins, takes the first request and has the task deleted. -/
def crowdDeletion : List Event :=
  [.call (.control ⟨0⟩), .turn 0, .turn 0, .turn 0, .turn 0, .turn 2, .turn 2, .turn 2]

/-- The only task of a daemon is gone once its deletion has ended. -/
theorem requests_carried_out_sample : ¬ ∃ f,
    (((opening (crowd 1)).run (crowdRequests 1)).run crowdDeletion).daemon.registry.find?
      (crowdName 0) = some f ∧ f.id = 0 := by
  obtain ⟨queue, _⟩ :=
    requests_carried_out (crowd 1) (crowd_atRest 1) (crowd_unmarked 1) rfl (crowd_avoids 1 .mark)
  obtain ⟨_, _, _, gone⟩ := queue [crowdName 0] (by decide) _ rfl
  have calm : ∀ k < crowdDeletion.length, (((opening (crowd 1)).run (crowdRequests 1)).run
      (crowdDeletion.take k)).daemon.tokens.states.all (!·.canceled) = true := by decide
  rintro ⟨f, found, first⟩
  exact gone (crowdName 0) (by decide) ⟨0, 0, [], false, false⟩ rfl _
    (GoesWithout.run _ crowdDeletion fun k within => not_abandons (calm k within)) (by decide) f
    found first

/-- With more tasks than the queue has room for, and a request for each of them, one is marked for
deletion that nothing pursues: it is not in the queue, and no call is under way at all. -/
theorem crowd_unpursued {k : Nat} (many : Daemon.queueCapacity < k) : ∃ n f,
    ((opening (crowd k)).run (crowdRequests k)).daemon.registry.find? n = some f ∧
      f.marked = true ∧ ¬ ((opening (crowd k)).run (crowdRequests k)).Pursued n := by
  have known : ∀ n ∈ (List.range k).map crowdName, (crowd k).registry.contains n = true := by
    intro n member
    obtain ⟨i, inside, rfl⟩ := List.mem_map.mp member
    exact crowd_contains (List.mem_range.mp inside)
  obtain ⟨asked, capacity⟩ := requests_asked (crowd_unmarked k) rfl known
  have distinct : ((List.range k).map crowdName).Nodup :=
    List.nodup_iff_pairwise_ne.mpr (List.pairwise_map.mpr
      (List.nodup_range.imp fun apart same => apart (crowdName_inj same)))
  have unasked : ∃ n ∈ (List.range k).map crowdName,
      n ∉ ((opening (crowd k)).run (crowdRequests k)).daemon.deletes.items := by
    by_contra all
    have long := distinct.length_le_of_subset fun n member => by
      by_contra missing
      exact all ⟨n, member, missing⟩
    rw [List.length_map, List.length_range] at long
    exact Nat.not_lt.mpr (capacity ▸ Nat.le_trans long asked.bounded) many
  obtain ⟨n, member, missing⟩ := unasked
  obtain ⟨e, found⟩ := Option.isSome_iff_exists.mp (known n member)
  have marked := asked.entries n
  rw [found] at marked
  refine ⟨n, _, marked, by simp [member], ?_⟩
  rintro (item | pursues)
  · exact missing item
  · rw [crowdRequests, run_requests] at pursues
    cases pursues

/-- One task too many. -/
theorem crowd_request_lost : ∃ n f,
    ((opening (crowd 65)).run (crowdRequests 65)).daemon.registry.find? n = some f ∧
      f.marked = true ∧ ¬ ((opening (crowd 65)).run (crowdRequests 65)).Pursued n :=
  crowd_unpursued (by decide)

end Traffic

end TaskSync
