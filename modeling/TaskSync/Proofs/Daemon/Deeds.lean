import TaskSync.Proofs.Daemon.Detached
import TaskSync.Proofs.Run.Effect

/-!
# Calls, notices and timers cut off

Beside what becomes of the registry and the store, a turn calls a backend, publishes notices and
cuts timers off. `Deeds` lists the calls and the notices. Here a call is told by the backend that
notes it and not by a line of the journal, so two backends of one label are told apart. `Cuts` says
that stops are taken away at most, and that the token of each one that goes is canceled.
-/

namespace TaskSync

/-- Whether the notice is that of a run. -/
def Notice.isRun : Notice → Bool
  | .runCompleted _ _ _ => true
  | _ => false

/-- What a turn, or several, does: the calls, the last one first, and the notices in order. -/
structure Deeds where
  calls : List CallKind := []
  notices : List Notice := []

/-- Stops are taken away at most, and the token of one that goes is canceled if it is a token at
all. -/
structure Daemon.Cuts (d d' : Daemon) : Prop where
  nextStop : d'.nextStop = d.nextStop
  tokens : d.tokens.states.length ≤ d'.tokens.states.length
  canceled : ∀ t, d.isCanceled t = true → d'.isCanceled t = true
  stops : ∀ task stop, d'.stops.get? task = some stop → d.stops.get? task = some stop
  gone : ∀ task stop, d.stops.get? task = some stop →
    stop.token.place < d.tokens.states.length →
      d'.stops.get? task = some stop ∨ d'.isCanceled stop.token = true

/-! ### Tokens -/

namespace Tokens

theorem length_push (ts : Tokens) (s : TokenState) :
    (ts.push s).2.states.length = ts.states.length + 1 := List.length_append

theorem length_named (ts : Tokens) (name : String) :
    ts.states.length ≤ (ts.named name).2.states.length := by
  unfold named
  split
  · exact Nat.le_refl _
  · exact Nat.le_of_lt (Nat.lt_of_lt_of_eq (Nat.lt_succ_self _) (length_push ts _).symm)

theorem length_cancel (ts : Tokens) (t : Token) :
    (ts.cancel t).2.states.length = ts.states.length := by
  unfold cancel
  simp

/-- A token is one of its own family. -/
theorem mem_family (ts : Tokens) (t : Token) : t ∈ ts.family t := by
  have grows : ∀ (states : List (TokenState × Nat)) (found : List Token), t ∈ found →
      t ∈ states.foldl (fun found x =>
        if x.1.parent.any found.contains then ⟨x.2⟩ :: found else found) found := by
    intro states
    induction states with
    | nil => exact fun found member => member
    | cons x states ih =>
        intro found member
        refine ih _ ?_
        simp only
        split
        · exact List.mem_cons_of_mem _ member
        · exact member
  exact grows _ _ List.mem_cons_self

theorem isCanceled_cancel_self {ts : Tokens} {t : Token} (inside : t.place < ts.states.length) :
    (ts.cancel t).2.isCanceled t = true := by
  have after : (ts.cancel t).2.states[t.place]? = some
      (if (ts.family t).contains ⟨t.place⟩ then { ts.states[t.place] with canceled := true }
        else ts.states[t.place]) := by
    unfold cancel
    simp only [List.getElem?_map, List.getElem?_zipIdx, List.getElem?_eq_getElem inside,
      Option.map_some, Nat.zero_add]
  rw [if_pos (List.contains_iff_mem.mpr (ts.mem_family t))] at after
  exact isCanceled_iff.mpr ⟨_, after, rfl⟩

end Tokens

namespace Daemon

/-- The tokens after a cancellation. -/
theorem tokens_cancel (d : Daemon) (t : Token) : (d.cancel t).tokens = (d.tokens.cancel t).2 := by
  obtain ⟨hs, after⟩ := foldl_signal (d.tokens.cancel t).1
    { d with tokens := (d.tokens.cancel t).2 }
  rw [show d.cancel t = _ from after]

theorem stops_cancel (d : Daemon) (t : Token) :
    (d.cancel t).stops = d.stops ∧ (d.cancel t).nextStop = d.nextStop := by
  obtain ⟨ts, hs, after⟩ := d.cancel_frame t
  rw [after]
  exact ⟨rfl, rfl⟩

theorem isCanceled_cancel_self {d : Daemon} {t : Token}
    (inside : t.place < d.tokens.states.length) : (d.cancel t).isCanceled t = true := by
  unfold isCanceled
  rw [tokens_cancel]
  exact Tokens.isCanceled_cancel_self inside

end Daemon

/-! ### Timers cut off -/

namespace Daemon.Cuts

variable {d d' d'' : Daemon}

theorem refl (d : Daemon) : d.Cuts d :=
  ⟨rfl, Nat.le_refl _, fun _ h => h, fun _ _ h => h, fun _ _ h _ => .inl h⟩

theorem trans (h : d.Cuts d') (h' : d'.Cuts d'') : d.Cuts d'' where
  nextStop := h'.nextStop.trans h.nextStop
  tokens := Nat.le_trans h.tokens h'.tokens
  canceled t before := h'.canceled t (h.canceled t before)
  stops task stop found := h.stops task stop (h'.stops task stop found)
  gone task stop found inside := by
    rcases h.gone task stop found inside with kept | canceled
    · exact h'.gone task stop kept (Nat.lt_of_lt_of_le inside h.tokens)
    · exact .inr (h'.canceled _ canceled)

theorem of_same (stops : d'.stops = d.stops) (nextStop : d'.nextStop = d.nextStop)
    (tokens : d'.tokens = d.tokens) : d.Cuts d' where
  nextStop := nextStop
  tokens := Nat.le_of_eq (by rw [tokens])
  canceled t before := by
    unfold isCanceled
    rw [tokens]
    exact before
  stops task stop found := by
    rw [stops] at found
    exact found
  gone task stop found _ := .inl (by rw [stops]; exact found)

theorem cancel (d : Daemon) (t : Token) : d.Cuts (d.cancel t) where
  nextStop := (d.stops_cancel t).2
  tokens := Nat.le_of_eq (by rw [tokens_cancel, Tokens.length_cancel])
  canceled := (Detached.cancel d t).canceled
  stops := (Detached.cancel d t).stops
  gone task stop found _ := .inl (by rw [(d.stops_cancel t).1]; exact found)

theorem namedToken (d : Daemon) (name : String) : d.Cuts (d.namedToken name).2 where
  nextStop := rfl
  tokens := Tokens.length_named d.tokens name
  canceled := (Detached.namedToken d name).canceled
  stops _ _ found := found
  gone _ _ found _ := .inl found

theorem stopTimer (d : Daemon) (task : String) : d.Cuts (d.stopTimer task) := by
  have detached := Detached.stopTimer d task
  unfold Daemon.stopTimer at detached ⊢
  split
  next stop there =>
    rw [there] at detached
    let erased : Daemon := { d with stops := d.stops.erase task }
    refine ⟨(erased.stops_cancel stop.token).2, ?_, detached.canceled, detached.stops,
      fun other s found inside => ?_⟩
    · exact Nat.le_of_eq (by rw [tokens_cancel, Tokens.length_cancel])
    · by_cases same : other = task
      · subst same
        rw [there] at found
        cases found
        exact .inr (isCanceled_cancel_self (d := erased) inside)
      · refine .inl ?_
        show (erased.cancel stop.token).stops.get? other = some s
        rw [(erased.stops_cancel stop.token).1]
        exact (SortedMap.get?_erase task other d.stops).trans ((if_neg same).trans found)
  · exact .refl d

/-- All stops go, one after the other. -/
theorem stopTimers (d : Daemon) : d.Cuts d.stopTimers := by
  have cancels : ∀ (entries : SortedMap Stop) (d : Daemon),
      d.Cuts (entries.foldl (fun d entry => d.cancel entry.2.token) d) ∧
        ∀ task stop, entries.get? task = some stop → stop.token.place < d.tokens.states.length →
          (entries.foldl (fun d entry => d.cancel entry.2.token) d).isCanceled stop.token =
            true := by
    intro entries
    induction entries with
    | nil => exact fun d => ⟨.refl d, fun task stop found => by cases found⟩
    | cons entry entries ih =>
        intro d
        obtain ⟨cuts, canceled⟩ := ih (d.cancel entry.2.token)
        have first := Cuts.cancel d entry.2.token
        refine ⟨first.trans cuts, fun task stop found inside => ?_⟩
        rw [SortedMap.get?_cons] at found
        split at found
        · cases found
          exact cuts.canceled _ (isCanceled_cancel_self inside)
        · exact canceled task stop found (Nat.lt_of_lt_of_le inside first.tokens)
  obtain ⟨cuts, canceled⟩ := cancels d.stops { d with stops := [] }
  refine ⟨cuts.nextStop, cuts.tokens, cuts.canceled, fun task stop found => ?_,
    fun task stop found inside => .inr (canceled task stop found inside)⟩
  cases cuts.stops task stop found

end Daemon.Cuts

/-! ### Deeds -/

namespace Deeds

/-- The deeds are all that this backend, if any, notes and that the bus carries. -/
structure Shown (x : Deeds) (backend? : Option Place) (d d' : Daemon) : Prop where
  size : d.backends.size ≤ d'.backends.size
  calls : ∀ c, c < d.backends.size → (d'.backend c).calls =
    if backend? = some c then x.calls ++ (d.backend c).calls else (d.backend c).calls
  bus : d'.bus = x.notices.foldl (fun b n => (b.publish n).2) d.bus

/-- The same, and timers are cut off at most. -/
structure Between (x : Deeds) (backend? : Option Place) (d d' : Daemon) : Prop
    extends Shown x backend? d d', d.Cuts d'

variable {x : Deeds} {backend? : Option Place} {d d₁ d₂ : Daemon}

namespace Shown

theorem of_same (backends : d₁.backends = d.backends) (bus : d₁.bus = d.bus) :
    ({} : Deeds).Shown backend? d d₁ where
  size := Nat.le_of_eq (by rw [backends])
  calls c _ := by
    unfold Daemon.backend
    rw [backends]
    exact (ite_self _).symm
  bus := bus

/-- Nothing is done afterwards. -/
theorem and_then (h : x.Shown backend? d d₁) (h' : ({} : Deeds).Shown backend? d₁ d₂) :
    x.Shown backend? d d₂ where
  size := Nat.le_trans h.size h'.size
  calls c inside := by
    rw [h'.calls c (Nat.lt_of_lt_of_le inside h.size)]
    exact (ite_self _).trans (h.calls c inside)
  bus := h'.bus.trans h.bus

theorem trans {y : Deeds} (h : x.Shown backend? d d₁) (h' : y.Shown backend? d₁ d₂) :
    (⟨y.calls ++ x.calls, x.notices ++ y.notices⟩ : Deeds).Shown backend? d d₂ where
  size := Nat.le_trans h.size h'.size
  calls c inside := by
    rw [h'.calls c (Nat.lt_of_lt_of_le inside h.size), h.calls c inside]
    split
    · rw [List.append_assoc]
    · rfl
  bus := by rw [h'.bus, h.bus, List.foldl_append]

theorem of_aloof (h : d.Aloof d₁) : ({} : Deeds).Shown backend? d d₁ := by
  rw [h.frame]
  exact .of_same rfl rfl

end Shown

namespace Between

theorem of_same (backends : d₁.backends = d.backends) (bus : d₁.bus = d.bus)
    (stops : d₁.stops = d.stops) (nextStop : d₁.nextStop = d.nextStop)
    (tokens : d₁.tokens = d.tokens) : ({} : Deeds).Between backend? d d₁ :=
  ⟨.of_same backends bus, .of_same stops nextStop tokens⟩

theorem refl (d : Daemon) : ({} : Deeds).Between backend? d d := .of_same rfl rfl rfl rfl rfl

theorem and_then (h : x.Between backend? d d₁) (h' : ({} : Deeds).Between backend? d₁ d₂) :
    x.Between backend? d d₂ := ⟨h.toShown.and_then h'.toShown, h.toCuts.trans h'.toCuts⟩

theorem trans {y : Deeds} (h : x.Between backend? d d₁) (h' : y.Between backend? d₁ d₂) :
    (⟨y.calls ++ x.calls, x.notices ++ y.notices⟩ : Deeds).Between backend? d d₂ :=
  ⟨h.toShown.trans h'.toShown, h.toCuts.trans h'.toCuts⟩

/-- A change of tokens and stops. -/
theorem of_cuts (backends : d₁.backends = d.backends) (bus : d₁.bus = d.bus) (h : d.Cuts d₁) :
    ({} : Deeds).Between backend? d d₁ := ⟨.of_same backends bus, h⟩

theorem cancel (d : Daemon) (t : Token) : ({} : Deeds).Between backend? d (d.cancel t) := by
  have cuts := Daemon.Cuts.cancel d t
  obtain ⟨ts, hs, h⟩ := d.cancel_frame t
  refine .of_cuts ?_ ?_ cuts
  · rw [h]
  · rw [h]

theorem stopTimer (d : Daemon) (task : String) :
    ({} : Deeds).Between backend? d (d.stopTimer task) := by
  have cuts := Daemon.Cuts.stopTimer d task
  obtain ⟨ts, hs, stops, h⟩ := d.stopTimer_frame task
  refine .of_cuts ?_ ?_ cuts
  · rw [h]
  · rw [h]

theorem requestDeletion (d : Daemon) (task : String) :
    ({} : Deeds).Between backend? d (d.requestDeletion task) := by
  obtain ⟨r, box, hs, h, _⟩ := d.requestDeletion_frame task
  rw [h]
  exact .of_same rfl rfl rfl rfl rfl

theorem announceSchedule (d : Daemon) (task : String) :
    ({} : Deeds).Between backend? d (d.announceSchedule task) := by
  obtain ⟨box, hs, h⟩ := d.announceSchedule_frame task
  rw [h]
  exact .of_same rfl rfl rfl rfl rfl

theorem notifyCompletion (d : Daemon) (task : String) :
    ({} : Deeds).Between backend? d (d.notifyCompletion task) := by
  obtain ⟨c, h⟩ := d.notifyCompletion_frame task
  rw [h]
  exact .of_same rfl rfl rfl rfl rfl

theorem write (d : Daemon) (op : StoreOp) (task : String) (f : MemoryStore → MemoryStore) :
    ({} : Deeds).Between backend? d (d.write op task f).2 := by
  obtain ⟨s, faults, after, _⟩ := d.write_frame op task f
  rw [after]
  exact .of_same rfl rfl rfl rfl rfl

theorem activate {task : String} {g : Guard} (taken : d.tryActivate task = .ok (some g, d₁)) :
    ({} : Deeds).Between backend? d d₁ := by
  obtain ⟨r, activated, rfl⟩ := Daemon.tryActivate_eq_some taken
  exact .of_same rfl rfl rfl rfl rfl

/-- Then a notice is published. -/
theorem publish {calls : List CallKind} (h : ({ calls } : Deeds).Between backend? d d₁)
    (n : Notice) : ({ calls, notices := [n] } : Deeds).Between backend? d (d₁.publish n) := by
  refine ⟨⟨h.size, h.calls, ?_⟩, h.toCuts.trans (.of_same rfl rfl rfl)⟩
  have bus : d₁.bus = d.bus := h.bus
  show (d₁.bus.publish n).2 = (d.bus.publish n).2
  rw [bus]

/-- A change of one backend that is no call. -/
theorem setBackend (d : Daemon) (b : Place) {y : Backend} (same : y.calls = (d.backend b).calls) :
    ({} : Deeds).Between backend? d (d.setBackend b y) := by
  refine ⟨⟨Nat.le_of_eq Array.size_setIfInBounds.symm, fun c inside => ?_, rfl⟩,
    .of_same rfl rfl rfl⟩
  rw [Daemon.backend_setBackend]
  split
  next here => rw [here.1, same, List.nil_append, ite_self]
  · rw [List.nil_append, ite_self]

theorem setEnabled (d : Daemon) (b : Place) (on : Bool) :
    ({} : Deeds).Between backend? d (d.setBackend b ((d.backend b).setEnabled on)) :=
  .setBackend d b rfl

theorem answer {α : Type} (d : Daemon) (b : Place) (f : BackendScript → α × BackendScript) :
    ({} : Deeds).Between backend? d (d.answer b f).2 := .setBackend d b rfl

theorem perform (d : Daemon) (b : Place) (a : Action) :
    ({} : Deeds).Between backend? d (d.perform b a) := by
  cases a with
  | cancel token =>
      have named : ({} : Deeds).Between backend? d (d.namedToken token).2 :=
        .of_cuts rfl rfl (.namedToken d token)
      exact named.and_then (.cancel _ (d.namedToken token).1)
  | enable => exact .setEnabled d b true
  | disable => exact .setEnabled d b false
  | mark => exact .of_same rfl rfl rfl rfl rfl
  | delete => exact .requestDeletion d _
  | unregister =>
      unfold Daemon.perform
      simp only
      split
      · exact .of_same rfl rfl rfl rfl rfl
      · exact .refl d

/-- The backend notes its call before the hooks are asked. -/
theorem callAs (d : Daemon) (b : Place) (kind : CallKind) (line : JournalEntry) :
    ({ calls := [kind] } : Deeds).Between (some b) d (d.callAs b kind line) := by
  have hooks : ∀ (actions : List Action) (d : Daemon),
      ({} : Deeds).Between (some b) d (actions.foldl (fun d a => d.perform b a) d) := by
    intro actions
    induction actions with
    | nil => exact fun d => .refl d
    | cons a actions ih => exact fun d => (perform d b a).and_then (ih _)
  have noted : ({ calls := [kind] } : Deeds).Between (some b) d
      ((d.log line).setBackend b ((d.backend b).note kind).2) := by
    refine ⟨⟨Nat.le_of_eq Array.size_setIfInBounds.symm, fun c inside => ?_, rfl⟩,
      .of_same rfl rfl rfl⟩
    rw [Daemon.backend_setBackend]
    by_cases same : b = c
    · subst same
      rw [if_pos ⟨rfl, inside⟩, if_pos rfl]
      rfl
    · rw [if_neg fun here => same here.1.symm, if_neg fun here => same (Option.some.inj here)]
      rfl
  exact noted.and_then (hooks ((d.backend b).note kind).1 _)

theorem call (d : Daemon) (b : Place) (kind : CallKind) :
    ({ calls := [kind] } : Deeds).Between (some b) d (d.call b kind) := callAs d b kind _

theorem patch (d : Daemon) (b : Place) (on : Bool) (option : RunOption) :
    ({ calls := [.update] } : Deeds).Between (some b) d (d.patch b on option).2 := by
  have answered := (callAs d b .update (.updated (d.backend b).label on option)).and_then
    (.answer _ b fun s : BackendScript =>
      (s.updates.next.1, { s with updates := s.updates.next.2 }))
  unfold Daemon.patch
  simp only
  split
  · exact answered
  · show Between _ _ d (if option = .inspect then _ else _)
    split
    · exact answered
    · exact answered.and_then (.setEnabled _ b on)

/-- Making a backend calls none. -/
theorem make {t : Task} {r : Except BackendError Place} (h : d.make t = (r, d₁)) :
    ({} : Deeds).Between backend? d d₁ := by
  cases r with
  | error e =>
      obtain ⟨label, made, rfl⟩ := Daemon.make_eq_error h
      exact .of_same rfl rfl rfl rfl rfl
  | ok b =>
      obtain ⟨_, label, made, script, rfl, _⟩ := Daemon.make_eq_ok h
      refine ⟨⟨?_, fun c inside => ?_, rfl⟩, .of_same rfl rfl rfl⟩
      · show _ ≤ (d.backends.push _).size
        rw [Array.size_push]
        exact Nat.le_succ _
      · show ((d.backends.push _).getD c default).calls = _
        rw [Daemon.backend_push, if_neg (Nat.ne_of_lt inside)]
        exact (ite_self _).symm

end Between

end Deeds

theorem TimedCall.turn_deeds {α : Type} (c : TimedCall α) (b : Place) (token : Token)
    (p : Pending) (d : Daemon) :
    ({ calls := p.toMake c.kind } : Deeds).Between (some b) d (c.turn b token p d).2 := by
  have interrupted (d : Daemon) : ({} : Deeds).Between (some b) d (c.interrupt b d).2 :=
    .of_same rfl rfl rfl rfl rfl
  cases p with
  | unsent =>
      have called : ({ calls := [c.kind] } : Deeds).Between (some b) d
          ((d.answer b c.delay).2.call b c.kind) :=
        (Deeds.Between.answer d b c.delay).trans (.call _ b c.kind)
      simp only [turn]
      split
      · exact called.and_then (.answer _ b c.answer)
      · split
        · exact called.and_then (interrupted _)
        · exact called
  | delayed due =>
      simp only [turn]
      split
      · exact interrupted d
      · split
        · have logged : ({} : Deeds).Between (some b) d
              (d.log (.waited (d.backend b).label c.kind)) := .of_same rfl rfl rfl rfl rfl
          exact logged.and_then (.answer _ b c.answer)
        · exact .refl d

end TaskSync
