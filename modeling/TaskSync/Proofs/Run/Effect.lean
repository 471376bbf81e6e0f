import TaskSync.Proofs.Operation.Leaves

/-!
# What is seen of a run

A run is seen in four places: the backend is called, a record is stored, a notice is published and
a completion is announced. `Effect` lists what comes there; `Between` says that one daemon differs
from another by it and, in these four places, by nothing else.
-/

namespace TaskSync

/-- The call of a backend that the line is about. -/
def JournalEntry.call? : JournalEntry → Option CallKind
  | .called _ kind => some kind
  | .updated _ _ _ => some .update
  | _ => none

/-- The notice of a record. -/
def announcement (r : RunRecord) : Notice := .runCompleted r.taskName r.success r.error

/-- What is seen of a turn, or of several, in the order in which it comes. -/
structure Effect where
  calls : List CallKind := []
  records : List RunRecord := []
  notices : List Notice := []
  completions : List String := []

namespace Effect

def append (x y : Effect) : Effect :=
  ⟨x.calls ++ y.calls, x.records ++ y.records, x.notices ++ y.notices,
    x.completions ++ y.completions⟩

instance : Append Effect := ⟨append⟩

theorem append_def (x y : Effect) : x ++ y = ⟨x.calls ++ y.calls, x.records ++ y.records,
    x.notices ++ y.notices, x.completions ++ y.completions⟩ := rfl

/-- A completion reaches the listener, if there is one and it keeps up. -/
def offered (box : Option Mailbox) (task : String) : Option Mailbox :=
  (box.bind fun m => m.offer? task).or box

/-- The effect is all that is seen. -/
structure Between (x : Effect) (d d' : Daemon) : Prop where
  calls : ∃ lines, d'.journal = lines ++ d.journal ∧
    lines.reverse.filterMap JournalEntry.call? = x.calls
  store : d'.store = x.records.foldl MemoryStore.addRecord d.store
  bus : d'.bus = x.notices.foldl (fun b n => (b.publish n).2) d.bus
  completions : d'.completions = x.completions.foldl offered d.completions

variable {x y : Effect} {d d₁ d₂ : Daemon}

theorem Between.trans (h : x.Between d d₁) (h' : y.Between d₁ d₂) : (x ++ y).Between d d₂ where
  calls := by
    obtain ⟨lines, journal, calls⟩ := h.calls
    obtain ⟨lines', journal', calls'⟩ := h'.calls
    refine ⟨lines' ++ lines, by rw [journal', journal, List.append_assoc], ?_⟩
    rw [List.reverse_append, List.filterMap_append, calls, calls']
    rfl
  store := by rw [h'.store, h.store, append_def, List.foldl_append]
  bus := by rw [h'.bus, h.bus, append_def, List.foldl_append]
  completions := by rw [h'.completions, h.completions, append_def, List.foldl_append]

theorem Between.of_same (journal : d₁.journal = d.journal) (store : d₁.store = d.store)
    (bus : d₁.bus = d.bus) (completions : d₁.completions = d.completions) :
    ({} : Effect).Between d d₁ := ⟨⟨[], journal, rfl⟩, store, bus, completions⟩

theorem Between.refl (d : Daemon) : ({} : Effect).Between d d := .of_same rfl rfl rfl rfl

/-- Nothing more is seen afterwards. -/
theorem Between.and_then (h : x.Between d d₁) (journal : d₂.journal = d₁.journal)
    (store : d₂.store = d₁.store) (bus : d₂.bus = d₁.bus)
    (completions : d₂.completions = d₁.completions) : x.Between d d₂ where
  calls := by
    rw [journal]
    exact h.calls
  store := store.trans h.store
  bus := bus.trans h.bus
  completions := completions.trans h.completions

theorem Between.of_aside {lines : List JournalEntry} (h : Daemon.Aside lines d d₁) :
    ({ calls := lines.reverse.filterMap JournalEntry.call? } : Effect).Between d d₁ :=
  ⟨⟨lines, h.journal, rfl⟩, h.store, h.bus, h.completions⟩

theorem Between.of_completion (d : Daemon) (task : String) :
    ({ completions := [task] } : Effect).Between d (d.notifyCompletion task) := by
  unfold Daemon.notifyCompletion
  cases offer : d.completions.bind fun m => m.offer? task with
  | none =>
      refine ⟨⟨[], rfl, rfl⟩, rfl, rfl, ?_⟩
      show d.completions = offered d.completions task
      rw [offered, offer, Option.none_or]
  | some box =>
      refine ⟨⟨[], rfl, rfl⟩, rfl, rfl, ?_⟩
      show some box = offered d.completions task
      rw [offered, offer, Option.some_or]

/-- Then the notice of a record is published. -/
theorem Between.announce {calls : List CallKind} (h : ({ calls } : Effect).Between d d₁)
    (r : RunRecord) :
    ({ calls, notices := [announcement r] } : Effect).Between d (d₁.announceRun r) where
  calls := h.calls
  store := h.store
  bus := by
    have bus : d₁.bus = d.bus := h.bus
    rw [← bus]
    rfl
  completions := h.completions

end Effect

/-! ### Calls that take time -/

/-- The call that the next turn makes. -/
def Pending.toMake (kind : CallKind) : Pending → List CallKind
  | .unsent => [kind]
  | .delayed _ => []

/-- The call that was made already. -/
def Pending.made (kind : CallKind) : Pending → List CallKind
  | .unsent => []
  | .delayed _ => [kind]

theorem Pending.made_toMake (kind : CallKind) (p : Pending) :
    p.made kind ++ p.toMake kind = [kind] := by
  cases p <;> rfl

namespace TimedCall

variable {α : Type}

/-- The call is made once, in its first turn. -/
theorem turn_between (c : TimedCall α) (takes : c.Takes) (b : Place) (token : Token) (p : Pending)
    (d : Daemon) :
    ({ calls := p.toMake c.kind } : Effect).Between d (c.turn b token p d).2 := by
  obtain ⟨lines, found, aside⟩ := c.turn_aside takes b token p d
  have shown := Effect.Between.of_aside aside
  cases found with
  | sent | cut | interrupted | waited | waiting => exact shown

/-- A call is under way after its first turn only, and only so it can have to wait. -/
theorem turn_cases (c : TimedCall α) (b : Place) (token : Token) (p : Pending) (d : Daemon) :
    (p = .unsent ∧ ∃ due, (c.turn b token p d).1 = .next (.delayed due)) ∨
      (∃ due on, p = .delayed due ∧ d.clock < due ∧ (c.turn b token p d).1 = .wait on) ∨
      ∃ r, (c.turn b token p d).1 = .done r := by
  cases p with
  | unsent =>
      simp only [turn]
      split
      · exact .inr (.inr ⟨_, rfl⟩)
      split
      · exact .inr (.inr ⟨_, rfl⟩)
      · exact .inl ⟨trivial, _, rfl⟩
  | delayed due =>
      simp only [turn]
      split
      · exact .inr (.inr ⟨_, rfl⟩)
      split
      · exact .inr (.inr ⟨_, rfl⟩)
      next late => exact .inr (.inl ⟨due, _, rfl, Nat.lt_of_not_le late, rfl⟩)

end TimedCall

end TaskSync
