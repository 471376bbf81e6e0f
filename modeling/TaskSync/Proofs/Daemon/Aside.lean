import TaskSync.Daemon.Call
import TaskSync.Proofs.Registry.Path

/-!
# What calls of backends leave alone

A call of a backend writes a line into the journal, takes answers from the backend's script and
does what the backend's hooks ask for. `Aside` says how far that can reach: tokens, happenings,
flags and removals in the registry, the queue of deletions, and what is left of the scripts. The
store, the bus, the completions and the clock are out of reach, whatever the script.

`Follows` is the part of a backend that no operation changes: its label, its templates, its hooks
and its task, the enabled flag aside.
-/

namespace TaskSync

/-- No hook of the script asks for the action. -/
def BackendScript.Avoids (s : BackendScript) (a : Action) : Prop := ∀ h ∈ s.hooks, a ∉ h.actions

/-- The backend is the same but for its progress and its enabled flag. -/
structure Backend.Follows (b b' : Backend) : Prop where
  label : b'.label = b.label
  task : b'.task = { b.task with enabled := b'.task.enabled }
  templates : b'.script.templates = b.script.templates
  hooks : b'.script.hooks = b.script.hooks

namespace Backend.Follows

variable {b b' b'' : Backend}

theorem refl (b : Backend) : b.Follows b := ⟨rfl, rfl, rfl, rfl⟩

theorem trans (h : b.Follows b') (h' : b'.Follows b'') : b.Follows b'' where
  label := h'.label.trans h.label
  task := by rw [h'.task, h.task]
  templates := h'.templates.trans h.templates
  hooks := h'.hooks.trans h.hooks

theorem name (h : b.Follows b') : b'.task.name = b.task.name := by rw [h.task]

theorem avoids_iff (h : b.Follows b') (a : Action) : b'.script.Avoids a ↔ b.script.Avoids a := by
  unfold BackendScript.Avoids
  rw [h.hooks]

theorem setEnabled (b : Backend) (on : Bool) : b.Follows (b.setEnabled on) := ⟨rfl, rfl, rfl, rfl⟩

end Backend.Follows

namespace Daemon

/-- No hook of any backend, made or yet to be made, asks for the action. -/
structure Avoids (d : Daemon) (a : Action) : Prop where
  made : ∀ b, (d.backend b).script.Avoids a
  named : ∀ n scripts, d.setting.backends.get? n = some scripts → ∀ s ∈ scripts, s.Avoids a
  otherwise : d.setting.otherwise.Avoids a

theorem backend_setBackend (d : Daemon) (b c : Place) (x : Backend) :
    (d.setBackend b x).backend c = if c = b ∧ b < d.backends.size then x else d.backend c := by
  simp only [backend, setBackend, Array.getD_eq_getD_getElem?, Array.getElem?_setIfInBounds]
  by_cases same : c = b
  · subst same
    by_cases inside : c < d.backends.size
    · simp [inside]
    · simp [inside]
  · have apart : ¬ b = c := fun e => same e.symm
    simp [same, apart]

theorem setBackend_follows (d : Daemon) (b : Place) {x : Backend}
    (h : (d.backend b).Follows x) (c : Place) :
    (d.backend c).Follows ((d.setBackend b x).backend c) := by
  rw [backend_setBackend]
  split
  next here => exact here.1 ▸ h
  · exact .refl _

/-- What a call of a backend, which the journal has as `lines`, can change. -/
structure Aside (lines : List JournalEntry) (d d' : Daemon) : Prop where
  frame : d' = { d with
    tokens := d'.tokens
    happenings := d'.happenings
    registry := d'.registry
    backends := d'.backends
    deletes := d'.deletes
    journal := lines ++ d.journal }
  size : d'.backends.size = d.backends.size
  backend : ∀ b, (d.backend b).Follows (d'.backend b)
  registry : ∀ closing g,
    Registry.Path (¬ d.Avoids .unregister) closing g d.registry g d'.registry
  enabled : d.Avoids .enable → d.Avoids .disable →
    ∀ b, (d'.backend b).task.enabled = (d.backend b).task.enabled

namespace Aside

variable {lines lines' : List JournalEntry} {d d' d'' : Daemon}

theorem setting (h : Aside lines d d') : d'.setting = d.setting := by rw [h.frame]

theorem retry (h : Aside lines d d') : d'.retry = d.retry := by rw [h.frame]

theorem wall (h : Aside lines d d') : d'.wall = d.wall := by rw [h.frame]

theorem store (h : Aside lines d d') : d'.store = d.store := by rw [h.frame]

theorem storeFaults (h : Aside lines d d') : d'.storeFaults = d.storeFaults := by rw [h.frame]

theorem bus (h : Aside lines d d') : d'.bus = d.bus := by rw [h.frame]

theorem completions (h : Aside lines d d') : d'.completions = d.completions := by rw [h.frame]

theorem journal (h : Aside lines d d') : d'.journal = lines ++ d.journal := by rw [h.frame]

theorem avoids_iff (h : Aside lines d d') (a : Action) : d'.Avoids a ↔ d.Avoids a := by
  constructor
  · rintro ⟨made, named, otherwise⟩
    rw [h.setting] at named otherwise
    exact ⟨fun b => ((h.backend b).avoids_iff a).mp (made b), named, otherwise⟩
  · rintro ⟨made, named, otherwise⟩
    rw [← h.setting] at named otherwise
    exact ⟨fun b => ((h.backend b).avoids_iff a).mpr (made b), named, otherwise⟩

theorem refl (d : Daemon) : Aside [] d d where
  frame := rfl
  size := rfl
  backend _ := .refl _
  registry _ g := .refl g _
  enabled _ _ _ := rfl

theorem trans (h : Aside lines d d') (h' : Aside lines' d' d'') :
    Aside (lines' ++ lines) d d'' where
  frame := by
    refine h'.frame.trans ?_
    rw [h.frame]
    simp
  size := h'.size.trans h.size
  backend b := (h.backend b).trans (h'.backend b)
  registry closing g := by
    have second := h'.registry closing g
    rw [h.avoids_iff] at second
    exact (h.registry closing g).trans second
  enabled on off b :=
    (h'.enabled ((h.avoids_iff _).mpr on) ((h.avoids_iff _).mpr off) b).trans (h.enabled on off b)

/-- A change of one backend that no hook is asked about. -/
theorem setBackend (d : Daemon) (b : Place) {x : Backend} (h : (d.backend b).Follows x)
    (on : x.task.enabled = (d.backend b).task.enabled) : Aside [] d (d.setBackend b x) where
  frame := rfl
  size := Array.size_setIfInBounds
  backend := setBackend_follows d b h
  registry _ g := .refl g _
  enabled _ _ c := by
    rw [backend_setBackend]
    split
    next here => rw [on, here.1]
    · rfl

theorem log (d : Daemon) (line : JournalEntry) : Aside [line] d (d.log line) where
  frame := rfl
  size := rfl
  backend _ := .refl _
  registry _ g := .refl g _
  enabled _ _ _ := rfl

end Aside

/-! ### Hooks -/

theorem foldl_signal (us : List Token) (d : Daemon) :
    ∃ hs, us.foldl (fun d u => d.signal (.canceled u)) d = { d with happenings := hs } := by
  induction us generalizing d with
  | nil => exact ⟨d.happenings, rfl⟩
  | cons u us ih =>
      obtain ⟨hs, h⟩ := ih (d.signal (.canceled u))
      exact ⟨hs, h⟩

theorem cancel_frame (d : Daemon) (t : Token) :
    ∃ ts hs, d.cancel t = { d with tokens := ts, happenings := hs } := by
  obtain ⟨hs, h⟩ := foldl_signal (d.tokens.cancel t).1 { d with tokens := (d.tokens.cancel t).2 }
  exact ⟨_, hs, h⟩

theorem requestDeletion_frame (d : Daemon) (task : String) :
    ∃ r box hs, d.requestDeletion task =
        { d with registry := r, deletes := box, happenings := hs } ∧
      (r = d.registry ∨ r = d.registry.mark task) := by
  unfold requestDeletion
  split
  · exact ⟨d.registry, d.deletes, d.happenings, rfl, .inl rfl⟩
  · simp only
    split
    · exact ⟨d.registry.mark task, _, _, rfl, .inr rfl⟩
    · exact ⟨d.registry.mark task, d.deletes, d.happenings, rfl, .inr rfl⟩

/-- What a hook does, it does on the side. -/
theorem perform_aside (d : Daemon) (b : Place) {a : Action} (asked : ¬ d.Avoids a) :
    Aside [] d (d.perform b a) := by
  cases a with
  | cancel token =>
      obtain ⟨ts, hs, h⟩ := cancel_frame (d.namedToken token).2 (d.namedToken token).1
      have same : d.perform b (.cancel token) = { d with tokens := ts, happenings := hs } := h
      rw [same]
      exact ⟨rfl, rfl, fun _ => .refl _, fun _ g => .refl g _, fun _ _ _ => rfl⟩
  | enable =>
      exact ⟨rfl, Array.size_setIfInBounds, setBackend_follows d b (.setEnabled _ true),
        fun _ g => .refl g _, fun on => absurd on asked⟩
  | disable =>
      exact ⟨rfl, Array.size_setIfInBounds, setBackend_follows d b (.setEnabled _ false),
        fun _ g => .refl g _, fun _ off => absurd off asked⟩
  | mark =>
      exact ⟨rfl, rfl, fun _ => .refl _, fun _ g => .mark _ (.refl g _), fun _ _ _ => rfl⟩
  | delete =>
      obtain ⟨r, box, hs, h, registry⟩ := requestDeletion_frame d (d.backend b).label.task
      have same : d.perform b .delete =
          { d with registry := r, deletes := box, happenings := hs } :=
        h
      rw [same]
      refine ⟨rfl, rfl, fun _ => .refl _, fun closing g => ?_, fun _ _ _ => rfl⟩
      rcases registry with rfl | rfl
      · exact .refl g _
      · exact .mark _ (.refl g _)
  | unregister =>
      cases removed : d.registry.delete (d.backend b).label.task with
      | ok registry =>
          have same : d.perform b .unregister = { d with registry } := by
            simp only [perform, removed]
          rw [same]
          exact ⟨rfl, rfl, fun _ => .refl _, fun _ g => .unregister asked (.refl g _) removed,
            fun _ _ _ => rfl⟩
      | error e =>
          have same : d.perform b .unregister = d := by
            simp only [perform, removed]
          rw [same]
          exact .refl d

theorem foldl_perform_aside (b : Place) (actions : List Action) (d : Daemon)
    (asked : ∀ a ∈ actions, ¬ d.Avoids a) :
    Aside [] d (actions.foldl (fun d a => d.perform b a) d) := by
  induction actions generalizing d with
  | nil => exact .refl d
  | cons a actions ih =>
      have first := perform_aside d b (asked a List.mem_cons_self)
      refine first.trans (ih (d.perform b a) fun a' member => ?_)
      rw [first.avoids_iff]
      exact asked a' (List.mem_cons_of_mem a member)

theorem callAs_aside (d : Daemon) (b : Place) (kind : CallKind) (line : JournalEntry) :
    Aside [line] d (d.callAs b kind line) := by
  have noted : Aside [line] d ((d.log line).setBackend b ((d.backend b).note kind).2) :=
    (Aside.log d line).trans
      (.setBackend (d.log line) b (x := ((d.backend b).note kind).2) ⟨rfl, rfl, rfl, rfl⟩ rfl)
  refine noted.trans (foldl_perform_aside b ((d.backend b).note kind).1 _ fun a member => ?_)
  rw [noted.avoids_iff]
  intro avoids
  -- the actions are those of the backend's own hooks
  obtain ⟨hook, chosen, has⟩ := List.mem_flatMap.mp member
  exact avoids.made b hook (List.mem_filter.mp chosen).1 has

theorem call_aside (d : Daemon) (b : Place) (kind : CallKind) :
    Aside [.called (d.backend b).label kind] d (d.call b kind) :=
  callAs_aside d b kind _

/-! ### Answers -/

/-- Taking from a script leaves its templates and hooks. -/
def Takes {α : Type} (f : BackendScript → α × BackendScript) : Prop :=
  ∀ s, (f s).2.templates = s.templates ∧ (f s).2.hooks = s.hooks

theorem answer_aside {α : Type} (d : Daemon) (b : Place) {f : BackendScript → α × BackendScript}
    (takes : Takes f) : Aside [] d (d.answer b f).2 :=
  .setBackend d b
    ⟨rfl, rfl, (takes (d.backend b).script).1, (takes (d.backend b).script).2⟩ rfl

theorem inspect_aside (d : Daemon) (b : Place) :
    Aside [.called (d.backend b).label .inspect] d (d.inspect b).2 :=
  call_aside d b .inspect

end Daemon

namespace TimedCall

variable {α : Type}

/-- Delays and answers of the call come from the script in order. -/
def Takes (c : TimedCall α) : Prop := Daemon.Takes c.delay ∧ Daemon.Takes c.answer

theorem render_takes : render.Takes := ⟨fun _ => ⟨rfl, rfl⟩, fun _ => ⟨rfl, rfl⟩⟩

theorem apply_takes : apply.Takes := ⟨fun _ => ⟨rfl, rfl⟩, fun _ => ⟨rfl, rfl⟩⟩

/-- The lines that the journal gets in the turns of a call: it is called in the first turn, and
the end of a delay is noted. -/
inductive Lines (l : Label) (kind : CallKind) : Pending → List JournalEntry → Prop where
  | sent : Lines l kind .unsent [.called l kind]
  | cut : Lines l kind .unsent [.interrupted l kind, .called l kind]
  | interrupted (due : Nat) : Lines l kind (.delayed due) [.interrupted l kind]
  | waited (due : Nat) : Lines l kind (.delayed due) [.waited l kind]
  | waiting (due : Nat) : Lines l kind (.delayed due) []

/-- A turn of a call is on the side but for its line in the journal. -/
theorem turn_aside (c : TimedCall α) (takes : c.Takes) (b : Place) (token : Token) (p : Pending)
    (d : Daemon) :
    ∃ lines, Lines (d.backend b).label c.kind p lines ∧
      Daemon.Aside lines d (c.turn b token p d).2 := by
  cases p with
  | unsent =>
      have delayed := Daemon.answer_aside d b takes.1
      have label : ((d.answer b c.delay).2.backend b).label = (d.backend b).label :=
        (delayed.backend b).label
      have called := delayed.trans (Daemon.call_aside (d.answer b c.delay).2 b c.kind)
      rw [label] at called
      simp only [turn]
      split
      · exact ⟨_, .sent, called.trans (Daemon.answer_aside _ b takes.2)⟩
      · split
        · refine ⟨_, .cut, ?_⟩
          have cut := called.trans (Daemon.Aside.log _ (.interrupted
            (((d.answer b c.delay).2.call b c.kind).backend b).label c.kind))
          rw [(called.backend b).label] at cut
          simpa [interrupt, (called.backend b).label] using cut
        · exact ⟨_, .sent, called⟩
  | delayed due =>
      simp only [turn]
      split
      · exact ⟨_, .interrupted due, Daemon.Aside.log d _⟩
      · split
        · exact ⟨_, .waited due,
            (Daemon.Aside.log d _).trans (Daemon.answer_aside _ b takes.2)⟩
        · exact ⟨_, .waiting due, .refl d⟩

end TimedCall

end TaskSync
