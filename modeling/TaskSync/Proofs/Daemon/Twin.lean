import TaskSync.Proofs.Daemon.Attend

/-!
# One backend in two daemons

A call of a backend that is not registered reads the backend, the tokens, the clock and the time of
day, and nothing else. So where two daemons agree on these, the call goes the same way in both, and
they agree afterwards, whatever place the backend has in each.
-/

namespace TaskSync

namespace Backend

/-- The backend after a call: the call is noted, and the hooks have switched the task. -/
def called (b : Backend) (kind : CallKind) : Backend :=
  (b.note kind).2.setEnabled ((b.note kind).1.foldl Action.flag b.task.enabled)

end Backend

namespace Daemon

theorem cancel_tokens (d : Daemon) (t : Token) : (d.cancel t).tokens = (d.tokens.cancel t).2 := by
  obtain ⟨hs, h⟩ := foldl_signal (d.tokens.cancel t).1 { d with tokens := (d.tokens.cancel t).2 }
  unfold cancel
  simp only
  rw [h]

section

variable {s d : Daemon} {b b' : Place}

/-- What an action makes of the tokens depends on the tokens alone. -/
theorem perform_tokens (a : Action) (same : s.tokens = d.tokens) :
    (s.perform b a).tokens = (d.perform b' a).tokens := by
  cases a with
  | cancel t =>
      have canceled (d : Daemon) (b : Place) : (d.perform b (.cancel t)).tokens =
          ((d.tokens.named t).2.cancel (d.tokens.named t).1).2 :=
        cancel_tokens (d.namedToken t).2 (d.namedToken t).1
      rw [canceled, canceled, same]
  | enable => exact same
  | disable => exact same
  | mark => exact same
  | delete =>
      have kept (d : Daemon) (b : Place) : (d.perform b .delete).tokens = d.tokens := by
        obtain ⟨r, box, hs, h, -⟩ := requestDeletion_frame d (d.backend b).label.task
        have after : d.perform b .delete =
            { d with registry := r, deletes := box, happenings := hs } :=
          h
        rw [after]
      rw [kept, kept, same]
  | unregister =>
      have kept (d : Daemon) (b : Place) : (d.perform b .unregister).tokens = d.tokens := by
        simp only [perform]
        split <;> rfl
      rw [kept, kept, same]

theorem foldl_perform_tokens (actions : List Action) (same : s.tokens = d.tokens) :
    (actions.foldl (fun d a => d.perform b a) s).tokens =
      (actions.foldl (fun d a => d.perform b' a) d).tokens := by
  induction actions generalizing s d with
  | nil => exact same
  | cons a actions ih => exact ih (perform_tokens a same)

theorem call_backend (inside : b < d.backends.size) (kind : CallKind) :
    (d.call b kind).backend b = (d.backend b).called kind := by
  obtain ⟨noted, change⟩ : ∃ noted, noted =
      (d.log (.called (d.backend b).label kind)).setBackend b ((d.backend b).note kind).2 :=
    ⟨_, rfl⟩
  have own : noted.backend b = ((d.backend b).note kind).2 := by
    rw [change, backend_setBackend, if_pos ⟨rfl, inside⟩]
  have inside' : b < noted.backends.size := by
    rw [change]
    exact Nat.lt_of_lt_of_eq inside Array.size_setIfInBounds.symm
  have called : d.call b kind =
      ((d.backend b).note kind).1.foldl (fun d a => d.perform b a) noted := by
    rw [change]
    rfl
  rw [called, foldl_perform_backend _ inside', if_pos rfl, own]
  rfl

theorem answer_backend {α : Type} (f : BackendScript → α × BackendScript)
    (inside : b < d.backends.size) :
    (d.answer b f).2.backend b = { d.backend b with script := (f (d.backend b).script).2 } :=
  (backend_setBackend d b b _).trans (if_pos ⟨rfl, inside⟩)

/-- Two daemons agree on all that the calls of a backend read. -/
structure Twin (b b' : Place) (s d : Daemon) : Prop where
  clock : s.clock = d.clock
  wall : s.wall = d.wall
  tokens : s.tokens = d.tokens
  backend : s.backend b = d.backend b'
  left : s.Unlisted b
  right : d.Unlisted b'

namespace Twin

theorem isCanceled (h : Twin b b' s d) (t : Token) : s.isCanceled t = d.isCanceled t := by
  unfold Daemon.isCanceled
  rw [h.tokens]

theorem taskOf (h : Twin b b' s d) : s.taskOf b = d.taskOf b' := congrArg Backend.task h.backend

theorem call (h : Twin b b' s d) (kind : CallKind) :
    Twin b b' (s.call b kind) (d.call b' kind) where
  clock := by rw [(s.call_aside b kind).frame, (d.call_aside b' kind).frame, h.clock]
  wall := by rw [(s.call_aside b kind).wall, (d.call_aside b' kind).wall, h.wall]
  tokens := by
    have asked : ((s.backend b).note kind).1 = ((d.backend b').note kind).1 := by
      rw [h.backend]
    unfold Daemon.call callAs
    simp only [asked]
    exact foldl_perform_tokens _ h.tokens
  backend := by rw [call_backend h.left.inside, call_backend h.right.inside, h.backend]
  left := (call_attends h.left kind).unlisted h.left
  right := (call_attends h.right kind).unlisted h.right

theorem answer {α : Type} (h : Twin b b' s d) {f : BackendScript → α × BackendScript}
    (takes : Takes f) :
    (s.answer b f).1 = (d.answer b' f).1 ∧ Twin b b' (s.answer b f).2 (d.answer b' f).2 := by
  refine ⟨?_, h.clock, h.wall, h.tokens, ?_, ?_, ?_⟩
  · show (f (s.backend b).script).1 = (f (d.backend b').script).1
    rw [h.backend]
  · rw [answer_backend f h.left.inside, answer_backend f h.right.inside, h.backend]
  · exact (answer_attends b s takes).unlisted h.left
  · exact (answer_attends b' d takes).unlisted h.right

theorem log (h : Twin b b' s d) (line line' : JournalEntry) :
    Twin b b' (s.log line) (d.log line') :=
  ⟨h.clock, h.wall, h.tokens, h.backend, ⟨h.left.inside, h.left.free⟩,
    ⟨h.right.inside, h.right.free⟩⟩

end Twin

end

end Daemon

namespace TimedCall

variable {α : Type}

/-- A turn of a call goes the same way in both daemons. -/
theorem turn_twin (c : TimedCall α) (takes : c.Takes) {b b' : Place} {s d : Daemon} (token : Token)
    (p : Pending) (h : Daemon.Twin b b' s d) :
    (c.turn b token p s).1 = (c.turn b' token p d).1 ∧
      Daemon.Twin b b' (c.turn b token p s).2 (c.turn b' token p d).2 := by
  cases p with
  | unsent =>
      obtain ⟨delay, delayed⟩ := h.answer takes.1
      have called := delayed.call c.kind
      obtain ⟨answer, answered⟩ := called.answer takes.2
      simp only [turn, delay, called.isCanceled, called.backend, called.clock]
      split
      · exact ⟨congrArg Turn.done answer, answered⟩
      · split
        · exact ⟨rfl, called.log _ _⟩
        · exact ⟨rfl, called⟩
  | delayed due =>
      obtain ⟨answer, answered⟩ := (h.log (.waited (s.backend b).label c.kind)
        (.waited (d.backend b').label c.kind)).answer takes.2
      simp only [turn, h.isCanceled, h.backend, h.clock]
      rw [h.backend] at answer answered
      split
      · exact ⟨rfl, h.log _ _⟩
      · split
        · exact ⟨congrArg Turn.done answer, answered⟩
        · exact ⟨rfl, h⟩

end TimedCall

end TaskSync
