import TaskSync.Proofs.Sequence.Rounds

/-!
# A creation comes to its end

Whatever the backend does, a creation waits for a time only: for the end of a delay, or of the pause
between two renderings. And it renders for no longer than a creation may take.
-/

namespace TaskSync

namespace Daemon

/-- No time passes, and the setting stays. -/
structure Instant (d d' : Daemon) : Prop where
  clock : d'.clock = d.clock
  setting : d'.setting = d.setting

namespace Instant

variable {d d' d'' : Daemon}

theorem refl (d : Daemon) : d.Instant d := ⟨rfl, rfl⟩

theorem trans (h : d.Instant d') (h' : d'.Instant d'') : d.Instant d'' :=
  ⟨h'.clock.trans h.clock, h'.setting.trans h.setting⟩

theorem of_aside {lines : List JournalEntry} (h : Aside lines d d') : d.Instant d' :=
  ⟨by rw [h.frame], h.setting⟩

theorem call (d : Daemon) (b : Place) (kind : CallKind) : d.Instant (d.call b kind) :=
  of_aside (d.call_aside b kind)

theorem write (d : Daemon) (op : StoreOp) (task : String) (f : MemoryStore → MemoryStore) :
    d.Instant (d.write op task f).2 := by
  obtain ⟨s, faults, after, -, -⟩ := d.write_frame op task f
  rw [after]
  exact ⟨rfl, rfl⟩

theorem make {t : Task} {r : Except BackendError Place} (h : d.make t = (r, d')) :
    d.Instant d' := by
  cases r with
  | error e =>
      obtain ⟨label, made, rfl⟩ := make_eq_error h
      exact ⟨rfl, rfl⟩
  | ok b =>
      obtain ⟨-, label, made, script, rfl, -⟩ := make_eq_ok h
      exact ⟨rfl, rfl⟩

theorem notifyCompletion (d : Daemon) (task : String) : d.Instant (d.notifyCompletion task) := by
  obtain ⟨c, after⟩ := d.notifyCompletion_frame task
  rw [after]
  exact ⟨rfl, rfl⟩

theorem announceSchedule (d : Daemon) (task : String) : d.Instant (d.announceSchedule task) := by
  obtain ⟨box, hs, after⟩ := d.announceSchedule_frame task
  rw [after]
  exact ⟨rfl, rfl⟩

theorem requestDeletion (d : Daemon) (task : String) : d.Instant (d.requestDeletion task) := by
  obtain ⟨r, box, hs, after, -⟩ := d.requestDeletion_frame task
  rw [after]
  exact ⟨rfl, rfl⟩

end Instant

end Daemon

open Daemon (Instant)

namespace Creation

variable {token : Token} {goal : Goal} {s : Surroundings}

/-! ### Turns take no time -/

theorem register_instant (b : Place) (d : Daemon) : d.Instant (register b d).2 := by
  have called := Instant.call d b .buffer
  unfold register
  simp only
  split
  · exact called
  · exact called.trans ⟨rfl, rfl⟩

theorem rendered_instant (goal : Goal) (b : Place) (d : Daemon) :
    d.Instant (rendered goal b d).2 := by
  have called := Instant.call d b .override
  unfold rendered
  simp only
  split
  · exact called
  · exact called.trans (register_instant b _)
  · split
    · exact called.trans ⟨rfl, rfl⟩
    · exact called.trans (register_instant b _)

theorem render_instant (token : Token) (goal : Goal) (t : Trial) (call : Pending) (d : Daemon) :
    d.Instant (render token goal t call d).2 := by
  obtain ⟨lines, -, aside⟩ :=
    TimedCall.render.turn_aside TimedCall.render_takes t.backend token call d
  have timed := Instant.of_aside aside
  unfold render
  simp only
  split
  · exact .refl d
  split
  · exact .refl d
  split
  · exact .call d t.backend .override
  · split <;> rename_i eq <;> rw [eq] at timed
    · exact timed
    · exact timed
    · exact timed.trans (rendered_instant goal t.backend _)
    · exact timed
    · exact timed

theorem turn_instant (token : Token) (goal : Goal) (p : Phase) (d : Daemon) :
    d.Instant (turn token goal p d).2 := by
  cases p with
  | start conf =>
      simp only [turn, begin]
      split
      · exact .refl d
      split
      · exact .refl d
      split
      · exact .refl d
      · exact .refl d
  | making task =>
      simp only [turn]
      split
      next failed => exact .make failed
      next made => exact .make made
  | rendering t call => exact render_instant token goal t call d
  | pausing t due =>
      simp only [turn]
      split
      · exact .refl d
      split
      · exact .refl d
      · exact .refl d
  | destroying b result => exact .call d b .destroy
  | applying b record call =>
      obtain ⟨lines, -, aside⟩ := TimedCall.apply.turn_aside TimedCall.apply_takes b token call d
      have timed := Instant.of_aside aside
      simp only [turn]
      split <;> rename_i eq <;> rw [eq] at timed
      · exact timed
      · exact timed
      · exact timed
      · exact timed.trans ⟨rfl, rfl⟩
  | recording b record =>
      exact ((Instant.write d _ _ _).trans (.notifyCompletion _ _)).trans (register_instant b _)
  | storing task =>
      have written : d.Instant (d.setTask task.toConfig).2 := .write d _ _ _
      simp only [turn]
      split <;> rename_i eq <;> rw [eq] at written
      · exact written.trans (.requestDeletion _ _)
      · refine written.trans ?_
        split
        · exact (Instant.announceSchedule _ _).trans ⟨rfl, rfl⟩
        · exact ⟨rfl, rfl⟩
  | inspecting b => exact .of_aside (d.inspect_aside b)

/-! ### Waits -/

/-- A backend that is applied answers at once, or after a delay. -/
theorem applying_leads {inv : Phase → Prop} (b : Place) (record : RunRecord) {call : Pending}
    {d : Daemon} (delays : ∀ due, call = .unsent → inv (.applying b record (.delayed due)))
    (waits : ∀ due, call = .delayed due → d.clock < due → inv (.applying b record call))
    (records : ∀ record, inv (.recording b record)) :
    Leads (fun p _ => inv p) (fun _ _ => True) (.applying b record call)
      (turn token goal (.applying b record call) d) := by
  have cases := TimedCall.apply.turn_cases b token call d
  simp only [turn]
  split <;> rename_i eq <;> rw [eq] at cases
  · obtain ⟨unsent, due, same⟩ | ⟨_, _, -, -, no⟩ | ⟨_, no⟩ := cases
    · cases same
      exact .next (delays due unsent)
    · cases no
    · cases no
  · obtain ⟨-, _, no⟩ | ⟨due, _, delayed, late, -⟩ | ⟨_, no⟩ := cases
    · cases no
    · exact .wait (waits due delayed late)
    · cases no
  · exact .done trivial
  · exact .next (records _)

theorem pausing_leads {inv : Phase → Prop} {t : Trial} {due : Nat} {d : Daemon}
    (goes : inv (.rendering t .unsent)) (waits : d.clock < due → inv (.pausing t due)) :
    Leads (fun p _ => inv p) (fun _ _ => True) (.pausing t due)
      (turn token goal (.pausing t due) d) := by
  simp only [turn]
  split
  · exact .done trivial
  split
  · exact .next goes
  next late => exact .wait (waits (Nat.lt_of_not_le late))

/-! ### Phases, the last ones first -/

section

variable (lasts : s.Lasts)

theorem turn_still (p : Phase) (d : Daemon) : (turn token goal p d).2.clock = d.clock :=
  (turn_instant token goal p d).clock

include lasts

theorem destroying_ceases (b : Place) (result : Except Failure Created) :
    Ceases (turn token goal) s 0 (.destroying b result) :=
  .of_turn lasts turn_still fun _ _ => .done trivial

theorem storing_ceases (task : Task) : Ceases (turn token goal) s 0 (.storing task) :=
  .of_turn lasts turn_still fun _ _ => by
    simp only [turn]
    split
    · exact .done trivial
    · exact .done trivial

theorem inspecting_ceases (b : Place) : Ceases (turn token goal) s 0 (.inspecting b) :=
  .of_turn lasts turn_still fun _ _ => .next (destroying_ceases lasts b _)

theorem register_ceases (b : Place) (d : Daemon) (p : Phase) :
    Leads (fun p' _ => Ceases (turn token goal) s 0 p') (fun _ _ => True) p (register b d) := by
  unfold register
  simp only
  split
  · exact .next (destroying_ceases lasts b _)
  · exact .next (storing_ceases lasts _)

theorem recording_ceases (b : Place) (record : RunRecord) :
    Ceases (turn token goal) s 0 (.recording b record) :=
  .of_turn lasts turn_still fun _ _ => register_ceases lasts b _ _

theorem applying_ceases (b : Place) (record : RunRecord) (call : Pending) :
    Ceases (turn token goal) s 0 (.applying b record call) := by
  have records (record : RunRecord) : Ceases (turn token goal) s 0 (.recording b record) :=
    recording_ceases lasts b record
  have delayed : ∀ due, Ceases (turn token goal) s 0 (.applying b record (.delayed due)) := by
    intro due
    refine .of_group (· = .applying b record (.delayed due)) due lasts turn_still ?_ ?_ rfl
    · rintro _ rfl
      refine .of_turn lasts turn_still fun d begun => applying_leads b record nofun ?_ fun record =>
        (records record).mono (Nat.zero_le _)
      intro _ same late
      cases same
      omega
    · rintro _ rfl d -
      exact applying_leads b record nofun (fun _ _ _ => .inl rfl) fun record =>
        .inr (records record)
  cases call with
  | delayed due => exact delayed due
  | unsent =>
      exact .of_turn lasts turn_still fun d _ =>
        applying_leads b record (fun due _ => delayed due) nofun records

/-! ### Rendering -/

/-- What a backend leads to that has rendered. -/
theorem rendered_ceases (b : Place) (d : Daemon) (p : Phase) :
    Leads (fun p' _ => Ceases (turn token goal) s 0 p') (fun _ _ => True) p
      (rendered goal b d) := by
  unfold rendered
  simp only
  split
  · exact .next (inspecting_ceases lasts b)
  · exact register_ceases lasts b _ p
  · split
    · exact .next (applying_ceases lasts b _ _)
    · exact register_ceases lasts b _ p

/-- A creation that has rendered since then. -/
def Phase.Renders (since : Nat) : Phase → Prop
  | .rendering t _ | .pausing t _ => t.since = since
  | _ => False

theorem render_ceases {t : Trial} {call : Pending} (d : Daemon) :
    Leads (fun p _ => d.clock < t.since + timeout ∧ p.Renders t.since ∨
      Ceases (turn token goal) s 0 p) (fun _ _ => True) (.rendering t call)
      (render token goal t call d) := by
  unfold render
  simp only
  split
  · exact .done trivial
  split
  · exact .next (.inr (destroying_ceases lasts _ _))
  next early =>
    have early := Nat.lt_of_not_le early
    split
    · exact .next (.inl ⟨early, rfl⟩)
    · split
      · exact .next (.inl ⟨early, rfl⟩)
      · exact .wait (.inl ⟨early, rfl⟩)
      · exact (rendered_ceases lasts _ _ _).mono fun _ _ ceases => .inr ceases
      · exact .next (.inl ⟨early, rfl⟩)
      · exact .next (.inr (destroying_ceases lasts _ _))

/-- Once the time is up, a rendering is given up. -/
theorem rendering_late (t : Trial) (call : Pending) :
    Ceases (turn token goal) s (t.since + timeout) (.rendering t call) := by
  refine .of_turn lasts turn_still fun d begun => (render_ceases lasts d).mono fun p _ led => ?_
  rcases led with ⟨early, -⟩ | ceases
  · exact absurd begun (Nat.not_le_of_lt early)
  · exact ceases.mono (Nat.zero_le _)

theorem pausing_late (t : Trial) (due : Nat) :
    Ceases (turn token goal) s (t.since + timeout) (.pausing t due) := by
  have goes : Ceases (turn token goal) s (t.since + timeout) (.rendering t .unsent) :=
    rendering_late lasts t .unsent
  refine .of_group (· = .pausing t due) due lasts turn_still ?_ ?_ rfl
  · rintro _ rfl
    refine .of_turn lasts turn_still fun d begun => pausing_leads (goes.mono (Nat.le_max_left _ _))
      fun late => ?_
    exact absurd (Nat.le_trans (Nat.le_max_right _ _) begun) (Nat.not_le_of_lt late)
  · rintro _ rfl d -
    exact pausing_leads (.inr goes) fun _ => .inl rfl

theorem renders_ceases {since : Nat} {p : Phase} (h : p.Renders since) :
    Ceases (turn token goal) s 0 p := by
  refine .of_group (Phase.Renders since) (since + timeout) lasts turn_still ?_ ?_ h
  · intro p renders
    rw [Nat.zero_max]
    cases p with
    | rendering t call => exact renders ▸ rendering_late lasts t call
    | pausing t due => exact renders ▸ pausing_late lasts t due
    | _ => cases renders
  · intro p renders d _
    cases p with
    | rendering t call =>
        obtain rfl : t.since = since := renders
        exact (render_ceases lasts d).mono fun p _ led => led.imp_left And.right
    | pausing t due => exact pausing_leads (.inl renders) fun _ => .inl renders
    | _ => cases renders

/-- A creation comes to its end from every phase. -/
theorem ceases (p : Phase) : Ceases (turn token goal) s 0 p := by
  have making (task : Task) : Ceases (turn token goal) s 0 (.making task) :=
    .of_turn lasts turn_still fun d _ => by
      simp only [turn]
      split
      · exact .done trivial
      · exact .next (renders_ceases lasts rfl)
  cases p with
  | start conf =>
      refine .of_turn lasts turn_still fun d _ => ?_
      simp only [turn, begin]
      split
      · exact .done trivial
      split
      · exact .done trivial
      split
      · exact .done trivial
      · exact .next (making _)
  | making task => exact making task
  | rendering t call => exact renders_ceases lasts rfl
  | pausing t due => exact renders_ceases lasts rfl
  | destroying b result => exact destroying_ceases lasts b result
  | applying b record call => exact applying_ceases lasts b record call
  | recording b record => exact recording_ceases lasts b record
  | storing task => exact storing_ceases lasts task
  | inspecting b => exact inspecting_ceases lasts b

end

end Creation

end TaskSync
