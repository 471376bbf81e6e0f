import TaskSync.Proofs.Run.Rows
import TaskSync.Proofs.Traffic.Course
import TaskSync.Proofs.Traffic.Exclusion

/-!
# Every run goes as one row says

`Holds` is what is true of a run between two turns: what it has met so far leaves the rows open that
can still be reached from its phase, and what is seen of it so far is the beginning of what those
rows say. Each turn keeps it or ends the run in a row.
-/

namespace TaskSync.Run

variable {maxRetries : Nat} {token : Token} {task : String} {steps : List Step} {x : Effect}

/-! ### One more step -/

theorem renders_append (s : Step) :
    renders token (steps ++ [s]) = renders token steps ++ (rendered? token s).toList := by
  unfold renders
  rw [List.filterMap_append]
  cases h : rendered? token s with
  | none => simp [h]
  | some r => simp [h]

theorem applies_append (s : Step) :
    applies token (steps ++ [s]) = applies token steps ++ (applied? token s).toList := by
  unfold applies
  rw [List.filterMap_append]
  cases h : applied? token s with
  | none => simp [h]
  | some r => simp [h]

theorem renders_silent {s : Step} (silent : rendered? token s = none) :
    renders token (steps ++ [s]) = renders token steps := by
  rw [renders_append, silent]
  exact List.append_nil _

theorem applies_silent {s : Step} (silent : applied? token s = none) :
    applies token (steps ++ [s]) = applies token steps := by
  rw [applies_append, silent]
  exact List.append_nil _

theorem renders_answer {s : Step} {r : Except BackendError Bool}
    (unasked : renders token steps = []) (answer : rendered? token s = some r) :
    renders token (steps ++ [s]) = [r] := by
  rw [renders_append, unasked, answer]
  rfl

theorem applies_fail {es : List BackendError} {s : Step} {e : BackendError}
    (answers : applies token steps = es.map .error) (answer : applied? token s = some (.error e)) :
    applies token (steps ++ [s]) = (es ++ [e]).map .error := by
  rw [applies_append, answers, answer, List.map_append]
  rfl

theorem head?_append {b : Place} (h : driver? task steps = some b) (s : Step) :
    (steps ++ [s]).head? = steps.head? := by
  cases steps with
  | nil => cases h
  | cons first rest => rfl

theorem driver?_append {b : Place} (h : driver? task steps = some b) (s : Step) :
    driver? task (steps ++ [s]) = some b := by
  rw [driver?, head?_append h]
  exact h

theorem isTimed_append {b : Place} (h : driver? task steps = some b) (s : Step) :
    isTimed task (steps ++ [s]) = isTimed task steps := by
  rw [isTimed, head?_append h, isTimed]

theorem getLast?_append (s : Step) : (steps ++ [s]).getLast? = some s := List.getLast?_concat

/-- A step without an answer does not lead away from a row that has a record. -/
theorem Row.Meets.append {row : Row} {c : Closing} {b : Place} {s : Step}
    (h : row.Meets maxRetries token task steps) (closing : row.closing = some c)
    (driver : driver? task steps = some b) (unasked : rendered? token s = none)
    (unapplied : applied? token s = none) : row.Meets maxRetries token task (steps ++ [s]) := by
  have renders : renders token (steps ++ [s]) = renders token steps := renders_silent unasked
  have applies : applies token (steps ++ [s]) = applies token steps := applies_silent unapplied
  cases h with
  | marked | missing | busy | canceled | disabled | incomplete => cases closing
  | renderFailed answer => exact .renderFailed (renders.trans answer)
  | unchanged answer timed =>
      exact .unchanged (renders.trans answer) ((isTimed_append driver s).trans timed)
  | applied answer answers few =>
      exact .applied (renders.trans answer) (applies.trans answers) few
  | exhausted answer answers all counted =>
      exact .exhausted (renders.trans answer) (applies.trans answers) all counted
  | givenUp answer answers some few waits canceled =>
      exact .givenUp (renders.trans answer) (applies.trans answers) some few
        (List.mem_append_left _ waits) canceled

/-! ### The invariant -/

/-- The run has the guard, and has begun its record. -/
structure Owns (task : String) (steps : List Step) (h : Held) : Prop where
  named : h.task = task
  driver : driver? task steps = some h.backend
  timed : isTimed task steps = h.scheduled
  begun : ∃ s ∈ steps, h.record = (s.2.startRecord (s.2.taskOf h.backend)).1

theorem Owns.append {h : Held} (owns : Owns task steps h) (s : Step) :
    Owns task (steps ++ [s]) h where
  named := owns.named
  driver := driver?_append owns.driver s
  timed := (isTimed_append owns.driver s).trans owns.timed
  begun := by
    obtain ⟨t, member, same⟩ := owns.begun
    exact ⟨t, List.mem_append_left _ member, same⟩

/-- The record is ended in the last step. -/
theorem Owns.closed {h : Held} (owns : Owns task steps h) (c : Closing) (p : Phase) (d : Daemon) :
    Closed task (steps ++ [(p, d)]) c (c.apply d.wall h.record) := by
  obtain ⟨t, member, same⟩ := owns.begun
  refine ⟨h.backend, driver?_append owns.driver _, t, List.mem_append_left _ member, (p, d), ?_, ?_⟩
  · exact List.mem_append_right _ (.head _)
  · rw [same]

theorem Closed.append {c : Closing} {record : RunRecord} (h : Closed task steps c record)
    (s : Step) : Closed task (steps ++ [s]) c record := by
  obtain ⟨b, driver, t, first, u, last, same⟩ := h
  exact ⟨b, driver?_append driver s, t, List.mem_append_left _ first, u,
    List.mem_append_left _ last, same⟩

/-- The template was complete, and so many calls to apply the task have failed. -/
structure Fails (token : Token) (steps : List Step) (retries : Nat) : Prop where
  answer : renders token steps = [.ok true]
  answers : ∃ es : List BackendError, applies token steps = es.map .error ∧ es.length = retries

/-- A step without an answer. -/
theorem Fails.append {retries : Nat} (h : Fails token steps retries) {s : Step}
    (unasked : rendered? token s = none) (unapplied : applied? token s = none) :
    Fails token (steps ++ [s]) retries where
  answer := (renders_silent unasked).trans h.answer
  answers := by
    obtain ⟨es, answers, length⟩ := h.answers
    exact ⟨es, (applies_silent unapplied).trans answers, length⟩

/-- One more failure. -/
theorem Fails.fail {retries : Nat} (h : Fails token steps retries) {s : Step} {e : BackendError}
    (unasked : rendered? token s = none) (answer : applied? token s = some (.error e)) :
    Fails token (steps ++ [s]) (retries + 1) where
  answer := (renders_silent unasked).trans h.answer
  answers := by
    obtain ⟨es, answers, length⟩ := h.answers
    exact ⟨es ++ [e], applies_fail answers answer, by rw [List.length_append, length]; rfl⟩

/-- The calls of a run in which so many calls to apply the task were made. -/
def applying (applies : Nat) : List CallKind := .render :: List.replicate applies .apply

/-- What holds of a run that is in a phase. -/
def Holds (maxRetries : Nat) (token : Token) (task : String) (steps : List Step) (x : Effect) :
    Phase → Prop
  | .start t => t = task ∧ steps = [] ∧ x = {}
  | .queued t b _ => t = task ∧ driver? task steps = some b ∧ isTimed task steps = false ∧
    renders token steps = [] ∧ applies token steps = [] ∧ x = {}
  | .rendering h call => Owns task steps h ∧ renders token steps = [] ∧ applies token steps = [] ∧
    x = { calls := call.made .render }
  | .applying h retries call => Owns task steps h ∧ Fails token steps retries.toNat ∧
    retries.toNat ≤ maxRetries ∧ x = { calls := applying retries.toNat ++ call.made .apply }
  | .backingOff h retries _ => Owns task steps h ∧ Fails token steps retries.toNat ∧
    0 < retries.toNat ∧ retries.toNat ≤ maxRetries ∧ x = { calls := applying retries.toNat }
  | .recording h applied r => ∃ row : Row, ∃ c, row.Meets maxRetries token task steps ∧
    row.closing = some c ∧ h.task = task ∧ r = row.result task ∧
    row.completions task = (if applied then [task] else []) ∧ Closed task steps c h.record ∧
    x = { calls := row.calls (applies token steps).length, notices := [announcement h.record] }

/-- What a turn makes of it. -/
def Leads (maxRetries : Nat) (token : Token) (task : String) (steps : List Step) (x : Effect)
    (p : Phase) : Turn Phase Result → Prop
  | .next p' => Holds maxRetries token task steps x p'
  | .wait _ => Holds maxRetries token task steps x p
  | .done r => ∃ row : Row, row.Meets maxRetries token task steps ∧
    row.Fixes token task steps r x

/-! ### Turns -/

/-- What a look comes to, when nothing was asked of the backend before. -/
theorem Looked.leads {p : Phase} {d : Daemon} {b : Place} {scheduled : Bool}
    {t : Turn Phase Result} {y : Effect} (h : Looked d task b scheduled t y)
    (tries : Tries token task d p) (driver : driver? task (steps ++ [(p, d)]) = some b)
    (timed : isTimed task (steps ++ [(p, d)]) = scheduled)
    (early : p = .start task ∧ d.registry.isMarked task = false ∨ scheduled = false)
    (unasked : renders token (steps ++ [(p, d)]) = [])
    (unapplied : applies token (steps ++ [(p, d)]) = []) :
    Leads maxRetries token task (steps ++ [(p, d)]) y p t := by
  cases h with
  | missing missing =>
      refine ⟨.missing, .missing unasked (getLast?_append _) tries missing, ?_⟩
      exact .unclosed rfl rfl rfl rfl rfl rfl
  | busy found active dynamic =>
      exact ⟨rfl, driver, timed.trans dynamic, unasked, unapplied, rfl⟩
  | refused found active refuses =>
      rcases early with ⟨rfl, unmarked⟩ | dynamic
      · rw [Registry.isMarked, found] at unmarked
        refine ⟨.busy, .busy unasked (getLast?_append _) found unmarked active
          (timed.trans refuses), ?_⟩
        exact .unclosed rfl rfl rfl rfl rfl rfl
      · rw [dynamic] at refuses
        cases refuses
  | marked found free marked =>
      refine ⟨.marked, .marked unasked (getLast?_append _) tries found marked (.inr free), ?_⟩
      exact .unclosed rfl rfl rfl rfl rfl rfl
  | disabled found free unmarked off =>
      refine ⟨.disabled, .disabled unasked (getLast?_append _) tries found unmarked free driver
        off, ?_⟩
      exact .unclosed rfl rfl rfl rfl rfl rfl
  | taken found free unmarked on =>
      refine ⟨⟨rfl, driver, timed, (p, d), ?_, rfl⟩, unasked, unapplied, rfl⟩
      exact List.mem_append_right _ (.head _)

/-- The record is ended and announced; what is left is to store it. -/
theorem Owns.records {h : Held} {row : Row} {p : Phase} {d : Daemon} {calls : List CallKind}
    (owns : Owns task steps h) (c : Closing) (applied : Bool)
    (meets : row.Meets maxRetries token task (steps ++ [(p, d)])) (closing : row.closing = some c)
    (completions : row.completions task = if applied then [task] else [])
    (called : calls = row.calls (applies token (steps ++ [(p, d)])).length) :
    Holds maxRetries token task (steps ++ [(p, d)])
      { calls, notices := [announcement (c.apply d.wall h.record)] }
      (.recording { h with record := c.apply d.wall h.record } applied (row.result task)) :=
  ⟨row, c, meets, closing, owns.named, rfl, completions, owns.closed c p d, by rw [called]⟩

/-- The calls to apply the task up to an answer are one more than the failures before it. -/
theorem applying_answered {retries : Nat} (call : Pending) :
    applying retries ++ call.made .apply ++ call.toMake .apply = applying (retries + 1) := by
  rw [List.append_assoc, call.made_toMake, applying, applying, List.replicate_succ']
  rfl

theorem append_calls (calls calls' : List CallKind) :
    ({ calls } : Effect) ++ { calls := calls' } = { calls := calls ++ calls' } := rfl

theorem append_none (calls : List CallKind) : ({ calls } : Effect) ++ {} = { calls } := by
  rw [append_calls, List.append_nil]

theorem start_leads {d : Daemon} {t : Turn Phase Result} {y : Effect} {name : String}
    (goes : Goes token d (.start name) t y)
    (holds : Holds maxRetries token task steps x (.start name)) :
    Leads maxRetries token task (steps ++ [(.start name, d)]) (x ++ y) (.start name) t := by
  obtain ⟨rfl, rfl, rfl⟩ := holds
  cases goes with
  | marked marked =>
      obtain ⟨e, found, marked⟩ := (Option.any_eq_true _ _).mp marked
      refine ⟨.marked, .marked rfl rfl .first found marked (.inl rfl), ?_⟩
      exact .unclosed rfl rfl rfl rfl rfl rfl
  | missing missing =>
      refine ⟨.missing, .missing rfl rfl .first missing, ?_⟩
      exact .unclosed rfl rfl rfl rfl rfl rfl
  | looks looks looked =>
      cases looks with
      | start unmarked found =>
          refine looked.leads .first found ?_ (.inl ⟨rfl, unmarked⟩) rfl rfl
          show Option.any _ (d.registry.get? _) = _
          rw [found]
          rfl

theorem queued_leads {d : Daemon} {t : Turn Phase Result} {y : Effect} {name : String} {b : Place}
    {due : Nat} (goes : Goes token d (.queued name b due) t y)
    (holds : Holds maxRetries token task steps x (.queued name b due)) :
    Leads maxRetries token task (steps ++ [(.queued name b due, d)]) (x ++ y) (.queued name b due)
      t := by
  obtain ⟨rfl, driver, timed, unasked, unapplied, rfl⟩ := holds
  cases goes with
  | looks looks looked =>
      cases looks with
      | queued patient now =>
          exact looked.leads (.again patient now) (driver?_append driver _)
            ((isTimed_append driver _).trans timed) (.inr rfl)
            ((renders_silent rfl).trans unasked) ((applies_silent rfl).trans unapplied)
  | canceled canceled =>
      refine ⟨.canceled, .canceled ((renders_silent rfl).trans unasked) (getLast?_append _)
        canceled, ?_⟩
      exact .unclosed rfl rfl rfl rfl rfl rfl
  | queues late =>
      exact ⟨rfl, driver?_append driver _, (isTimed_append driver _).trans timed,
        (renders_silent rfl).trans unasked, (applies_silent rfl).trans unapplied, rfl⟩

theorem rendering_leads {d : Daemon} {t : Turn Phase Result} {y : Effect} {h : Held}
    {call : Pending} (goes : Goes token d (.rendering h call) t y)
    (holds : Holds maxRetries token task steps x (.rendering h call)) :
    Leads maxRetries token task (steps ++ [(.rendering h call, d)]) (x ++ y) (.rendering h call)
      t := by
  obtain ⟨owns, unasked, unapplied, rfl⟩ := holds
  cases goes with
  | looks looks => cases looks
  | asks pending =>
      exact ⟨owns.append _, (renders_silent pending).trans unasked,
        (applies_silent rfl).trans unapplied, rfl⟩
  | askWaits late pending =>
      exact ⟨owns.append _, (renders_silent pending).trans unasked,
        (applies_silent rfl).trans unapplied, rfl⟩
  | @renderFailed _ _ e answer =>
      obtain rfl := owns.named
      have asked := renders_answer unasked answer
      exact owns.records (.failure e.message) false (.renderFailed asked) rfl rfl
        (call.made_toMake .render)
  | incomplete dynamic answer =>
      have asked := renders_answer unasked answer
      refine ⟨.incomplete, .incomplete asked ((owns.append _).timed.trans dynamic), ?_⟩
      exact .unclosed rfl rfl (call.made_toMake .render) rfl rfl rfl
  | unchanged timed answer =>
      have asked := renders_answer unasked answer
      exact owns.records .success false
        (.unchanged asked ((owns.append _).timed.trans timed)) rfl rfl (call.made_toMake .render)
  | complete answer =>
      have asked := renders_answer unasked answer
      have none := (applies_silent (s := (.rendering h call, d)) rfl).trans unapplied
      refine ⟨owns.append _, ⟨asked, [], none, rfl⟩, Nat.zero_le _, ?_⟩
      rw [append_calls, call.made_toMake]
      rfl

theorem applying_leads {d : Daemon} {t : Turn Phase Result} {y : Effect} {h : Held}
    {retries : UInt32} {call : Pending} (goes : Goes token d (.applying h retries call) t y)
    (bounded : maxRetries < 2 ^ 32 - 1) (config : d.retry.maxRetries.toNat = maxRetries)
    (holds : Holds maxRetries token task steps x (.applying h retries call)) :
    Leads maxRetries token task (steps ++ [(.applying h retries call, d)]) (x ++ y)
      (.applying h retries call) t := by
  obtain ⟨owns, fails, few, rfl⟩ := holds
  cases goes with
  | looks looks => cases looks
  | orders pending =>
      refine ⟨owns.append _, fails.append rfl pending, few, ?_⟩
      rw [append_calls, List.append_assoc]
      rfl
  | orderWaits late pending =>
      exact ⟨owns.append _, fails.append rfl pending, few, append_none _⟩
  | applied answer =>
      obtain ⟨es, answers, length⟩ := fails.answers
      have answered : applies token (steps ++ [(.applying h retries call, d)]) =
          es.map .error ++ [.ok ()] := by
        rw [applies_append, answers, answer]
        rfl
      have meets : Row.applied.Meets maxRetries token task
          (steps ++ [(.applying h retries call, d)]) :=
        .applied ((renders_silent rfl).trans fails.answer) answered
          (Nat.le_trans (Nat.le_of_eq length) few)
      refine owns.records .success true meets rfl rfl ?_
      rw [answered, List.length_append, List.length_map, length]
      exact applying_answered call
  | @exhausted _ _ _ e last answer =>
      obtain rfl := owns.named
      have all : retries.toNat = maxRetries :=
        Nat.le_antisymm few (config ▸ UInt32.le_iff_toNat_le.mp last)
      have counted : (retries + 1).toNat = maxRetries + 1 := by
        rw [UInt32.toNat_add, UInt32.toNat_one, all]
        omega
      obtain ⟨es, answers, length⟩ := fails.answers
      have answered := applies_fail answers answer
      have meets : (Row.exhausted (retries + 1) e).Meets maxRetries token h.task
          (steps ++ [(.applying h retries call, d)]) :=
        .exhausted ((renders_silent rfl).trans fails.answer) answered (length.trans all) counted
      refine owns.records (.failure e.message) false meets rfl rfl ?_
      rw [answered, List.length_map, List.length_append, length]
      exact applying_answered call
  | failed more answer =>
      have bound := UInt32.lt_iff_toNat_lt.mp more
      have next : (retries + 1).toNat = retries.toNat + 1 := by
        rw [UInt32.toNat_add, UInt32.toNat_one]
        omega
      refine ⟨owns.append _, ?_, ?_, ?_, ?_⟩
      · rw [next]
        exact fails.fail rfl answer
      · rw [next]
        exact Nat.succ_pos _
      · rw [next, ← config]
        exact bound
      · rw [append_calls, applying_answered, next]

theorem backingOff_leads {d : Daemon} {t : Turn Phase Result} {y : Effect} {h : Held}
    {retries : UInt32} {due : Nat} (goes : Goes token d (.backingOff h retries due) t y)
    (holds : Holds maxRetries token task steps x (.backingOff h retries due)) :
    Leads maxRetries token task (steps ++ [(.backingOff h retries due, d)]) (x ++ y)
      (.backingOff h retries due) t := by
  obtain ⟨owns, fails, some, few, rfl⟩ := holds
  cases goes with
  | looks looks => cases looks
  | givenUp canceled =>
      obtain ⟨es, answers, length⟩ := fails.answers
      have answered : applies token (steps ++ [(.backingOff h retries due, d)]) = es.map .error :=
        (applies_silent rfl).trans answers
      have begun : es ≠ [] := List.ne_nil_of_length_pos (by rw [length]; exact some)
      have meets : Row.givenUp.Meets maxRetries token task
          (steps ++ [(.backingOff h retries due, d)]) :=
        .givenUp ((renders_silent rfl).trans fails.answer) answered begun
          (Nat.le_trans (Nat.le_of_eq length) few) (List.mem_append_right _ (.head _)) canceled
      refine owns.records (.failure "canceled while retrying apply") false meets rfl rfl ?_
      rw [answered, List.length_map, length]
      exact List.append_nil _
  | retries patient =>
      refine ⟨owns.append _, fails.append rfl rfl, few, ?_⟩
      rw [append_none, Pending.made, List.append_nil]
  | retryWaits late =>
      exact ⟨owns.append _, fails.append rfl rfl, some, few, append_none _⟩

theorem recording_leads {d : Daemon} {t : Turn Phase Result} {y : Effect} {h : Held}
    {applied : Bool} {r : Result} (goes : Goes token d (.recording h applied r) t y)
    (holds : Holds maxRetries token task steps x (.recording h applied r)) :
    Leads maxRetries token task (steps ++ [(.recording h applied r, d)]) (x ++ y)
      (.recording h applied r) t := by
  obtain ⟨row, c, meets, closing, named, rfl, completions, closed, rfl⟩ := holds
  cases goes with
  | looks looks => cases looks
  | recorded =>
      have ⟨b, driver, _⟩ := closed
      refine ⟨row, meets.append closing driver rfl rfl, rfl, ?_, ?_, ?_, rfl, ?_⟩
      · rw [applies_silent rfl]
        exact List.append_nil _
      · intro none
        rw [closing] at none
        cases none
      · intro c' same
        rw [closing] at same
        cases same
        exact ⟨_, closed.append _, rfl⟩
      · rw [completions, ← named]
        rfl

/-- The turn leads on to what holds in the next phase, or into a row. -/
theorem Goes.leads {p : Phase} {d : Daemon} {t : Turn Phase Result} {y : Effect}
    (goes : Goes token d p t y) (bounded : maxRetries < 2 ^ 32 - 1)
    (config : d.retry.maxRetries.toNat = maxRetries)
    (holds : Holds maxRetries token task steps x p) :
    Leads maxRetries token task (steps ++ [(p, d)]) (x ++ y) p t := by
  cases p with
  | start name => exact start_leads goes holds
  | queued name b due => exact queued_leads goes holds
  | rendering h call => exact rendering_leads goes holds
  | applying h retries call => exact applying_leads goes bounded config holds
  | backingOff h retries due => exact backingOff_leads goes holds
  | recording h applied r => exact recording_leads goes holds

/-! ### All runs -/

variable {found : Nat → Daemon} {config : RetryConfig}

end TaskSync.Run
