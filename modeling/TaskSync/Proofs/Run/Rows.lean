import TaskSync.Proofs.Run.Course

/-!
# How a run can go

The ways in which a run can go are the rows of a table. What the turns of the run meet decides the
row: the state of the task when the run looks at it, what the backend answers, and whether the token
is canceled where the run waits. The row says how the run ends and what is seen of it.
-/

namespace TaskSync.Run

/-! ### What a run meets -/

/-- The answers to the question whether the template is complete. -/
def renders (token : Token) (steps : List Step) : List (Except BackendError Bool) :=
  steps.filterMap (rendered? token)

/-- The answers to the calls to apply the task. -/
def applies (token : Token) (steps : List Step) : List (Except BackendError Unit) :=
  steps.filterMap (applied? token)

/-- The backend that the first turn finds. The run stays with it. -/
def driver? (task : String) (steps : List Step) : Option Place :=
  steps.head?.bind fun s => s.2.registry.get? task

/-- Whether the task runs on a schedule, by what the first turn finds. -/
def isTimed (task : String) (steps : List Step) : Bool :=
  steps.head?.any fun s => (s.2.registry.get? task).any fun b => (s.2.taskOf b).isScheduled

/-- The turn looks at the task: it is the first one, or the run has waited and waits no more. -/
inductive Tries (token : Token) (task : String) (d : Daemon) : Phase → Prop where
  | first : Tries token task d (.start task)
  | again {b : Place} {due : Nat} (patient : d.isCanceled token = false) (now : due ≤ d.clock) :
      Tries token task d (.queued task b due)

/-! ### The rows -/

inductive Row where
  | marked
  | missing
  | busy
  | canceled
  | disabled
  | renderFailed (e : BackendError)
  | incomplete
  | unchanged
  | applied
  | exhausted (attempts : UInt32) (e : BackendError)
  | givenUp

/-- How a record is ended. -/
inductive Closing where
  | success
  | failure (message : String)

def Closing.apply (now : Timestamp) (r : RunRecord) : Closing → RunRecord
  | success => r.succeed now
  | failure message => r.fail now message

/-- The record of the run, as it is ended: begun for the task of the driver at some turn, and ended
at another one. -/
def Closed (task : String) (steps : List Step) (c : Closing) (record : RunRecord) : Prop :=
  ∃ b, driver? task steps = some b ∧ ∃ s ∈ steps, ∃ t ∈ steps,
    record = c.apply t.2.wall (s.2.startRecord (s.2.taskOf b)).1

namespace Row

/-- What the caller gets. -/
def result (task : String) : Row → Result
  | marked | disabled | incomplete | unchanged | applied => .ok ()
  | missing => .error (.notFound task)
  | busy => .error (.busy task)
  | canceled | givenUp => .error .canceled
  | renderFailed e => .error (.render task e)
  | exhausted attempts e => .error (.applyFailed task attempts e)

/-- How the record of the run is ended; without one, nothing is stored. -/
def closing : Row → Option Closing
  | unchanged | applied => some .success
  | renderFailed e | exhausted _ e => some (.failure e.message)
  | givenUp => some (.failure "canceled while retrying apply")
  | marked | missing | busy | canceled | disabled | incomplete => none

/-- The calls of the backend, of which so many are to apply the task. -/
def calls (applies : Nat) : Row → List CallKind
  | marked | missing | busy | canceled | disabled => []
  | renderFailed _ | incomplete | unchanged => [.render]
  | applied | exhausted _ _ | givenUp => .render :: List.replicate applies .apply

/-- The completions that are announced. -/
def completions (task : String) : Row → List String
  | disabled | applied => [task]
  | _ => []

/-- What the backend answers to the question whether the template is complete. -/
def answer? : Row → Option (Except BackendError Bool)
  | marked | missing | busy | canceled | disabled => none
  | renderFailed e => some (.error e)
  | incomplete | unchanged => some (.ok false)
  | applied | exhausted _ _ | givenUp => some (.ok true)

/-- The turns of a run meet what the row is about. -/
inductive Meets (maxRetries : Nat) (token : Token) (task : String) (steps : List Step) :
    Row → Prop where
  | marked {p : Phase} {d : Daemon} {e : Entry Place} (unasked : renders token steps = [])
      (last : steps.getLast? = some (p, d)) (tries : Tries token task d p)
      (found : d.registry.find? task = some e) (marked : e.marked = true)
      (free : p = .start task ∨ e.active = false) : Meets maxRetries token task steps .marked
  | missing {p : Phase} {d : Daemon} (unasked : renders token steps = [])
      (last : steps.getLast? = some (p, d)) (tries : Tries token task d p)
      (missing : d.registry.find? task = none) : Meets maxRetries token task steps .missing
  | busy {d : Daemon} {e : Entry Place} (unasked : renders token steps = [])
      (last : steps.getLast? = some (.start task, d)) (found : d.registry.find? task = some e)
      (unmarked : e.marked = false) (active : e.active = true) (timed : isTimed task steps = true) :
      Meets maxRetries token task steps .busy
  | canceled {d : Daemon} {b : Place} {due : Nat} (unasked : renders token steps = [])
      (last : steps.getLast? = some (.queued task b due, d))
      (canceled : d.isCanceled token = true) : Meets maxRetries token task steps .canceled
  | disabled {p : Phase} {d : Daemon} {e : Entry Place} {b : Place}
      (unasked : renders token steps = []) (last : steps.getLast? = some (p, d))
      (tries : Tries token task d p) (found : d.registry.find? task = some e)
      (unmarked : e.marked = false) (free : e.active = false) (driver : driver? task steps = some b)
      (off : (d.taskOf b).enabled = false) : Meets maxRetries token task steps .disabled
  | renderFailed {e : BackendError} (answer : renders token steps = [.error e]) :
      Meets maxRetries token task steps (.renderFailed e)
  | incomplete (answer : renders token steps = [.ok false]) (dynamic : isTimed task steps = false) :
      Meets maxRetries token task steps .incomplete
  | unchanged (answer : renders token steps = [.ok false]) (timed : isTimed task steps = true) :
      Meets maxRetries token task steps .unchanged
  | applied {es : List BackendError} (answer : renders token steps = [.ok true])
      (answers : applies token steps = es.map .error ++ [.ok ()]) (few : es.length ≤ maxRetries) :
      Meets maxRetries token task steps .applied
  | exhausted {es : List BackendError} {e : BackendError} {attempts : UInt32}
      (answer : renders token steps = [.ok true])
      (answers : applies token steps = (es ++ [e]).map .error) (all : es.length = maxRetries)
      (counted : attempts.toNat = maxRetries + 1) :
      Meets maxRetries token task steps (.exhausted attempts e)
  | givenUp {es : List BackendError} {h : Held} {retries : UInt32} {due : Nat} {d : Daemon}
      (answer : renders token steps = [.ok true]) (answers : applies token steps = es.map .error)
      (some : es ≠ []) (few : es.length ≤ maxRetries)
      (waits : (.backingOff h retries due, d) ∈ steps) (canceled : d.isCanceled token = true) :
      Meets maxRetries token task steps .givenUp

/-- The run ends as the row says, and what is seen of it is what the row says. -/
structure Fixes (token : Token) (task : String) (steps : List Step) (r : Result) (x : Effect)
    (row : Row) : Prop where
  result : r = row.result task
  calls : x.calls = row.calls (applies token steps).length
  unrecorded : row.closing = none → x.records = []
  recorded : ∀ c, row.closing = some c → ∃ record, Closed task steps c record ∧ x.records = [record]
  notices : x.notices = x.records.map announcement
  completions : x.completions = row.completions task

/-- What is left to say of a row without a record. -/
theorem Fixes.unclosed {token : Token} {task : String} {steps : List Step} {r : Result}
    {x : Effect} {row : Row} (unclosed : row.closing = none) (result : r = row.result task)
    (calls : x.calls = row.calls (applies token steps).length) (records : x.records = [])
    (notices : x.notices = []) (completions : x.completions = row.completions task) :
    row.Fixes token task steps r x where
  result := result
  calls := calls
  unrecorded _ := records
  recorded c closed := by
    rw [unclosed] at closed
    cases closed
  notices := by rw [notices, records]; rfl
  completions := completions

/-- The run goes as the row says. -/
structure Follows (maxRetries : Nat) (token : Token) (task : String) (steps : List Step)
    (r : Result) (row : Row) : Prop where
  meets : row.Meets maxRetries token task steps
  fixes : ∃ x, Shows token steps x ∧ row.Fixes token task steps r x

/-! ### No two rows -/

variable {maxRetries : Nat} {token : Token} {task : String} {steps : List Step}

theorem Meets.answer {row : Row} (h : row.Meets maxRetries token task steps) :
    renders token steps = row.answer?.toList := by
  cases h with
  | marked unasked | missing unasked | busy unasked | canceled unasked | disabled unasked =>
      exact unasked
  | renderFailed answer | incomplete answer | unchanged answer | applied answer | exhausted answer
  | givenUp answer => exact answer

/-- A series of failures has no success in it. -/
theorem failures_ne (es es' : List BackendError) :
    es.map .error ++ [.ok ()] ≠ es'.map (Except.error : _ → Except BackendError Unit) := by
  intro same
  have success : Except.ok () ∈ es'.map (Except.error : _ → Except BackendError Unit) := by
    rw [← same]
    exact List.mem_append_right _ (.head _)
  obtain ⟨e, _, impossible⟩ := List.mem_map.mp success
  cases impossible

theorem failures_inj {es es' : List BackendError}
    (same : es.map (Except.error : _ → Except BackendError Unit) = es'.map .error) : es = es' :=
  (List.map_inj_right fun _ _ => Except.error.inj).mp same

/-- The rows exclude each other. Answers tell most of them apart; before the first one it is the
last look that does. -/
theorem Meets.unique {row row' : Row} (h : row.Meets maxRetries token task steps)
    (h' : row'.Meets maxRetries token task steps) : row = row' := by
  have answer : row.answer?.toList = row'.answer?.toList := h.answer.symm.trans h'.answer
  cases h with
  | marked | missing | busy | canceled | disabled => cases h' <;> grind [Tries, answer?]
  | renderFailed | incomplete | unchanged => cases h' <;> grind [answer?]
  | applied _ answers =>
      cases h' with
      | applied => rfl
      | exhausted _ answers' => exact absurd (answers.symm.trans answers') (failures_ne _ _)
      | givenUp _ answers' => exact absurd (answers.symm.trans answers') (failures_ne _ _)
      | _ => cases answer
  | exhausted _ answers all counted =>
      cases h' with
      | applied _ answers' => exact absurd (answers'.symm.trans answers) (failures_ne _ _)
      | exhausted _ answers' _ counted' =>
          obtain ⟨_, last⟩ := List.append_inj' (failures_inj (answers.symm.trans answers')) rfl
          cases last
          rw [UInt32.toNat_inj.mp (counted.trans counted'.symm)]
      | givenUp _ answers' _ few =>
          have same := failures_inj (answers.symm.trans answers')
          rw [← same, List.length_append, all] at few
          exact absurd few (Nat.not_succ_le_self _)
      | _ => cases answer
  | givenUp _ answers _ few =>
      cases h' with
      | applied _ answers' => exact absurd (answers'.symm.trans answers) (failures_ne _ _)
      | exhausted _ answers' all =>
          have same := failures_inj (answers.symm.trans answers')
          rw [same, List.length_append, all] at few
          exact absurd few (Nat.not_succ_le_self _)
      | givenUp => rfl
      | _ => cases answer

end Row

end TaskSync.Run
