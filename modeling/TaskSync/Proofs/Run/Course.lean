import TaskSync.Proofs.Run.Turn

/-!
# The course of a run

Between two turns of a run others come in, and time passes. So a course is about a sequence of
daemons, one for each turn to find, and nothing relates one of them to the next: whatever others
do, it is among the sequences. As long as time passes, a run that has its guard comes to an end,
since each turn that does not have to wait brings it nearer; before it has the guard, it can be kept
waiting only by finding the task active again and again.
-/

namespace TaskSync.Run

/-- Where a run is. -/
inductive Stage where
  | going (p : Phase)
  | ended (r : Result)

/-- Where a turn leads to. -/
def Stage.after (p : Phase) : Turn Phase Result → Stage
  | .next p' => .going p'
  | .wait _ => .going p
  | .done r => .ended r

structure Course where
  stage : Stage
  /-- The turns so far, the first one first. -/
  steps : List Step

/-- A run of a task after some turns. The n-th turn finds the n-th daemon. -/
def course (token : Token) (task : String) (found : Nat → Daemon) : Nat → Course
  | 0 => ⟨.going (.start task), []⟩
  | n + 1 =>
    match course token task found n with
    | ⟨.going p, steps⟩ => ⟨.after p (turn token p (found n)).1, steps ++ [(p, found n)]⟩
    | ⟨.ended r, steps⟩ => ⟨.ended r, steps⟩

/-- What the turns show one after the other. What others do in between is no part of it. -/
inductive Shows (token : Token) : List Step → Effect → Prop where
  | nil : Shows token [] {}
  | snoc {steps : List Step} {p : Phase} {d : Daemon} {x y : Effect} (before : Shows token steps x)
      (last : y.Between d (turn token p d).2) : Shows token (steps ++ [(p, d)]) (x ++ y)

/-- How many turns a run can still take without having to wait. -/
def Phase.rank (maxRetries : Nat) : Phase → Nat
  | .start _ => 3 * maxRetries + 8
  | .queued _ _ _ => 3 * maxRetries + 7
  | .rendering _ .unsent => 3 * maxRetries + 6
  | .rendering _ (.delayed _) => 3 * maxRetries + 5
  | .backingOff _ retries _ => 3 * (maxRetries - retries.toNat) + 4
  | .applying _ retries .unsent => 3 * (maxRetries - retries.toNat) + 3
  | .applying _ retries (.delayed _) => 3 * (maxRetries - retries.toNat) + 2
  | .recording _ _ _ => 0

/-- The time for which the phase has to wait. -/
def Phase.due : Phase → Nat
  | .queued _ _ due | .backingOff _ _ due => due
  | .rendering _ call | .applying _ _ call =>
    match call with
    | .unsent => 0
    | .delayed due => due
  | .start _ | .recording _ _ _ => 0

def Phase.task : Phase → String
  | .start task | .queued task _ _ => task
  | .rendering h _ | .applying h _ _ | .backingOff h _ _ | .recording h _ _ => h.task

section

variable {token : Token} {task : String} {found : Nat → Daemon} {n : Nat}

theorem course_going {p : Phase} (h : (course token task found n).stage = .going p) :
    course token task found (n + 1) =
      ⟨.after p (turn token p (found n)).1,
        (course token task found n).steps ++ [(p, found n)]⟩ := by
  rw [course]
  split
  next q steps same =>
    rw [same] at h
    cases h
    rw [same]
  next r steps same =>
    rw [same] at h
    cases h

/-- A run that has ended takes no more turns. -/
theorem course_ended {r : Result} (h : (course token task found n).stage = .ended r) :
    course token task found (n + 1) = course token task found n := by
  rw [course]
  split
  next p steps same =>
    rw [same] at h
    cases h
  next r steps same => rw [same]

/-- A wait is for a time to come. -/
theorem Goes.late {d : Daemon} {p : Phase} {on : List Wait} {x : Effect}
    (h : Goes token d p (.wait on) x) : d.clock < p.due := by
  cases h with
  | looks looks looked => cases looked
  | queues late => exact late
  | askWaits late => exact late
  | orderWaits late => exact late
  | retryWaits late => exact late

end

end TaskSync.Run
