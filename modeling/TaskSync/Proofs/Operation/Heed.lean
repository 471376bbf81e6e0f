import TaskSync.Controller.Operation

/-!
# The token that a turn heeds

An operation that waits for a time and for its token may find the time come before it finds that it
is canceled. It then goes on as one that is not canceled does: its turn is that of an operation with
another token. So what holds of every turn is stated for turns that heed any token at all.
-/

namespace TaskSync

/-! ### Waits that have a time -/

def Run.Phase.due? : Run.Phase → Option Nat
  | .queued _ _ due | .backingOff _ _ due => some due
  | _ => none

def Deletion.Phase.due? : Deletion.Phase → Option Nat
  | .queued _ _ due => some due
  | _ => none

def Creation.Phase.due? : Creation.Phase → Option Nat
  | .pausing _ due => some due
  | _ => none

def Timer.Phase.due? : Timer.Phase → Option Nat
  | .running _ _ _ run => run.due?
  | _ => none

def Errand.due? : Errand → Option Nat
  | .watch _ => none
  | .timer _ phase => phase.due?
  | .run phase => phase.due?
  | .delete phase => phase.due?

/-- A turn of an errand that heeds this token. -/
def Errand.heed (token : Token) (crew : Place) : Errand → Daemon → Outcome
  | watch phase, d => settled watch (leaveWatch crew) (Watch.turn crew token phase d)
  | timer task phase, d =>
    settled (timer task) (fun _ => leave crew) (Timer.turn token task phase d)
  | run phase, d => settled run (fun _ => leave crew) (Run.turn token phase d)
  | delete phase, d => settled delete (fun _ => leave crew) (Deletion.turn token phase d)

namespace Operation

/-- The time that the operation waits for, besides its token. The timer that sleeps is not among
them: it waits for two tokens. -/
def due? : Operation → Option Nat
  | create _ _ phase => phase.due?
  | run _ phase => phase.due?
  | delete _ phase => phase.due?
  | errand _ e => e.due?
  | update _ | control _ _ => none

/-- The token that cancels the operation. -/
def token (d : Daemon) : Operation → Token
  | create token _ _ | run token _ | delete token _ | control token _ => token
  | errand crew _ => Errand.crewToken d crew
  | update _ => default

/-- A turn of an operation that heeds this token. -/
def heed (token : Token) : Operation → Daemon → Outcome
  | create own goal phase, d =>
    lift (create own goal) (·.map .created) (Creation.turn token goal phase d)
  | update phase, d => lift update (·.map .plan) (Update.turn phase d)
  | run own phase, d => lift (run own) (·.map fun _ => .done) (Run.turn token phase d)
  | delete own phase, d => lift (delete own) (·.map fun _ => .done) (Deletion.turn token phase d)
  | control own phase, d => lift (control own) .error (Controller.turn token phase d)
  | errand crew e, d => lift (errand crew) (fun _ => .ok .done) (e.heed token crew d)

/-- The operation may act on this token: it is its own, or the time that it waits for has come and
this token is not canceled, whether its own is or not. -/
inductive Heeds (o : Operation) (d : Daemon) : Token → Prop where
  | own : Heeds o d (o.token d)
  | late {token : Token} {due : Nat} (waits : o.due? = some due) (passed : due ≤ d.clock)
      (calm : d.isCanceled token = false) : Heeds o d token

/-- A controller always heeds its own token. -/
theorem Heeds.of_control {own token : Token} {p : Controller.Phase} {d : Daemon}
    (heeds : (control own p).Heeds d token) : token = own := by
  cases heeds with
  | own => rfl
  | late waits => cases waits

theorem turn_eq_heed (o : Operation) (d : Daemon) : o.turn d = o.heed (o.token d) d := by
  cases o with
  | errand crew e => cases e <;> rfl
  | create | update | run | delete | control => rfl

end Operation

end TaskSync
