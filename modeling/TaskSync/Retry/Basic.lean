import TaskSync.Retry.Backoff

/-!
# Bounded retries

A call that fails is tried again, with a wait in front of each retry, until it succeeds or the
retries are used up. A wait during which the caller gives up ends the series. Attempts are
counted in 32 bits.
-/

namespace TaskSync.Retry

/-- What follows a failure when so many retries have been made. -/
inductive Decision where
  /-- No retry is left; how many calls were made. -/
  | giveUp (attempts : UInt32)
  /-- Wait, then make this retry. -/
  | again (retry : UInt32)
  deriving DecidableEq

def decide (maxRetries retries : UInt32) : Decision :=
  if maxRetries ≤ retries then .giveUp (retries + 1) else .again (retries + 1)

/-- How a series of calls ends. -/
inductive Outcome (α ε : Type) where
  | success (value : α)
  | exhausted (attempts : UInt32) (source : ε)
  | canceled
  deriving DecidableEq

/-- What one call does: its result, and whether the caller has given up by the wait behind it. -/
structure Trial (α ε : Type) where
  result : Except ε α
  givenUp : Bool

/-- A finished series: how it ended, how many calls were made, and the waits that were begun, the
last one first, each with the retry it precedes. -/
structure Series (α ε : Type) where
  outcome : Outcome α ε
  calls : Nat
  waits : List (UInt32 × Duration)
  source : Random.Source

variable {α ε : Type}

/-- The series from a call on. A retry is made only below the maximum, so their number bounds the
recursion. -/
def runFrom (config : RetryConfig) (trial : Nat → Trial α ε) (retries : UInt32) (calls : Nat)
    (waits : List (UInt32 × Duration)) (source : Random.Source) : Series α ε :=
  let t := trial (calls + 1)
  match t.result with
  | .ok v => ⟨.success v, calls + 1, waits, source⟩
  | .error e =>
    if h : config.maxRetries ≤ retries then
      ⟨.exhausted (retries + 1) e, calls + 1, waits, source⟩
    else
      let (w, source) := Backoff.wait config.baseDelay (retries + 1) source
      if t.givenUp then ⟨.canceled, calls + 1, (retries + 1, w) :: waits, source⟩
      else runFrom config trial (retries + 1) (calls + 1) ((retries + 1, w) :: waits) source
termination_by config.maxRetries.toNat - retries.toNat
decreasing_by
  have h1 : retries.toNat < config.maxRetries.toNat := by
    rw [UInt32.le_iff_toNat_le] at h
    omega
  have h2 : config.maxRetries.toNat < 2 ^ 32 := config.maxRetries.toNat_lt
  have h3 : (retries + 1).toNat = retries.toNat + 1 := by
    rw [UInt32.toNat_add]
    have : (1 : UInt32).toNat = 1 := rfl
    omega
  omega

/-- The whole series. Trials are numbered from one. -/
def run (config : RetryConfig) (trial : Nat → Trial α ε) (source : Random.Source) : Series α ε :=
  runFrom config trial 0 0 [] source

/-- What a message says when a series does not succeed. -/
def Outcome.message (description : String) (sourceMessage : ε → String) :
    Outcome α ε → Option String
  | success _ => none
  | canceled => some (description ++ ": canceled while waiting to retry")
  | exhausted attempts e =>
    some (description ++ ": failed after " ++ toString attempts.toNat ++ " attempt(s): "
      ++ sourceMessage e)

end TaskSync.Retry
