import TaskSync.Number.Power
import TaskSync.Time.Calendar

/-!
# Timestamps

An instant of universal time: a second counted from 1970 and the nanoseconds in it. During a leap
second the nanoseconds run on past a whole second. Instants lie in the years from -262143 to
262142.
-/

namespace TaskSync

/-- An instant. -/
structure Timestamp where
  second : Int
  nano : Nat
  deriving DecidableEq, Inhabited

namespace Timestamp

def minYear : Int := -262143

def maxYear : Int := 262142

/-- The seconds from the first year's first to the last year's last. -/
def inRange (second : Int) : Bool :=
  decide ((⟨minYear, 1, 1⟩ : Date).toDays * 86400 ≤ second
    ∧ second < (⟨maxYear + 1, 1, 1⟩ : Date).toDays * 86400)

def nanosPerSecond : Nat := 10 ^ 9

/-- The instant with so many milliseconds since 1970, if it is in range. -/
def ofMillis? (ms : Int) : Option Timestamp :=
  if inRange (ms / 1000) then some ⟨ms / 1000, (ms % 1000).toNat * 10 ^ 6⟩ else none

/-- Whole milliseconds since 1970, rounded down. -/
def millis (t : Timestamp) : Int := t.second * 1000 + (t.nano / 10 ^ 6 : Nat)

/-- The second of the day. -/
def secondOfDay (t : Timestamp) : Int := t.second % 86400

/-- Nanoseconds from `start` to `stop`. A leap second counts when the later time of day lies
behind it. -/
def nanosBetween (start stop : Timestamp) : Int :=
  let leap : Int :=
    if start.secondOfDay < stop.secondOfDay then
      if nanosPerSecond ≤ start.nano then 1 else 0
    else if stop.secondOfDay < start.secondOfDay then
      if nanosPerSecond ≤ stop.nano then -1 else 0
    else 0
  (stop.second - start.second + leap) * nanosPerSecond + ((stop.nano : Int) - (start.nano : Int))

end Timestamp

end TaskSync
