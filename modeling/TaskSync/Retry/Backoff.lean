import TaskSync.Config.Basic
import TaskSync.Retry.Random

/-!
# Waits between tries

The wait before retry `n` is the base delay times a random factor from `2 ^ n` up to, but not
reaching, `2 ^ (n + 1)`; from the sixteenth retry on the factor does not grow. The factor is a
double with random mantissa, so it lies in its range by construction. A wait too long to be a
duration is the longest one.
-/

namespace TaskSync.Backoff

/-- The last retry for which the factor doubles. -/
def maxExponent : Nat := 16

/-- The exponent of the factor before a retry. -/
def exponent (attempt : UInt32) : Nat := min attempt.toNat maxExponent

/-- The double `2 ^ e * (1 + k / 2 ^ 52)`, for `k` the upper 52 bits of a random word. -/
def factor (e : Nat) (word : UInt64) : Binary64 :=
  .ofMagnitude false ((1023 + e) * 2 ^ 52 + word.toNat / 2 ^ 12)

/-- A duration in seconds. -/
def seconds (d : Duration) : Binary64 :=
  (Binary64.ofNat d.secs).plus ((Binary64.ofNat d.nanos).div (.ofNat (10 ^ 9)))

/-- A number of seconds as a duration, to the nearest nanosecond. -/
def ofSeconds? (x : Binary64) : Option Duration :=
  if x.isFinite then
    let (num, den) := x.ratio
    Duration.ofNanos? (Binary64.roundDiv (num * 10 ^ 9) den)
  else none

/-- The base delay times a factor. -/
def scaled (base : Duration) (x : Binary64) : Duration :=
  (ofSeconds? ((seconds base).mul x)).getD .max

/-- The wait before a retry, and the source after the factor was drawn. -/
def wait (base : Duration) (attempt : UInt32) (source : Random.Source) :
    Duration × Random.Source :=
  let (word, source) := source.next
  (scaled base (factor (exponent attempt) word), source)

/-- The largest `e` with `base * 2 ^ e ≤ wait`. -/
def exponentOf (base wait : Duration) : Nat := (wait.ns / base.ns).log2

end TaskSync.Backoff
