import TaskSync.Number.Power

/-!
# Durations

A duration is a number of nanoseconds whose whole seconds fit in 64 bits. Everything that waits
or validates compares durations; the seconds and the remaining nanoseconds are views.
-/

namespace TaskSync

/-- A span of time in nanoseconds, less than 2^64 seconds. -/
structure Duration where
  ns : Nat
  ns_lt : ns < 2 ^ 64 * 10 ^ 9 := by decide
  deriving DecidableEq

namespace Duration

/-- The whole seconds. -/
def secs (d : Duration) : Nat := d.ns / 10 ^ 9

/-- The nanoseconds past the whole seconds. -/
def nanos (d : Duration) : Nat := d.ns % 10 ^ 9

def zero : Duration := ⟨0, by decide⟩

/-- The longest duration. -/
def max : Duration := ⟨2 ^ 64 * 10 ^ 9 - 1, by decide⟩

instance : Inhabited Duration := ⟨zero⟩

instance : LE Duration := ⟨fun a b => a.ns ≤ b.ns⟩

instance : LT Duration := ⟨fun a b => a.ns < b.ns⟩

instance (a b : Duration) : Decidable (a ≤ b) := inferInstanceAs (Decidable (a.ns ≤ b.ns))

instance (a b : Duration) : Decidable (a < b) := inferInstanceAs (Decidable (a.ns < b.ns))

/-- The duration of so many nanoseconds, unless it is too long. -/
def ofNanos? (n : Nat) : Option Duration :=
  if h : n < 2 ^ 64 * 10 ^ 9 then some ⟨n, h⟩ else none

/-- Whole seconds below 2^64 and a remainder below one second. -/
def ofParts? (secs nanos : Nat) : Option Duration :=
  if nanos < 10 ^ 9 then ofNanos? (secs * 10 ^ 9 + nanos) else none

def ofSecs (n : Nat) (h : n < 2 ^ 64 := by decide) : Duration :=
  ⟨n * 10 ^ 9, by omega⟩

/-- Milliseconds, counting a started one as whole: what a millisecond clock waits. -/
def ceilMillis (d : Duration) : Nat := (d.ns + (10 ^ 6 - 1)) / 10 ^ 6

@[ext] theorem ext {a b : Duration} (h : a.ns = b.ns) : a = b := by
  cases a; cases b; simp_all

theorem nanos_lt (d : Duration) : d.nanos < 10 ^ 9 := Nat.mod_lt _ (by decide)

theorem secs_nanos (d : Duration) : d.secs * 10 ^ 9 + d.nanos = d.ns := by
  simp only [secs, nanos]
  omega

@[simp] theorem ofNanos?_ns (d : Duration) : ofNanos? d.ns = some d := by
  rw [ofNanos?, dif_pos d.ns_lt]

@[simp] theorem ofParts?_secs_nanos (d : Duration) : ofParts? d.secs d.nanos = some d := by
  simp only [ofParts?, d.nanos_lt, if_true, d.secs_nanos, ofNanos?_ns]

end Duration

end TaskSync
