import TaskSync.Duration.Basic
import TaskSync.Text.Blank

/-!
# Durations as one number

Messages show a duration as one decimal number in the largest of seconds, milliseconds,
microseconds and nanoseconds that it reaches, without trailing zeros: `1.5s`, `250ms`, `99µs`.
-/

namespace TaskSync.Duration

open Text

/-- `n / 10^places` as digits after the point, trailing zeros dropped; nothing for zero. -/
def pointDigits (places n : Nat) : List Char :=
  match ((padded places n).reverse.dropWhile (· == '0')).reverse with
  | [] => []
  | ds => '.' :: ds

/-- The number with its unit. -/
def compact (d : Duration) : String :=
  let cs :=
    if d.secs ≠ 0 then digits d.secs ++ pointDigits 9 d.nanos ++ ['s']
    else if 10 ^ 6 ≤ d.nanos then
      digits (d.nanos / 10 ^ 6) ++ pointDigits 6 (d.nanos % 10 ^ 6) ++ ['m', 's']
    else if 10 ^ 3 ≤ d.nanos then
      digits (d.nanos / 10 ^ 3) ++ pointDigits 3 (d.nanos % 10 ^ 3) ++ ['µ', 's']
    else digits d.nanos ++ ['n', 's']
  String.ofList cs

end TaskSync.Duration
