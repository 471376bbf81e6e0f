import TaskSync.Cron.Schedule
import TaskSync.Time.Calendar

/-!
# The next time of a schedule

The next time is the earliest whole second after a given one whose parts all belong to the
schedule. Days are tried one after the other to the end of the last year; within a day the parts
are independent of each other.
-/

namespace TaskSync.Cron

/-- Whether a day belongs to the schedule. -/
def Schedule.hasDay (s : Schedule) (d : Date) : Bool :=
  s.months.contains d.month && s.daysOfMonth.contains d.day && s.daysOfWeek.contains d.weekday

/-- The first second of a day at or after `from` that belongs to the schedule. -/
def Schedule.firstSecond? (s : Schedule) (start : Nat) : Option Nat :=
  s.hours.findSome? fun h =>
    if h * 3600 + 3599 < start then none
    else s.minutes.findSome? fun m =>
      if h * 3600 + m * 60 + 59 < start then none
      else s.seconds.findSome? fun sec =>
        let t := h * 3600 + m * 60 + sec
        if start ≤ t then some t else none

/-- The first time at or after second `start` of day `day`, within so many days. -/
def Schedule.search? (s : Schedule) : Nat → Int → Nat → Option Int
  | 0, _, _ => none
  | fuel + 1, day, start =>
    let d := Date.ofDays day
    if s.years.all fun y => decide ((y : Int) < d.year) then none
    else
      match if s.years.any (fun y => (y : Int) == d.year) && s.hasDay d
        then s.firstSecond? start else none with
      | some t => some (day * 86400 + t)
      | none => s.search? fuel (day + 1) 0

/-- The first time after `now`, both in seconds since 1970. No schedule reaches beyond the last
day of 2100, so the days up to it are fuel enough. -/
def Schedule.next? (s : Schedule) (now : Int) : Option Int :=
  let start := now + 1
  let day := start / 86400
  let last := Date.toDays ⟨2101, 1, 1⟩
  s.search? (last - day + 1).toNat day (start % 86400).toNat

end TaskSync.Cron
