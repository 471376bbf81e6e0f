/-!
# The fields of a cron expression

A field bounds its ordinals, may be left open with `?`, and may name some ordinals.
-/

namespace TaskSync.Cron

/-- The fields in the order in which they are written. -/
inductive Unit where
  | second | minute | hour | dayOfMonth | month | dayOfWeek | year
  deriving DecidableEq

namespace Unit

def low : Unit → Nat
  | second | minute | hour => 0
  | dayOfMonth | month | dayOfWeek => 1
  | year => 1970

def high : Unit → Nat
  | second | minute => 59
  | hour => 23
  | dayOfMonth => 31
  | month => 12
  | dayOfWeek => 7
  | year => 2100

/-- Whether `?` may stand for every ordinal: one of the two day fields is usually left open. -/
def admitsOpen : Unit → Bool
  | dayOfMonth | dayOfWeek => true
  | _ => false

def monthNames : List (List String) :=
  [["jan", "january"], ["feb", "february"], ["mar", "march"], ["apr", "april"], ["may"],
   ["jun", "june"], ["jul", "july"], ["aug", "august"], ["sep", "september"],
   ["oct", "october"], ["nov", "november"], ["dec", "december"]]

/-- Weeks begin on Sunday. -/
def dayNames : List (List String) :=
  [["sun", "sunday"], ["mon", "monday"], ["tue", "tues", "tuesday"], ["wed", "wednesday"],
   ["thu", "thurs", "thursday"], ["fri", "friday"], ["sat", "saturday"]]

/-- The ordinal that a name stands for, in either case. -/
def ordinalOfName? (u : Unit) (name : List Char) : Option Nat :=
  let lower := name.map Char.toLower
  let find (table : List (List String)) : Option Nat :=
    (table.findIdx? fun names => names.any (·.toList == lower)).map (· + 1)
  match u with
  | month => find monthNames
  | dayOfWeek => find dayNames
  | _ => none

end Unit

end TaskSync.Cron
