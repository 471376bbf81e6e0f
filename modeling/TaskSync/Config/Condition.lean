import TaskSync.Config.Error
import TaskSync.Data.Decode
import TaskSync.Cron.Reader
import TaskSync.Pattern.Reader

/-!
# Conditions

What triggers a task. A task without a condition runs on changes to its services.
-/

namespace TaskSync

inductive Condition where
  | services (names : List String)
  | catalogServices (regexp : String)
  | schedule (cron : String)
  deriving DecidableEq

namespace Condition

def isSchedule : Condition → Bool
  | schedule _ => true
  | _ => false

def validate : Condition → Except PartFault Unit
  | services names => if names.isEmpty then .error .noConditionServices else .ok ()
  | catalogServices regexp => if Pattern.isValid regexp then .ok () else .error .badRegexp
  | schedule cron => if (Cron.read? cron).isSome then .ok () else .error (.badCron cron)

def tags : List String := ["services", "catalog_services", "schedule"]

def servicesShape : Shape Condition where
  title := "struct variant ConditionConfig::Services"
  start := services []
  fields := [⟨"names", .defaulted, fun _ v => do
    let names ← Decode.texts v
    .ok fun _ => services names⟩]

def catalogShape : Shape Condition where
  title := "struct variant ConditionConfig::CatalogServices"
  start := catalogServices ""
  fields := [⟨"regexp", .required, fun _ v => do
    let s ← Decode.text v
    .ok fun _ => catalogServices s⟩]

def scheduleShape : Shape Condition where
  title := "struct variant ConditionConfig::Schedule"
  start := schedule ""
  fields := [⟨"cron", .required, fun _ v => do
    let s ← Decode.text v
    .ok fun _ => schedule s⟩]

def read (d : Dialect) (v : Value) : Decoded Condition := do
  let (i, content) ← Decode.tagged "internally tagged enum ConditionConfig" tags v
  match i with
  | 0 => servicesShape.readTagged d content
  | 1 => catalogShape.readTagged d content
  | _ => scheduleShape.readTagged d content

def toValue : Condition → Value
  | services names =>
    .table [("type", .text "services"), ("names", .list (names.map .text))]
  | catalogServices regexp =>
    .table [("type", .text "catalog_services"), ("regexp", .text regexp)]
  | schedule cron => .table [("type", .text "schedule"), ("cron", .text cron)]

end Condition

end TaskSync
