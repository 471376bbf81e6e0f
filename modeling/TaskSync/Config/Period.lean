import TaskSync.Config.Error
import TaskSync.Data.Decode
import TaskSync.Duration.Human
import TaskSync.Duration.Compact

/-!
# Buffer periods

A buffer period gathers changes for at least `min` and at most `max` before a task runs. In a
configuration each part may be left open; `finalize` fills the open parts from a parent.
-/

namespace TaskSync

/-- A buffer period in a configuration. -/
structure PeriodConfig where
  enabled : Option Bool
  min : Option Duration
  max : Option Duration
  deriving DecidableEq

namespace PeriodConfig

/-- Nothing set. -/
def empty : PeriodConfig := ⟨none, none, none⟩

instance : Inhabited PeriodConfig := ⟨empty⟩

def defaultMin : Duration := .ofSecs 5

def defaultMax : Duration := .ofSecs 20

def new (min max : Duration) : PeriodConfig := ⟨some true, some min, some max⟩

def disabled : PeriodConfig := ⟨some false, some .zero, some .zero⟩

/-- The period that fills in what neither a task nor the configuration sets. -/
def fallback : PeriodConfig := new defaultMin defaultMax

/-- An open flag counts as off. -/
def isEnabled (p : PeriodConfig) : Bool := p.enabled.getD false

/-- The flag after filling in: a set wait turns an open flag on. -/
def resolvedEnabled (p parent : PeriodConfig) : Bool :=
  p.enabled.getD (p.min.isSome || p.max.isSome || parent.enabled.getD true)

/-- Fills the open parts from a parent. A disabled period does not wait. -/
def finalize (p parent : PeriodConfig) : PeriodConfig :=
  if p.resolvedEnabled parent then
    ⟨some true, some (p.min.getD (parent.min.getD defaultMin)),
      some (p.max.getD (parent.max.getD defaultMax))⟩
  else disabled

/-- Refuses a shorter wait that exceeds the longer one. -/
def validate (p : PeriodConfig) : Except PartFault Unit :=
  match p.min, p.max with
  | some min, some max =>
    if max < min then .error (.periodReversed min.compact max.compact) else .ok ()
  | _, _ => .ok ()

/-- A duration in human units, or `null`. -/
def readDuration : Value → Decoded Duration
  | .text s =>
    match Duration.ofHuman? s with
    | some d => .ok d
    | none => .error (.invalidValue (.text s) "a duration")
  | v => .error (.invalidType v "a duration")

def shape : Shape PeriodConfig where
  title := "struct BufferPeriodConfig"
  start := empty
  fields := [
    ⟨"enabled", .defaulted, fun _ v => do
      let b ← Decode.optional Decode.boolean v
      .ok fun p => { p with enabled := b }⟩,
    ⟨"min", .defaulted, fun _ v => do
      let d ← Decode.optional readDuration v
      .ok fun p => { p with min := d }⟩,
    ⟨"max", .defaulted, fun _ v => do
      let d ← Decode.optional readDuration v
      .ok fun p => { p with max := d }⟩]

def toValue (p : PeriodConfig) : Value :=
  .table (
    (p.enabled.map fun b => ("enabled", Value.boolean b)).toList
      ++ (p.min.map fun d => ("min", Value.text d.human)).toList
      ++ (p.max.map fun d => ("max", Value.text d.human)).toList)

end PeriodConfig

end TaskSync
