import TaskSync.Scenario.Report

/-!
# Scenarios

A daemon with everything around it settled in advance, and the steps that are taken with it.
-/

namespace TaskSync

/-- A scenario: the configuration, what is settled in advance, and how things begin. -/
structure Scenario where
  config : Config
  mode : PassMode
  setting : Setting
  storeFaults : List (StoreOp × Script (Option String))
  busCapacity : Nat
  retrySeed : UInt64
  wall : Timestamp
  steps : List Step

namespace Scenario

/-- The daemon before the first step. -/
def daemon (s : Scenario) (bus : Bus) : Daemon where
  setting := s.setting
  clock := 0
  wall := s.wall
  tokens := .empty
  store := .new s.config
  storeFaults := s.storeFaults
  registry := .empty
  backends := #[]
  made := []
  retry := s.config.retry
  source := .ofSeed s.retrySeed
  bus
  completions := none
  created := .empty Daemon.queueCapacity
  createdHeld := false
  deletes := .empty Daemon.queueCapacity
  deletesHeld := false
  stops := []
  nextStop := 0
  triggers := ⟨[], true, none⟩
  crews := #[]
  nextRecord := 1
  journal := []
  happenings := []

/-- The world before the first step. -/
def world (s : Scenario) : World :=
  let (receiver, bus) := ((Bus.withCapacity? s.busCapacity).getD .default).subscribe
  { scene := ⟨s.daemon bus, s.mode, [], 0, [], [], [], Job.allowance, fun _ => .empty, 0⟩
    receiver
    workers := []
    queue := []
    deferred := []
    mainDeferred := false
    mainWaits := []
    mainReady := true
    nextWait := 0
    reported := 0 }

/-- Takes all steps and reports on each. -/
def run (s : Scenario) : List Report :=
  (s.steps.foldl (fun (acc : List Report × World) step =>
    let (r, w) := acc.2.report step
    (r :: acc.1, w)) ([], s.world)).1.reverse

end Scenario

end TaskSync
