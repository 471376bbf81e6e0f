import TaskSync.Daemon.State

/-!
# Turns

An operation goes from phase to phase. One turn takes it from one place where others may come in
between to the next: it goes on in another phase, it has to wait, or it ends. A turn that has to
wait leaves the operation and the daemon as they are, so it can be tried again at any time.
-/

namespace TaskSync

inductive Turn (π ρ : Type) where
  | next (phase : π)
  | wait (on : List Wait)
  | done (result : ρ)

/-- What an operation has come to when it can go no further. -/
inductive Rest (π ρ : Type) where
  | waiting (phase : π) (on : List Wait)
  | ended (result : ρ)
  /-- It could go on, but has had its share of turns. -/
  | paused (phase : π)

/-- Takes turns until the operation has to wait or ends, at most so many. -/
def settle {π ρ σ : Type} (turn : π → σ → Turn π ρ × σ) : Nat → π → σ → Rest π ρ × σ
  | 0, p, s => (.paused p, s)
  | fuel + 1, p, s =>
    match turn p s with
    | (.next p, s) => settle turn fuel p s
    | (.wait on, s) => (.waiting p on, s)
    | (.done r, s) => (.ended r, s)

end TaskSync
