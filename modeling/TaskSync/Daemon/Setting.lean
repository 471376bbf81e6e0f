import TaskSync.Backend.Basic

/-!
# Settings

What is settled in advance about the surroundings of a daemon: its backends, its factory and its
watcher.
-/

namespace TaskSync

/-- How a wait on the watcher ends: after a time, or when the token is canceled. -/
structure WatchScript where
  after : Option Nat
  result : Except WatchError Unit
  onCancel : Except WatchError Unit

def WatchScript.quiet : WatchScript := ⟨none, .ok (), .ok ()⟩

/-- The watcher: how many dependencies it has, and how its two operations end. -/
structure WatcherScript where
  size : Nat
  watch : WatchScript
  wait : WatchScript

def WatcherScript.quiet : WatcherScript := ⟨0, .quiet, .quiet⟩

/-- What is settled in advance. -/
structure Setting where
  /-- The backends of each name in the order in which they are made; the last one is made ever
  after. -/
  backends : SortedMap (List BackendScript)
  /-- The backends of all other names. -/
  otherwise : BackendScript
  /-- How the factory starts; `none` if it has nothing to do. -/
  start : Option (Except BackendError Unit)
  /-- The names for which no backend can be made. -/
  makeErrors : SortedMap BackendError
  watcher : WatcherScript

end TaskSync
