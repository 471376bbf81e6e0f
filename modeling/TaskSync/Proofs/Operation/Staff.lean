import TaskSync.Proofs.Operation.Choice
import TaskSync.Proofs.Operation.Detached
import TaskSync.Proofs.Operation.Names
import TaskSync.Proofs.Operation.Requests

/-!
# Who works for a crew

An errand works for its crew or is its watch, and a controller leads a crew once it has one. Of all
operations only a controller sets anything going, for its own crew, and counts it; an errand counts
itself out when it ends. A timer has its stop registered from its beginning to its end.
-/

namespace TaskSync

/-- What an operation is for a crew. -/
inductive Role where
  | leader (crew : Place)
  | watcher (crew : Place)
  | worker (crew : Place)
  deriving DecidableEq

def Role.crew : Role → Place
  | leader crew | watcher crew | worker crew => crew

def Controller.Phase.crew? : Controller.Phase → Option Place
  | .start => none
  | .lockingCreated crew | .lockingDeletes crew | .looping crew _ _ | .draining crew _ _
  | .joining crew _ => some crew

def Errand.role (crew : Place) : Errand → Role
  | .watch _ => .watcher crew
  | .timer _ _ | .run _ | .delete _ => .worker crew

theorem Errand.role_crew (crew : Place) (e : Errand) : (e.role crew).crew = crew := by
  cases e <;> rfl

def Operation.role? : Operation → Option Role
  | .control _ phase => phase.crew?.map .leader
  | .errand crew e => some (e.role crew)
  | _ => none

theorem Operation.role?_control {token : Token} {p : Controller.Phase} {crew : Place}
    (lead : p.crew? = some crew) : (control token p).role? = some (.leader crew) :=
  congrArg (Option.map Role.leader) lead

/-- Who leads a crew is its controller. -/
theorem Operation.control_of_leader {o : Operation} {crew : Place}
    (role : o.role? = some (.leader crew)) :
    ∃ token p, o = .control token p ∧ p.crew? = some crew := by
  cases o with
  | create | update | run | delete => cases role
  | errand k e => cases e <;> cases role
  | control token p =>
      refine ⟨token, p, rfl, ?_⟩
      cases lead : p.crew? with
      | none =>
          rw [role?, lead] at role
          cases role
      | some k =>
          rw [role?, lead] at role
          cases role
          rfl

/-- The stop with which a timer is going. -/
def Timer.Phase.stop : Timer.Phase → Stop
  | .start stop _ | .planning stop _ _ | .sleeping stop _ _ _ | .running stop _ _ _ => stop

def Errand.stop? : Errand → Option (String × Stop)
  | .timer task phase => some (task, phase.stop)
  | _ => none

def Operation.stop? : Operation → Option (String × Stop)
  | .errand _ e => e.stop?
  | _ => none

/-- An operation that has a stop is the timer of it. -/
theorem Operation.timer_of_stop {o : Operation} {n : String} {s : Stop}
    (its : o.stop? = some (n, s)) : ∃ crew p, o = .errand crew (.timer n p) ∧ p.stop = s := by
  cases o with
  | create | update | run | delete | control => cases its
  | errand crew errand =>
      cases errand with
      | watch | run | delete => cases its
      | timer task p =>
          cases its
          exact ⟨crew, p, rfl, rfl⟩

/-- What an operation has of something after a turn. -/
def Turn.holds {π ρ α : Type} (has : π → Option α) (before : π) : Turn π ρ → Option α
  | .next phase => has phase
  | .wait _ => has before
  | .done _ => none

/-- What holds after a turn, by what came of it. -/
def Turn.Meets {π ρ : Type} (goes : π → Prop) (before : π) (ends : ρ → Prop) : Turn π ρ → Prop
  | .next phase => goes phase
  | .wait _ => goes before
  | .done r => ends r

/-- Somebody with this role is set going. -/
def Happening.brings (r : Role) : Happening → Bool
  | .signal _ => false
  | .work crew w => decide ((Errand.ofWork w).role crew = r)

theorem Happening.brings_work {r : Role} {crew : Place} {w : Work} :
    (Happening.work crew w).brings r = true ↔ (Errand.ofWork w).role crew = r :=
  decide_eq_true_iff

namespace Daemon

/-- How much work of a crew has not ended. -/
def working (d : Daemon) (k : Place) : Nat := ((d.crews[k]?).map (·.working)).getD 0

/-- How the watch of a crew ended. -/
def watchEnd? (d : Daemon) (k : Place) : Option (Except WatchError Unit) :=
  (d.crews[k]?).bind (·.watched)

section SetCrew

variable {d : Daemon} {crew : Place} {c : Crew} (known : d.crews[crew]? = some c) (c' : Crew)

include known in
theorem crews_setCrew (k : Place) :
    (Controller.setCrew d crew c').crews[k]? = if k = crew then some c' else d.crews[k]? := by
  have inside : crew < d.crews.size := (Array.getElem?_eq_some_iff.mp known).1
  show (d.crews.setIfInBounds crew c')[k]? = _
  rw [Array.getElem?_setIfInBounds]
  by_cases same : k = crew
  · subst same
    rw [if_pos rfl, if_pos rfl, if_pos inside]
  · rw [if_neg fun e => same e.symm, if_neg same]

include known in
theorem working_setCrew (k : Place) :
    (Controller.setCrew d crew c').working k = if k = crew then c'.working else d.working k := by
  rw [working, crews_setCrew known]
  by_cases same : k = crew
  · rw [if_pos same, if_pos same]
    rfl
  · rw [if_neg same, if_neg same]
    rfl

include known in
theorem watchEnd?_setCrew (k : Place) :
    (Controller.setCrew d crew c').watchEnd? k =
      if k = crew then c'.watched else d.watchEnd? k := by
  rw [watchEnd?, crews_setCrew known]
  by_cases same : k = crew
  · rw [if_pos same, if_pos same]
    rfl
  · rw [if_neg same, if_neg same]
    rfl

include known in
theorem working_of_known : d.working crew = c.working := by
  rw [working, known]
  rfl

include known in
theorem watchEnd?_of_known : d.watchEnd? crew = c.watched := by
  rw [watchEnd?, known]
  rfl

end SetCrew

end Daemon

/-! ### Operations that lead no crew -/

namespace Operation

/-- A turn of an operation that leads no crew: nothing is set going, and no crew feels it before
the end of one of its errands. A stop that is there afterwards was there before, and not for this
operation, or it is the one with which the operation goes on. -/
structure Serves (o : Operation) (d : Daemon) (out : Outcome) : Prop where
  role : ∀ o', out.1 = .next o' → o'.role? = o.role?
  engaged : ∀ k w, out.2.Engaged k w → d.Engaged k w
  canceled : ∀ t, d.isCanceled t = true → out.2.isCanceled t = true
  size : out.2.crews.size = d.crews.size
  working : ∀ k, out.2.working k = d.working k ∨
    (∃ r, out.1 = .done r) ∧ o.role? = some (.worker k) ∧ out.2.working k = d.working k - 1
  watchEnd : ∀ k, out.2.watchEnd? k = d.watchEnd? k ∨
    (∃ r, out.1 = .done r) ∧ o.role? = some (.watcher k)
  stops : ∀ task stop, out.2.stops.get? task = some stop →
    d.stops.get? task = some stop ∧ o.stop? ≠ some (task, stop) ∨
      out.1.holds Operation.stop? o = some (task, stop)

/-- An operation that is no part of any crew. -/
theorem Serves.of_lift {π ρ : Type} {operation : π → Operation} {answer : ρ → Result} {p : π}
    {d : Daemon} {out : Turn π ρ × Daemon} (role : ∀ p, (operation p).role? = none)
    (stop : (operation p).stop? = none) (detached : d.Detached out.2)
    (engaged : ∀ k w, out.2.Engaged k w → d.Engaged k w) :
    Serves (operation p) d (lift operation answer out) := by
  refine ⟨fun o' next => ?_, ?_, ?_, ?_, ?_, ?_, ?_⟩
  · obtain ⟨p', -, rfl, -⟩ := lift_next o' next
    rw [role, role]
  all_goals rw [lift_snd]
  · exact engaged
  · exact detached.canceled
  · rw [detached.crews]
  · exact fun k => .inl (by rw [Daemon.working, detached.crews]; rfl)
  · exact fun k => .inl (by rw [Daemon.watchEnd?, detached.crews]; rfl)
  · exact fun task stop' found => .inl ⟨detached.stops task stop' found, by rw [stop]; nofun⟩

end Operation

/-! ### Errands -/

/-- A worker counts itself out. -/
theorem Errand.leave_frame (crew : Place) (d : Daemon) :
    (∀ k w, (leave crew d).Engaged k w → d.Engaged k w) ∧
      (leave crew d).tokens = d.tokens ∧ (leave crew d).stops = d.stops ∧
      (leave crew d).crews.size = d.crews.size ∧
      (∀ k, (leave crew d).watchEnd? k = d.watchEnd? k) ∧
      ∀ k, (leave crew d).working k = if k = crew then d.working k - 1 else d.working k := by
  unfold leave
  split
  next none =>
    refine ⟨fun _ _ h => h, rfl, rfl, rfl, fun _ => rfl, fun k => ?_⟩
    split
    next same =>
      subst same
      rw [Daemon.working, none]
      rfl
    · rfl
  next c known =>
    have left : ∀ k, (Controller.setCrew d crew { c with working := c.working - 1 }).working k =
        if k = crew then d.working k - 1 else d.working k := by
      intro k
      rw [Daemon.working_setCrew known]
      split
      next same => rw [same, Daemon.working_of_known known]
      · rfl
    have ended : ∀ k, (Controller.setCrew d crew { c with working := c.working - 1 }).watchEnd? k =
        d.watchEnd? k := by
      intro k
      rw [Daemon.watchEnd?_setCrew known]
      split
      next same => rw [same, Daemon.watchEnd?_of_known known]
      · rfl
    simp only
    split
    · exact ⟨fun _ _ h => (Daemon.engaged_signal _ _).mp h, rfl, rfl, Array.size_setIfInBounds,
        ended, left⟩
    · exact ⟨fun _ _ h => h, rfl, rfl, Array.size_setIfInBounds, ended, left⟩

section Settled

variable {π ρ : Type} {crew : Place} {errand : π → Errand} {leave : ρ → Daemon → Daemon}

theorem Operation.settled_next (p : π) (d : Daemon) :
    settled crew errand leave (.next p, d) = (.next (.errand crew (errand p)), d) := rfl

theorem Operation.settled_wait (on : List Wait) (d : Daemon) :
    settled crew errand leave (.wait on, d) = (.wait on, d) := rfl

theorem Operation.settled_done (r : ρ) (d : Daemon) :
    settled crew errand leave (.done r, d) = (.done (.ok .done), leave r d) := rfl

end Settled

/-- An errand that works for its crew. -/
theorem Operation.Serves.of_worker {π ρ : Type} {crew : Place} {errand : π → Errand} {p : π}
    {d : Daemon} {out : Turn π ρ × Daemon} (role : ∀ p, (errand p).role crew = .worker crew)
    (crews : out.2.crews = d.crews)
    (canceled : ∀ t, d.isCanceled t = true → out.2.isCanceled t = true)
    (engaged : ∀ k w, out.2.Engaged k w → d.Engaged k w)
    (stops : ∀ task stop, out.2.stops.get? task = some stop →
      d.stops.get? task = some stop ∧ (errand p).stop? ≠ some (task, stop) ∨
        out.1.holds (fun p => (errand p).stop?) p = some (task, stop)) :
    Serves (.errand crew (errand p)) d
      (settled crew errand (fun _ => Errand.leave crew) out) := by
  have working : ∀ k, out.2.working k = d.working k := fun k => by
    rw [Daemon.working, crews]
    rfl
  have ended : ∀ k, out.2.watchEnd? k = d.watchEnd? k := fun k => by
    rw [Daemon.watchEnd?, crews]
    rfl
  obtain ⟨p' | on | r, d₁⟩ := out
  · rw [settled_next]
    refine ⟨fun o' next => ?_, engaged, canceled, congrArg Array.size crews,
      fun k => .inl (working k), fun k => .inl (ended k), stops⟩
    cases next
    exact congrArg some ((role p').trans (role p).symm)
  · rw [settled_wait]
    refine ⟨fun o' next => ?_, engaged, canceled, congrArg Array.size crews,
      fun k => .inl (working k), fun k => .inl (ended k), stops⟩
    cases next
  · rw [settled_done]
    obtain ⟨none, tokens, sameStops, size, sameEnd, left⟩ := Errand.leave_frame crew d₁
    refine ⟨fun o' next => ?_, fun k w h => engaged k w (none k w h), fun t before => ?_,
      size.trans (congrArg Array.size crews), fun k => ?_,
      fun k => .inl ((sameEnd k).trans (ended k)), fun task stop found => stops task stop ?_⟩
    · cases next
    · show (Errand.leave crew d₁).tokens.isCanceled t = true
      rw [tokens]
      exact canceled t before
    · by_cases mine : k = crew
      · refine .inr ⟨⟨_, rfl⟩, ?_, ?_⟩
        · rw [mine]
          exact congrArg some (role p)
        · rw [left, if_pos mine, working]
      · exact .inl (by rw [left, if_neg mine, working])
    · rw [sameStops] at found
      exact found

namespace Timer

theorem releaseStop_stops {d : Daemon} {task other : String} {stop s : Stop}
    (found : (d.releaseStop task stop).stops.get? other = some s) :
    d.stops.get? other = some s ∧ (task, stop) ≠ (other, s) := by
  unfold Daemon.releaseStop at found
  split at found
  · obtain ⟨apart, before⟩ := SortedMap.get?_of_erase found
    exact ⟨before, fun same => apart (Prod.mk.inj same).1.symm⟩
  next kept =>
    refine ⟨found, fun same => kept ?_⟩
    obtain ⟨rfl, rfl⟩ := Prod.mk.inj same
    rw [found]
    exact beq_self_eq_true stop.number

theorem registerStop_stops {d : Daemon} {task other : String} {s : Stop}
    (found : (d.registerStop task).2.stops.get? other = some s) :
    d.stops.get? other = some s ∨ (d.registerStop task).1 = some s ∧ other = task := by
  unfold Daemon.registerStop at found ⊢
  split at found
  next taken =>
    rw [if_pos taken]
    exact .inl found
  next free =>
    rw [if_neg free]
    rw [SortedMap.get?_put] at found
    split at found
    next same => exact .inr ⟨found, same⟩
    · exact .inl found

theorem registerStop_frame (d : Daemon) (task : String) :
    (d.registerStop task).2.crews = d.crews ∧
      (d.registerStop task).2.happenings = d.happenings ∧
      ∀ t, d.isCanceled t = true → (d.registerStop task).2.isCanceled t = true := by
  unfold Daemon.registerStop
  split
  · exact ⟨rfl, rfl, fun _ h => h⟩
  · exact ⟨rfl, rfl, fun _ h => Tokens.isCanceled_push h _⟩

/-- What a turn of a timer with this stop makes of the stops: its own goes, unless the timer goes on
with it, and so does one that it registers. -/
structure Keeps (task : String) (p : Phase) (d : Daemon) (out : Outcome) : Prop where
  crews : out.2.crews = d.crews
  canceled : ∀ t, d.isCanceled t = true → out.2.isCanceled t = true
  stops : ∀ other s, out.2.stops.get? other = some s →
    d.stops.get? other = some s ∧ some (task, p.stop) ≠ some (other, s) ∨
      out.1.holds (fun p => some (task, p.stop)) p = some (other, s)

theorem finish_keeps (token : Token) (task : String) (served : Option Place) (result : Result)
    {d d₁ : Daemon} (before : d.Detached d₁) (p : Phase) :
    Keeps task p d (finish token task p.stop served result d₁) := by
  have released := before.trans (.releaseStop d₁ task p.stop)
  have gone : ∀ other s, (d₁.releaseStop task p.stop).stops.get? other = some s →
      d.stops.get? other = some s ∧ some (task, p.stop) ≠ some (other, s) := by
    intro other s found
    obtain ⟨there, apart⟩ := releaseStop_stops found
    exact ⟨before.stops other s there, fun same => apart (Option.some.inj same)⟩
  have ended : ∀ r, Keeps task p d (.done r, d₁.releaseStop task p.stop) := fun r =>
    ⟨released.crews, released.canceled, fun other s found => .inl (gone other s found)⟩
  unfold finish
  simp only
  split
  · exact ended _
  split
  · exact ended _
  split
  · exact ended _
  · obtain ⟨crews, -, canceled⟩ := registerStop_frame (d₁.releaseStop task p.stop) task
    have register : ∀ other s,
        ((d₁.releaseStop task p.stop).registerStop task).2.stops.get? other = some s → _ :=
      fun other s => registerStop_stops
    split <;> rename_i eq <;> rw [eq] at crews canceled register
    · refine ⟨crews.trans released.crews, fun t h => canceled t (released.canceled t h),
        fun other s found => ?_⟩
      obtain there | ⟨none, -⟩ := register other s found
      · exact .inl (gone other s there)
      · cases none
    next stop d₂ =>
      refine ⟨crews.trans released.crews, fun t h => canceled t (released.canceled t h),
        fun other s found => ?_⟩
      obtain there | ⟨new, rfl⟩ := register other s found
      · exact .inl (gone other s there)
      · exact .inr (congrArg (fun s => some (other, s)) (Option.some.inj new))

/-- The timer has its stop still. -/
theorem Keeps.onward {task : String} {p p' : Phase} {d d₁ : Daemon} (before : d.Detached d₁)
    (stop : p'.stop = p.stop) : Keeps task p d (.next p', d₁) := by
  refine ⟨before.crews, before.canceled, fun other s found => ?_⟩
  by_cases mine : some (task, p.stop) = some (other, s)
  · exact .inr ((congrArg (fun s => some (task, s)) stop).trans mine)
  · exact .inl ⟨before.stops other s found, mine⟩

theorem Keeps.wait {task : String} {p : Phase} {d d₁ : Daemon} (before : d.Detached d₁)
    (on : List Wait) : Keeps task p d (.wait on, d₁) := by
  refine ⟨before.crews, before.canceled, fun other s found => ?_⟩
  by_cases mine : some (task, p.stop) = some (other, s)
  · exact .inr mine
  · exact .inl ⟨before.stops other s found, mine⟩

theorem wake_keeps (token : Token) (task : String) (stop : Stop) (served : Place)
    (s : Cron.Schedule) (due : Nat) (d : Daemon) :
    Keeps task (.sleeping stop served s due) d (wake token task stop served s d) := by
  unfold wake
  split
  · exact .onward (.refl d) rfl
  · exact finish_keeps token task _ _ (.refl d) (.sleeping stop served s due)

theorem wake_engaged (token : Token) (task : String) (stop : Stop) (served : Place)
    (s : Cron.Schedule) (d : Daemon) (k : Place) (w : Work)
    (h : (wake token task stop served s d).2.Engaged k w) : d.Engaged k w := by
  have gathers : ∀ result, Daemon.Gathers False d
      (finish token task stop (some served) result d).2 :=
    fun result => finish_gathers token task stop (some served) result d
  unfold wake at h
  split at h
  · exact h
  · exact (gathers _).engaged k w h

theorem turn_keeps (token : Token) (task : String) (p : Phase) (d : Daemon) :
    Keeps task p d (turn token task p d) := by
  cases p with
  | start stop served =>
      simp only [turn]
      split
      · exact finish_keeps token task _ _ (.refl d) (.start stop served)
      split
      · exact finish_keeps token task _ _ (.refl d) (.start stop served)
      · exact .onward (.refl d) rfl
  | planning stop served s =>
      simp only [turn]
      split
      · exact finish_keeps token task _ _ (.refl d) (.planning stop served s)
      · exact .onward (.refl d) rfl
  | sleeping stop served s due =>
      simp only [turn]
      split
      · exact finish_keeps token task _ _ (.refl d) (.sleeping stop served s due)
      split
      · exact wake_keeps token task stop served s due d
      · exact .wait (.refl d) _
  | running stop served s run =>
      have ran := Run.turn_detached token run d
      simp only [turn]
      split <;> rename_i eq <;> rw [eq] at ran
      · exact .onward ran rfl
      · exact .wait ran _
      · exact finish_keeps token task _ _ ran (.running stop served s run)
      · exact .onward ran rfl

end Timer

namespace Watch

/-- A crew feels nothing of its watch but what comes into its inbox. -/
structure Unfelt (d d' : Daemon) : Prop where
  engaged : ∀ k w, d'.Engaged k w → d.Engaged k w
  tokens : d'.tokens = d.tokens
  stops : d'.stops = d.stops
  size : d'.crews.size = d.crews.size
  working : ∀ k, d'.working k = d.working k
  watchEnd : ∀ k, d'.watchEnd? k = d.watchEnd? k

theorem Unfelt.of_same {d d' : Daemon} (happenings : d'.happenings = d.happenings)
    (tokens : d'.tokens = d.tokens) (stops : d'.stops = d.stops) (crews : d'.crews = d.crews) :
    Unfelt d d' where
  engaged k w h := by
    unfold Daemon.Engaged at h ⊢
    rw [← happenings]
    exact h
  tokens := tokens
  stops := stops
  size := congrArg Array.size crews
  working k := by rw [Daemon.working, crews]; rfl
  watchEnd k := by rw [Daemon.watchEnd?, crews]; rfl

theorem Unfelt.trans {d d' d'' : Daemon} (h : Unfelt d d') (h' : Unfelt d' d'') :
    Unfelt d d'' where
  engaged k w engaged := h.engaged k w (h'.engaged k w engaged)
  tokens := h'.tokens.trans h.tokens
  stops := h'.stops.trans h.stops
  size := h'.size.trans h.size
  working k := (h'.working k).trans (h.working k)
  watchEnd k := (h'.watchEnd k).trans (h.watchEnd k)

theorem Unfelt.inbox {d : Daemon} {crew : Place} {c : Crew} (known : d.crews[crew]? = some c)
    (inbox : Mailbox) (s : Signal) :
    Unfelt d ((Controller.setCrew d crew { c with inbox }).signal s) where
  engaged k w h := (Daemon.engaged_signal _ _).mp h
  tokens := rfl
  stops := rfl
  size := Array.size_setIfInBounds
  working k := by
    refine (Daemon.working_setCrew known _ k).trans ?_
    split
    next same => rw [same, Daemon.working_of_known known]
    · rfl
  watchEnd k := by
    refine (Daemon.watchEnd?_setCrew known _ k).trans ?_
    split
    next same => rw [same, Daemon.watchEnd?_of_known known]
    · rfl

theorem finish_unfelt (crew : Place) (result : Result) (d : Daemon) :
    Unfelt d (finish crew result d).2 := by
  unfold finish
  split
  · exact .of_same rfl rfl rfl rfl
  · exact .of_same rfl rfl rfl rfl

theorem turn_unfelt (crew : Place) (token : Token) (p : Phase) (d : Daemon) :
    Unfelt d (turn crew token p d).2 := by
  cases p with
  | start =>
      simp only [turn]
      split
      · exact .of_same rfl rfl rfl rfl
      · exact .of_same rfl rfl rfl rfl
  | watching due =>
      simp only [turn]
      split
      · exact finish_unfelt crew _ d
      split
      · exact finish_unfelt crew _ d
      · unfold forward
        split
        next template rest c _ _ known =>
          split
          · exact .of_same rfl rfl rfl rfl
          next inbox _ =>
            let taken : Daemon := { d with triggers := { d.triggers with items := rest } }
            have same : Unfelt d taken := .of_same rfl rfl rfl rfl
            exact same.trans (.inbox (d := taken) known inbox (.inboxArrived crew))
        · exact .of_same rfl rfl rfl rfl

end Watch

theorem Errand.leaveWatch_frame (crew : Place) (result : Watch.Result) (d : Daemon) :
    (∀ k w, (leaveWatch crew result d).Engaged k w → d.Engaged k w) ∧
      (leaveWatch crew result d).tokens = d.tokens ∧ (leaveWatch crew result d).stops = d.stops ∧
      (leaveWatch crew result d).crews.size = d.crews.size ∧
      (∀ k, (leaveWatch crew result d).working k = d.working k) ∧
      ∀ k, k ≠ crew → (leaveWatch crew result d).watchEnd? k = d.watchEnd? k := by
  unfold leaveWatch
  split
  · exact ⟨fun _ _ h => h, rfl, rfl, rfl, fun _ => rfl, fun _ _ => rfl⟩
  next c known =>
    refine ⟨fun _ _ h => (Daemon.engaged_signal _ _).mp h, rfl, rfl, Array.size_setIfInBounds,
      fun k => ?_, fun k apart => ?_⟩
    · refine (Daemon.working_setCrew known { c with watched := some result } k).trans ?_
      split
      next same => rw [same, Daemon.working_of_known known]
      · rfl
    · exact (Daemon.watchEnd?_setCrew known { c with watched := some result } k).trans
        (if_neg apart)

namespace Operation

theorem Serves.of_watch {crew : Place} {phase : Watch.Phase} {d : Daemon}
    {out : Turn Watch.Phase Watch.Result × Daemon} (unfelt : Watch.Unfelt d out.2) :
    Serves (.errand crew (.watch phase)) d
      (settled crew .watch (Errand.leaveWatch crew) out) := by
  have canceled : ∀ t, d.isCanceled t = true → out.2.isCanceled t = true := fun t before => by
    rw [Daemon.isCanceled, unfelt.tokens]
    exact before
  have stops : ∀ task stop, out.2.stops.get? task = some stop → d.stops.get? task = some stop :=
    fun task stop found => by
      rw [unfelt.stops] at found
      exact found
  obtain ⟨p' | on | r, d₁⟩ := out
  · rw [settled_next]
    refine ⟨fun o' next => ?_, unfelt.engaged, canceled, unfelt.size,
      fun k => .inl (unfelt.working k), fun k => .inl (unfelt.watchEnd k),
      fun task stop found => .inl ⟨stops task stop found, fun same => ?_⟩⟩
    · cases next
      rfl
    · cases same
  · rw [settled_wait]
    refine ⟨fun o' next => ?_, unfelt.engaged, canceled, unfelt.size,
      fun k => .inl (unfelt.working k), fun k => .inl (unfelt.watchEnd k),
      fun task stop found => .inl ⟨stops task stop found, fun same => ?_⟩⟩
    · cases next
    · cases same
  · rw [settled_done]
    obtain ⟨none, tokens, sameStops, size, working, others⟩ := Errand.leaveWatch_frame crew r d₁
    refine ⟨fun o' next => ?_, fun k w h => unfelt.engaged k w (none k w h), fun t before => ?_,
      size.trans unfelt.size, fun k => .inl ((working k).trans (unfelt.working k)), fun k => ?_,
      fun task stop found => .inl ⟨stops task stop ?_, fun same => ?_⟩⟩
    · cases next
    · show (Errand.leaveWatch crew r d₁).tokens.isCanceled t = true
      rw [tokens]
      exact canceled t before
    · by_cases mine : k = crew
      · exact .inr ⟨⟨_, rfl⟩, by rw [mine]; rfl⟩
      · exact .inl ((others k mine).trans (unfelt.watchEnd k))
    · rw [sameStops] at found
      exact found
    · cases same

/-- Whatever an operation that leads no crew may do. -/
theorem May.serves {o : Operation} {d : Daemon} {out : Outcome} (may : o.May d out)
    (follows : ∀ token p, o ≠ .control token p) : Serves o d out := by
  cases may with
  | @heed _ _ token heeds =>
      cases o with
      | create own goal phase =>
          exact .of_lift (fun _ => rfl) rfl (Creation.turn_detached token goal phase d)
            (Creation.turn_gathers token goal phase d).engaged
      | update phase =>
          exact .of_lift (fun _ => rfl) rfl (Update.turn_detached phase d)
            (Update.turn_gathers phase d).engaged
      | run own phase =>
          exact .of_lift (fun _ => rfl) rfl (Run.turn_detached token phase d)
            (Run.turn_gathers token phase d).engaged
      | delete own phase =>
          have gathers : Daemon.Gathers False d (Deletion.turn token phase d).2 :=
            Deletion.turn_gathers token phase d
          exact .of_lift (fun _ => rfl) rfl (Deletion.turn_detached token phase d) gathers.engaged
      | control own phase => exact absurd rfl (follows own phase)
      | errand crew e =>
          cases e with
          | watch phase => exact .of_watch (Watch.turn_unfelt crew _ phase d)
          | timer task phase =>
              have keeps := Timer.turn_keeps token task phase d
              exact .of_worker (fun _ => rfl) keeps.crews keeps.canceled
                (Timer.turn_gathers _ task phase d).engaged keeps.stops
          | run phase =>
              have detached := Run.turn_detached token phase d
              exact .of_worker (fun _ => rfl) detached.crews detached.canceled
                (Run.turn_gathers _ phase d).engaged
                fun task stop found =>
                  .inl ⟨detached.stops task stop found, fun same => by cases same⟩
          | delete phase =>
              have detached := Deletion.turn_detached token phase d
              have gathers : Daemon.Gathers False d
                  (Deletion.turn token phase d).2 :=
                Deletion.turn_gathers _ phase d
              exact .of_worker (fun _ => rfl) detached.crews detached.canceled gathers.engaged
                fun task stop found =>
                  .inl ⟨detached.stops task stop found, fun same => by cases same⟩
  | deal known ready => exact absurd rfl (follows _ _)
  | @fire crew task stop served s due _ passed =>
      have keeps := Timer.wake_keeps (Errand.crewToken d crew) task stop served s due d
      exact .of_worker (fun _ => rfl) keeps.crews keeps.canceled
        (Timer.wake_engaged _ task stop served s d) keeps.stops
  | @watchEnds crew phase _ result => exact .of_watch (Watch.finish_unfelt crew result d)
  | @watchSends crew phase c inbox _ template known room =>
      have sent : Watch.Unfelt d
          ((Controller.setCrew d crew { c with inbox }).signal (.inboxArrived crew)) :=
        .inbox known inbox _
      show Serves _ d (settled crew .watch (Errand.leaveWatch crew) (.next phase, _))
      exact .of_watch sent

end Operation

end TaskSync
