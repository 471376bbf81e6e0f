import TaskSync.Proofs.Operation.Staff

/-!
# What a controller makes of its crew

Whatever a controller sets going, it sets going for its own crew and counts. A stop that it
registers is that of a timer which it sets going in the same turn.
-/

namespace TaskSync

namespace Daemon

/-- Nothing is set going. -/
def Still (d : Daemon) : Prop := ∀ k w, ¬ d.Engaged k w

theorem Still.countP {d : Daemon} (h : d.Still) (r : Role) :
    d.happenings.countP (Happening.brings r) = 0 := by
  refine List.countP_eq_zero.mpr fun x there brings => ?_
  cases x with
  | signal s => cases brings
  | work k w => exact h k w there

/-- Work is set going for one crew, and counted there. -/
structure Enlists (crew : Place) (d d' : Daemon) : Prop where
  size : d'.crews.size = d.crews.size
  watchEnd : ∀ k, d'.watchEnd? k = d.watchEnd? k
  canceled : ∀ t, d.isCanceled t = true → d'.isCanceled t = true
  stops : ∀ task stop, d'.stops.get? task = some stop →
    d.stops.get? task = some stop ∨ d'.Engaged crew (.timer task stop)
  news : ∃ news, d'.happenings = news ++ d.happenings ∧
    (∀ k w, .work k w ∈ news → k = crew ∧ w ≠ .watch) ∧
    ∀ k, d'.working k = d.working k + news.countP (Happening.brings (.worker k))

namespace Enlists

variable {crew : Place} {d d' d'' : Daemon}

theorem kept (h : Enlists crew d d') {k : Place} {w : Work} (engaged : d.Engaged k w) :
    d'.Engaged k w := by
  obtain ⟨news, happenings, -, -⟩ := h.news
  unfold Engaged at engaged ⊢
  rw [happenings]
  exact List.mem_append_right _ engaged

theorem trans (h : Enlists crew d d') (h' : Enlists crew d' d'') : Enlists crew d d'' := by
  obtain ⟨news, happenings, mine, working⟩ := h.news
  obtain ⟨news', happenings', mine', working'⟩ := h'.news
  refine ⟨h'.size.trans h.size, fun k => (h'.watchEnd k).trans (h.watchEnd k),
    fun t before => h'.canceled t (h.canceled t before), fun task stop found => ?_,
    news' ++ news, ?_, fun k w here => ?_, fun k => ?_⟩
  · obtain before | engaged := h'.stops task stop found
    · exact (h.stops task stop before).imp_right h'.kept
    · exact .inr engaged
  · rw [happenings', happenings, List.append_assoc]
  · exact (List.mem_append.mp here).elim (mine' k w) (mine k w)
  · rw [working', working, List.countP_append]
    omega

/-- Nothing but signals. -/
theorem of_signals (crews : d'.crews = d.crews)
    (canceled : ∀ t, d.isCanceled t = true → d'.isCanceled t = true)
    (stops : ∀ task stop, d'.stops.get? task = some stop → d.stops.get? task = some stop)
    (happenings : ∃ signals : List Signal, d'.happenings = signals.map .signal ++ d.happenings) :
    Enlists crew d d' := by
  obtain ⟨signals, happenings⟩ := happenings
  refine ⟨congrArg Array.size crews, fun k => by rw [watchEnd?, crews]; rfl, canceled,
    fun task stop found => .inl (stops task stop found), _, happenings, fun k w here => ?_,
    fun k => ?_⟩
  · obtain ⟨s, -, same⟩ := List.mem_map.mp here
    cases same
  · have none : (signals.map Happening.signal).countP (Happening.brings (.worker k)) = 0 := by
      refine List.countP_eq_zero.mpr fun x here => ?_
      obtain ⟨s, -, rfl⟩ := List.mem_map.mp here
      exact Bool.false_ne_true
    rw [none, working, crews]
    rfl

theorem refl (d : Daemon) : Enlists crew d d :=
  .of_signals rfl (fun _ h => h) (fun _ _ h => h) ⟨[], rfl⟩

theorem cancel (d : Daemon) (t : Token) : Enlists crew d (d.cancel t) := by
  have signals : ∀ (us : List Token) (d : Daemon), ∃ signals : List Signal,
      (us.foldl (fun d u => d.signal (.canceled u)) d).happenings =
        signals.map .signal ++ d.happenings := by
    intro us
    induction us with
    | nil => exact fun d => ⟨[], rfl⟩
    | cons u us ih =>
        intro d
        obtain ⟨signals, h⟩ := ih (d.signal (.canceled u))
        refine ⟨signals ++ [.canceled u], h.trans ?_⟩
        rw [List.map_append, List.append_assoc]
        rfl
  have detached := Detached.cancel d t
  exact .of_signals detached.crews detached.canceled detached.stops
    (signals _ { d with tokens := (d.tokens.cancel t).2 })

theorem stopTimers (d : Daemon) : Enlists crew d d.stopTimers := by
  have cancels : ∀ (entries : SortedMap Stop) (d : Daemon),
      Enlists crew d (entries.foldl (fun d entry => d.cancel entry.2.token) d) := by
    intro entries
    induction entries with
    | nil => exact fun d => .refl d
    | cons entry entries ih => exact fun d => (cancel d entry.2.token).trans (ih _)
  refine .trans ?_ (cancels d.stops _)
  exact .of_signals rfl (fun _ h => h) nofun ⟨[], rfl⟩

theorem engage (inside : crew < d.crews.size) {w : Work} (work : w ≠ .watch) :
    Enlists crew d (Controller.engage crew w d) := by
  have known : d.crews[crew]? = some d.crews[crew] := Array.getElem?_eq_getElem inside
  have role : (Errand.ofWork w).role crew = .worker crew := by
    cases w with
    | watch => exact absurd rfl work
    | timer | run | delete => rfl
  unfold Controller.engage
  rw [known]
  refine ⟨Array.size_setIfInBounds, fun k => ?_, fun _ h => h, fun _ _ h => .inl h,
    [.work crew w], rfl, fun k w' here => ?_, fun k => ?_⟩
  · refine (watchEnd?_setCrew known _ k).trans ?_
    split
    next same => rw [same, watchEnd?_of_known known]
    · rfl
  · cases List.mem_singleton.mp here
    exact ⟨rfl, work⟩
  · refine (working_setCrew known _ k).trans ?_
    split
    next same => rw [same, working_of_known known, List.countP_singleton,
      if_pos (Happening.brings_work.mpr role)]
    next apart =>
      have other : (Errand.ofWork w).role crew ≠ .worker k := fun same =>
        apart (Role.worker.inj (role.symm.trans same)).symm
      rw [List.countP_singleton, if_neg fun brings => other (Happening.brings_work.mp brings)]
      rfl

theorem engaged_engage (inside : crew < d.crews.size) (w : Work) :
    (Controller.engage crew w d).Engaged crew w := by
  have known : d.crews[crew]? = some d.crews[crew] := Array.getElem?_eq_getElem inside
  unfold Controller.engage
  rw [known]
  exact List.mem_cons_self

theorem startTimer (inside : crew < d.crews.size) (task : String) :
    Enlists crew d (Controller.startTimer crew task d) := by
  obtain ⟨crews, happenings, canceled⟩ := Timer.registerStop_frame d task
  have register : ∀ other s, (d.registerStop task).2.stops.get? other = some s → _ :=
    fun other s => Timer.registerStop_stops
  unfold Controller.startTimer
  split <;> rename_i eq <;> rw [eq] at crews happenings canceled register
  · refine .of_signals crews canceled (fun other s found => ?_) ⟨[], happenings⟩
    obtain before | ⟨none, -⟩ := register other s found
    · exact before
    · cases none
  next stop d₁ =>
    -- the new stop is the timer's
    have inside₁ : crew < d₁.crews.size := by
      rw [crews]
      exact inside
    have enlists : Enlists crew d₁ (Controller.engage crew (.timer task stop) d₁) :=
      engage inside₁ (fun same => by cases same)
    have engaged := engaged_engage inside₁ (.timer task stop)
    obtain ⟨news, happened, mine, working⟩ := enlists.news
    refine ⟨enlists.size.trans (congrArg Array.size crews), fun k => ?_,
      fun t before => enlists.canceled t (canceled t before), fun other s found => ?_,
      news, happened.trans (by rw [happenings]), mine, fun k => ?_⟩
    · rw [enlists.watchEnd, watchEnd?, crews]
      rfl
    · obtain before | engaged' := enlists.stops other s found
      · obtain before | ⟨new, rfl⟩ := register other s before
        · exact .inl before
        · cases new
          exact .inr engaged
      · exact .inr engaged'
    · rw [working, Daemon.working, crews]
      rfl

theorem startTimers (inside : crew < d.crews.size) (tasks : List String) :
    Enlists crew d (tasks.foldl (fun d task => Controller.startTimer crew task d) d) := by
  induction tasks generalizing d with
  | nil => exact .refl d
  | cons task tasks ih =>
      have first : Enlists crew d (Controller.startTimer crew task d) := .startTimer inside task
      exact first.trans (ih (first.size ▸ inside))

theorem trigger (inside : crew < d.crews.size) (template : String) :
    Enlists crew d (Controller.trigger crew template d) := by
  unfold Controller.trigger
  split
  · exact .refl d
  · exact engage inside (fun same => by cases same)

theorem inbox {c : Crew} (known : d.crews[crew]? = some c) (inbox : Mailbox) (s : Signal) :
    Enlists crew d ((Controller.setCrew d crew { c with inbox }).signal s) := by
  have unfelt := Watch.Unfelt.inbox known inbox s
  refine ⟨unfelt.size, unfelt.watchEnd, fun _ h => h, fun _ _ h => .inl h, [.signal s], rfl,
    fun k w here => ?_, fun k => unfelt.working k⟩
  cases List.mem_singleton.mp here

theorem stop (crew k : Place) (watching : Bool) (e : Failure) (d : Daemon) :
    Enlists k d (Controller.stop crew watching e d).2 := by
  unfold Controller.stop
  simp only
  split
  next c _ => exact (cancel d c.token).trans (stopTimers _)
  · exact stopTimers d

end Enlists

end Daemon

namespace Controller

open Daemon (Enlists)

/-- Whatever the controller deals with. -/
theorem Arm.deal_enlists {crew : Place} {c : Crew} {d : Daemon} (known : d.crews[crew]? = some c)
    (watching : Bool) (rounds : Nat) (arm : Arm) :
    Enlists crew d (arm.deal crew c watching rounds d).2 := by
  have inside : crew < d.crews.size := (Array.getElem?_eq_some_iff.mp known).1
  cases arm with
  | canceled => exact .stop crew crew watching _ d
  | triggered template =>
      have taken : Enlists crew d
          ((setCrew d crew { c with inbox := c.inbox.tail }).signal (.inboxFreed crew)) :=
        .inbox known _ _
      refine taken.trans (.trigger ?_ template)
      exact taken.size ▸ inside
  | announced task =>
      have left : Enlists crew d { d with created := d.created.tail } :=
        .of_signals rfl (fun _ h => h) (fun _ _ h => h) ⟨[], rfl⟩
      have inside' : crew < ({ d with created := d.created.tail } : Daemon).crews.size := inside
      exact left.trans (.startTimer inside' task)
  | requested task =>
      have left : Enlists crew d { d with deletes := d.deletes.tail } :=
        .of_signals rfl (fun _ h => h) (fun _ _ h => h) ⟨[], rfl⟩
      have inside' : crew < ({ d with deletes := d.deletes.tail } : Daemon).crews.size := inside
      exact left.trans (.engage inside' fun same => by cases same)
  | watchOver => exact .refl d
  | watchFailed e => exact .stop crew crew false _ d

/-! ### What a controller goes by -/

/-- What makes a controller end with this failure has happened. -/
def Justified (token : Token) (crew : Place) (d : Daemon) (e : Failure) : Prop :=
  e = .canceled ∧ d.isCanceled token = true ∨
    ∃ err, e = .watcher err ∧ d.watchEnd? crew = some (.error err)

/-- What holds in a phase, whatever others do. -/
def Phase.Heeds (token : Token) (d : Daemon) : Phase → Prop
  | .start | .lockingCreated _ | .lockingDeletes _ => True
  | .looping crew watching _ => watching = false → (d.watchEnd? crew).isSome = true
  | .draining crew watching e =>
    (watching = false → (d.watchEnd? crew).isSome = true) ∧ Justified token crew d e
  | .joining crew e => d.working crew = 0 ∧ Justified token crew d e

/-- When a controller ends with this failure. -/
structure Over (token : Token) (crew : Place) (d : Daemon) (e : Failure) : Prop where
  working : d.working crew = 0
  watched : (d.watchEnd? crew).isSome = true
  justified : Justified token crew d e

section Mono

variable {token : Token} {d d' : Daemon}

theorem Justified.mono {crew : Place} {e : Failure} (h : Justified token crew d e)
    (canceled : d.isCanceled token = true → d'.isCanceled token = true)
    (ended : ∀ x, d.watchEnd? crew = some x → d'.watchEnd? crew = some x) :
    Justified token crew d' e :=
  h.imp (fun ⟨same, before⟩ => ⟨same, canceled before⟩)
    fun ⟨err, same, before⟩ => ⟨err, same, ended _ before⟩

/-- Cancellation and the end of a watch are for good, and so is the end of the work if no more is
set going. -/
theorem Phase.Heeds.mono {p : Phase} (h : p.Heeds token d)
    (canceled : d.isCanceled token = true → d'.isCanceled token = true)
    (ended : ∀ crew x, p.crew? = some crew → d.watchEnd? crew = some x →
      d'.watchEnd? crew = some x)
    (idle : ∀ crew, p.crew? = some crew → d.working crew = 0 → d'.working crew = 0) :
    p.Heeds token d' := by
  have finished : ∀ crew, p.crew? = some crew → (d.watchEnd? crew).isSome = true →
      (d'.watchEnd? crew).isSome = true := by
    intro crew mine some
    obtain ⟨x, found⟩ := Option.isSome_iff_exists.mp some
    rw [ended crew x mine found]
    rfl
  cases p with
  | start | lockingCreated | lockingDeletes => trivial
  | looping crew watching rounds => exact fun off => finished crew rfl (h off)
  | draining crew watching e =>
      exact ⟨fun off => finished crew rfl (h.1 off), h.2.mono canceled fun x => ended crew x rfl⟩
  | joining crew e =>
      exact ⟨idle crew rfl h.1, h.2.mono canceled fun x => ended crew x rfl⟩

/-- Of a controller without a crew, nothing is said. -/
theorem Phase.Heeds.of_idle {p : Phase} (lead : p.crew? = none) : p.Heeds token d := by
  cases p with
  | start => trivial
  | lockingCreated | lockingDeletes | looping | draining | joining => cases lead

end Mono

/-! ### Turns -/

/-- A turn of a controller that begins with nothing set going: what it sets going is counted, all
for the crew that it leads afterwards, and the watch is part of it in the first turn only. -/
structure Conducts (token : Token) (p : Phase) (crew : Place) (d : Daemon) (out : Outcome) :
    Prop where
  inside : crew < out.2.crews.size
  size : d.crews.size ≤ out.2.crews.size
  watchEnd : ∀ k, out.2.watchEnd? k = d.watchEnd? k
  canceled : ∀ t, d.isCanceled t = true → out.2.isCanceled t = true
  stops : ∀ task stop, out.2.stops.get? task = some stop →
    d.stops.get? task = some stop ∨ out.2.Engaged crew (.timer task stop)
  mine : ∀ k w, out.2.Engaged k w → k = crew
  working : ∀ k,
    out.2.working k = d.working k + out.2.happenings.countP (Happening.brings (.worker k))
  watch :
    out.2.happenings.countP (Happening.brings (.watcher crew)) = if p.crew? = none then 1 else 0
  goes : out.1.Meets (·.crew? = some crew) p fun _ => p.crew? = some crew
  heeds : p.Heeds token d → out.1.Meets (·.Heeds token out.2) p (Over token crew out.2)

section Turns

variable {token : Token} {p : Phase} {crew : Place} {d : Daemon} {out : Outcome}

theorem countP_watcher {news : List Happening} (work : ∀ k w, .work k w ∈ news → w ≠ .watch)
    (k : Place) : news.countP (Happening.brings (.watcher k)) = 0 := by
  refine List.countP_eq_zero.mpr fun x new brings => ?_
  cases x with
  | signal s => cases brings
  | work k w =>
      cases w with
      | watch => exact work k _ new rfl
      | timer | run | delete => cases Happening.brings_work.mp brings

/-- A controller that has its crew already. -/
theorem Conducts.of_enlists (still : d.Still) (inside : crew < d.crews.size)
    (lead : p.crew? = some crew) (enlists : Enlists crew d out.2)
    (goes : out.1.Meets (·.crew? = some crew) p fun _ => p.crew? = some crew)
    (heeds : p.Heeds token d → out.1.Meets (·.Heeds token out.2) p (Over token crew out.2)) :
    Conducts token p crew d out := by
  obtain ⟨news, happenings, mine, working⟩ := enlists.news
  have count : ∀ r, out.2.happenings.countP (Happening.brings r) =
      news.countP (Happening.brings r) := fun r => by
    rw [happenings, List.countP_append, still.countP]
    rfl
  refine ⟨enlists.size ▸ inside, Nat.le_of_eq enlists.size.symm, enlists.watchEnd,
    enlists.canceled, enlists.stops, fun k w engaged => ?_, fun k => ?_, ?_, goes, heeds⟩
  · unfold Daemon.Engaged at engaged
    rw [happenings] at engaged
    exact (List.mem_append.mp engaged).elim (fun new => (mine k w new).1)
      fun old => absurd old (still k w)
  · rw [count]
    exact working k
  · have led : ¬ p.crew? = none := fun none => by cases lead.symm.trans none
    rw [count, if_neg led, countP_watcher fun k w new => (mine k w new).2]

theorem Conducts.of_wait (still : d.Still) (inside : crew < d.crews.size)
    (lead : p.crew? = some crew) (on : List Wait) : Conducts token p crew d (.wait on, d) :=
  .of_enlists still inside lead (.refl d) lead fun heeds => heeds

theorem Arm.deal_conducts (still : d.Still) {c : Crew} (known : d.crews[crew]? = some c)
    {watching : Bool} {rounds : Nat} {arm : Arm} (ready : arm.Ready token c watching d) :
    Conducts token (.looping crew watching rounds) crew d (arm.deal crew c watching rounds d) := by
  have inside : crew < d.crews.size := (Array.getElem?_eq_some_iff.mp known).1
  have enlists := arm.deal_enlists known watching rounds
  have ended : d.watchEnd? crew = c.watched := Daemon.watchEnd?_of_known known
  refine .of_enlists still inside rfl enlists ?_ fun heeds => ?_
  · cases arm <;> rfl
  have finished : watching = false →
      ((arm.deal crew c watching rounds d).2.watchEnd? crew).isSome = true := fun off => by
    rw [enlists.watchEnd]
    exact heeds off
  cases arm with
  | canceled => exact ⟨finished, .inl ⟨rfl, enlists.canceled token ready⟩⟩
  | triggered | announced | requested => exact finished
  | watchOver =>
      intro
      show (d.watchEnd? crew).isSome = true
      rw [ended, ready.2]
      rfl
  | watchFailed e =>
      have failed : ((Arm.watchFailed e).deal crew c watching rounds d).2.watchEnd? crew =
          some (.error e) := by
        rw [enlists.watchEnd, ended, ready.2]
      refine ⟨fun _ => ?_, .inr ⟨e, rfl, failed⟩⟩
      rw [failed]
      rfl

/-- The queues are given free when all is over. -/
theorem finish_conducts (still : d.Still) (inside : crew < d.crews.size)
    (lead : p.crew? = some crew) (e : Failure) (finished : p.Heeds token d → Over token crew d e) :
    Conducts token p crew d (finish e d) := by
  have enlists : Enlists crew d (finish e d).2 :=
    .of_signals rfl (fun _ h => h) (fun _ _ h => h) ⟨[.createdFreed, .deletesFreed], rfl⟩
  refine .of_enlists still inside lead enlists lead fun heeds => ?_
  obtain ⟨working, watched, justified⟩ := finished heeds
  exact ⟨working, watched, justified⟩

/-- A controller's first turn. -/
theorem begin_conducts (token : Token) (still : d.Still) :
    Conducts token .start d.crews.size d (begin token d) := by
  let opened : Daemon := { d with
    tokens := (d.tokens.child token).2
    crews := d.crews.push ⟨(d.tokens.child token).1, .empty inboxCapacity, 0, none⟩
    happenings := .work d.crews.size .watch :: d.happenings }
  let names := opened.registry.namesWhere fun b => (opened.taskOf b).isScheduled
  have inside : d.crews.size < opened.crews.size := by
    show _ < (d.crews.push _).size
    rw [Array.size_push]
    exact Nat.lt_succ_self _
  have enlists : Enlists d.crews.size opened
      (names.foldl (fun d' task => startTimer d.crews.size task d') opened) :=
    .startTimers inside names
  have crews : ∀ k, opened.crews[k]? = if k = d.crews.size then
      some ⟨(d.tokens.child token).1, .empty inboxCapacity, 0, none⟩ else d.crews[k]? := fun k =>
    Array.getElem?_push
  have outside : d.crews[d.crews.size]? = none := Array.getElem?_size
  have ended : ∀ k, opened.watchEnd? k = d.watchEnd? k := by
    intro k
    rw [Daemon.watchEnd?, crews]
    split
    next new => rw [new, Daemon.watchEnd?, outside]; rfl
    · rfl
  have idle : ∀ k, opened.working k = d.working k := by
    intro k
    rw [Daemon.working, crews]
    split
    next new => rw [new, Daemon.working, outside]; rfl
    · rfl
  obtain ⟨news, happenings, mine, working⟩ := enlists.news
  have count : ∀ r, (begin token d).2.happenings.countP (Happening.brings r) =
      news.countP (Happening.brings r) + if Role.watcher d.crews.size = r then 1 else 0 := by
    intro r
    show List.countP _ (List.foldl _ opened names).happenings = _
    rw [happenings, List.countP_append, List.countP_cons, still.countP, Nat.zero_add]
    simp only [Happening.brings_work]
    rfl
  refine ⟨enlists.size ▸ inside, ?_, fun k => (enlists.watchEnd k).trans (ended k),
    fun t before => enlists.canceled t (Tokens.isCanceled_push before _), enlists.stops,
    fun k w engaged => ?_, fun k => ?_, ?_, rfl, fun _ => trivial⟩
  · exact Nat.le_of_lt (enlists.size ▸ inside)
  · have there : .work k w ∈ news ++ opened.happenings := happenings ▸ engaged
    obtain new | first | old := List.mem_append.mp there |>.imp_right List.mem_cons.mp
    · exact (mine k w new).1
    · cases first
      rfl
    · exact absurd old (still k w)
  · rw [count, if_neg (fun same => by cases same)]
    exact (working k).trans (by rw [idle, Nat.add_zero])
  · rw [count, countP_watcher fun k w new => (mine k w new).2, if_pos rfl]
    rfl

/-- Every turn of a controller, in the fixed order. -/
theorem turn_conducts (token : Token) (still : d.Still)
    (known : ∀ crew, p.crew? = some crew → crew < d.crews.size) :
    Conducts token p (p.crew?.getD d.crews.size) d (turn token p d) := by
  cases p with
  | start => exact begin_conducts token still
  | lockingCreated crew =>
      have inside := known crew rfl
      simp only [turn]
      split
      · exact .of_wait still inside rfl _
      · exact .of_enlists still inside rfl
          (.of_signals rfl (fun _ h => h) (fun _ _ h => h) ⟨[], rfl⟩) rfl fun _ => trivial
  | lockingDeletes crew =>
      have inside := known crew rfl
      simp only [turn]
      split
      · exact .of_wait still inside rfl _
      · exact .of_enlists still inside rfl
          (.of_signals rfl (fun _ h => h) (fun _ _ h => h) ⟨[], rfl⟩) rfl fun _ off => by cases off
  | looping crew watching rounds =>
      have inside := known crew rfl
      have there : d.crews[crew]? = some d.crews[crew] := Array.getElem?_eq_getElem inside
      simp only [turn, there]
      obtain ⟨arm, ready, same⟩ | ⟨⟨on, same⟩, -⟩ :=
        round_cases token crew d.crews[crew] watching rounds d
      · rw [same]
        exact arm.deal_conducts still there ready
      · rw [same]
        exact .of_wait still inside rfl _
  | draining crew watching e =>
      have inside := known crew rfl
      have there : d.crews[crew]? = some d.crews[crew] := Array.getElem?_eq_getElem inside
      simp only [turn]
      rw [there]
      split
      next idle =>
        have working : d.working crew = 0 := by
          rw [Daemon.working_of_known there]
          exact eq_of_beq idle
        split
        · exact .of_enlists still inside rfl (.refl d) rfl fun heeds => ⟨working, heeds.2⟩
        next off =>
          exact finish_conducts still inside rfl e fun heeds =>
            ⟨working, heeds.1 (Bool.eq_false_iff.mpr off), heeds.2⟩
      · exact .of_wait still inside rfl _
  | joining crew e =>
      have inside := known crew rfl
      have there : d.crews[crew]? = some d.crews[crew] := Array.getElem?_eq_getElem inside
      simp only [turn]
      rw [there]
      split
      next ended =>
        have watched : (d.watchEnd? crew).isSome = true := by
          rw [Daemon.watchEnd?_of_known there]
          exact ended
        exact finish_conducts still inside rfl e fun heeds => ⟨heeds.1, watched, heeds.2⟩
      · exact .of_wait still inside rfl _

end Turns

end Controller

/-- Every turn that a controller may take. -/
theorem Operation.May.conducts {token : Token} {p : Controller.Phase} {d : Daemon} {out : Outcome}
    (may : (Operation.control token p).May d out) (still : d.Still)
    (known : ∀ crew, p.crew? = some crew → crew < d.crews.size) :
    ∃ out', out = lift (control token) .error out' ∧
      Controller.Conducts token p (p.crew?.getD d.crews.size) d out' := by
  cases may with
  | heed heeds =>
      obtain rfl := heeds.of_control
      exact ⟨_, rfl, Controller.turn_conducts _ still known⟩
  | deal there ready => exact ⟨_, rfl, Controller.Arm.deal_conducts still there ready⟩

end TaskSync
