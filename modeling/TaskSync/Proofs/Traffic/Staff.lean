import TaskSync.Proofs.Operation.Lead
import TaskSync.Proofs.Traffic.Choice
import TaskSync.Proofs.Traffic.Requests

/-!
# Crews in traffic

How many calls under way have a role for a crew. A turn takes the role of its call away or leaves
it, and adds those of what it sets going, so all about crews follows from one equation between
numbers: workers are no more than their crew counts, a controller and its watch are alone with their
crew, and whoever is in a crew has its controller there still.
-/

namespace TaskSync

/-- A call under way that has this role. -/
def Call.has (r : Role) : Call → Bool
  | going o => decide (o.role? = some r)
  | ended _ => false

theorem Call.has_going {r : Role} {o : Operation} : (going o).has r = true ↔ o.role? = some r :=
  decide_eq_true_iff

namespace Traffic

def staff (t : Traffic) (r : Role) : Nat := t.calls.countP (Call.has r)

theorem staff_pos {t : Traffic} {r : Role} :
    0 < t.staff r ↔ ∃ j o, t.going? j = some o ∧ o.role? = some r := by
  refine List.countP_pos_iff.trans ⟨fun ⟨x, there, has⟩ => ?_, fun ⟨j, o, going, role⟩ => ?_⟩
  · cases x with
    | going o =>
        obtain ⟨j, found⟩ := List.getElem?_of_mem there
        exact ⟨j, o, going?_eq_some.mpr found, Call.has_going.mp has⟩
    | ended r => cases has
  · exact ⟨_, List.mem_of_getElem? (going?_eq_some.mp going), Call.has_going.mpr role⟩

/-- Of a role that is there once, the bearer is known. -/
theorem staff_sole {t : Traffic} {r : Role} (once : t.staff r ≤ 1) {i j : Nat} {o o' : Operation}
    (hi : t.going? i = some o) (mine : o.role? = some r) (hj : t.going? j = some o')
    (yours : o'.role? = some r) : i = j := by
  by_contra apart
  have inside := going?_length hi
  have found := going?_eq_some.mp hi
  have here : t.calls[i] = .going o :=
    Option.some.inj ((List.getElem?_eq_getElem inside).symm.trans found)
  let t' : Traffic := ⟨t.daemon, t.calls.set i (.ended (.ok .done))⟩
  have left : t'.staff r = t.staff r - 1 := by
    refine (List.countP_set inside).trans ?_
    rw [here, if_pos (Call.has_going.mpr mine)]
    rfl
  have still : t'.going? j = some o' :=
    going?_eq_some.mpr ((List.getElem?_set_ne apart).trans (going?_eq_some.mp hj))
  have pos : 0 < t'.staff r := staff_pos.mpr ⟨j, o', still, yours⟩
  omega

theorem countP_sideCalls (hs : List Happening) (r : Role) :
    (sideCalls hs).countP (Call.has r) = hs.countP (Happening.brings r) := by
  rw [sideCalls, List.countP_filterMap, List.countP_reverse]
  refine List.countP_congr fun x _ => ?_
  cases x with
  | signal s => exact Iff.rfl
  | work crew w =>
      rw [Happening.brings_work]
      exact Call.has_going.trans ⟨Option.some.inj, congrArg some⟩

section Take

variable {t : Traffic} {i : Nat} {o : Operation} {out : Operation.Outcome}

/-- The staff after a turn. -/
theorem staff_take (going : t.going? i = some o) (r : Role) :
    (t.take i out).staff r + (if o.role? = some r then 1 else 0) =
      t.staff r + (if out.1.holds Operation.role? o = some r then 1 else 0) +
        out.2.happenings.countP (Happening.brings r) := by
  have inside := going?_length going
  have here : t.calls[i] = .going o :=
    Option.some.inj ((List.getElem?_eq_getElem inside).symm.trans (going?_eq_some.mp going))
  have counted : o.role? = some r → 0 < t.staff r := fun role => staff_pos.mpr ⟨i, o, going, role⟩
  have apart : (t.take i out).staff r =
      (t.seated i out.1).countP (Call.has r) + out.2.happenings.countP (Happening.brings r) := by
    rw [← countP_sideCalls]
    exact List.countP_append
  have one : ∀ o : Operation, (if (Call.going o).has r = true then 1 else 0) =
      if o.role? = some r then 1 else 0 := fun o => if_congr Call.has_going rfl rfl
  have replaced : ∀ c : Call, (t.calls.set i c).countP (Call.has r) =
      (t.staff r - if o.role? = some r then 1 else 0) + if c.has r = true then 1 else 0 := by
    intro c
    rw [List.countP_set inside, here, one]
    rfl
  have enough : (if o.role? = some r then 1 else 0) ≤ t.staff r := by
    split
    next role => exact counted role
    · exact Nat.zero_le _
  rw [apart]
  cases out.1 with
  | next o' =>
      rw [show (t.seated i (.next o')).countP (Call.has r) = _ from replaced (.going o'), one]
      show _ = t.staff r + (if o'.role? = some r then 1 else 0) + _
      omega
  | wait on =>
      show t.staff r + _ + _ = t.staff r + (if o.role? = some r then 1 else 0) + _
      omega
  | done result =>
      rw [show (t.seated i (.done result)).countP (Call.has r) = _ from replaced (.ended result)]
      show t.staff r - (if o.role? = some r then 1 else 0) + 0 + _ + _ = t.staff r + 0 + _
      omega

end Take

/-! ### What holds between any two turns -/

/-- The calls fit the crews. -/
structure Staffed (t : Traffic) : Prop where
  still : t.daemon.Still
  counted : ∀ k, t.staff (.worker k) ≤ t.daemon.working k
  leader : ∀ k, t.staff (.leader k) ≤ 1
  watcher : ∀ k, t.staff (.watcher k) ≤ 1
  watched : ∀ k, 0 < t.staff (.watcher k) → t.daemon.watchEnd? k = none
  /-- Nobody outlives the controller of the crew. -/
  led : ∀ k, 0 < t.staff (.worker k) ∨ 0 < t.staff (.watcher k) → 0 < t.staff (.leader k)
  known : ∀ k, 0 < t.staff (.leader k) → k < t.daemon.crews.size
  heeds : ∀ j token p, t.going? j = some (.control token p) → p.Heeds token t.daemon
  /-- A registered stop is that of a timer that is going. -/
  stops : ∀ task stop, t.daemon.stops.get? task = some stop →
    ∃ j o, t.going? j = some o ∧ o.stop? = some (task, stop)

/-- A controller leads a crew that is there. -/
theorem Staffed.known_control {t : Traffic} (h : t.Staffed) {j : Nat} {token : Token}
    {p : Controller.Phase} {crew : Place} (going : t.going? j = some (.control token p))
    (lead : p.crew? = some crew) : crew < t.daemon.crews.size :=
  h.known crew (staff_pos.mpr ⟨j, _, going, Operation.role?_control lead⟩)

section Turns

variable {t : Traffic} {i : Nat} {o : Operation} {out : Operation.Outcome}

/-! ### A turn of an operation that leads no crew -/

section Serve

/-- What an operation is after its turn, it was before. -/
theorem holds_of_serves (serves : o.Serves t.daemon out) {r : Role}
    (holds : out.1.holds Operation.role? o = some r) : o.role? = some r := by
  cases turn : out.1 with
  | next o' =>
      rw [turn] at holds
      exact (serves.role o' turn).symm.trans holds
  | wait on =>
      rw [turn] at holds
      exact holds
  | done result =>
      rw [turn] at holds
      cases holds

variable (h : t.Staffed) (going : t.going? i = some o) (serves : o.Serves t.daemon out)

include h going serves

theorem Staffed.staff_serve (r : Role) :
    (t.take i out).staff r + (if o.role? = some r then 1 else 0) =
      t.staff r + if out.1.holds Operation.role? o = some r then 1 else 0 := by
  have still : out.2.Still := fun k w engaged => h.still k w (serves.engaged k w engaged)
  rw [staff_take going, still.countP, Nat.add_zero]

theorem Staffed.staff_serve_le (r : Role) : (t.take i out).staff r ≤ t.staff r := by
  have equation := h.staff_serve going serves r
  by_cases holds : out.1.holds Operation.role? o = some r
  · rw [if_pos holds, if_pos (holds_of_serves serves holds)] at equation
    omega
  · rw [if_neg holds] at equation
    omega

theorem Staffed.staff_serve_done {r : Role} (done : ∃ result, out.1 = .done result)
    (role : o.role? = some r) : (t.take i out).staff r + 1 = t.staff r := by
  obtain ⟨result, turn⟩ := done
  have equation := h.staff_serve going serves r
  rw [turn, if_pos role] at equation
  exact equation

/-- A stop that is registered is that of the operation itself, or was registered before by one that
has had no turn. -/
theorem Staffed.stops_serve {task : String} {stop : Stop}
    (found : out.2.stops.get? task = some stop) :
    ∃ j o, (t.take i out).going? j = some o ∧ o.stop? = some (task, stop) := by
  obtain ⟨before, other⟩ | held := serves.stops task stop found
  · obtain ⟨j, o', there, its⟩ := h.stops task stop before
    have apart : j ≠ i := by
      rintro rfl
      rw [going] at there
      cases there
      exact other its
    exact ⟨j, o', (going?_take_other apart (going?_length there)).trans there, its⟩
  · have self : (t.take i out).going? i = _ := going?_take_self going
    cases turn : out.1 with
    | next o' =>
        rw [turn] at held self
        exact ⟨i, o', self, held⟩
    | wait on =>
        rw [turn] at held self
        exact ⟨i, o, self, held⟩
    | done r =>
        rw [turn] at held
        cases held

variable (follows : ∀ token p, o ≠ .control token p)

include follows

theorem Staffed.staff_serve_leader (k : Place) :
    (t.take i out).staff (.leader k) = t.staff (.leader k) := by
  have apart : o.role? ≠ some (.leader k) := by
    intro role
    obtain ⟨token, p, same, -⟩ := Operation.control_of_leader role
    exact follows token p same
  have equation := h.staff_serve going serves (.leader k)
  rwa [if_neg apart, if_neg fun holds => apart (holds_of_serves serves holds)] at equation

/-- The controllers still heed what they have heeded. -/
theorem Staffed.heeds_serve {j : Nat} {token : Token} {p : Controller.Phase}
    (there : (t.take i out).going? j = some (.control token p)) : p.Heeds token out.2 := by
  cases lead : p.crew? with
  | none => exact .of_idle lead
  | some crew =>
      obtain ⟨-, next | ⟨-, same⟩⟩ | ⟨-, before⟩ | ⟨-, k, w, new, -⟩ :=
        going?_take_cases going there
      · have role := (serves.role _ next).symm.trans (Operation.role?_control lead)
        obtain ⟨token', p', same, -⟩ := Operation.control_of_leader role
        exact absurd same (follows token' p')
      · exact absurd same.symm (follows token p)
      · refine (h.heeds j token p before).mono (serves.canceled token) (fun k x mine ended => ?_)
          fun k mine idle => ?_
        · obtain same | ⟨-, role⟩ := serves.watchEnd k
          · exact same.trans ended
          · have none := h.watched k (staff_pos.mpr ⟨i, o, going, role⟩)
            rw [none] at ended
            cases ended
        · obtain same | ⟨-, -, less⟩ := serves.working k
          · exact same.trans idle
          · rw [less, idle]
      · cases new

theorem Staffed.serve : (t.take i out).Staffed := by
  have fewer : ∀ r, (t.take i out).staff r ≤ t.staff r := h.staff_serve_le going serves
  have leaders : ∀ k, (t.take i out).staff (.leader k) = t.staff (.leader k) :=
    h.staff_serve_leader going serves follows
  refine ⟨fun _ _ => List.not_mem_nil, fun k => ?_, fun k => ?_, fun k => ?_, fun k there => ?_,
    fun k there => ?_, fun k there => ?_, fun j token p there => ?_, fun task stop found => ?_⟩
  · have before := h.counted k
    have less := fewer (.worker k)
    show _ ≤ out.2.working k
    obtain same | ⟨done, role, working⟩ := serves.working k
    · omega
    · have left := h.staff_serve_done going serves done role
      omega
  · exact leaders k ▸ h.leader k
  · exact Nat.le_trans (fewer _) (h.watcher k)
  · show out.2.watchEnd? k = none
    obtain same | ⟨done, role⟩ := serves.watchEnd k
    · rw [same]
      exact h.watched k (Nat.lt_of_lt_of_le there (fewer _))
    · have left := h.staff_serve_done going serves done role
      have once := h.watcher k
      omega
  · rw [leaders]
    exact h.led k (there.imp (fun pos => Nat.lt_of_lt_of_le pos (fewer _))
      fun pos => Nat.lt_of_lt_of_le pos (fewer _))
  · show k < out.2.crews.size
    rw [serves.size]
    exact h.known k (leaders k ▸ there)
  · exact h.heeds_serve going serves follows there
  · exact h.stops_serve going serves found

end Serve

/-! ### A turn of a controller -/

section Conduct

variable {token : Token} {p : Controller.Phase} {crew : Place} {lead : Controller.Outcome}

/-- What a controller sets going is for its crew. -/
theorem countP_foreign (conducts : Controller.Conducts token p crew t.daemon lead) {r : Role}
    (apart : r.crew ≠ crew) : lead.2.happenings.countP (Happening.brings r) = 0 := by
  refine List.countP_eq_zero.mpr fun x there brings => ?_
  cases x with
  | signal s => cases brings
  | work k w =>
      have role := Happening.brings_work.mp brings
      exact apart (by rw [← role, Errand.role_crew, conducts.mine k w there])

/-- It sets no controller going. -/
theorem countP_leader (hs : List Happening) (crew : Place) :
    hs.countP (Happening.brings (.leader crew)) = 0 := by
  refine List.countP_eq_zero.mpr fun x _ brings => ?_
  cases x with
  | signal s => cases brings
  | work k w => cases w <;> cases Happening.brings_work.mp brings

variable (h : t.Staffed) (going : t.going? i = some (.control token p))
  (mine : p.crew?.getD t.daemon.crews.size = crew)
  (conducts : Controller.Conducts token p crew t.daemon lead)
  (turn : out = Operation.lift (.control token) .error lead)

include h going mine conducts turn

/-- What a controller sets going comes on top, and it is there itself until it ends. -/
theorem Staffed.staff_conduct :
    (∀ r, r ≠ .leader crew → (t.take i out).staff r =
        t.staff r + lead.2.happenings.countP (Happening.brings r)) ∧
      ((t.take i out).staff (.leader crew) = 1 ∨
        (∃ e, lead.1 = .done e) ∧ p.crew? = some crew ∧
          (t.take i out).staff (.leader crew) = 0) := by
  have same : out.2 = lead.2 := by
    rw [turn, Operation.lift_snd]
  have count : ∀ r, (t.take i out).staff r + _ = _ := staff_take going
  have errands := countP_leader lead.2.happenings crew
  rw [same] at count
  have holds : out.1.holds Operation.role? (.control token p) = some (.leader crew) ∨
      (∃ e, lead.1 = .done e) ∧ p.crew? = some crew ∧
        out.1.holds Operation.role? (.control token p) = none := by
    have goes := conducts.goes
    clear same count errands
    obtain ⟨p' | on | e, d⟩ := lead
    · subst turn
      exact .inl (congrArg (·.map Role.leader) goes)
    · subst turn
      exact .inl (congrArg (·.map Role.leader) goes)
    · subst turn
      exact .inr ⟨⟨e, rfl⟩, goes, rfl⟩
  cases before : p.crew? with
  | none =>
      -- the crew is new
      rw [before] at mine
      have vacant : t.staff (.leader crew) = 0 := by
        by_contra there
        exact Nat.lt_irrefl _ (mine ▸ h.known crew (Nat.pos_of_ne_zero there))
      have role : (Operation.control token p).role? = none := by
        rw [Operation.role?, before]
        rfl
      obtain holds | ⟨-, some, -⟩ := holds
      · rw [role, holds] at count
        refine ⟨fun r apart => ?_, .inl ?_⟩
        · have equation := count r
          have other : ¬ some (Role.leader crew) = some r :=
            fun same => apart (Option.some.inj same).symm
          rwa [if_neg (fun same => by cases same), if_neg other] at equation
        · have equation := count (.leader crew)
          rw [if_neg (fun same => by cases same), if_pos rfl, vacant, errands] at equation
          exact equation
      · cases before.symm.trans some
  | some crew' =>
      rw [before] at mine
      have mine : crew' = crew := mine
      subst mine
      have role : (Operation.control token p).role? = some (.leader crew') :=
        Operation.role?_control before
      have once : t.staff (.leader crew') = 1 :=
        Nat.le_antisymm (h.leader crew') (staff_pos.mpr ⟨i, _, going, role⟩)
      rw [role] at count
      obtain holds | ⟨done, -, holds⟩ := holds
      · rw [holds] at count
        refine ⟨fun r apart => ?_, .inl ?_⟩
        · have equation := count r
          have other : ¬ some (Role.leader crew') = some r := fun same =>
            apart (Option.some.inj same).symm
          rwa [if_neg other] at equation
        · have equation := count (.leader crew')
          rw [if_pos rfl, once, errands] at equation
          exact Nat.succ.inj equation
      · rw [holds] at count
        refine ⟨fun r apart => ?_, .inr ⟨done, rfl, ?_⟩⟩
        · have equation := count r
          have other : ¬ some (Role.leader crew') = some r := fun same =>
            apart (Option.some.inj same).symm
          rwa [if_neg other, if_neg (fun same => by cases same)] at equation
        · have equation := count (.leader crew')
          rw [if_pos rfl, if_neg (fun same => by cases same), once, errands] at equation
          exact Nat.succ.inj equation

theorem Staffed.staff_conduct_worker (k : Place) : (t.take i out).staff (.worker k) =
    t.staff (.worker k) + lead.2.happenings.countP (Happening.brings (.worker k)) :=
  (h.staff_conduct going mine conducts turn).1 _ fun same => by cases same

theorem Staffed.staff_conduct_leader {k : Place} (apart : k ≠ crew) :
    (t.take i out).staff (.leader k) = t.staff (.leader k) := by
  have other := (h.staff_conduct going mine conducts turn).1 (.leader k)
    fun same => apart (Role.leader.inj same)
  rwa [countP_leader] at other

/-- The watch joins a new crew only. -/
theorem Staffed.staff_conduct_watcher {k : Place} (there : 0 < (t.take i out).staff (.watcher k)) :
    0 < t.staff (.watcher k) ∧ (t.take i out).staff (.watcher k) = t.staff (.watcher k) ∨
      k = crew ∧ p.crew? = none ∧ (t.take i out).staff (.watcher k) = 1 := by
  have equation := (h.staff_conduct going mine conducts turn).1 (.watcher k)
    fun same => by cases same
  by_cases apart : k = crew
  · subst apart
    rw [conducts.watch] at equation
    cases before : p.crew? with
    | none =>
        rw [before] at mine equation
        have vacant : t.staff (.watcher k) = 0 := by
          by_contra some
          have inside := h.known k (h.led k (.inr (Nat.pos_of_ne_zero some)))
          exact Nat.lt_irrefl _ (mine ▸ inside)
        exact .inr ⟨rfl, rfl, by rw [equation, vacant]; rfl⟩
    | some crew =>
        rw [before, if_neg (fun same => by cases same), Nat.add_zero] at equation
        exact .inl ⟨equation ▸ there, equation⟩
  · have foreign : (Role.watcher k).crew ≠ crew := apart
    rw [countP_foreign conducts foreign, Nat.add_zero] at equation
    exact .inl ⟨equation ▸ there, equation⟩

/-- A controller ends when nobody is left in its crew. -/
theorem Staffed.led_conduct {k : Place}
    (there : 0 < (t.take i out).staff (.worker k) ∨ 0 < (t.take i out).staff (.watcher k)) :
    0 < (t.take i out).staff (.leader k) := by
  have equation := h.staff_conduct_worker going mine conducts turn k
  by_cases apart : k = crew
  · subst apart
    obtain one | ⟨⟨e, ends⟩, before, -⟩ := (h.staff_conduct going mine conducts turn).2
    · exact one ▸ Nat.one_pos
    · have finished : Controller.Over token k lead.2 e := by
        have heeds := conducts.heeds (h.heeds i token p going)
        rw [ends] at heeds
        exact heeds
      obtain some | some := there
      · have working := conducts.working k
        have counted := h.counted k
        have idle := finished.working
        omega
      · obtain ⟨pos, -⟩ | ⟨-, new, -⟩ := h.staff_conduct_watcher going mine conducts turn some
        · have ended := finished.watched
          rw [conducts.watchEnd, h.watched k pos] at ended
          cases ended
        · rw [before] at new
          cases new
  · rw [h.staff_conduct_leader going mine conducts turn apart]
    refine h.led k (there.imp (fun some => ?_) fun some => ?_)
    · have foreign : (Role.worker k).crew ≠ crew := apart
      rw [countP_foreign conducts foreign, Nat.add_zero] at equation
      exact equation ▸ some
    · obtain ⟨pos, -⟩ | ⟨here, -⟩ := h.staff_conduct_watcher going mine conducts turn some
      · exact pos
      · exact absurd here apart

omit conducts turn in
/-- The crew that a controller leads after its turn is led by no other one. -/
theorem Staffed.crew_apart {j : Nat} {token' : Token} {p' : Controller.Phase} {k : Place}
    (apart : j ≠ i) (there : t.going? j = some (.control token' p')) (its : p'.crew? = some k) :
    k ≠ crew := by
  rintro rfl
  cases lead' : p.crew? with
  | none =>
      rw [lead'] at mine
      exact Nat.lt_irrefl _ (mine ▸ h.known_control there its)
  | some k' =>
      rw [lead'] at mine
      have same : k' = k := mine
      exact apart (staff_sole (h.leader k) there (Operation.role?_control its) going
        (Operation.role?_control (same ▸ lead')))

theorem Staffed.heeds_conduct {j : Nat} {token' : Token} {p' : Controller.Phase}
    (there : (t.take i out).going? j = some (.control token' p')) : p'.Heeds token' lead.2 := by
  have heeds := conducts.heeds (h.heeds i token p going)
  obtain ⟨-, next | ⟨⟨on, wait⟩, self⟩⟩ | ⟨apart, before⟩ | ⟨-, k, w, new, -⟩ :=
    going?_take_cases going there
  · obtain ⟨p₁, goes, here, -⟩ := Operation.lift_next _ (turn ▸ next)
    cases here
    rw [goes] at heeds
    exact heeds
  · cases self
    obtain ⟨p₁ | on' | e, d⟩ := lead
    · cases turn
      cases wait
    · exact heeds
    · cases turn
      cases wait
  · refine (h.heeds j token' p' before).mono (conducts.canceled token') (fun k x _ ended => ?_)
      fun k its idle => ?_
    · rw [conducts.watchEnd]
      exact ended
    · have foreign : (Role.worker k).crew ≠ crew :=
        h.crew_apart going mine apart before its
      rw [conducts.working, countP_foreign conducts foreign, idle]
  · cases new

omit mine in
theorem Staffed.stops_conduct {task : String} {stop : Stop}
    (found : lead.2.stops.get? task = some stop) :
    ∃ j o, (t.take i out).going? j = some o ∧ o.stop? = some (task, stop) := by
  obtain before | engaged := conducts.stops task stop found
  · obtain ⟨j, o', there, its⟩ := h.stops task stop before
    have apart : j ≠ i := by
      rintro rfl
      rw [going] at there
      cases there
      cases its
    exact ⟨j, o', (going?_take_other apart (going?_length there)).trans there, its⟩
  · have engaged : out.2.Engaged crew (.timer task stop) := by
      rw [turn, Operation.lift_snd]
      exact engaged
    obtain ⟨j, -, there⟩ := going?_take_engaged t i engaged
    exact ⟨j, _, there, rfl⟩

/-- A turn of a controller, with the crew that it leads afterwards. -/
theorem Staffed.conduct : (t.take i out).Staffed := by
  have same : out.2 = lead.2 := by
    rw [turn, Operation.lift_snd]
  refine ⟨fun _ _ => List.not_mem_nil, fun k => ?_, fun k => ?_, fun k => ?_, fun k there => ?_,
    fun k there => h.led_conduct going mine conducts turn there, fun k there => ?_,
    fun j token' p' there => ?_, fun task stop found => ?_⟩
  · have before := h.counted k
    have working := conducts.working k
    rw [h.staff_conduct_worker going mine conducts turn]
    show _ ≤ out.2.working k
    rw [same]
    omega
  · by_cases apart : k = crew
    · subst apart
      obtain one | ⟨-, -, none⟩ := (h.staff_conduct going mine conducts turn).2
      · exact Nat.le_of_eq one
      · exact none ▸ Nat.zero_le 1
    · exact h.staff_conduct_leader going mine conducts turn apart ▸ h.leader k
  · by_cases there : 0 < (t.take i out).staff (.watcher k)
    · obtain ⟨-, before⟩ | ⟨-, -, one⟩ := h.staff_conduct_watcher going mine conducts turn there
      · exact before ▸ h.watcher k
      · exact Nat.le_of_eq one
    · omega
  · show out.2.watchEnd? k = none
    rw [same, conducts.watchEnd]
    obtain ⟨before, -⟩ | ⟨rfl, new, -⟩ := h.staff_conduct_watcher going mine conducts turn there
    · exact h.watched k before
    · rw [new] at mine
      rw [← mine, Daemon.watchEnd?]
      exact congrArg (·.bind fun c : Crew => c.watched) Array.getElem?_size
  · show k < out.2.crews.size
    rw [same]
    by_cases apart : k = crew
    · exact apart ▸ conducts.inside
    · have before := h.staff_conduct_leader going mine conducts turn apart
      exact Nat.lt_of_lt_of_le (h.known k (before ▸ there)) conducts.size
  · show p'.Heeds token' out.2
    rw [same]
    exact h.heeds_conduct going mine conducts turn there
  · exact h.stops_conduct going conducts turn (same ▸ found)

end Conduct

/-! ### Runs -/

theorem Staffed.take (h : t.Staffed) (going : t.going? i = some o) (may : o.May t.daemon out) :
    (t.take i out).Staffed := by
  by_cases lead : ∃ token p, o = .control token p
  · obtain ⟨token, p, rfl⟩ := lead
    obtain ⟨out', turn, conducts⟩ :=
      may.conducts h.still fun crew lead => h.known_control going lead
    exact h.conduct going rfl conducts turn
  · have follows : ∀ token p, o ≠ .control token p := fun token p same => lead ⟨token, p, same⟩
    exact h.serve going (may.serves follows) follows

end Turns

theorem affect_detached (e : Event) (d : Daemon) : d.Detached (e.affect d) := by
  cases e with
  | call q => exact .refl d
  | turn i => exact .refl d
  | start =>
      obtain ⟨lines, frame⟩ := start_frame d
      rw [show Event.start.affect d = d.start.2 from rfl, frame]
      exact .of_same rfl rfl rfl
  | requestDeletion task => exact .requestDeletion d task
  | cancel token => exact .cancel d token
  | listen =>
      obtain ⟨faults, c, h, _⟩ := listen_frame d
      rw [show Event.listen.affect d = d.listen.2 from rfl, h]
      exact .of_same rfl rfl rfl
  | trigger template =>
      simp only [Event.affect]
      split
      · exact .of_same rfl rfl rfl
      · exact .refl d
  | pass ms => exact .of_same rfl rfl rfl
  | wall now => exact .of_same rfl rfl rfl

/-- What happens outside of all calls is no concern of any crew. -/
theorem Staffed.affect {t : Traffic} (h : t.Staffed) (e : Event) :
    Staffed { t with daemon := e.affect t.daemon } := by
  have detached := affect_detached e t.daemon
  have gathers := affect_gathers e t.daemon
  have ended : ∀ k, (e.affect t.daemon).watchEnd? k = t.daemon.watchEnd? k := fun k => by
    rw [Daemon.watchEnd?, detached.crews]
    rfl
  have working : ∀ k, (e.affect t.daemon).working k = t.daemon.working k := fun k => by
    rw [Daemon.working, detached.crews]
    rfl
  refine ⟨fun k w engaged => h.still k w (gathers.engaged k w engaged), fun k => ?_, h.leader,
    h.watcher, fun k there => (ended k).trans (h.watched k there), h.led, fun k there => ?_,
    fun j token p going => ?_, fun task stop found => h.stops task stop
      (detached.stops task stop found)⟩
  · exact (working k).symm ▸ h.counted k
  · show k < (e.affect t.daemon).crews.size
    rw [detached.crews]
    exact h.known k there
  · exact (h.heeds j token p going).mono (detached.canceled token)
      (fun k x _ before => (ended k).trans before) fun k _ idle => (working k).trans idle

/-- Who is asked for something is nobody's crew yet. -/
theorem Staffed.call {t : Traffic} (h : t.Staffed) (q : Request) :
    Staffed { t with calls := t.calls ++ [.going q.operation] } := by
  have role : q.operation.role? = none := by
    cases q <;> rfl
  have staff : ∀ r, (⟨t.daemon, t.calls ++ [.going q.operation]⟩ : Traffic).staff r =
      t.staff r := by
    intro r
    refine List.countP_append.trans ?_
    have none : ¬ (Call.going q.operation).has r = true := fun has => by
      rw [Call.has_going, role] at has
      cases has
    rw [List.countP_singleton, if_neg none]
    rfl
  have old : ∀ {j o}, t.going? j = some o →
      (⟨t.daemon, t.calls ++ [.going q.operation]⟩ : Traffic).going? j = some o :=
    fun there => by
      rw [going?_append, if_pos (going?_length there)]
      exact there
  refine ⟨h.still, fun k => staff (.worker k) ▸ h.counted k,
    fun k => staff (.leader k) ▸ h.leader k, fun k => staff (.watcher k) ▸ h.watcher k,
    fun k there => h.watched k (staff _ ▸ there), fun k there => ?_,
    fun k there => h.known k (staff _ ▸ there), fun j token p there => ?_,
    fun task stop found => ?_⟩
  · rw [staff, staff] at there
    rw [staff]
    exact h.led k there
  · rw [going?_append] at there
    split at there
    · exact h.heeds j token p there
    · split at there
      next o' found =>
        have asked := List.mem_singleton.mp (List.mem_of_getElem? found)
        cases there
        cases p with
        | start => trivial
        | lockingCreated | lockingDeletes | looping | draining | joining =>
            cases q <;> cases asked
      · cases there
  · obtain ⟨j, o, there, its⟩ := h.stops task stop found
    exact ⟨j, o, old there, its⟩

theorem Staffed.goes {t t' : Traffic} (h : t.Staffed) (goes : Goes t t') : t'.Staffed :=
  goes.elim h.call h.affect fun _ _ _ => h.take

/-- The invariant of all that calls may do. -/
theorem Staffed.goesOn {t t' : Traffic} (h : t.Staffed) (goes : GoesOn t t') : t'.Staffed := by
  induction goes with
  | refl => exact h
  | tail _ last ih => exact ih.goes last

theorem opening_staffed {d : Daemon} (idle : d.stops = []) : (opening d).Staffed := by
  have nobody : ∀ j, (opening d).going? j = none := fun j => going?_none (Nat.zero_le j)
  refine ⟨fun _ _ => List.not_mem_nil, fun _ => Nat.zero_le _, fun _ => Nat.zero_le _,
    fun _ => Nat.zero_le _, fun _ there => absurd there (Nat.lt_irrefl 0), fun _ there => ?_,
    fun _ there => absurd there (Nat.lt_irrefl 0), fun j token p there => ?_,
    fun task stop found => ?_⟩
  · exact absurd there fun pos => pos.elim (Nat.lt_irrefl 0) (Nat.lt_irrefl 0)
  · rw [nobody] at there
    cases there
  · have none : (opening d).daemon.stops = [] := idle
    rw [none] at found
    cases found

end Traffic

end TaskSync
