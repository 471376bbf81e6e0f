import TaskSync.Config.Basic

/-!
# Valid configurations

What `validate` accepts, said without the order in which it looks for faults: `IsValid` at each of
the four levels, from buffer periods to the whole process. The check stops at the first fault, so a
repeated name is reported exactly when nothing before it is wrong. Whether a regular expression
compiles and whether a cron expression can be read is left to their readers.
-/

namespace TaskSync

/-- Checks one after the other pass when each of them does. -/
theorem checks_eq_ok {ε : Type} {x y : Except ε Unit} :
    (x >>= fun _ => y) = .ok () ↔ x = .ok () ∧ y = .ok () := by
  cases x with
  | error e => exact ⟨nofun, fun h => nomatch h.1⟩
  | ok => exact ⟨fun h => ⟨rfl, h⟩, fun h => h.2⟩

/-- Naming the place of a fault does not make one. -/
theorem mapError_eq_ok {ε δ : Type} {x : Except ε Unit} {f : ε → δ} :
    x.mapError f = .ok () ↔ x = .ok () := by
  cases x with
  | error e => exact ⟨nofun, nofun⟩
  | ok => exact ⟨fun _ => rfl, fun _ => rfl⟩

theorem refusal_eq_ok {ε : Type} {p : Prop} [Decidable p] {e : ε} :
    (if p then .error e else .ok () : Except ε Unit) = .ok () ↔ ¬ p := by
  by_cases h : p
  · rw [if_pos h]
    exact ⟨nofun, fun no => absurd h no⟩
  · rw [if_neg h]
    exact ⟨fun _ => h, fun _ => rfl⟩

/-! ### Buffer periods -/

namespace PeriodConfig

/-- The shorter wait does not exceed the longer one. -/
def IsOrdered (p : PeriodConfig) : Prop := ∀ min ∈ p.min, ∀ max ∈ p.max, min ≤ max

theorem validate_eq_ok_iff {p : PeriodConfig} : p.validate = .ok () ↔ p.IsOrdered := by
  obtain ⟨enabled, min, max⟩ := p
  cases min with
  | none => exact ⟨fun _ => nofun, fun _ => rfl⟩
  | some min =>
      cases max with
      | none => exact ⟨fun _ _ _ => nofun, fun _ => rfl⟩
      | some max =>
          have each : IsOrdered ⟨enabled, some min, some max⟩ ↔ min ≤ max := by
            simp [IsOrdered]
          exact refusal_eq_ok.trans (Nat.not_lt.trans each.symm)

end PeriodConfig

/-! ### Conditions -/

namespace Condition

/-- The names of services are there, the regular expression compiles, the cron expression can be
read. -/
def IsAcceptable : Condition → Prop
  | services names => names ≠ []
  | catalogServices regexp => Pattern.isValid regexp = true
  | schedule cron => (Cron.read? cron).isSome = true

theorem validate_eq_ok_iff {x : Condition} : x.validate = .ok () ↔ x.IsAcceptable := by
  cases x with
  | services names => exact refusal_eq_ok.trans (not_congr List.isEmpty_iff)
  | catalogServices regexp =>
      rw [validate, IsAcceptable]
      cases Pattern.isValid regexp <;> simp
  | schedule cron =>
      rw [validate, IsAcceptable]
      cases (Cron.read? cron).isSome <;> simp

end Condition

/-! ### Tasks -/

namespace TaskConfig

/-- A letter or digit of ASCII, an underscore or a hyphen. -/
def IsNameLetter (x : Char) : Prop :=
  ('a' ≤ x ∧ x ≤ 'z') ∨ ('A' ≤ x ∧ x ≤ 'Z') ∨ ('0' ≤ x ∧ x ≤ '9') ∨ x = '_' ∨ x = '-'

theorem isNameChar_iff {x : Char} : isNameChar x = true ↔ IsNameLetter x := by
  show ((decide ('A' ≤ x ∧ x ≤ 'Z') || (decide ('a' ≤ x) && decide (x ≤ 'z'))) ||
    (decide ('0' ≤ x) && decide (x ≤ '9')) || x == '_' || x == '-') = true ↔ _
  simp only [Bool.or_eq_true, Bool.and_eq_true, decide_eq_true_eq, beq_iff_eq, IsNameLetter]
  grind

/-- Whatever order the parts are looked at in, nothing is wrong with the task. -/
structure IsValid (c : TaskConfig) : Prop where
  name : ∃ name ∈ c.name, name ≠ "" ∧ ∀ x ∈ name.toList, IsNameLetter x
  moduleName : ∃ m ∈ c.moduleName, m ≠ ""
  bufferPeriod : ∀ p ∈ c.bufferPeriod, p.IsOrdered
  condition : ∀ x ∈ c.condition, x.IsAcceptable
  services : c.condition = none → c.services ≠ []
  providers : c.providers.Nodup

theorem IsValid.name_eq {c : TaskConfig} (h : c.IsValid) : c.name = some c.nameOrEmpty := by
  obtain ⟨name, named, -⟩ := h.name
  rw [nameOrEmpty, Option.mem_def.mp named]
  rfl

theorem isValidName_iff {s : String} :
    isValidName s = true ↔ s ≠ "" ∧ ∀ x ∈ s.toList, IsNameLetter x := by
  have empty : s.toList = [] ↔ s = "" := String.toList_eq_nil_iff
  simp only [isValidName, Bool.and_eq_true, Bool.not_eq_true', List.isEmpty_eq_false_iff, ne_eq,
    empty, List.all_eq_true, isNameChar_iff]

theorem firstRepeat?_eq_none {seen xs : List String} :
    firstRepeat? seen xs = none ↔ xs.Nodup ∧ ∀ x ∈ xs, x ∉ seen := by
  induction xs generalizing seen with
  | nil => simp [firstRepeat?]
  | cons x xs ih =>
      rw [firstRepeat?]
      by_cases before : x ∈ seen
      · rw [if_pos (List.contains_iff_mem.mpr before)]
        exact ⟨nofun, fun h => absurd before (h.2 x List.mem_cons_self)⟩
      · rw [if_neg (mt List.contains_iff_mem.mp before), ih]
        grind

/-! #### The checks of a task that has a name, one by one -/

def checkModule (c : TaskConfig) : Except TaskFault Unit :=
  if c.moduleName.getD "" = "" then .error .moduleMissing else .ok ()

def checkPeriod (c : TaskConfig) : Except TaskFault Unit :=
  match c.bufferPeriod with
  | some p => p.validate.mapError .part
  | none => .ok ()

def checkTrigger (c : TaskConfig) : Except TaskFault Unit :=
  match c.condition with
  | some x => x.validate.mapError .part
  | none => if c.services.isEmpty then .error .nothingWatched else .ok ()

def checkProviders (c : TaskConfig) : Except TaskFault Unit :=
  match firstRepeat? [] c.providers with
  | some p => .error (.duplicateProvider p)
  | none => .ok ()

theorem validateNamed_eq (c : TaskConfig) : c.validateNamed =
    c.checkModule >>= fun _ => c.checkPeriod >>= fun _ => c.checkTrigger >>= fun _ =>
      c.checkProviders := by
  rw [validateNamed, checkModule, checkPeriod, checkTrigger, checkProviders]
  by_cases missing : c.moduleName.getD "" = ""
  · rw [if_pos missing, if_pos missing]
    rfl
  rw [if_neg missing, if_neg missing]
  cases c.condition with
  | some x => cases c.bufferPeriod <;> rfl
  | none =>
      by_cases idle : c.services.isEmpty
      · simp only [if_pos idle]
        cases c.bufferPeriod <;> rfl
      · simp only [if_neg idle]
        cases c.bufferPeriod <;> rfl

theorem checkModule_eq_ok {c : TaskConfig} :
    c.checkModule = .ok () ↔ ∃ m ∈ c.moduleName, m ≠ "" := by
  rw [checkModule, refusal_eq_ok]
  cases c.moduleName <;> simp

theorem checkPeriod_eq_ok {c : TaskConfig} :
    c.checkPeriod = .ok () ↔ ∀ p ∈ c.bufferPeriod, p.IsOrdered := by
  rw [checkPeriod]
  cases c.bufferPeriod with
  | none => exact ⟨fun _ => nofun, fun _ => rfl⟩
  | some p =>
      have only : (∀ q ∈ some p, q.IsOrdered) ↔ p.IsOrdered := by simp
      exact mapError_eq_ok.trans (PeriodConfig.validate_eq_ok_iff.trans only.symm)

theorem checkTrigger_eq_ok {c : TaskConfig} :
    c.checkTrigger = .ok () ↔
      (∀ x ∈ c.condition, x.IsAcceptable) ∧ (c.condition = none → c.services ≠ []) := by
  rw [checkTrigger]
  cases c.condition with
  | none => simp
  | some x => simp [mapError_eq_ok, Condition.validate_eq_ok_iff]

theorem checkProviders_eq_ok {c : TaskConfig} :
    c.checkProviders = .ok () ↔ c.providers.Nodup := by
  have distinct : firstRepeat? [] c.providers = none ↔ c.providers.Nodup := by
    simp [firstRepeat?_eq_none]
  rw [checkProviders, ← distinct]
  cases firstRepeat? [] c.providers <;> simp

theorem validateNamed_eq_ok {c : TaskConfig} : c.validateNamed = .ok () ↔
    (∃ m ∈ c.moduleName, m ≠ "") ∧ (∀ p ∈ c.bufferPeriod, p.IsOrdered) ∧
      ((∀ x ∈ c.condition, x.IsAcceptable) ∧ (c.condition = none → c.services ≠ [])) ∧
        c.providers.Nodup := by
  rw [validateNamed_eq, checks_eq_ok, checks_eq_ok, checks_eq_ok, checkModule_eq_ok,
    checkPeriod_eq_ok, checkTrigger_eq_ok, checkProviders_eq_ok]

/-- A task with a proper name is checked further; whatever its fault, it is reported under the
name. -/
theorem validate_of_name {c : TaskConfig} {name : String} (named : c.name = some name)
    (proper : isValidName name = true) : c.validate = c.validateNamed.mapError (.task name) := by
  have there : name ≠ "" := (isValidName_iff.mp proper).1
  rw [validate, named]
  exact (if_neg there).trans (if_pos proper)

/-- Any other task is refused for its name. -/
theorem validate_of_no_name {c : TaskConfig}
    (unnamed : ¬ ∃ name ∈ c.name, isValidName name = true) :
    c.validate = .error .nameMissing ∨ ∃ name, c.validate = .error (.badName name) := by
  rw [validate]
  cases named : c.name with
  | none => exact .inl rfl
  | some name =>
      have improper : ¬ isValidName name = true := fun h => unnamed ⟨name, named, h⟩
      by_cases there : name = ""
      · exact .inl (if_pos there)
      · exact .inr ⟨name, (if_neg there).trans (if_neg improper)⟩

theorem validate_eq_ok_iff {c : TaskConfig} : c.validate = .ok () ↔ c.IsValid := by
  by_cases named : ∃ name ∈ c.name, isValidName name = true
  · obtain ⟨name, named, proper⟩ := named
    rw [validate_of_name named proper, mapError_eq_ok, validateNamed_eq_ok]
    constructor
    · rintro ⟨moduleName, period, ⟨condition, services⟩, providers⟩
      exact ⟨⟨name, named, isValidName_iff.mp proper⟩, moduleName, period, condition, services,
        providers⟩
    · intro h
      exact ⟨h.moduleName, h.bufferPeriod, ⟨h.condition, h.services⟩, h.providers⟩
  · constructor
    · intro valid
      rcases validate_of_no_name named with missing | ⟨name, bad⟩
      · cases missing.symm.trans valid
      · cases bad.symm.trans valid
    · intro h
      obtain ⟨name, there, proper⟩ := h.name
      exact absurd ⟨name, there, isValidName_iff.mpr proper⟩ named

/-- No task repeats a name on its own. -/
theorem validate_ne_duplicateTask (c : TaskConfig) (n : String) :
    c.validate ≠ .error (.duplicateTask n) := by
  intro repeated
  by_cases named : ∃ name ∈ c.name, isValidName name = true
  · obtain ⟨name, named, proper⟩ := named
    rw [validate_of_name named proper] at repeated
    cases own : c.validateNamed with
    | error e =>
        rw [own] at repeated
        cases repeated
    | ok =>
        rw [own] at repeated
        cases repeated
  · rcases validate_of_no_name named with missing | ⟨name, bad⟩
    · cases missing.symm.trans repeated
    · cases bad.symm.trans repeated

end TaskConfig

/-! ### The process -/

namespace Config

/-- Nothing is wrong with the process or any of its tasks, and their names are distinct. -/
structure IsValid (c : Config) : Prop where
  bufferPeriod : ∀ p ∈ c.bufferPeriod?, p.IsOrdered
  tasks : ∀ t ∈ c.tasks, t.IsValid
  names : (c.tasks.map TaskConfig.nameOrEmpty).Nodup

/-- A task has the name of an earlier one, and up to there nothing else is wrong. -/
structure RepeatsName (c : Config) (n : String) : Prop where
  bufferPeriod : ∀ p ∈ c.bufferPeriod?, p.IsOrdered
  repeats : ∃ before again after, c.tasks = before ++ again :: after ∧
    (∀ t ∈ before, t.IsValid) ∧ again.IsValid ∧ again.nameOrEmpty = n ∧
    (before.map TaskConfig.nameOrEmpty).Nodup ∧ n ∈ before.map TaskConfig.nameOrEmpty

section Tasks

variable {seen : List String} {t : TaskConfig} {ts : List TaskConfig} {n : String}

theorem validateTasks_cons_of_valid (valid : t.IsValid) : validateTasks seen (t :: ts) =
    if t.nameOrEmpty ∈ seen then .error (.duplicateTask t.nameOrEmpty)
    else validateTasks (t.nameOrEmpty :: seen) ts := by
  rw [validateTasks, TaskConfig.validate_eq_ok_iff.mpr valid]
  by_cases before : t.nameOrEmpty ∈ seen
  · rw [if_pos before]
    exact if_pos (List.contains_iff_mem.mpr before)
  · rw [if_neg before]
    exact if_neg (mt List.contains_iff_mem.mp before)

theorem validateTasks_cons_of_not_valid (invalid : ¬ t.IsValid) :
    ∃ e, validateTasks seen (t :: ts) = .error e ∧ ∀ n, e ≠ .duplicateTask n := by
  cases own : t.validate with
  | ok => exact absurd (TaskConfig.validate_eq_ok_iff.mp own) invalid
  | error e =>
      refine ⟨e, ?_, fun n same => ?_⟩
      · rw [validateTasks, own]
        rfl
      · exact t.validate_ne_duplicateTask n (own.trans (congrArg _ same))

theorem validateTasks_eq_ok_iff : validateTasks seen ts = .ok () ↔
    (∀ t ∈ ts, t.IsValid) ∧ (ts.map TaskConfig.nameOrEmpty).Nodup ∧
      ∀ n ∈ ts.map TaskConfig.nameOrEmpty, n ∉ seen := by
  induction ts generalizing seen with
  | nil => simp [validateTasks]
  | cons t ts ih =>
      by_cases valid : t.IsValid
      · rw [validateTasks_cons_of_valid valid]
        by_cases before : t.nameOrEmpty ∈ seen
        · rw [if_pos before]
          exact ⟨nofun, fun h => absurd before (h.2.2 _ List.mem_cons_self)⟩
        · rw [if_neg before, ih]
          simp only [List.map_cons, List.nodup_cons, List.mem_cons, not_or]
          grind
      · obtain ⟨e, refused, -⟩ := validateTasks_cons_of_not_valid valid
        rw [refused]
        exact ⟨nofun, fun h => absurd (h.1 t List.mem_cons_self) valid⟩

/-- Among tasks behind others with the names `seen`, one is valid and has a name that occurred
before; those up to there are valid and have names that did not. -/
def Repeats (seen : List String) (ts : List TaskConfig) (n : String) : Prop :=
  ∃ before again after, ts = before ++ again :: after ∧ (∀ t ∈ before, t.IsValid) ∧
    again.IsValid ∧ again.nameOrEmpty = n ∧ (before.map TaskConfig.nameOrEmpty).Nodup ∧
    (∀ m ∈ before.map TaskConfig.nameOrEmpty, m ∉ seen) ∧
    (n ∈ seen ∨ n ∈ before.map TaskConfig.nameOrEmpty)

theorem repeats_cons : Repeats seen (t :: ts) n ↔ t.IsValid ∧
    (t.nameOrEmpty ∈ seen ∧ t.nameOrEmpty = n ∨
      t.nameOrEmpty ∉ seen ∧ Repeats (t.nameOrEmpty :: seen) ts n) := by
  constructor
  · rintro ⟨before, again, after, split, valid, proper, same, distinct, fresh, twice⟩
    cases before with
    | nil =>
        obtain ⟨rfl, rfl⟩ := List.cons.inj split
        have there : n ∈ seen := twice.resolve_right List.not_mem_nil
        exact ⟨proper, .inl ⟨same ▸ there, same⟩⟩
    | cons first before =>
        obtain ⟨rfl, rfl⟩ := List.cons.inj split
        refine ⟨valid t List.mem_cons_self, .inr ⟨fresh _ List.mem_cons_self, ?_⟩⟩
        refine ⟨before, again, after, rfl, fun s here => valid s (.tail _ here), proper, same, ?_⟩
        simp only [List.map_cons, List.nodup_cons, List.mem_cons] at distinct fresh twice ⊢
        grind
  · rintro ⟨valid, ⟨there, rfl⟩ | ⟨fresh, before, again, after, rfl, valid', proper, same, rest⟩⟩
    · exact ⟨[], t, ts, rfl, List.forall_mem_nil _, valid, rfl, List.nodup_nil,
        List.forall_mem_nil _, .inl there⟩
    · refine ⟨t :: before, again, after, rfl, List.forall_mem_cons.mpr ⟨valid, valid'⟩, proper,
        same, ?_⟩
      simp only [List.map_cons, List.nodup_cons, List.mem_cons] at rest ⊢
      grind

theorem validateTasks_eq_duplicateTask_iff :
    validateTasks seen ts = .error (.duplicateTask n) ↔ Repeats seen ts n := by
  induction ts generalizing seen with
  | nil => simp [validateTasks, Repeats]
  | cons t ts ih =>
      rw [repeats_cons]
      by_cases valid : t.IsValid
      · rw [validateTasks_cons_of_valid valid]
        by_cases before : t.nameOrEmpty ∈ seen
        · simp [before, valid]
        · simp [before, valid, ih]
      · obtain ⟨e, refused, other⟩ : ∃ e, validateTasks seen (t :: ts) = .error e ∧
            ∀ n, e ≠ .duplicateTask n := validateTasks_cons_of_not_valid valid
        rw [refused]
        exact ⟨fun same => absurd (Except.error.inj same) (other n), fun h => absurd h.1 valid⟩

end Tasks

/-- The period of the process is checked before its tasks. -/
theorem validate_of_period {c : Config} (ordered : ∀ p ∈ c.bufferPeriod?, p.IsOrdered) :
    c.validate = validateTasks [] c.tasks := by
  rw [validate]
  cases set : c.bufferPeriod? with
  | none => rfl
  | some p =>
      rw [set] at ordered
      simp only [PeriodConfig.validate_eq_ok_iff.mpr (ordered p rfl)]
      rfl

theorem validate_of_not_period {c : Config} (reversed : ¬ ∀ p ∈ c.bufferPeriod?, p.IsOrdered) :
    ∃ fault, c.validate = .error (.part fault) := by
  rw [validate]
  cases set : c.bufferPeriod? with
  | none =>
      rw [set] at reversed
      exact absurd nofun reversed
  | some p =>
      cases own : p.validate with
      | error e => exact ⟨e, by simp only [own]; rfl⟩
      | ok =>
          refine absurd (fun q here => ?_) reversed
          cases set.symm.trans here
          exact PeriodConfig.validate_eq_ok_iff.mp own

theorem validate_eq_ok_iff {c : Config} : c.validate = .ok () ↔ c.IsValid := by
  by_cases ordered : ∀ p ∈ c.bufferPeriod?, p.IsOrdered
  · rw [validate_of_period ordered, validateTasks_eq_ok_iff]
    constructor
    · rintro ⟨tasks, names, -⟩
      exact ⟨ordered, tasks, names⟩
    · intro h
      exact ⟨h.tasks, h.names, fun n _ => List.not_mem_nil⟩
  · obtain ⟨fault, refused⟩ := validate_of_not_period ordered
    rw [refused]
    exact ⟨nofun, fun h => absurd h.bufferPeriod ordered⟩

theorem validate_eq_duplicateTask_iff {c : Config} {n : String} :
    c.validate = .error (.duplicateTask n) ↔ c.RepeatsName n := by
  by_cases ordered : ∀ p ∈ c.bufferPeriod?, p.IsOrdered
  · rw [validate_of_period ordered, validateTasks_eq_duplicateTask_iff]
    constructor
    · rintro ⟨before, again, after, split, valid, proper, same, distinct, -, twice⟩
      exact ⟨ordered, before, again, after, split, valid, proper, same, distinct,
        twice.resolve_left List.not_mem_nil⟩
    · rintro ⟨-, before, again, after, split, valid, proper, same, distinct, twice⟩
      exact ⟨before, again, after, split, valid, proper, same, distinct,
        fun _ _ => List.not_mem_nil, .inr twice⟩
  · obtain ⟨fault, refused⟩ := validate_of_not_period ordered
    rw [refused]
    exact ⟨nofun, fun h => absurd h.bufferPeriod ordered⟩

end Config

end TaskSync
