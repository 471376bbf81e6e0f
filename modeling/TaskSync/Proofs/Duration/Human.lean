import TaskSync.Duration.Human
import TaskSync.Proofs.Data.Digits

/-!
# Durations and their human form

A duration is read from its human form. Its spans are written largest unit first, each at most once
and none that is zero, and the reader adds them up as it comes to them.
-/

namespace TaskSync.Duration

open Text

/-! ### Numbers and units -/

/-- A letter is neither a digit nor a blank. -/
theorem letter_apart {c : Char} (letter : isUnitLetter c = true) :
    c.isDigit = false ∧ isBlank c = false := by
  have range : 97 ≤ c.toNat ∧ c.toNat ≤ 122 ∨ 65 ≤ c.toNat ∧ c.toNat ≤ 90 ∨ c.toNat = 181 := by
    simp only [isUnitLetter, Bool.or_eq_true, Bool.and_eq_true, decide_eq_true_eq, beq_iff_eq]
      at letter
    rcases letter with (⟨low, high⟩ | ⟨low, high⟩) | rfl
    · exact .inl ⟨low, high⟩
    · exact .inr (.inl ⟨low, high⟩)
    · exact .inr (.inr rfl)
  constructor
  · rw [Bool.eq_false_iff]
    intro digit
    simp only [Char.isDigit, Bool.and_eq_true, decide_eq_true_eq] at digit
    have high : c.toNat ≤ 57 := digit.2
    omega
  · rw [Bool.eq_false_iff]
    intro blank
    simp only [isBlank, Bool.or_eq_true, Bool.and_eq_true, decide_eq_true_eq, beq_iff_eq] at blank
    omega

/-- A number ends where its unit begins. -/
theorem readNumber_append {ds : List Char} (all : ∀ c ∈ ds, c.isDigit = true) {n : Nat}
    (fits : Nat.ofDigitChars 10 ds n < wordLimit) {c : Char} (letter : isUnitLetter c = true)
    (rest : List Char) :
    readNumber n (ds ++ c :: rest) = some (Nat.ofDigitChars 10 ds n, none, c :: rest) := by
  induction ds generalizing n with
  | nil =>
    obtain ⟨noDigit, noBlank⟩ := letter_apart letter
    simp [readNumber, digit?, noDigit, noBlank, letter]
  | cons d ds ih =>
    rw [Nat.ofDigitChars_cons] at fits ⊢
    have below := Nat.lt_of_le_of_lt (le_ofDigitChars ds _) fits
    rw [List.cons_append, readNumber, digit?_of_isDigit (all d List.mem_cons_self)]
    simp only [fit?, Nat.mul_comm n 10, if_pos below]
    exact ih (fun c here => all c (List.mem_cons_of_mem _ here)) fits

/-- A unit ends with the text, or at a blank, which belongs to nothing. -/
theorem readUnit_last {name : List Char} (letters : ∀ c ∈ name, isUnitLetter c = true) :
    readUnit name = some (name, []) := by
  induction name with
  | nil => rfl
  | cons c cs ih =>
    have letter := letters c List.mem_cons_self
    obtain ⟨noDigit, noBlank⟩ := letter_apart letter
    simp [readUnit, noDigit, noBlank, letter, ih fun c here => letters c (.tail _ here)]

theorem readUnit_blank {name : List Char} (letters : ∀ c ∈ name, isUnitLetter c = true)
    (rest : List Char) : readUnit (name ++ ' ' :: rest) = some (name, rest) := by
  induction name with
  | nil => rfl
  | cons c cs ih =>
    have letter := letters c List.mem_cons_self
    obtain ⟨noDigit, noBlank⟩ := letter_apart letter
    simp [readUnit, noDigit, noBlank, letter, ih fun c here => letters c (.tail _ here)]

/-! ### Sums -/

/-- The nanoseconds of one unit. -/
def SpanUnit.nanos (u : SpanUnit) : Nat :=
  match u.amount with
  | .nanos n => n
  | .secs n => n * 10 ^ 9

theorem SpanUnit.nanos_of_nanos {u : SpanUnit} {k : Nat} (amount : u.amount = .nanos k) :
    u.nanos = k := by
  rw [nanos, amount]

theorem SpanUnit.nanos_of_secs {u : SpanUnit} {k : Nat} (amount : u.amount = .secs k) :
    u.nanos = k * 10 ^ 9 := by
  rw [nanos, amount]

/-- A sum whose parts are small enough is taken as it is. -/
theorem plus?_eq {sum total : Duration} {secs nanos : Nat} (small : nanos < 10 ^ 9)
    (adds : total.ns = sum.ns + (secs * 10 ^ 9 + nanos)) : sum.plus? secs nanos = some total := by
  have bound := total.ns_lt
  have within := sum.nanos_lt
  have whole := sum.secs_nanos
  have fitNanos : fit? (sum.nanos + nanos) = some (sum.nanos + nanos) :=
    if_pos (by unfold wordLimit; omega)
  have fitSecs : fit? (sum.secs + (secs + (sum.nanos + nanos) / 10 ^ 9)) =
      some (sum.secs + (secs + (sum.nanos + nanos) / 10 ^ 9)) :=
    if_pos (by unfold wordLimit; omega)
  have same : (sum.secs + (secs + (sum.nanos + nanos) / 10 ^ 9)) * 10 ^ 9
      + (sum.nanos + nanos) % 10 ^ 9 = total.ns := by
    rw [adds, ← whole, Nat.add_mul, Nat.add_mul, Nat.add_assoc, Nat.add_assoc,
      Nat.div_add_mod']
    omega
  unfold plus?
  rw [fitNanos, Option.bind_eq_bind, Option.bind_some, fitSecs, Option.bind_some, same]
  exact total.ofNanos?_ns

/-- So many of a unit below a second amount to less than a second. -/
def SpanUnit.Small (u : SpanUnit) (n : Nat) : Prop :=
  ∀ k, u.amount = .nanos k → n * k < 10 ^ 9

/-- A span without a fraction adds its units. -/
theorem plusSpan?_eq {sum total : Duration} {n : Nat} {u : SpanUnit} (small : u.Small n)
    (adds : total.ns = sum.ns + n * u.nanos) : sum.plusSpan? ⟨n, none, u⟩ = some total := by
  have bound := total.ns_lt
  have added : sum.plusAmount? n 1 u.amount = some total := by
    cases amount : u.amount with
    | nanos k =>
      rw [SpanUnit.nanos_of_nanos amount] at adds
      have below := small k amount
      have fit : fit? (n * k) = some (n * k) := if_pos (by unfold wordLimit; omega)
      rw [plusAmount?, fit, Option.bind_eq_bind, Option.bind_some, if_pos (Nat.mod_one _),
        Nat.div_one]
      exact plus?_eq below (by rw [Nat.zero_mul, Nat.zero_add]; exact adds)
    | secs k =>
      rw [SpanUnit.nanos_of_secs amount, ← Nat.mul_assoc] at adds
      have fit : fit? (n * k) = some (n * k) := if_pos (by unfold wordLimit; omega)
      rw [plusAmount?, fit, Option.bind_eq_bind, Option.bind_some, if_pos (Nat.mod_one _),
        Nat.div_one]
      exact plus?_eq (by decide) (by rw [Nat.add_zero]; exact adds)
  simp only [plusSpan?, added, Option.bind_eq_bind, Option.bind_some]

/-- So many units that a duration can hold are read as a number. -/
theorem SpanUnit.Small.lt {n : Nat} {u : SpanUnit} (small : u.Small n)
    (bound : n * u.nanos < 2 ^ 64 * 10 ^ 9) : n < wordLimit := by
  have positive : ∀ k, u.amount = .nanos k ∨ u.amount = .secs k → 0 < k := by
    intro k amount
    cases u <;> rcases amount with h | h <;> cases h <;> decide
  have grows : ∀ k, 0 < k → n ≤ n * k := fun k h => Nat.le_mul_of_pos_right n h
  unfold wordLimit
  cases amount : u.amount with
  | nanos k =>
    have below := small k amount
    have least := grows k (positive k (.inl amount))
    omega
  | secs k =>
    rw [nanos_of_secs amount, ← Nat.mul_assoc] at bound
    have least := grows k (positive k (.inr amount))
    omega

/-! ### Items -/

/-- Spans with a blank between each and the next one. -/
def joined (spans : List (List Char)) : List Char := [' '].intercalate spans

/-- The spans hold letters, and the reader adds so many nanoseconds when it comes to them. -/
structure Worth (spans : List (List Char)) (ns : Nat) : Prop where
  reads : ∀ (more : List (List Char)) (fuel : Nat) (sum total : Duration),
    total.ns = sum.ns + ns →
      readSpans (fuel + spans.length) sum (joined (spans ++ more)) =
        readSpans fuel total (joined more)
  letters : ∀ span ∈ spans, ∃ c ∈ span, isUnitLetter c = true

theorem Worth.nil : Worth [] 0 where
  reads more fuel sum total same := by
    rw [ext same]
    rfl
  letters := nofun

theorem Worth.of_eq {spans : List (List Char)} {ns ns' : Nat} (h : Worth spans ns)
    (same : ns = ns') : Worth spans ns' := same ▸ h

theorem Worth.append {spans spans' : List (List Char)} {ns ns' : Nat} (h : Worth spans ns)
    (h' : Worth spans' ns') : Worth (spans ++ spans') (ns + ns') where
  reads more fuel sum total adds := by
    have bound := total.ns_lt
    have first := h.reads (spans' ++ more) (fuel + spans'.length) sum ⟨sum.ns + ns, by omega⟩ rfl
    rw [List.append_assoc, List.length_append, Nat.add_comm spans.length, ← Nat.add_assoc, first]
    exact h'.reads more fuel _ total (by simp only; omega)
  letters span here := (List.mem_append.mp here).elim (h.letters span) (h'.letters span)

theorem joined_cons (span next : List Char) (more : List (List Char)) :
    joined (span :: next :: more) = span ++ ' ' :: joined (next :: more) := by
  simp [joined, List.intercalate]

/-- Where one span ends, the reader goes on with the next. -/
theorem readUnit_joined {name : List Char} (letters : ∀ c ∈ name, isUnitLetter c = true)
    (ds : List Char) (more : List (List Char)) :
    ∃ rest, joined ((ds ++ name) :: more) = ds ++ (name ++ rest) ∧
      readUnit (name ++ rest) = some (name, joined more) := by
  cases more with
  | nil => exact ⟨[], by simp [joined], by rw [List.append_nil]; exact readUnit_last letters⟩
  | cons next more =>
    exact ⟨' ' :: joined (next :: more), by rw [joined_cons, List.append_assoc],
      readUnit_blank letters _⟩

/-- A number with a unit behind it. -/
theorem Worth.span {n : Nat} {name : List Char} {u : SpanUnit} {c : Char} {cs : List Char}
    (named : SpanUnit.ofName? name = some u) (front : name = c :: cs)
    (letters : ∀ c ∈ name, isUnitLetter c = true) (small : u.Small n) :
    Worth [digits n ++ name] (n * u.nanos) where
  reads more fuel sum total adds := by
    have bound := total.ns_lt
    have fits := small.lt (by omega)
    obtain ⟨rest, text, ends⟩ := readUnit_joined letters (digits n) more
    obtain ⟨d, ds, digits_⟩ := List.exists_cons_of_ne_nil (digits_ne_nil n)
    have isDigit : ∀ c ∈ d :: ds, c.isDigit = true := fun c here =>
      isDigit_of_mem_digits (digits_ ▸ here)
    have value : Nat.ofDigitChars 10 ds (d.toNat - '0'.toNat) = n := by
      have whole := ofDigitChars_digits n
      rw [digits_, Nat.ofDigitChars_cons, Nat.mul_zero, Nat.zero_add] at whole
      exact whole
    -- the first digit has been read when the number is
    have number := readNumber_append (fun c here => isDigit c (.tail _ here))
      (value.symm ▸ fits) (letters c (front ▸ List.mem_cons_self)) (cs ++ rest)
    rw [value, ← List.cons_append, ← front] at number
    have span : readSpan (d.toNat - '0'.toNat) (ds ++ (name ++ rest)) =
        some (⟨n, none, u⟩, joined more) := by
      simp only [readSpan, number, ends, named, Option.bind_eq_bind, Option.bind_some]
    have firstDigit : readFirstDigit (d :: ds ++ (name ++ rest)) =
        some (some (d.toNat - '0'.toNat, ds ++ (name ++ rest))) := by
      rw [List.cons_append, readFirstDigit, digit?_of_isDigit (isDigit d List.mem_cons_self)]
    rw [List.singleton_append, text, digits_, List.length_singleton, readSpans, firstDigit]
    simp only [span, plusSpan?_eq small adds]
  letters span here := by
    rw [List.mem_singleton.mp here, front]
    exact ⟨c, List.mem_append_right _ List.mem_cons_self,
      letters c (front ▸ List.mem_cons_self)⟩

/-- The names that a unit is written with: they have letters, and are read as the unit. -/
structure SpanUnit.Named (u : SpanUnit) (name : List Char) : Prop where
  read : SpanUnit.ofName? name = some u
  letters : name.all isUnitLetter = true
  some : name ≠ []

instance (u : SpanUnit) (name : List Char) : Decidable (u.Named name) :=
  decidable_of_iff (SpanUnit.ofName? name = some u ∧ name.all isUnitLetter = true ∧ name ≠ [])
    ⟨fun h => ⟨h.1, h.2.1, h.2.2⟩, fun h => ⟨h.read, h.letters, h.some⟩⟩

theorem Worth.named {n : Nat} {name : List Char} {u : SpanUnit} (named : u.Named name)
    (small : u.Small n) : Worth [digits n ++ name] (n * u.nanos) := by
  obtain ⟨c, cs, front⟩ := List.exists_cons_of_ne_nil named.some
  exact .span named.read front (List.all_eq_true.mp named.letters) small

theorem Worth.item {n : Nat} {name : String} {u : SpanUnit} (named : u.Named name.toList)
    (small : u.Small n) : Worth (item name n) (n * u.nanos) := by
  unfold Duration.item
  split
  next zero =>
    rw [zero, Nat.zero_mul]
    exact .nil
  · exact .named named small

theorem Worth.pluralItem {n : Nat} {name : String} {u : SpanUnit} (one : u.Named name.toList)
    (more : u.Named (name.toList ++ ['s'])) (small : u.Small n) :
    Worth (pluralItem name n) (n * u.nanos) := by
  unfold Duration.pluralItem
  split
  next zero =>
    rw [zero, Nat.zero_mul]
    exact .nil
  · rw [List.append_assoc]
    split
    · rw [List.append_nil]
      exact .named one small
    · exact .named more small

/-- From a second on, any number of a unit may be written. -/
theorem SpanUnit.small_of_secs {u : SpanUnit} {k : Nat} (secs : u.amount = .secs k) (n : Nat) :
    u.Small n := by
  intro k' nanos
  rw [secs] at nanos
  cases nanos

theorem SpanUnit.small_of_nanos {u : SpanUnit} {k n : Nat} (nanos : u.amount = .nanos k)
    (below : n * k < 10 ^ 9) : u.Small n := by
  intro k' same
  rw [nanos] at same
  cases same
  exact below

theorem secs_eq (s : Nat) :
    s / 31557600 * 31557600 + s % 31557600 / 2630016 * 2630016
      + s % 31557600 % 2630016 / 86400 * 86400 + s % 31557600 % 2630016 % 86400 / 3600 * 3600
      + s % 31557600 % 2630016 % 86400 % 3600 / 60 * 60
      + s % 31557600 % 2630016 % 86400 % 60 * 1 = s := by
  omega

theorem nanos_eq (n : Nat) : n / 1000000 * 1000000 + n / 1000 % 1000 * 1000 + n % 1000 * 1 = n := by
  omega

/-- The spans of a duration are worth the duration. -/
theorem worth_humanItems (d : Duration) : Worth d.humanItems d.ns := by
  have within := d.nanos_lt
  have whole := d.secs_nanos
  have year : Worth (pluralItem "year" (d.secs / 31557600)) _ :=
    .pluralItem (u := .year) (by decide) (by decide) (SpanUnit.small_of_secs rfl _)
  have month : Worth (pluralItem "month" (d.secs % 31557600 / 2630016)) _ :=
    .pluralItem (u := .month) (by decide) (by decide) (SpanUnit.small_of_secs rfl _)
  have day : Worth (pluralItem "day" (d.secs % 31557600 % 2630016 / 86400)) _ :=
    .pluralItem (u := .day) (by decide) (by decide) (SpanUnit.small_of_secs rfl _)
  have hour : Worth (item "h" (d.secs % 31557600 % 2630016 % 86400 / 3600)) _ :=
    .item (u := .hour) (by decide) (SpanUnit.small_of_secs rfl _)
  have minute : Worth (item "m" (d.secs % 31557600 % 2630016 % 86400 % 3600 / 60)) _ :=
    .item (u := .minute) (by decide) (SpanUnit.small_of_secs rfl _)
  have second : Worth (item "s" (d.secs % 31557600 % 2630016 % 86400 % 60)) _ :=
    .item (u := .second) (by decide) (SpanUnit.small_of_secs rfl _)
  have milli : Worth (item "ms" (d.nanos / 1000000)) _ :=
    .item (u := .millisecond) (by decide) (SpanUnit.small_of_nanos rfl (by omega))
  have micro : Worth (item "us" (d.nanos / 1000 % 1000)) _ :=
    .item (u := .microsecond) (by decide) (SpanUnit.small_of_nanos rfl (by omega))
  have nano : Worth (item "ns" (d.nanos % 1000)) _ :=
    .item (u := .nanosecond) (by decide) (SpanUnit.small_of_nanos rfl (by omega))
  have all := (((((((year.append month).append day).append hour).append minute).append
    second).append milli).append micro).append nano
  refine all.of_eq ?_
  rw [← whole]
  conv => rhs; rw [← secs_eq d.secs, ← nanos_eq d.nanos]
  simp only [SpanUnit.nanos, SpanUnit.amount, Nat.add_mul, Nat.mul_assoc, Nat.add_assoc]

/-! ### The whole text -/

theorem mem_joined {spans : List (List Char)} {span : List Char} {c : Char} (here : span ∈ spans)
    (inside : c ∈ span) : c ∈ joined spans := by
  induction spans with
  | nil => cases here
  | cons first spans ih =>
    cases spans with
    | nil =>
      rw [List.mem_singleton.mp here] at inside
      simpa [joined] using inside
    | cons next more =>
      rw [joined_cons]
      rcases List.mem_cons.mp here with rfl | later
      · exact List.mem_append_left _ inside
      · exact List.mem_append_right _ (.tail _ (ih later))

/-- The text has a character at least for each span. -/
theorem Worth.length_le {spans : List (List Char)} {ns : Nat} (h : Worth spans ns) :
    spans.length ≤ (joined spans).length := by
  have letters := h.letters
  clear h
  induction spans with
  | nil => exact Nat.zero_le _
  | cons first spans ih =>
    obtain ⟨c, inside, -⟩ := letters first List.mem_cons_self
    have positive := List.length_pos_of_mem inside
    cases spans with
    | nil => simpa [joined] using Nat.succ_le_of_lt positive
    | cons next more =>
      have rest := ih fun span here => letters span (.tail _ here)
      simp only [joined_cons, List.length_append, List.length_cons] at rest ⊢
      omega

/-- A duration that is not zero has a span. -/
theorem humanItems_ne_nil {d : Duration} (some : d ≠ zero) : d.humanItems ≠ [] := by
  intro none
  have worth := d.worth_humanItems
  rw [none] at worth
  have same := worth.reads [] 1 zero d (Nat.zero_add _).symm
  exact some (Option.some.inj same).symm

/-- A duration is read from its human form. -/
theorem ofHuman?_human (d : Duration) : ofHuman? d.human = some d := by
  have chars : d.human.toList = d.humanChars := String.toList_ofList
  rw [ofHuman?, chars, humanChars]
  split
  next zero =>
    rw [zero]
    rfl
  next some =>
    have worth := d.worth_humanItems
    obtain ⟨span, spans, items⟩ := List.exists_cons_of_ne_nil (humanItems_ne_nil some)
    obtain ⟨c, inside, letter⟩ := worth.letters span (items ▸ List.mem_cons_self)
    have here : c ∈ joined d.humanItems := mem_joined (items ▸ List.mem_cons_self) inside
    have long : joined d.humanItems ≠ ['0'] := by
      intro short
      rw [short, List.mem_singleton] at here
      rw [here] at letter
      exact absurd letter (by decide)
    have marked : ¬ (joined d.humanItems).all isBlank = true := by
      intro blank
      have noBlank := (letter_apart letter).2
      rw [List.all_eq_true.mp blank c here] at noBlank
      cases noBlank
    have room := worth.length_le
    -- the fuel is one more than there are characters, and each span has a character
    have reads := worth.reads [] ((joined d.humanItems).length + 1 - d.humanItems.length) zero d
      (Nat.zero_add _).symm
    rw [List.append_nil, Nat.sub_add_cancel (by omega)] at reads
    show ofHumanChars? (joined d.humanItems) = _
    rw [ofHumanChars?, if_neg long, if_neg marked, reads,
      show (joined d.humanItems).length + 1 - d.humanItems.length =
        (joined d.humanItems).length - d.humanItems.length + 1 by omega]
    rfl

end TaskSync.Duration
