import TaskSync.Proofs.Data.Digits
import TaskSync.Proofs.Data.Reading
import TaskSync.Proofs.Time.Calendar
import TaskSync.Time.Rfc3339

/-!
# Timestamps and their text

A timestamp is read from its text, and whatever the reader accepts is a timestamp of that kind: a
leap second ends a minute, since a text has no other place for it.
-/

namespace TaskSync.Timestamp

open Text

/-! ### Parts of the text -/

theorem not_isBlank_of_isDigit {c : Char} (digit : c.isDigit = true) : isBlank c = false := by
  simp only [Char.isDigit, Bool.and_eq_true, decide_eq_true_eq] at digit
  have low : 48 ≤ c.toNat := digit.1
  have high : c.toNat ≤ 57 := digit.2
  rw [Bool.eq_false_iff]
  intro blank
  simp only [isBlank, Bool.or_eq_true, Bool.and_eq_true, decide_eq_true_eq, beq_iff_eq] at blank
  omega

theorem trimStart_cons {c : Char} (token : isBlank c = false) (cs : List Char) :
    trimStart (c :: cs) = c :: cs := by
  rw [trimStart, List.dropWhile_cons_of_neg (by simp [token])]

/-- Digits stand in front of their rest. -/
theorem trimStart_digits {ds : List Char} (notEmpty : ds ≠ []) (all : ∀ c ∈ ds, c.isDigit = true)
    (rest : List Char) : trimStart (ds ++ rest) = ds ++ rest := by
  obtain ⟨c, ds, rfl⟩ := List.exists_cons_of_ne_nil notEmpty
  exact trimStart_cons (not_isBlank_of_isDigit (all c List.mem_cons_self)) _

/-- A number ends with its width, or where something else than a digit begins. -/
theorem number_digits {width n : Nat} {ds : List Char} (notEmpty : ds ≠ [])
    (all : ∀ c ∈ ds, c.isDigit = true) (denotes : ofDigits? ds = some n) (small : n < 2 ^ 63)
    (narrow : ds.length ≤ width) {rest : List Char}
    (ends : ds.length = width ∨ ∀ c ∈ rest.head?, c.isDigit = false) :
    number width (ds ++ rest) = .ok (n, rest) := by
  obtain ⟨c, cs, front⟩ := List.exists_cons_of_ne_nil notEmpty
  have taken : ((ds ++ rest).take width).takeWhile Char.isDigit = ds := by
    rw [List.take_append, List.take_of_length_le narrow, List.takeWhile_append_of_pos all]
    rcases ends with full | other
    · rw [full, Nat.sub_self, List.take_zero, List.takeWhile_nil, List.append_nil]
    · have none : (rest.take (width - ds.length)).takeWhile Char.isDigit = [] := by
        cases rest with
        | nil => rw [List.take_nil, List.takeWhile_nil]
        | cons d rest =>
          cases width - ds.length with
          | zero => rfl
          | succ k =>
            rw [List.take_succ_cons, List.takeWhile_cons_of_neg (by simp [other d rfl])]
      rw [none, List.append_nil]
  subst front
  rw [List.cons_append] at taken ⊢
  simp only [number, taken, denotes, if_neg notEmpty, if_pos small]
  rw [← List.cons_append, List.drop_left]

/-- Two digits are read as a number between its bounds. -/
theorem bounded_padded {low high n : Nat} (least : low ≤ n) (most : n ≤ high) (small : n < 100)
    (rest : List Char) : bounded low high (padded 2 n ++ rest) = .ok (n, rest) := by
  have length : (padded 2 n).length = 2 := length_padded (by decide) small
  have read : number 2 (padded 2 n ++ rest) = .ok (n, rest) :=
    number_digits (padded_ne_nil 2 n) (fun _ => isDigit_of_mem_padded) (ofDigits?_padded 2 n)
      (by omega) (Nat.le_of_eq length) (.inl length)
  rw [bounded, trimStart_digits (padded_ne_nil 2 n) fun _ => isDigit_of_mem_padded, read]
  exact if_pos ⟨least, most⟩

theorem literal_cons {c : Char} (token : isBlank c = false) (rest : List Char) :
    literal c (c :: rest) = .ok ((), rest) := by
  rw [literal, trimStart_cons token]
  exact if_pos rfl

/-- A year is read as far as the hyphen. -/
theorem year_yearChars {y : Int} (low : -(2 ^ 31) ≤ y) (high : y < 2 ^ 31) (rest : List Char) :
    year (yearChars y ++ '-' :: rest) = .ok (y, '-' :: rest) := by
  have within : -(2 ^ 31 : Int) ≤ y ∧ y < 2 ^ 31 := ⟨low, high⟩
  have hyphen : ∀ c ∈ ('-' :: rest).head?, c.isDigit = false := by
    rintro _ ⟨⟩
    rfl
  have digits : ∀ n, ∀ c ∈ padded 4 n, c.isDigit = true := fun _ _ => isDigit_of_mem_padded
  have token : ∀ c, c = '-' ∨ c = '+' → isBlank c = false ∧ c.isDigit = false := by
    rintro c (rfl | rfl) <;> decide
  rw [yearChars]
  split
  next plain =>
    have length : (padded 4 y.toNat).length = 4 := length_padded (by decide) (by omega)
    have read : number 4 (padded 4 y.toNat ++ '-' :: rest) = .ok (y.toNat, '-' :: rest) :=
      number_digits (padded_ne_nil _ _) (digits _) (ofDigits?_padded _ _) (by omega)
        (Nat.le_of_eq length) (.inl length)
    have whole : ((y.toNat : Nat) : Int) = y := by omega
    obtain ⟨c, cs, front⟩ := List.exists_cons_of_ne_nil (padded_ne_nil 4 y.toNat)
    have digit := digits y.toNat c (front ▸ List.mem_cons_self)
    rw [year, trimStart_digits (padded_ne_nil _ _) (digits _)]
    split
    next same =>
      rw [front] at same
      rw [(List.cons.inj same).1] at digit
      cases digit
    next same =>
      rw [front] at same
      rw [(List.cons.inj same).1] at digit
      cases digit
    next =>
      simp only [read, bind, Except.bind, whole, if_pos within]
  next signed =>
    have read : number (padded 4 y.natAbs ++ '-' :: rest).length
        (padded 4 y.natAbs ++ '-' :: rest) = .ok (y.natAbs, '-' :: rest) :=
      number_digits (padded_ne_nil _ _) (digits _) (ofDigits?_padded _ _) (by omega)
        (by rw [List.length_append]; omega) (.inr hyphen)
    by_cases negative : y < 0
    · have whole : -((y.natAbs : Nat) : Int) = y := by omega
      rw [if_pos negative, List.cons_append, year, trimStart_cons (by decide)]
      simp only [read, bind, Except.bind, whole, if_pos within]
    · have whole : ((y.natAbs : Nat) : Int) = y := by omega
      rw [if_neg negative, List.cons_append, year, trimStart_cons (by decide)]
      simp only [read, bind, Except.bind, whole, if_pos within]

/-- Decimals are read up to the zone. -/
theorem decimals_decimalChars {nanos : Nat} (small : nanos < 10 ^ 9) {rest : List Char}
    (point : ∀ c ∈ rest.head?, c.isDigit = false ∧ c ≠ '.') :
    decimals (decimalChars nanos ++ rest) = .ok (nanos, rest) := by
  have stop : rest.dropWhile Char.isDigit = rest := by
    cases rest with
    | nil => rfl
    | cons c rest => exact List.dropWhile_cons_of_neg (by simp [(point c rfl).1])
  have read : ∀ width n, 0 < width → width ≤ 9 → n < 10 ^ width →
      decimals ('.' :: padded width n ++ rest) = .ok (n * 10 ^ (9 - width), rest) := by
    intro width n positive narrow below
    have length := length_padded positive below
    have bound : (10 : Nat) ^ width ≤ 10 ^ 9 := Nat.pow_le_pow_right (by decide) narrow
    have digits : number 9 (padded width n ++ rest) = .ok (n, rest) :=
      number_digits (padded_ne_nil _ _) (fun _ => isDigit_of_mem_padded) (ofDigits?_padded _ _)
        (by omega) (by omega) (.inr fun c here => (point c here).1)
    rw [List.cons_append, decimals]
    simp only [digits, bind, Except.bind, List.length_append, length, Nat.add_sub_cancel, stop]
  rw [decimalChars]
  split
  next none =>
    rw [List.nil_append, none]
    cases rest with
    | nil => rfl
    | cons c rest =>
      have apart := (point c rfl).2
      rw [decimals]
      intro cs same
      exact apart (List.cons.inj same).1
  next =>
    split
    next => rw [read 3 _ (by decide) (by decide) (by omega)]; congr 2; omega
    next =>
      split
      next => rw [read 6 _ (by decide) (by decide) (by omega)]; congr 2; omega
      next => rw [read 9 _ (by decide) (by decide) small]; congr 2; omega

/-! ### Whole texts -/

/-- An instant that has a place on a clock: the nanoseconds of a leap second follow on the last
second of a minute. -/
structure Clocked (t : Timestamp) : Prop where
  second : inRange t.second = true
  nano : t.nano < 2 * nanosPerSecond
  leap : nanosPerSecond ≤ t.nano → t.second % 60 = 59

instance (t : Timestamp) : Decidable t.Clocked :=
  decidable_of_iff (inRange t.second = true ∧ t.nano < 2 * nanosPerSecond ∧
      (nanosPerSecond ≤ t.nano → t.second % 60 = 59))
    ⟨fun h => ⟨h.1, h.2.1, h.2.2⟩, fun h => ⟨h.1, h.2, h.3⟩⟩

variable {t : Timestamp}

theorem year_of_inRange (h : inRange t.second = true) :
    minYear ≤ (Date.ofDays (t.second / 86400)).year ∧
      (Date.ofDays (t.second / 86400)).year ≤ maxYear := by
  obtain ⟨low, high⟩ := of_decide_eq_true h
  exact Date.year_ofDays _ (by omega) (by omega)

/-- The parts of a text make the timestamp again. -/
theorem Clocked.assemble (h : t.Clocked) {h' : Nat} {date : Date}
    (day : Date.ofDays (t.second / 86400) = date) (clock : t.secondOfDay.toNat = h') :
    Timestamp.assemble date.year date.month date.day (h' / 3600) (h' / 60 % 60)
      (h' % 60 + t.nano / nanosPerSecond) (t.nano % nanosPerSecond) 0 = .ok t := by
  have years := year_of_inRange h.second
  have found := Date.exists?_ofDays (t.second / 86400)
  have days := Date.toDays_ofDays (t.second / 86400)
  rw [day] at years found days
  obtain ⟨second, nano, leap⟩ := h
  unfold nanosPerSecond at nano leap
  have clock' : (h' : Int) = t.second % 86400 := by
    rw [← clock, secondOfDay]
    omega
  have parts : (if h' % 60 + t.nano / nanosPerSecond = 60 then
      (59, t.nano % nanosPerSecond + nanosPerSecond)
      else (h' % 60 + t.nano / nanosPerSecond, t.nano % nanosPerSecond)) = (h' % 60, t.nano) := by
    unfold nanosPerSecond
    split
    next full =>
      have one : t.nano / 10 ^ 9 = 1 := by omega
      rw [Prod.mk.injEq]
      omega
    next =>
      have zero : t.nano / 10 ^ 9 = 0 := by
        by_cases big : 10 ^ 9 ≤ t.nano
        · have last := leap big
          omega
        · omega
      rw [Prod.mk.injEq]
      omega
  have whole : date.toDays * 86400 + ((h' / 3600 * 3600 + h' / 60 % 60 * 60 + h' % 60 : Nat) : Int)
      - 0 = t.second := by
    omega
  simp only [Timestamp.assemble, found, parts, whole, second, if_true,
    if_neg (by omega : ¬ (date.year < minYear ∨ maxYear < date.year)),
    if_neg (by decide : ¬ ((0 : Int) ≤ -86400 ∨ 86400 ≤ (0 : Int)))]

/-- The parts of a date have two digits, years aside. -/
theorem date_bounds (n : Int) : 1 ≤ (Date.ofDays n).month ∧ (Date.ofDays n).month ≤ 12 ∧
    1 ≤ (Date.ofDays n).day ∧ (Date.ofDays n).day ≤ 31 := by
  have found := Date.exists?_ofDays n
  rw [Date.exists?] at found
  split at found
  next h =>
    have length : Date.daysInMonth (Date.ofDays n).year (Date.ofDays n).month ≤ 31 := by
      unfold Date.daysInMonth
      split
      · split <;> decide
      · split <;> decide
    omega
  next => cases found

/-- A timestamp is read from its text. -/
theorem Clocked.read_text (h : t.Clocked) : read t.text = .ok t := by
  have years := year_of_inRange h.second
  have bounds := date_bounds (t.second / 86400)
  have assembled := h.assemble rfl rfl
  have clock : t.secondOfDay.toNat < 86400 := by
    rw [secondOfDay]
    omega
  have leap : t.nano / nanosPerSecond ≤ 1 := Nat.le_of_lt_succ (Nat.div_lt_of_lt_mul (by
    have small := h.nano
    omega))
  have nanos : t.nano % nanosPerSecond < 10 ^ 9 := Nat.mod_lt _ (by decide)
  have low : -(2 ^ 31) ≤ (Date.ofDays (t.second / 86400)).year := by
    unfold minYear at years
    omega
  have high : (Date.ofDays (t.second / 86400)).year < 2 ^ 31 := by
    unfold maxYear at years
    omega
  have zone : zone ['Z'] = .ok (0, []) := rfl
  have fraction : decimals (decimalChars (t.nano % nanosPerSecond) ++ ['Z']) =
      .ok (t.nano % nanosPerSecond, ['Z']) :=
    decimals_decimalChars nanos (by rintro _ ⟨⟩; decide)
  rw [read, text, String.toList_ofList, localChars]
  simp only [List.append_assoc, List.cons_append]
  simp only [readChars, year_yearChars low high, literal_cons (by decide : isBlank '-' = false),
    literal_cons (by decide : isBlank ':' = false), separator,
    bounded_padded bounds.1 bounds.2.1 (by omega),
    bounded_padded bounds.2.2.1 bounds.2.2.2 (by omega),
    bounded_padded (Nat.zero_le _) (by omega : t.secondOfDay.toNat / 3600 ≤ 23) (by omega),
    bounded_padded (Nat.zero_le _) (by omega : t.secondOfDay.toNat / 60 % 60 ≤ 59) (by omega),
    bounded_padded (Nat.zero_le _)
      (by omega : t.secondOfDay.toNat % 60 + t.nano / nanosPerSecond ≤ 60) (by omega),
    fraction, zone, bind, Except.bind,
    trimStart_cons (by decide : isBlank 'Z' = false), or_true, true_or, if_true]
  exact assembled

/-! ### Accepted texts -/

/-- A number has no more digits than its width. -/
theorem lt_of_number {width n : Nat} {cs rest : List Char}
    (taken : number width cs = .ok (n, rest)) :
    cs.length - rest.length ≤ width ∧ n < 10 ^ (cs.length - rest.length) := by
  unfold number at taken
  split at taken
  · cases taken
  next =>
    have digits : ∀ c ∈ (cs.take width).takeWhile Char.isDigit, c.isDigit = true :=
      List.all_eq_true.mp List.all_takeWhile
    have short : ((cs.take width).takeWhile Char.isDigit).length ≤ min width cs.length := by
      have cut := (List.takeWhile_prefix (l := cs.take width) Char.isDigit).length_le
      rwa [List.length_take] at cut
    simp only [ofDigits?_eq digits] at taken
    split at taken
    · cases taken
    · split at taken
      next =>
        obtain ⟨rfl, rfl⟩ := Prod.mk.inj (Except.ok.inj taken)
        have bound := ofDigitChars_lt digits 0
        rw [Nat.zero_add, Nat.one_mul] at bound
        have length : cs.length - (cs.drop ((cs.take width).takeWhile Char.isDigit).length).length =
            ((cs.take width).takeWhile Char.isDigit).length := by
          rw [List.length_drop]
          omega
        rw [length]
        exact ⟨by omega, bound⟩
      next => cases taken

theorem lt_of_decimals {n : Nat} {cs rest : List Char} (taken : decimals cs = .ok (n, rest)) :
    n < nanosPerSecond := by
  unfold decimals at taken
  split at taken
  next cs =>
    obtain ⟨⟨m, rest'⟩, number, rest⟩ := of_bind_eq_ok taken
    obtain ⟨rfl, -⟩ := Prod.mk.inj (Except.ok.inj rest)
    obtain ⟨narrow, small⟩ := lt_of_number number
    have whole : nanosPerSecond =
        10 ^ (cs.length - rest'.length) * 10 ^ (9 - (cs.length - rest'.length)) := by
      rw [← Nat.pow_add, Nat.add_sub_of_le narrow]
      rfl
    rw [whole]
    exact Nat.mul_lt_mul_of_pos_right small (Nat.pow_pos (by decide))
  next =>
    obtain ⟨rfl, -⟩ := Prod.mk.inj (Except.ok.inj taken)
    decide

/-- An offset is a number of minutes. -/
theorem minutes_of_offset {off : Int} {cs rest : List Char} (taken : offset cs = .ok (off, rest)) :
    off % 60 = 0 := by
  unfold offset at taken
  split at taken
  · cases taken
  next c cs =>
    split at taken
    · obtain ⟨rfl, -⟩ := Prod.mk.inj (Except.ok.inj taken)
      rfl
    · split at taken
      · obtain ⟨⟨h1, h2, cs'⟩, -, hours⟩ := of_bind_eq_ok taken
        obtain ⟨⟨m1, m2, cs''⟩, -, minutes⟩ := of_bind_eq_ok hours
        simp only at minutes
        split at minutes
        · cases minutes
        · obtain ⟨rfl, -⟩ := Prod.mk.inj (Except.ok.inj minutes)
          split <;> omega
      · cases taken

theorem minutes_of_zone {off : Int} {cs rest : List Char} (taken : zone cs = .ok (off, rest)) :
    off % 60 = 0 := by
  unfold zone at taken
  simp only at taken
  split at taken
  · obtain ⟨rfl, -⟩ := Prod.mk.inj (Except.ok.inj taken)
    rfl
  · exact minutes_of_offset taken

theorem clocked_of_assemble {y : Int} {mo d h mi s nanos : Nat} {off : Int}
    (small : nanos < nanosPerSecond) (minutes : off % 60 = 0)
    (made : Timestamp.assemble y mo d h mi s nanos off = .ok t) : t.Clocked := by
  unfold Timestamp.assemble at made
  split at made
  · cases made
  next date =>
    split at made
    · cases made
    · split at made
      · cases made
      · unfold nanosPerSecond at small
        by_cases leap : s = 60
        · simp only [if_pos leap] at made
          split at made
          next range =>
            obtain rfl := Except.ok.inj made
            exact ⟨range, by unfold nanosPerSecond; simp only; omega, fun _ => by simp only; omega⟩
          next => cases made
        · simp only [if_neg leap] at made
          split at made
          next range =>
            obtain rfl := Except.ok.inj made
            refine ⟨range, by unfold nanosPerSecond; simp only; omega, fun large => ?_⟩
            unfold nanosPerSecond at large
            simp only at large
            omega
          next => cases made

/-- Whatever text is accepted, there is a place on a clock for what it says. -/
theorem clocked_of_read {s : String} (read : read s = .ok t) : t.Clocked := by
  obtain ⟨⟨y, cs1⟩, -, read⟩ := of_bind_eq_ok read
  obtain ⟨⟨_, cs2⟩, -, read⟩ := of_bind_eq_ok read
  obtain ⟨⟨mo, cs3⟩, -, read⟩ := of_bind_eq_ok read
  obtain ⟨⟨_, cs4⟩, -, read⟩ := of_bind_eq_ok read
  obtain ⟨⟨d, cs5⟩, -, read⟩ := of_bind_eq_ok read
  obtain ⟨⟨_, cs6⟩, -, read⟩ := of_bind_eq_ok read
  obtain ⟨⟨h, cs7⟩, -, read⟩ := of_bind_eq_ok read
  obtain ⟨⟨_, cs8⟩, -, read⟩ := of_bind_eq_ok read
  obtain ⟨⟨mi, cs9⟩, -, read⟩ := of_bind_eq_ok read
  obtain ⟨⟨_, cs10⟩, -, read⟩ := of_bind_eq_ok read
  obtain ⟨⟨s, cs11⟩, -, read⟩ := of_bind_eq_ok read
  obtain ⟨⟨nanos, cs12⟩, decimals, read⟩ := of_bind_eq_ok read
  obtain ⟨⟨off, cs13⟩, zone, read⟩ := of_bind_eq_ok read
  simp only at read
  split at read
  · cases read
  · exact clocked_of_assemble (lt_of_decimals decimals) (minutes_of_zone zone) read

end TaskSync.Timestamp
