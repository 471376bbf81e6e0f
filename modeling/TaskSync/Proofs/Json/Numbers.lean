import TaskSync.Json.Reader
import TaskSync.Json.Writer
import TaskSync.Proofs.Data.Digits
import Mathlib.Data.List.TakeDrop

/-!
# Numbers of JSON texts

A number ends where nothing follows that would go on with it, so what is read from a number alone
is read from it in front of any such rest. Whole numbers of 64 bits are read back; of a double
only its own text can tell.
-/

namespace TaskSync.Json

open Text

/-- Nothing at the front goes on with a number. -/
def Ends (rest : List Char) : Prop :=
  ∀ c ∈ rest.head?, c.isDigit = false ∧ c ≠ '.' ∧ c ≠ 'e' ∧ c ≠ 'E'

theorem ends_nil : Ends [] := nofun

theorem ends_cons (c : Char) (cs : List Char)
    (other : c.isDigit = false ∧ c ≠ '.' ∧ c ≠ 'e' ∧ c ≠ 'E') : Ends (c :: cs) := by
  intro d here
  obtain rfl : c = d := by simpa using here
  exact other

section Rest

variable {cs r rest ds : List Char}

theorem spanDigits_eq (cs : List Char) :
    spanDigits cs = (cs.takeWhile Char.isDigit, cs.dropWhile Char.isDigit) :=
  List.span_eq_takeWhile_dropWhile Char.isDigit cs

theorem spanDigits_append (ends : Ends rest) (cs : List Char) :
    spanDigits (cs ++ rest) = ((spanDigits cs).1, (spanDigits cs).2 ++ rest) := by
  simp only [spanDigits_eq]
  induction cs with
  | nil =>
    cases rest with
    | nil => rfl
    | cons c cs => simp [(ends c rfl).1]
  | cons c cs ih =>
    by_cases digit : c.isDigit = true
    · simp only [Prod.mk.injEq] at ih
      simp [digit, ih.1, ih.2]
    · simp [digit]

theorem someDigits?_append (ends : Ends rest) (read : someDigits? cs = some (ds, r)) :
    someDigits? (cs ++ rest) = some (ds, r ++ rest) := by
  unfold someDigits? at read ⊢
  rw [spanDigits_append ends]
  split at read
  · cases read
  · rename_i notEmpty
    obtain ⟨rfl, rfl⟩ : (spanDigits cs).1 = ds ∧ (spanDigits cs).2 = r := by
      rw [Option.some.inj read]
      exact ⟨rfl, rfl⟩
    split
    · rename_i empty
      exact (notEmpty _ (Prod.ext (Prod.mk.inj empty).1 rfl)).elim
    · rfl

theorem wholeDigits?_append (ends : Ends rest) (read : wholeDigits? cs = some (ds, r)) :
    wholeDigits? (cs ++ rest) = some (ds, r ++ rest) := by
  unfold wholeDigits? at read ⊢
  split at read
  · cases read
  · rename_i notPadded
    rw [someDigits?_append ends read]
    split
    · rename_i padded
      obtain ⟨rfl, rfl⟩ := Prod.mk.inj (Option.some.inj padded)
      exact absurd read (notPadded _ _ _)
    · rfl

theorem fraction?_append {f : Option (List Char)} (ends : Ends rest)
    (read : fraction? cs = some (f, r)) : fraction? (cs ++ rest) = some (f, r ++ rest) := by
  unfold fraction? at read
  split at read
  · rename_i cs
    obtain ⟨⟨ds, r'⟩, digits, same⟩ := Option.map_eq_some_iff.mp read
    obtain ⟨rfl, rfl⟩ := Prod.mk.inj same
    rw [List.cons_append, fraction?, someDigits?_append ends digits]
    rfl
  · rename_i noPoint
    obtain ⟨rfl, rfl⟩ := Prod.mk.inj (Option.some.inj read)
    unfold fraction?
    split
    · rename_i tail here
      cases cs with
      | nil =>
        have point := ends '.' (by simpa using congrArg List.head? here)
        exact absurd rfl point.2.1
      | cons c cs =>
        obtain ⟨rfl, -⟩ := List.cons.inj here
        exact absurd rfl (noPoint cs)
    · rfl

theorem exponentDigits?_unsigned {c : Char} (minus : c ≠ '-') (plus : c ≠ '+')
    (cs : List Char) :
    exponentDigits? (c :: cs) = (someDigits? (c :: cs)).map fun r => (some (false, r.1), r.2) := by
  unfold exponentDigits?
  split
  rename_i here
  split at here
  · rename_i same
    exact absurd (List.cons.inj same).1 minus
  · rename_i same
    exact absurd (List.cons.inj same).1 plus
  · obtain ⟨rfl, rfl⟩ := Prod.mk.inj here
    rfl

theorem exponentDigits?_append {e : Option (Bool × List Char)} (ends : Ends rest)
    (read : exponentDigits? cs = some (e, r)) :
    exponentDigits? (cs ++ rest) = some (e, r ++ rest) := by
  have behind {tail : List Char} {negative : Bool}
      (read : (someDigits? tail).map (fun r => (some (negative, r.1), r.2)) = some (e, r)) :
      (someDigits? (tail ++ rest)).map (fun r => (some (negative, r.1), r.2)) =
        some (e, r ++ rest) := by
    obtain ⟨⟨ds, r'⟩, digits, same⟩ := Option.map_eq_some_iff.mp read
    obtain ⟨rfl, rfl⟩ := Prod.mk.inj same
    rw [someDigits?_append ends digits]
    rfl
  cases cs with
  | nil => cases read
  | cons c cs =>
    by_cases minus : c = '-'
    · subst minus
      exact behind read
    · by_cases plus : c = '+'
      · subst plus
        exact behind read
      · rw [exponentDigits?_unsigned minus plus] at read
        rw [List.cons_append, exponentDigits?_unsigned minus plus]
        exact behind read

theorem exponent?_append {e : Option (Bool × List Char)} (ends : Ends rest)
    (read : exponent? cs = some (e, r)) : exponent? (cs ++ rest) = some (e, r ++ rest) := by
  unfold exponent? at read
  split at read
  · exact exponentDigits?_append ends read
  · exact exponentDigits?_append ends read
  · rename_i noSmall noLarge
    obtain ⟨rfl, rfl⟩ := Prod.mk.inj (Option.some.inj read)
    cases cs with
    | nil =>
      cases rest with
      | nil => rfl
      | cons d rest =>
        obtain ⟨-, -, small, large⟩ := ends d rfl
        rw [List.nil_append, exponent?]
        · exact fun cs here => small (List.cons.inj here).1
        · exact fun cs here => large (List.cons.inj here).1
    | cons c cs =>
      rw [List.cons_append, exponent?]
      · exact fun cs' here => noSmall cs (by rw [(List.cons.inj here).1])
      · exact fun cs' here => noLarge cs (by rw [(List.cons.inj here).1])

/-- The sign in front of a number, and the rest. -/
def numeralSign : List Char → Bool × List Char
  | '-' :: cs => (true, cs)
  | cs => (false, cs)

theorem numeralSign_append (cs rest : List Char) (some : cs ≠ []) :
    numeralSign (cs ++ rest) = ((numeralSign cs).1, (numeralSign cs).2 ++ rest) := by
  cases cs with
  | nil => exact absurd rfl some
  | cons c cs =>
    by_cases minus : c = '-'
    · subst minus
      rfl
    · have plain (cs : List Char) : numeralSign (c :: cs) = (false, c :: cs) := by
        rw [numeralSign]
        exact fun _ here => minus (List.cons.inj here).1
      rw [List.cons_append, plain, plain, List.cons_append]

/-- The four steps that read a number. -/
theorem numeral?_eq_some {t : Numeral} :
    numeral? cs = some (t, r) ↔
      ∃ cs₁ cs₂, wholeDigits? (numeralSign cs).2 = some (t.whole, cs₁) ∧
        fraction? cs₁ = some (t.fraction, cs₂) ∧ exponent? cs₂ = some (t.exponent, r) ∧
        t.negative = (numeralSign cs).1 := by
  have steps : numeral? cs = (wholeDigits? (numeralSign cs).2).bind fun whole =>
      (fraction? whole.2).bind fun fraction => (exponent? fraction.2).bind fun exponent =>
        some (⟨(numeralSign cs).1, whole.1, fraction.1, exponent.1⟩, exponent.2) := rfl
  rw [steps]
  simp only [Option.bind_eq_some_iff, Option.some.injEq, Prod.exists,
    Prod.mk.injEq]
  constructor
  · rintro ⟨whole, cs₁, read₁, fraction, cs₂, read₂, exponent, cs₃, read₃, rfl, rfl⟩
    exact ⟨cs₁, cs₂, read₁, read₂, read₃, rfl⟩
  · rintro ⟨cs₁, cs₂, read₁, read₂, read₃, negative⟩
    exact ⟨_, cs₁, read₁, _, cs₂, read₂, _, r, read₃, by rw [← negative], rfl⟩

/-- What is read from a number alone is read from it in front of a rest. -/
theorem numeral?_append {t : Numeral} (ends : Ends rest) (read : numeral? cs = some (t, r)) :
    numeral? (cs ++ rest) = some (t, r ++ rest) := by
  obtain ⟨cs₁, cs₂, whole, fraction, exponent, negative⟩ := numeral?_eq_some.mp read
  have notEmpty : cs ≠ [] := by
    rintro rfl
    cases whole
  refine numeral?_eq_some.mpr ⟨cs₁ ++ rest, cs₂ ++ rest, ?_, ?_, ?_, ?_⟩
  · rw [numeralSign_append cs rest notEmpty]
    exact wholeDigits?_append ends whole
  · exact fraction?_append ends fraction
  · exact exponent?_append ends exponent
  · rw [numeralSign_append cs rest notEmpty]
    exact negative

theorem someDigits?_suffix (read : someDigits? cs = some (ds, r)) : r <:+ cs := by
  unfold someDigits? at read
  split at read
  · cases read
  · obtain rfl : (spanDigits cs).2 = r := congrArg Prod.snd (Option.some.inj read)
    rw [spanDigits_eq]
    exact List.dropWhile_suffix _

theorem wholeDigits?_suffix (read : wholeDigits? cs = some (ds, r)) : r <:+ cs := by
  unfold wholeDigits? at read
  split at read
  · cases read
  · exact someDigits?_suffix read

theorem fraction?_suffix {f : Option (List Char)} (read : fraction? cs = some (f, r)) :
    r <:+ cs := by
  unfold fraction? at read
  split at read
  · obtain ⟨⟨ds, r'⟩, digits, same⟩ := Option.map_eq_some_iff.mp read
    obtain ⟨-, rfl⟩ := Prod.mk.inj same
    exact (someDigits?_suffix digits).trans (List.suffix_cons _ _)
  · obtain ⟨-, rfl⟩ := Prod.mk.inj (Option.some.inj read)
    exact List.suffix_rfl

theorem exponentDigits?_suffix {e : Option (Bool × List Char)}
    (read : exponentDigits? cs = some (e, r)) : r <:+ cs := by
  have behind {tail : List Char} {negative : Bool}
      (read : (someDigits? tail).map (fun r => (some (negative, r.1), r.2)) = some (e, r)) :
      r <:+ tail := by
    obtain ⟨⟨ds, r'⟩, digits, same⟩ := Option.map_eq_some_iff.mp read
    obtain ⟨-, rfl⟩ := Prod.mk.inj same
    exact someDigits?_suffix digits
  cases cs with
  | nil => cases read
  | cons c cs =>
    by_cases minus : c = '-'
    · subst minus
      exact (behind read).trans (List.suffix_cons _ _)
    · by_cases plus : c = '+'
      · subst plus
        exact (behind read).trans (List.suffix_cons _ _)
      · rw [exponentDigits?_unsigned minus plus] at read
        exact behind read

theorem exponent?_suffix {e : Option (Bool × List Char)} (read : exponent? cs = some (e, r)) :
    r <:+ cs := by
  unfold exponent? at read
  split at read
  · exact (exponentDigits?_suffix read).trans (List.suffix_cons _ _)
  · exact (exponentDigits?_suffix read).trans (List.suffix_cons _ _)
  · obtain ⟨-, rfl⟩ := Prod.mk.inj (Option.some.inj read)
    exact List.suffix_rfl

theorem numeralSign_suffix (cs : List Char) : (numeralSign cs).2 <:+ cs := by
  unfold numeralSign
  split
  · exact List.suffix_cons _ _
  · exact List.suffix_rfl

/-- A number takes characters off the front. -/
theorem numeral?_suffix {t : Numeral} (read : numeral? cs = some (t, r)) : r <:+ cs := by
  obtain ⟨cs₁, cs₂, whole, fraction, exponent, -⟩ := numeral?_eq_some.mp read
  exact (((exponent?_suffix exponent).trans (fraction?_suffix fraction)).trans
    (wholeDigits?_suffix whole)).trans (numeralSign_suffix cs)

theorem someDigits?_head (read : someDigits? cs = some (ds, r)) :
    ∃ c ∈ cs.head?, c.isDigit = true := by
  unfold someDigits? at read
  split at read
  · cases read
  · rename_i notEmpty
    cases cs with
    | nil => exact (notEmpty [] rfl).elim
    | cons c cs =>
      refine ⟨c, rfl, Classical.byContradiction fun digit => ?_⟩
      exact notEmpty (c :: cs) (by simp [spanDigits_eq, digit])

/-- A number starts with a digit or a minus sign. -/
theorem numeral?_head {t : Numeral} (read : numeral? cs = some (t, r)) :
    ∃ c ∈ cs.head?, c = '-' ∨ c.isDigit = true := by
  obtain ⟨cs₁, cs₂, whole, -⟩ := numeral?_eq_some.mp read
  cases cs with
  | nil => cases whole
  | cons c cs =>
    by_cases minus : c = '-'
    · exact ⟨c, rfl, .inl minus⟩
    · have plain : numeralSign (c :: cs) = (false, c :: cs) := by
        rw [numeralSign]
        exact fun _ here => minus (List.cons.inj here).1
      rw [plain] at whole
      unfold wholeDigits? at whole
      split at whole
      · cases whole
      · obtain ⟨d, here, digit⟩ := someDigits?_head whole
        exact ⟨d, here, .inr digit⟩

end Rest

/-! ## Whole numbers -/

theorem wholeDigits?_digits (n : Nat) : wholeDigits? (digits n) = some (digits n, []) := by
  have all : ∀ c ∈ digits n, c.isDigit = true := fun c here => isDigit_of_mem_digits here
  have span : spanDigits (digits n) = (digits n, []) := by
    rw [spanDigits_eq, ← List.append_nil (digits n), List.takeWhile_append_of_pos all,
      List.dropWhile_append_of_pos all, List.takeWhile_nil, List.dropWhile_nil]
  have some : someDigits? (digits n) = some (digits n, []) := by
    unfold someDigits?
    rw [span]
    split
    · rename_i empty
      exact absurd (Prod.mk.inj empty).1 (digits_ne_nil n)
    · rfl
  unfold wholeDigits?
  rw [some]
  split
  · rename_i padded
    have alone := digits_eq_zero_cons (Prod.mk.inj (Option.some.inj padded)).1
    cases alone
  · rfl

theorem numeralSign_digits (n : Nat) : numeralSign (digits n) = (false, digits n) := by
  unfold numeralSign
  split
  · rename_i cs here
    have digit : ('-').isDigit = true := isDigit_of_mem_digits (by rw [here]; simp)
    cases digit
  · rfl

/-- The parts of a whole number as it is written. -/
theorem numeral?_integerChars (n : Int) {rest : List Char} (ends : Ends rest) :
    numeral? (integerChars n ++ rest) =
      some (⟨decide (n < 0), digits n.natAbs, none, none⟩, rest) := by
  have sign : numeralSign (integerChars n) = (decide (n < 0), digits n.natAbs) := by
    unfold integerChars
    by_cases negative : n < 0
    · simp [negative, numeralSign]
    · simp [negative, numeralSign_digits]
  have alone : numeral? (integerChars n) =
      some (⟨decide (n < 0), digits n.natAbs, none, none⟩, []) := by
    refine numeral?_eq_some.mpr ⟨[], [], ?_, rfl, rfl, ?_⟩
    · rw [sign]
      exact wholeDigits?_digits n.natAbs
    · rw [sign]
  exact numeral?_append ends alone

/-- Digits whose number fits in 64 bits are all taken. -/
theorem absorb_of_fits {ds : List Char} (all : ∀ c ∈ ds, c.isDigit = true) (n taken : Nat)
    (fits : Nat.ofDigitChars 10 ds n < 2 ^ 64) :
    absorb n taken ds = (Nat.ofDigitChars 10 ds n, taken + ds.length) := by
  induction ds generalizing n taken with
  | nil => rfl
  | cons c ds ih =>
    have digit := digit?_of_isDigit (all c List.mem_cons_self)
    rw [Nat.ofDigitChars_cons] at fits ⊢
    have below : n * 10 + (c.toNat - '0'.toNat) < 2 ^ 64 := by
      have grows := le_ofDigitChars ds (10 * n + (c.toNat - '0'.toNat))
      omega
    rw [absorb, digit, Option.getD_some, if_pos below, Nat.mul_comm n 10,
      ih (fun d here => all d (List.mem_cons_of_mem _ here)) _ _ fits, List.length_cons]
    exact Prod.ext rfl (by omega)

/-- What is taken fits in 64 bits. -/
theorem absorb_lt (ds : List Char) {n : Nat} (taken : Nat) (fits : n < 2 ^ 64) :
    (absorb n taken ds).1 < 2 ^ 64 := by
  induction ds generalizing n taken with
  | nil => exact fits
  | cons c ds ih =>
    rw [absorb]
    split
    · rename_i below
      exact ih _ below
    · exact fits

/-- The integers that are read as such. -/
def InRange (n : Int) : Prop := -2 ^ 63 ≤ n ∧ n < 2 ^ 64

/-- The parts of a whole number denote it. -/
theorem value?_integer {n : Int} (range : InRange n) :
    (⟨decide (n < 0), digits n.natAbs, none, none⟩ : Numeral).value? = some (.integer n) := by
  obtain ⟨low, high⟩ := range
  have taken := absorb_of_fits (fun c here => isDigit_of_mem_digits here) 0 0
    (by rw [ofDigitChars_digits]; omega : Nat.ofDigitChars 10 (digits n.natAbs) 0 < 2 ^ 64)
  rw [ofDigitChars_digits, Nat.zero_add] at taken
  by_cases negative : n < 0
  · have back : -(n.natAbs : Int) = n := by omega
    have some : n.natAbs ≠ 0 := by omega
    have within : ¬ 2 ^ 63 < n.natAbs := by omega
    generalize n.natAbs = m at taken back some within ⊢
    simp [Numeral.value?, taken, negative, some, within, back]
  · have back : (n.natAbs : Int) = n := by omega
    simp [Numeral.value?, taken, negative, back]

/-- A number is an integer in range or a double. -/
theorem value?_eq_some_number {t : Numeral} {v : Value} (read : t.value? = some v) :
    (∃ n, v = .integer n ∧ InRange n) ∨ ∃ x, v = .float x := by
  have fits := absorb_lt t.whole 0 (by decide : 0 < 2 ^ 64)
  unfold Numeral.value? at read
  simp only at read
  split at read
  · split at read
    · exact .inl ⟨_, (Option.some.inj read).symm, by omega, by omega⟩
    · split at read
      · exact .inr ⟨_, (Option.some.inj read).symm⟩
      · rename_i magnitude
        simp only [Bool.or_eq_true, decide_eq_true_eq, not_or] at magnitude
        exact .inl ⟨_, (Option.some.inj read).symm, by omega, by omega⟩
  · split at read
    · obtain ⟨x, -, rfl⟩ := Option.map_eq_some_iff.mp read
      exact .inr ⟨_, rfl⟩
    · split at read
      · split at read
        · cases read
        · exact .inr ⟨_, (Option.some.inj read).symm⟩
      · obtain ⟨x, -, rfl⟩ := Option.map_eq_some_iff.mp read
        exact .inr ⟨_, rfl⟩

end TaskSync.Json
