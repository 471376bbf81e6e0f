import TaskSync.Text.Blank

/-!
# Decimal digits

The digits of a number are digits, there is at least one, a zero in front stands alone, and they
denote the number.
-/

namespace TaskSync.Text

theorem digits_ne_nil (n : Nat) : digits n ≠ [] := Nat.toDigits_ne_nil

theorem isDigit_of_mem_digits {n : Nat} {c : Char} (here : c ∈ digits n) : c.isDigit = true :=
  Nat.isDigit_of_mem_toDigits (by omega) (by omega) here

theorem digit?_of_isDigit {c : Char} (digit : c.isDigit = true) :
    digit? c = some (c.toNat - '0'.toNat) := by
  rw [digit?, if_pos digit]

theorem ofDigitChars_digits (n : Nat) : Nat.ofDigitChars 10 (digits n) 0 = n :=
  Nat.ofDigitChars_toDigits (by omega) (by omega)

/-- Digits that follow make a number no smaller. -/
theorem le_ofDigitChars (ds : List Char) (n : Nat) : n ≤ Nat.ofDigitChars 10 ds n := by
  induction ds generalizing n with
  | nil => exact Nat.le_refl n
  | cons c ds ih =>
    rw [Nat.ofDigitChars_cons]
    exact Nat.le_trans (by omega) (ih _)

/-- A digit appended at the end counts once, what stands in front ten times. -/
theorem digits_of_ten_le {n : Nat} (large : 10 ≤ n) :
    digits n = digits (n / 10) ++ [(n % 10).digitChar] :=
  Nat.toDigits_of_base_le (by omega) large

theorem digits_of_lt_ten {n : Nat} (small : n < 10) : digits n = [n.digitChar] :=
  Nat.toDigits_of_lt_base small

theorem head_digits_ne_zero {n : Nat} (positive : 0 < n) : (digits n).head? ≠ some '0' := by
  induction n using Nat.strongRecOn with
  | _ n ih =>
    by_cases small : n < 10
    · rw [digits_of_lt_ten small]
      have cases : ∀ n < 10, 0 < n → n.digitChar ≠ '0' := by decide
      simpa using cases n small positive
    · rw [digits_of_ten_le (by omega), List.head?_append,
        List.head?_eq_some_head (digits_ne_nil _), Option.some_or, ← List.head?_eq_some_head]
      exact ih (n / 10) (by omega) (by omega)

/-- A zero in front is the only digit. -/
theorem digits_eq_zero_cons {n : Nat} {ds : List Char} (zero : digits n = '0' :: ds) : ds = [] := by
  by_cases positive : 0 < n
  · exact absurd (by rw [zero]; rfl) (head_digits_ne_zero positive)
  · obtain rfl : n = 0 := by omega
    exact (List.cons.inj zero).2.symm

/-! ### Numbers of a width -/

theorem ofDigits?_eq {ds : List Char} (all : ∀ c ∈ ds, c.isDigit = true) :
    ofDigits? ds = some (Nat.ofDigitChars 10 ds 0) := by
  suffices ∀ n, ds.foldlM (fun n c => (digit? c).map (n * 10 + ·)) n =
      some (Nat.ofDigitChars 10 ds n) from this 0
  induction ds with
  | nil => exact fun _ => rfl
  | cons c ds ih =>
    intro n
    rw [List.foldlM_cons, digit?_of_isDigit (all c List.mem_cons_self), Nat.ofDigitChars_cons,
      Nat.mul_comm 10 n]
    exact ih (fun d here => all d (.tail _ here)) _

theorem ofDigitChars_lt {ds : List Char} (all : ∀ c ∈ ds, c.isDigit = true) (n : Nat) :
    Nat.ofDigitChars 10 ds n < (n + 1) * 10 ^ ds.length := by
  induction ds generalizing n with
  | nil => rw [Nat.ofDigitChars_nil, List.length_nil, Nat.pow_zero]; omega
  | cons c ds ih =>
    have digit : c.toNat - '0'.toNat < 10 := by
      have bounds := all c List.mem_cons_self
      simp only [Char.isDigit, Bool.and_eq_true, decide_eq_true_eq] at bounds
      have high : c.toNat ≤ 57 := bounds.2
      have zero : '0'.toNat = 48 := rfl
      omega
    rw [Nat.ofDigitChars_cons, List.length_cons, Nat.pow_succ, Nat.mul_comm (10 ^ _),
      ← Nat.mul_assoc]
    exact Nat.lt_of_lt_of_le (ih (fun d here => all d (.tail _ here)) _)
      (Nat.mul_le_mul_right _ (by omega))

theorem isDigit_of_mem_padded {width n : Nat} {c : Char} (here : c ∈ padded width n) :
    c.isDigit = true := by
  rcases List.mem_append.mp here with zero | digit
  · rw [(List.mem_replicate.mp zero).2]
    rfl
  · exact isDigit_of_mem_digits digit

theorem padded_ne_nil (width n : Nat) : padded width n ≠ [] :=
  fun none => digits_ne_nil n (List.append_eq_nil_iff.mp none).2

theorem length_padded {width n : Nat} (positive : 0 < width) (small : n < 10 ^ width) :
    (padded width n).length = width := by
  have short : (digits n).length ≤ width :=
    (Nat.length_toDigits_le_iff (by omega) positive).mpr small
  rw [padded, List.length_append, List.length_replicate]
  omega

theorem ofDigits?_padded (width n : Nat) : ofDigits? (padded width n) = some n := by
  rw [ofDigits?_eq fun _ => isDigit_of_mem_padded, padded, Nat.ofDigitChars_append]
  have zeros : ∀ k, Nat.ofDigitChars 10 (List.replicate k '0') 0 = 0 := by
    intro k
    induction k with
    | zero => rfl
    | succ k ih => exact ih
  rw [zeros, ofDigitChars_digits]

end TaskSync.Text
