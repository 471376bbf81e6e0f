import TaskSync.Data.Uuid

/-!
# Identifiers and their texts

An identifier is read from its own text: the 32 digits denote the number, and the hyphens between
them stand where the reader passes over them. So two identifiers of one text are the same.
-/

namespace TaskSync

namespace Text

/-- One more hexadecimal digit. -/
def plusHex (n : Nat) (c : Char) : Option Nat := (hexDigit? c).map (n * 16 + ·)

theorem hexDigit?_digitChar {d : Nat} (small : d < 16) : hexDigit? d.digitChar = some d := by
  have all : ∀ d < 16, hexDigit? d.digitChar = some d := by decide
  exact all d small

theorem hex_of_lt {n : Nat} (small : n < 16) : hex n = [n.digitChar] :=
  Nat.toDigits_of_lt_base small

theorem hex_of_le {n : Nat} (large : 16 ≤ n) : hex n = hex (n / 16) ++ [(n % 16).digitChar] :=
  Nat.toDigits_of_base_le (by omega) large

/-- The digits of a number denote the number. -/
theorem foldlM_hex (n : Nat) : (hex n).foldlM plusHex 0 = some n := by
  induction n using Nat.strongRecOn with
  | _ n ih =>
    by_cases small : n < 16
    · rw [hex_of_lt small]
      simp [plusHex, hexDigit?_digitChar small]
    · have large : 16 ≤ n := by omega
      rw [hex_of_le large, List.foldlM_append, ih (n / 16) (by omega)]
      have last : plusHex (n / 16) (n % 16).digitChar = some n := by
        rw [plusHex, hexDigit?_digitChar (by omega), Option.map_some]
        congr 1
        omega
      simp [last]

theorem hexDigit?_of_mem_hex {n : Nat} {c : Char} (here : c ∈ hex n) : (hexDigit? c).isSome := by
  induction n using Nat.strongRecOn with
  | _ n ih =>
    by_cases small : n < 16
    · rw [hex_of_lt small] at here
      rw [List.mem_singleton.mp here, hexDigit?_digitChar small]
      rfl
    · rw [hex_of_le (by omega)] at here
      rcases List.mem_append.mp here with here | here
      · exact ih (n / 16) (by omega) here
      · rw [List.mem_singleton.mp here, hexDigit?_digitChar (by omega)]
        rfl

end Text

namespace Uuid

open Text

/-! ### Digits -/

theorem length_hex_le (u : Uuid) : (hex u.value).length ≤ 32 :=
  (Nat.length_toDigits_le_iff (by omega) (by omega)).mpr (by have := u.value_lt; omega)

theorem length_digits (u : Uuid) : u.digits.length = 32 := by
  have short := u.length_hex_le
  simp only [digits, List.length_append, List.length_replicate]
  omega

theorem hexDigit?_of_mem_digits {u : Uuid} {c : Char} (here : c ∈ u.digits) :
    (hexDigit? c).isSome := by
  rcases List.mem_append.mp here with here | here
  · rw [(List.mem_replicate.mp here).2]
    rfl
  · exact hexDigit?_of_mem_hex here

theorem ofHex?_digits (u : Uuid) : ofHex? u.digits = some u := by
  have zeros : ∀ n, (List.replicate n '0').foldlM plusHex 0 = some 0 := by
    intro n
    induction n with
    | zero => rfl
    | succ n ih => exact ih
  have denoted : u.digits.foldlM plusHex 0 = some u.value := by
    rw [digits, List.foldlM_append, zeros]
    exact foldlM_hex u.value
  unfold ofHex?
  rw [show (fun n c => (hexDigit? c).map (n * 16 + ·)) = plusHex from rfl, denoted]
  simp [u.value_lt]

/-! ### Groups -/

/-- Characters that stand where no hyphen does are all kept. -/
theorem kept_of_apart (cs : List Char) (start : Nat)
    (apart : ∀ i < cs.length, start + i ∉ hyphens) :
    ((cs.zipIdx start).filter fun e => !hyphens.contains e.2).map (·.1) = cs := by
  have all : ∀ e ∈ cs.zipIdx start, !hyphens.contains e.2 := by
    intro e here
    obtain ⟨from_, below, -⟩ := List.mem_zipIdx here
    have := apart (e.2 - start) (by omega)
    rw [Nat.add_sub_of_le from_] at this
    simpa using this
  rw [List.filter_eq_self.mpr all]
  exact List.zipIdx_map_fst start cs

/-- The reader passes over the hyphens between the groups. -/
theorem hyphenated?_groups {a b c d e : List Char} (ha : a.length = 8) (hb : b.length = 4)
    (hc : c.length = 4) (hd : d.length = 4) (he : e.length = 12) :
    hyphenated? (a ++ '-' :: b ++ '-' :: c ++ '-' :: d ++ '-' :: e) =
      ofHex? (a ++ b ++ c ++ d ++ e) := by
  have marked : hyphens.all fun i =>
      (a ++ '-' :: b ++ '-' :: c ++ '-' :: d ++ '-' :: e)[i]? == some '-' := by
    simp [hyphens, List.getElem?_append, ha, hb, hc, hd]
  have keptA := kept_of_apart a 0 (by rw [ha]; decide)
  have keptB := kept_of_apart b 9 (by rw [hb]; decide)
  have keptC := kept_of_apart c 14 (by rw [hc]; decide)
  have keptD := kept_of_apart d 19 (by rw [hd]; decide)
  have keptE := kept_of_apart e 24 (by rw [he]; decide)
  have dropped : ∀ i ∈ hyphens, (!hyphens.contains i) = false := by decide
  unfold hyphenated?
  rw [if_pos ⟨by simp [ha, hb, hc, hd, he], marked⟩]
  congr 1
  simp only [List.append_assoc, List.cons_append, List.zipIdx_append, List.zipIdx_cons, ha, hb, hc,
    hd, List.filter_append, List.map_append, List.filter_cons, Nat.zero_add, Nat.reduceAdd,
    dropped 8 (by decide), dropped 13 (by decide), dropped 18 (by decide), dropped 23 (by decide),
    Bool.false_eq_true, if_false, keptA, keptB, keptC, keptD, keptE]

/-! ### Texts -/

theorem textChars_eq (u : Uuid) :
    u.textChars = u.digits.take 8 ++ '-' :: (u.digits.drop 8).take 4
      ++ '-' :: (u.digits.drop 12).take 4 ++ '-' :: (u.digits.drop 16).take 4
      ++ '-' :: u.digits.drop 20 := rfl

/-- A text that starts with a digit has nothing around it. -/
theorem unwrap_of_digit {c : Char} {cs : List Char} (digit : (hexDigit? c).isSome) :
    unwrap (c :: cs) = (c :: cs, 0, true) := by
  have bare : c ≠ '\x7b' ∧ c ≠ 'u' := by
    constructor
    · rintro rfl
      exact absurd digit (by decide)
    · rintro rfl
      exact absurd digit (by decide)
  unfold unwrap
  split
  next same => exact absurd (List.cons.inj same).1 bare.1
  next =>
    have mark : urnMark = 'u' :: "rn:uuid:".toList := by decide
    have unmarked : urnMark.isPrefixOf (c :: cs) = false := by
      rw [mark, List.isPrefixOf, beq_false_of_ne fun same => bare.2 same.symm, Bool.false_and]
    simp only [unmarked, Bool.false_eq_true, if_false]

/-- An identifier is read from its text. -/
theorem read_text (u : Uuid) : read u.text = .ok u := by
  have length := u.length_digits
  have read : hyphenated? u.textChars = some u := by
    rw [textChars_eq, hyphenated?_groups (by simp [length]) (by simp [length]) (by simp [length])
      (by simp [length]) (by simp [length])]
    have whole : u.digits.take 8 ++ (u.digits.drop 8).take 4 ++ (u.digits.drop 12).take 4
        ++ (u.digits.drop 16).take 4 ++ u.digits.drop 20 = u.digits := by
      rw [← List.take_add, ← List.take_add, ← List.take_add, List.take_append_drop]
    rw [whole, ofHex?_digits]
  obtain ⟨c, cs, digits⟩ : ∃ c cs, u.digits = c :: cs :=
    List.exists_cons_of_length_pos (by omega)
  have digit : (hexDigit? c).isSome := hexDigit?_of_mem_digits (digits ▸ List.mem_cons_self)
  obtain ⟨rest, front⟩ : ∃ rest, u.textChars = c :: rest :=
    ⟨_, by rw [textChars_eq, digits]; rfl⟩
  have long : u.textChars.length = 36 := by simp [textChars_eq, length]
  have chars : u.text.toList = u.textChars := String.toList_ofList
  rw [Uuid.read, chars, readChars, front, unwrap_of_digit digit, ← front]
  simp only [if_true, simple?, long, if_neg (by decide : ¬ 36 = 32), read]
  rfl

theorem text_inj {u v : Uuid} (same : u.text = v.text) : u = v := by
  have read := u.read_text
  rw [same, v.read_text] at read
  exact (Except.ok.inj read).symm

end Uuid

end TaskSync
