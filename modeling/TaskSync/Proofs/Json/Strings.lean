import TaskSync.Json.Reader
import TaskSync.Json.Writer

/-!
# Strings of JSON texts

What the writer escapes, the reader takes back: one character first, then the body up to the
closing quote, whatever stands behind it.
-/

namespace TaskSync.Json

open Text

theorem hex4?_append {cs r : List Char} {n : Nat} (rest : List Char)
    (read : hex4? cs = some (n, r)) :
    hex4? (cs ++ rest) = some (n, r ++ rest) := by
  match cs, read with
  | a :: b :: c :: d :: cs, read =>
    simp only [hex4?, List.cons_append, Option.bind_eq_bind, Option.bind_eq_some_iff,
      Option.some.injEq, Prod.mk.injEq] at read ⊢
    obtain ⟨i, hi, j, hj, k, hk, l, hl, value, rfl⟩ := read
    exact ⟨i, hi, j, hj, k, hk, l, hl, value, rfl⟩

/-- The four digits of a control character's escape. -/
theorem hex4?_control : ∀ n < 0x20,
    hex4? (['0', '0'] ++ (if n < 0x10 then ['0'] else []) ++ hex n) = some (n, []) := by
  decide

/-- A control character behind its `\u` is read as itself. -/
theorem escaped?_control {c : Char} (control : c.toNat < 0x20) (cs : List Char) :
    escaped? (['u', '0', '0'] ++ (if c.toNat < 0x10 then ['0'] else []) ++ hex c.toNat ++ cs) =
      some (c, cs) := by
  have scalar : unitChar? c.toNat cs = some (c, cs) := by
    unfold unitChar?
    rw [if_neg (by omega), if_neg (by omega), Char.ofNat_toNat]
  have digits := hex4?_append cs (hex4?_control c.toNat control)
  simp only [List.cons_append, List.nil_append] at digits ⊢
  rw [escaped?, digits]
  exact scalar

/-- A character is written as an escape that denotes it, or as itself. -/
theorem escapeStringChar_cases (c : Char) :
    (∃ es, escapeStringChar c = '\\' :: es ∧ ∀ cs, escaped? (es ++ cs) = some (c, cs)) ∨
      (escapeStringChar c = [c] ∧ c ≠ '"' ∧ c ≠ '\\' ∧ ¬ c.toNat < 0x20) := by
  by_cases quote : c = '"'
  · subst c
    exact .inl ⟨_, rfl, fun _ => rfl⟩
  by_cases backslash : c = '\\'
  · subst c
    exact .inl ⟨_, rfl, fun _ => rfl⟩
  unfold escapeStringChar
  rw [if_neg quote, if_neg backslash]
  iterate 5
    split
    · subst c
      exact .inl ⟨_, rfl, fun _ => rfl⟩
  split
  · rename_i control
    exact .inl ⟨_, rfl, escaped?_control control⟩
  · rename_i plain
    exact .inr ⟨rfl, quote, backslash, plain⟩

/-- One character as it is written is one character of the string. -/
theorem stringBody?_escape (fuel : Nat) (c : Char) (cs : List Char) :
    stringBody? (fuel + 1) (escapeStringChar c ++ cs) =
      (stringBody? fuel cs).map fun r => (c :: r.1, r.2) := by
  rcases escapeStringChar_cases c with ⟨es, written, read⟩ | ⟨written, quote, backslash, plain⟩
  · rw [written, List.cons_append, stringBody?, if_neg (by decide), if_pos rfl, read]
    simp only [Option.bind_eq_bind, Option.bind_some]
    cases stringBody? fuel cs <;> rfl
  · rw [written, List.singleton_append, stringBody?, if_neg quote, if_neg backslash, if_neg plain]
    cases stringBody? fuel cs <;> rfl

theorem stringBody?_flatMap (ds : List Char) (rest : List Char) (fuel : Nat)
    (enough : ds.length < fuel) :
    stringBody? fuel (ds.flatMap escapeStringChar ++ '"' :: rest) = some (ds, rest) := by
  induction ds generalizing fuel with
  | nil =>
    obtain ⟨f, rfl⟩ : ∃ f, fuel = f + 1 := ⟨fuel - 1, by simp at enough; omega⟩
    simp [stringBody?]
  | cons c ds ih =>
    obtain ⟨f, rfl⟩ : ∃ f, fuel = f + 1 := ⟨fuel - 1, by simp at enough; omega⟩
    rw [List.flatMap_cons, List.append_assoc, stringBody?_escape,
      ih f (by simpa using enough)]
    rfl

theorem length_escapeStringChar (c : Char) : 1 ≤ (escapeStringChar c).length := by
  rcases escapeStringChar_cases c with ⟨es, written, _⟩ | ⟨written, _⟩ <;> simp [written]

/-- A character takes up at least one place of the text, so the length of the text is enough
fuel. -/
theorem length_le_flatMap (ds : List Char) :
    ds.length ≤ (ds.flatMap escapeStringChar).length := by
  induction ds with
  | nil => simp
  | cons c ds ih =>
    have one := length_escapeStringChar c
    simp only [List.length_cons, List.flatMap_cons, List.length_append]
    omega

theorem string?_escaped (s : String) (rest : List Char) :
    string? (s.toList.flatMap escapeStringChar ++ '"' :: rest) = some (s, rest) := by
  have enough := length_le_flatMap s.toList
  rw [string?, stringBody?_flatMap _ _ _ (by rw [List.length_append]; omega)]
  simp

/-- A written string starts with a quote, behind which the reader finds the string. -/
theorem stringChars_append (s : String) (rest : List Char) :
    stringChars s ++ rest = '"' :: (s.toList.flatMap escapeStringChar ++ '"' :: rest) := by
  simp [stringChars]

end TaskSync.Json
