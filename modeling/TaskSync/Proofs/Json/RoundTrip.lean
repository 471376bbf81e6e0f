import TaskSync.Proofs.Data.Canonical
import TaskSync.Proofs.Json.Numbers
import TaskSync.Proofs.Json.Strings

/-!
# Reading what was written

A value that is not nested too deep, and whose integers are in range, is read back from its text
as long as its doubles are. The reader gives no other values, so whatever has been read once can
be written and read again.
-/

namespace TaskSync

namespace Value

mutual

/-- Whether a value can be written where there is room for `depth` more containers: the depth is
kept, and its integers are in range. -/
def Fits (depth : Nat) : Value → Prop
  | integer n => Json.InRange n
  | list items => 0 < depth ∧ FitsItems (depth - 1) items
  | table entries => 0 < depth ∧ FitsEntries (depth - 1) entries
  | _ => True

def FitsItems (depth : Nat) : List Value → Prop
  | [] => True
  | v :: vs => Fits depth v ∧ FitsItems depth vs

def FitsEntries (depth : Nat) : List (String × Value) → Prop
  | [] => True
  | (_, v) :: es => Fits depth v ∧ FitsEntries depth es

end

mutual

/-- The doubles in a value. -/
def floats : Value → List Binary64
  | float x => [x]
  | list items => floatsOfItems items
  | table entries => floatsOfEntries entries
  | _ => []

def floatsOfItems : List Value → List Binary64
  | [] => []
  | v :: vs => floats v ++ floatsOfItems vs

def floatsOfEntries : List (String × Value) → List Binary64
  | [] => []
  | (_, v) :: es => floats v ++ floatsOfEntries es

end

theorem fitsItems_iff {depth : Nat} {vs : List Value} :
    FitsItems depth vs ↔ ∀ v ∈ vs, Fits depth v := by
  induction vs with
  | nil => simp [FitsItems]
  | cons v vs ih => simp [FitsItems, ih]

theorem fitsEntries_iff {depth : Nat} {es : List (String × Value)} :
    FitsEntries depth es ↔ ∀ e ∈ es, Fits depth e.2 := by
  induction es with
  | nil => simp [FitsEntries]
  | cons e es ih => simp [FitsEntries, ih]

theorem Fits.canonical {v : Value} {depth : Nat} (fits : Fits depth v) :
    Fits depth v.canonical := by
  induction v using Value.induct generalizing depth with
  | null | boolean _ | integer _ | float _ | text _ => exact fits
  | list items each =>
    refine ⟨fits.1, fitsItems_iff.mpr fun v here => ?_⟩
    rw [canonicalItems_eq] at here
    obtain ⟨w, within, rfl⟩ := List.mem_map.mp here
    exact each w within (fitsItems_iff.mp fits.2 w within)
  | table entries each =>
    refine ⟨fits.1, fitsEntries_iff.mpr fun e here => ?_⟩
    have source := SortedMap.mem_ofList here
    rw [canonicalEntries_eq] at source
    obtain ⟨f, within, rfl⟩ := List.mem_map.mp source
    exact each f within (fitsEntries_iff.mp fits.2 f within)

end Value

namespace Json

open Text

/-- Whether a double is read back from its own text. -/
def ReadsBack (x : Binary64) : Prop := read? (write (.float x)) = some (.float x)

instance (x : Binary64) : Decidable (ReadsBack x) :=
  inferInstanceAs (Decidable (read? (write (.float x)) = some (.float x)))

/-! ## Tokens -/

theorem skipBlanks_cons {c : Char} (token : isAsciiBlank c = false) (cs : List Char) :
    skipBlanks (c :: cs) = c :: cs := by
  simp [skipBlanks, token]

theorem token_of_number {c : Char} (number : c = '-' ∨ c.isDigit = true) :
    isAsciiBlank c = false ∧ c ≠ 'n' ∧ c ≠ 't' ∧ c ≠ 'f' ∧ c ≠ '"' ∧ c ≠ '[' ∧ c ≠ '\x7b' ∧
      c ≠ ']' := by
  rcases number with rfl | digit
  · decide
  · have apart {d : Char} (other : d.isDigit = false) : c ≠ d := by
      rintro rfl
      rw [digit] at other
      cases other
    refine ⟨?_, apart rfl, apart rfl, apart rfl, apart rfl, apart rfl, apart rfl, apart rfl⟩
    simp [isAsciiBlank, apart (d := ' ') rfl, apart (d := '\t') rfl, apart (d := '\n') rfl,
      apart (d := '\r') rfl]

theorem value?_number {fuel depth : Nat} {cs rest : List Char} {t : Numeral} {v : Value}
    (read : numeral? cs = some (t, rest)) (denoted : t.value? = some v) :
    value? (fuel + 1) depth cs = some (v, rest) := by
  obtain ⟨c, here, number⟩ := numeral?_head read
  cases cs with
  | nil => cases here
  | cons d cs =>
    obtain rfl : c = d := (Option.some.inj here).symm
    obtain ⟨token, n, t, f, quote, bracket, brace, -⟩ := token_of_number number
    rw [value?, skipBlanks_cons token]
    simp only [n, t, f, quote, bracket, brace, if_false, read, Option.bind_eq_bind,
      Option.bind_some, denoted]

/-! ## Doubles -/

/-- A character of a double's text. -/
def IsFloatChar (c : Char) : Prop := c.isDigit = true ∨ c = '.' ∨ c = 'e' ∨ c = '-' ∨ c = '+'

theorem isFloatChar_digits {n : Nat} : ∀ c ∈ digits n, IsFloatChar c :=
  fun _ here => .inl (isDigit_of_mem_digits here)

theorem isFloatChar_positional (d : Binary64.Decimal) : ∀ c ∈ d.positional, IsFloatChar c := by
  have digits := @isFloatChar_digits d.digits
  have point : IsFloatChar '.' := .inr (.inl rfl)
  have zero : IsFloatChar '0' := .inl rfl
  unfold Binary64.Decimal.positional
  simp only
  split
  · simpa [or_imp, forall_and, point, zero] using digits
  · split
    · simp only [List.mem_append, List.mem_cons, or_imp, forall_and, forall_eq]
      exact ⟨fun c here => digits c (List.mem_of_mem_take here), point,
        fun c here => digits c (List.mem_of_mem_drop here)⟩
    · simpa [or_imp, forall_and, point, zero] using digits

theorem isFloatChar_scientific (d : Binary64.Decimal) : ∀ c ∈ d.scientific, IsFloatChar c := by
  have point : IsFloatChar '.' := .inr (.inl rfl)
  have mark : IsFloatChar 'e' := .inr (.inr (.inl rfl))
  have minus : IsFloatChar '-' := .inr (.inr (.inr (.inl rfl)))
  have plus : IsFloatChar '+' := .inr (.inr (.inr (.inr rfl)))
  have digits := @isFloatChar_digits d.digits
  unfold Binary64.Decimal.scientific
  simp only [List.mem_append, or_imp, forall_and]
  refine ⟨⟨⟨?_, by simpa using mark⟩, ?_⟩, isFloatChar_digits⟩
  · split
    · rename_i alone
      rwa [alone] at digits
    · rename_i c rest _ here
      rw [here] at digits
      simp only [List.mem_cons, or_imp, forall_and, forall_eq] at digits ⊢
      exact ⟨digits.1, point, digits.2⟩
    · nofun
  · split <;> simpa

theorem isFloatChar_dataChars (x : Binary64) : ∀ c ∈ x.dataChars, IsFloatChar c := by
  have point : IsFloatChar '.' := .inr (.inl rfl)
  have zero : IsFloatChar '0' := .inl rfl
  have minus : IsFloatChar '-' := .inr (.inr (.inr (.inl rfl)))
  unfold Binary64.dataChars
  simp only [List.mem_append, or_imp, forall_and]
  refine ⟨?_, ?_⟩
  · split
    · simpa using minus
    · nofun
  · split
    · simpa using ⟨zero, point, zero⟩
    · split
      · exact isFloatChar_positional _
      · exact isFloatChar_scientific _

theorem token_of_isFloatChar {c : Char} (float : IsFloatChar c) : isAsciiBlank c = false := by
  rcases float with digit | rfl | rfl | rfl | rfl
  · exact (token_of_number (.inr digit)).1
  all_goals rfl

/-! ## What is read -/

/-- The ways to read a value. -/
theorem value?_eq_some {fuel depth : Nat} {cs rest : List Char} {v : Value}
    (read : value? (fuel + 1) depth cs = some (v, rest)) :
    v = .null ∨ (∃ b, v = .boolean b) ∨ (∃ s, v = .text s) ∨
      (∃ d items, depth = d + 1 ∧ v = .list items ∧
        (items = [] ∨ ∃ cs', items? fuel d cs' = some (items, rest))) ∨
      (∃ d entries, depth = d + 1 ∧ v = .table entries ∧
        (entries = [] ∨ ∃ cs', entries? fuel d cs' = some (entries, rest))) ∨
      ∃ t, numeral? (skipBlanks cs) = some (t, rest) ∧ t.value? = some v := by
  rw [value?] at read
  split at read
  · cases read
  · rename_i c tail front
    split at read
    · obtain ⟨_, -, same⟩ := Option.map_eq_some_iff.mp read
      exact .inl (Prod.mk.inj same).1.symm
    split at read
    · obtain ⟨_, -, same⟩ := Option.map_eq_some_iff.mp read
      exact .inr (.inl ⟨_, (Prod.mk.inj same).1.symm⟩)
    split at read
    · obtain ⟨_, -, same⟩ := Option.map_eq_some_iff.mp read
      exact .inr (.inl ⟨_, (Prod.mk.inj same).1.symm⟩)
    split at read
    · obtain ⟨_, -, same⟩ := Option.map_eq_some_iff.mp read
      exact .inr (.inr (.inl ⟨_, (Prod.mk.inj same).1.symm⟩))
    split at read
    · refine .inr (.inr (.inr (.inl ?_)))
      split at read
      · cases read
      · rename_i d
        split at read
        · obtain ⟨rfl, rfl⟩ := Prod.mk.inj (Option.some.inj read)
          exact ⟨d, [], rfl, rfl, .inl rfl⟩
        · obtain ⟨⟨items, r⟩, inner, same⟩ := Option.map_eq_some_iff.mp read
          obtain ⟨rfl, rfl⟩ := Prod.mk.inj same
          exact ⟨d, items, rfl, rfl, .inr ⟨_, inner⟩⟩
    split at read
    · refine .inr (.inr (.inr (.inr (.inl ?_))))
      split at read
      · cases read
      · rename_i d
        split at read
        · obtain ⟨rfl, rfl⟩ := Prod.mk.inj (Option.some.inj read)
          exact ⟨d, [], rfl, rfl, .inl rfl⟩
        · obtain ⟨⟨entries, r⟩, inner, same⟩ := Option.map_eq_some_iff.mp read
          obtain ⟨rfl, rfl⟩ := Prod.mk.inj same
          exact ⟨d, entries, rfl, rfl, .inr ⟨_, inner⟩⟩
    · refine .inr (.inr (.inr (.inr (.inr ?_))))
      simp only [Option.bind_eq_bind, Option.bind_eq_some_iff, Option.some.injEq, Prod.exists,
        Prod.mk.injEq] at read
      obtain ⟨t, r, number, w, denoted, rfl, rfl⟩ := read
      exact ⟨t, front ▸ number, denoted⟩

theorem items?_eq_some {fuel depth : Nat} {cs rest : List Char} {vs : List Value}
    (read : items? (fuel + 1) depth cs = some (vs, rest)) :
    ∃ v cs' ws, value? fuel depth cs = some (v, cs') ∧ vs = v :: ws ∧
      (ws = [] ∨ ∃ cs'', items? fuel depth cs'' = some (ws, rest)) := by
  rw [items?] at read
  simp only [Option.bind_eq_bind, Option.bind_eq_some_iff, Prod.exists] at read
  obtain ⟨v, cs', first, more⟩ := read
  split at more
  · simp only [Option.bind_eq_some_iff, Option.some.injEq, Prod.exists, Prod.mk.injEq] at more
    obtain ⟨ws, r, inner, rfl, rfl⟩ := more
    exact ⟨v, cs', ws, first, rfl, .inr ⟨_, inner⟩⟩
  · obtain ⟨rfl, rfl⟩ := Prod.mk.inj (Option.some.inj more)
    exact ⟨v, cs', [], first, rfl, .inl rfl⟩
  · cases more

theorem entries?_eq_some {fuel depth : Nat} {cs rest : List Char} {es : List (String × Value)}
    (read : entries? (fuel + 1) depth cs = some (es, rest)) :
    ∃ k v cs₁ cs₂ fs, value? fuel depth cs₁ = some (v, cs₂) ∧ es = (k, v) :: fs ∧
      (fs = [] ∨ ∃ cs₃, entries? fuel depth cs₃ = some (fs, rest)) := by
  rw [entries?] at read
  simp only [Option.bind_eq_bind, Option.bind_eq_some_iff, Prod.exists] at read
  obtain ⟨_, -, k, _, -, cs₁, -, v, cs₂, first, more⟩ := read
  split at more
  · simp only [Option.bind_eq_some_iff, Option.some.injEq, Prod.exists, Prod.mk.injEq] at more
    obtain ⟨fs, r, inner, rfl, rfl⟩ := more
    exact ⟨k, v, cs₁, cs₂, fs, first, rfl, .inr ⟨_, inner⟩⟩
  · obtain ⟨rfl, rfl⟩ := Prod.mk.inj (Option.some.inj more)
    exact ⟨k, v, cs₁, cs₂, [], first, rfl, .inl rfl⟩
  · cases more

/-- What is read fits where it has been read. -/
theorem fits_of_read (fuel : Nat) :
    (∀ depth cs v rest, value? fuel depth cs = some (v, rest) → v.Fits depth) ∧
      (∀ depth cs vs rest, items? fuel depth cs = some (vs, rest) →
        ∀ v ∈ vs, Value.Fits depth v) ∧
      ∀ depth cs es rest, entries? fuel depth cs = some (es, rest) →
        ∀ e ∈ es, Value.Fits depth e.2 := by
  induction fuel with
  | zero => exact ⟨nofun, nofun, nofun⟩
  | succ fuel ih =>
    obtain ⟨ofValue, ofItems, ofEntries⟩ := ih
    refine ⟨fun depth cs v rest read => ?_, fun depth cs vs rest read => ?_,
      fun depth cs es rest read => ?_⟩
    · rcases value?_eq_some read with rfl | ⟨b, rfl⟩ | ⟨s, rfl⟩ | ⟨d, items, rfl, rfl, inner⟩ |
        ⟨d, entries, rfl, rfl, inner⟩ | ⟨t, -, denoted⟩
      · trivial
      · trivial
      · trivial
      · refine ⟨Nat.succ_pos d, Value.fitsItems_iff.mpr ?_⟩
        rcases inner with rfl | ⟨cs', inner⟩
        · nofun
        · exact ofItems _ _ _ _ inner
      · refine ⟨Nat.succ_pos d, Value.fitsEntries_iff.mpr ?_⟩
        rcases inner with rfl | ⟨cs', inner⟩
        · nofun
        · exact ofEntries _ _ _ _ inner
      · rcases value?_eq_some_number denoted with ⟨n, rfl, range⟩ | ⟨x, rfl⟩
        · exact range
        · trivial
    · obtain ⟨v, cs', ws, first, rfl, more⟩ := items?_eq_some read
      refine List.forall_mem_cons.mpr ⟨ofValue _ _ _ _ first, ?_⟩
      rcases more with rfl | ⟨cs'', inner⟩
      · nofun
      · exact ofItems _ _ _ _ inner
    · obtain ⟨k, v, cs₁, cs₂, fs, first, rfl, more⟩ := entries?_eq_some read
      refine List.forall_mem_cons.mpr ⟨ofValue _ _ _ _ first, ?_⟩
      rcases more with rfl | ⟨cs₃, inner⟩
      · nofun
      · exact ofEntries _ _ _ _ inner

/-! ## What was written -/

/-- A double that is read back has a number as its text. -/
theorem numeral?_dataChars {x : Binary64} (back : ReadsBack x) :
    ∃ t, numeral? x.dataChars = some (t, []) ∧ t.value? = some (.float x) := by
  have chars : (write (.float x)).toList = x.dataChars := String.toList_ofList
  unfold ReadsBack read? readChars? at back
  rw [chars] at back
  split at back
  · rename_i v rest read
    split at back
    · rename_i spent
      obtain rfl := Option.some.inj back
      rcases value?_eq_some read with h | ⟨_, h⟩ | ⟨_, h⟩ | ⟨_, _, -, h, -⟩ | ⟨_, _, -, h, -⟩ |
        ⟨t, number, denoted⟩
      · cases h
      · cases h
      · cases h
      · cases h
      · cases h
      · have solid {cs : List Char} (within : cs <:+ x.dataChars) : skipBlanks cs = cs := by
          cases cs with
          | nil => rfl
          | cons c cs =>
            exact skipBlanks_cons (token_of_isFloatChar (isFloatChar_dataChars x c
              (within.mem List.mem_cons_self))) cs
        rw [solid List.suffix_rfl] at number
        rw [solid (numeral?_suffix number), List.isEmpty_iff] at spent
        exact ⟨t, spent ▸ number, denoted⟩
    · cases back
  · cases back

/-- A written value starts with a token, which closes no list. -/
theorem writeChars_head {v : Value} (floats : ∀ x ∈ v.floats, ReadsBack x) :
    ∃ c ∈ (writeChars v).head?, isAsciiBlank c = false ∧ c ≠ ']' := by
  have ofNumber {cs r : List Char} {t : Numeral} (read : numeral? cs = some (t, r)) :
      ∃ c ∈ cs.head?, isAsciiBlank c = false ∧ c ≠ ']' := by
    obtain ⟨c, here, number⟩ := numeral?_head read
    obtain ⟨token, -, -, -, -, -, -, close⟩ := token_of_number number
    exact ⟨c, here, token, close⟩
  cases v with
  | null => exact ⟨'n', rfl, by decide⟩
  | boolean b =>
    cases b with
    | false => exact ⟨'f', rfl, by decide⟩
    | true => exact ⟨'t', rfl, by decide⟩
  | integer n =>
    have read := numeral?_integerChars n ends_nil
    rw [List.append_nil] at read
    exact ofNumber read
  | float x =>
    obtain ⟨t, read, -⟩ := numeral?_dataChars (floats x (by simp [Value.floats]))
    exact ofNumber read
  | text s => exact ⟨'"', rfl, by decide⟩
  | list items => exact ⟨'[', rfl, by decide⟩
  | table entries => exact ⟨'\x7b', rfl, by decide⟩

/-- The value is read from its text in front of any rest that cannot go on with it. -/
def Rereads (v : Value) : Prop :=
  ∀ (depth fuel : Nat) (rest : List Char), v.Fits depth → (∀ x ∈ v.floats, ReadsBack x) →
    Ends rest → 2 * (writeChars v).length ≤ fuel + 1 →
    value? fuel depth (writeChars v ++ rest) = some (v, rest)

theorem fuel_of_head {cs : List Char} {p : Char → Prop} {fuel : Nat}
    (head : ∃ c ∈ cs.head?, p c) (enough : 2 * cs.length ≤ fuel + 1) : ∃ f, fuel = f + 1 := by
  obtain ⟨c, here, -⟩ := head
  cases cs with
  | nil => cases here
  | cons d cs => exact ⟨fuel - 1, by rw [List.length_cons] at enough; omega⟩

theorem items?_writeItems {vs : List Value} (each : ∀ v ∈ vs, Rereads v) (notEmpty : vs ≠ [])
    (depth fuel : Nat) (rest : List Char) (fits : Value.FitsItems depth vs)
    (floats : ∀ x ∈ Value.floatsOfItems vs, ReadsBack x)
    (enough : 2 * (writeItems vs).length ≤ fuel) :
    items? fuel depth (writeItems vs ++ ']' :: rest) = some (vs, rest) := by
  induction vs generalizing fuel with
  | nil => exact absurd rfl notEmpty
  | cons v vs ih =>
    obtain ⟨ofHead, ofTail⟩ := List.forall_mem_append.mp floats
    cases vs with
    | nil =>
      obtain ⟨f, rfl⟩ := fuel_of_head (writeChars_head ofHead) (Nat.le_succ_of_le enough)
      have first := each v List.mem_cons_self depth f _ fits.1 ofHead
        (ends_cons ']' rest (by decide)) enough
      rw [writeItems, items?, first]
      rfl
    | cons w ws =>
      simp only [writeItems, List.length_append, List.length_cons] at enough ⊢
      obtain ⟨f, rfl⟩ := fuel_of_head (writeChars_head ofHead) (by omega : _ ≤ fuel + 1)
      have first := each v List.mem_cons_self depth f _ fits.1 ofHead
        (ends_cons ',' (writeItems (w :: ws) ++ ']' :: rest) (by decide)) (by omega)
      have more := ih (fun u here => each u (List.mem_cons_of_mem _ here)) (by simp) f fits.2
        ofTail (by omega)
      have step : items? (f + 1) depth
          (writeChars v ++ ',' :: (writeItems (w :: ws) ++ ']' :: rest)) =
            (items? f depth (writeItems (w :: ws) ++ ']' :: rest)).bind fun more =>
              some (v :: more.1, more.2) := by
        rw [items?, first]
        rfl
      rw [List.append_assoc, List.cons_append, step, more]
      rfl

theorem entries?_writeEntries {es : List (String × Value)} (each : ∀ e ∈ es, Rereads e.2)
    (notEmpty : es ≠ []) (depth fuel : Nat) (rest : List Char) (fits : Value.FitsEntries depth es)
    (floats : ∀ x ∈ Value.floatsOfEntries es, ReadsBack x)
    (enough : 2 * (writeEntries es).length ≤ fuel) :
    entries? fuel depth (writeEntries es ++ '\x7d' :: rest) = some (es, rest) := by
  induction es generalizing fuel with
  | nil => exact absurd rfl notEmpty
  | cons e es ih =>
    obtain ⟨k, v⟩ := e
    obtain ⟨ofHead, ofTail⟩ := List.forall_mem_append.mp floats
    have own : Rereads v := each (k, v) List.mem_cons_self
    -- the key and its colon, up to the value
    have key (cs : List Char) : ∃ cs', skipBlanks (stringChars k ++ ':' :: cs) = '"' :: cs' ∧
        string? cs' = some (k, ':' :: cs) := by
      refine ⟨_, ?_, string?_escaped k (':' :: cs)⟩
      rw [stringChars_append, skipBlanks_cons (by decide)]
    cases es with
    | nil =>
      simp only [writeEntries, List.length_append, List.length_cons] at enough ⊢
      obtain ⟨f, rfl⟩ : ∃ f, fuel = f + 1 := ⟨fuel - 1, by omega⟩
      have first := own depth f _ fits.1 ofHead (ends_cons '\x7d' rest (by decide)) (by omega)
      obtain ⟨cs, quote, string⟩ := key (writeChars v ++ '\x7d' :: rest)
      rw [List.append_assoc, List.cons_append, entries?, quote]
      simp only [expect?, if_true, Option.bind_eq_bind, Option.bind_some, string,
        skipBlanks_cons (by decide : isAsciiBlank ':' = false), first]
      rfl
    | cons g gs =>
      simp only [writeEntries, List.length_append, List.length_cons] at enough ⊢
      obtain ⟨f, rfl⟩ : ∃ f, fuel = f + 1 := ⟨fuel - 1, by omega⟩
      have first := own depth f _ fits.1 ofHead
        (ends_cons ',' (writeEntries (g :: gs) ++ '\x7d' :: rest) (by decide)) (by omega)
      have more := ih (fun u here => each u (List.mem_cons_of_mem _ here)) (by simp) f fits.2
        ofTail (by omega)
      obtain ⟨cs, quote, string⟩ :=
        key (writeChars v ++ ',' :: (writeEntries (g :: gs) ++ '\x7d' :: rest))
      simp only [List.append_assoc, List.cons_append] at quote string ⊢
      rw [entries?, quote]
      simp only [expect?, if_true, Option.bind_eq_bind, Option.bind_some, string,
        skipBlanks_cons (by decide : isAsciiBlank ':' = false), first,
        skipBlanks_cons (by decide : isAsciiBlank ',' = false), more]

theorem writeItems_head {vs : List Value} (notEmpty : vs ≠ [])
    (floats : ∀ x ∈ Value.floatsOfItems vs, ReadsBack x) :
    ∃ c ∈ (writeItems vs).head?, isAsciiBlank c = false ∧ c ≠ ']' := by
  cases vs with
  | nil => exact absurd rfl notEmpty
  | cons v vs =>
    obtain ⟨c, here, token⟩ := writeChars_head (List.forall_mem_append.mp floats).1
    refine ⟨c, ?_, token⟩
    cases vs with
    | nil => exact here
    | cons w ws =>
      rw [writeItems, List.head?_append, Option.mem_def.mp here]
      · rfl
      · intro none
        cases none

theorem writeEntries_head {es : List (String × Value)} (notEmpty : es ≠ []) :
    ∃ cs, writeEntries es = '"' :: cs := by
  cases es with
  | nil => exact absurd rfl notEmpty
  | cons e es =>
    obtain ⟨k, v⟩ := e
    cases es with
    | nil => exact ⟨_, by rw [writeEntries, stringChars_append]⟩
    | cons f fs =>
      exact ⟨_, by rw [writeEntries, stringChars_append]; intro none; cases none⟩

theorem rereads_list {items : List Value} (each : ∀ v ∈ items, Rereads v) :
    Rereads (.list items) := by
  intro depth fuel rest fits floats ends enough
  simp only [writeChars, List.length_append, List.length_cons, List.length_nil] at enough ⊢
  obtain ⟨f, rfl⟩ : ∃ f, fuel = f + 1 := ⟨fuel - 1, by omega⟩
  obtain ⟨d, rfl⟩ : ∃ d, depth = d + 1 := ⟨depth - 1, by have := fits.1; omega⟩
  simp only [List.append_assoc, List.cons_append, List.nil_append]
  rw [value?, skipBlanks_cons (by decide)]
  simp only [if_true, (by decide : ¬ '[' = 'n'), (by decide : ¬ '[' = 't'),
    (by decide : ¬ '[' = 'f'), (by decide : ¬ '[' = '"'), if_false]
  by_cases notEmpty : items = []
  · subst notEmpty
    rfl
  · have inner := items?_writeItems each notEmpty d f rest fits.2 floats (by omega)
    obtain ⟨c, here, token, noClose⟩ := writeItems_head notEmpty floats
    obtain ⟨cs, first⟩ : ∃ cs, writeItems items = c :: cs := List.head?_eq_some_iff.mp here
    rw [first, List.cons_append] at inner ⊢
    rw [skipBlanks_cons token]
    split
    · rename_i close
      exact absurd (List.cons.inj close).1 noClose
    · rw [inner]
      rfl

theorem rereads_table {entries : List (String × Value)} (each : ∀ e ∈ entries, Rereads e.2) :
    Rereads (.table entries) := by
  intro depth fuel rest fits floats ends enough
  simp only [writeChars, List.length_append, List.length_cons, List.length_nil] at enough ⊢
  obtain ⟨f, rfl⟩ : ∃ f, fuel = f + 1 := ⟨fuel - 1, by omega⟩
  obtain ⟨d, rfl⟩ : ∃ d, depth = d + 1 := ⟨depth - 1, by have := fits.1; omega⟩
  simp only [List.append_assoc, List.cons_append, List.nil_append]
  rw [value?, skipBlanks_cons (by decide)]
  simp only [if_true, (by decide : ¬ '\x7b' = 'n'), (by decide : ¬ '\x7b' = 't'),
    (by decide : ¬ '\x7b' = 'f'), (by decide : ¬ '\x7b' = '"'), (by decide : ¬ '\x7b' = '['),
    if_false]
  by_cases notEmpty : entries = []
  · subst notEmpty
    rfl
  · have inner := entries?_writeEntries each notEmpty d f rest fits.2 floats (by omega)
    obtain ⟨cs, first⟩ := writeEntries_head notEmpty
    rw [first, List.cons_append] at inner ⊢
    rw [skipBlanks_cons (by decide)]
    split
    · rename_i close
      exact absurd (List.cons.inj close).1 (by decide)
    · rw [inner]
      rfl

/-- A value that fits is read back from its text. -/
theorem rereads (v : Value) : Rereads v := by
  induction v using Value.induct with
  | null =>
    intro depth fuel rest _ _ _ enough
    obtain ⟨f, rfl⟩ : ∃ f, fuel = f + 1 := ⟨fuel - 1, by simp [writeChars] at enough; omega⟩
    rfl
  | boolean b =>
    intro depth fuel rest _ _ _ enough
    obtain ⟨f, rfl⟩ : ∃ f, fuel = f + 1 :=
      ⟨fuel - 1, by cases b <;> simp [writeChars] at enough <;> omega⟩
    cases b <;> rfl
  | integer n =>
    intro depth fuel rest fits _ ends enough
    have head := writeChars_head (v := .integer n) nofun
    obtain ⟨f, rfl⟩ := fuel_of_head head enough
    exact value?_number (numeral?_integerChars n ends) (value?_integer fits)
  | float x =>
    intro depth fuel rest _ floats ends enough
    obtain ⟨f, rfl⟩ := fuel_of_head (writeChars_head floats) enough
    obtain ⟨t, number, denoted⟩ := numeral?_dataChars (floats x (by simp [Value.floats]))
    exact value?_number (numeral?_append ends number) denoted
  | text s =>
    intro depth fuel rest _ _ _ enough
    obtain ⟨f, rfl⟩ := fuel_of_head (writeChars_head (v := .text s) nofun) enough
    rw [writeChars, stringChars_append, value?, skipBlanks_cons (by decide)]
    simp [string?_escaped]
  | list items each => exact rereads_list each
  | table entries each => exact rereads_table each

/-! ## Whole texts -/

/-- A text that holds a written value is read as that value. -/
theorem read?_write {v : Value} (fits : v.Fits maxDepth) (floats : ∀ x ∈ v.floats, ReadsBack x) :
    read? (write v) = some v := by
  have chars : (write v).toList = writeChars v := String.toList_ofList
  have alone := rereads v maxDepth (2 * (writeChars v).length + 2) [] fits floats ends_nil
    (by omega)
  rw [List.append_nil] at alone
  rw [read?, chars, readChars?, alone]
  rfl

theorem fits_of_read? {s : String} {v : Value} (read : read? s = some v) : v.Fits maxDepth := by
  unfold read? readChars? at read
  split at read
  · rename_i w rest inner
    split at read
    · obtain rfl := Option.some.inj read
      exact (fits_of_read _).1 _ _ _ _ inner
    · cases read
  · cases read

/-- What is read as a data value is canonical and can be written. -/
theorem readCanonical?_eq_some {s : String} {v : Value} (read : readCanonical? s = some v) :
    v.canonical = v ∧ v.Fits maxDepth := by
  obtain ⟨w, raw, rfl⟩ := Option.map_eq_some_iff.mp read
  exact ⟨Value.canonical_canonical w, (fits_of_read? raw).canonical⟩

/-- A canonical value that can be written is read as itself. -/
theorem readCanonical?_write {v : Value} (canonical : v.canonical = v) (fits : v.Fits maxDepth)
    (floats : ∀ x ∈ v.floats, ReadsBack x) : readCanonical? (write v) = some v := by
  rw [readCanonical?, read?_write fits floats, Option.map_some, canonical]

end Json

end TaskSync
