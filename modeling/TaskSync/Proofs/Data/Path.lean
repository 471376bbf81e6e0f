import TaskSync.Data.Path

/-!
# Joining a name to a path

A path that a plain name is joined to gains exactly one component, however it is written: empty,
absolute, or with slashes at its end. A name is plain when it is neither empty nor one of the two
names made of dots, and has no slash in it; on its own it is a path of one component.
-/

namespace TaskSync.Path

/-- The text is one component of a path, and an ordinary one. -/
structure IsPlain (name : List Char) : Prop where
  ne_nil : name ≠ []
  ne_dot : name ≠ ['.']
  ne_dots : name ≠ ['.', '.']
  slashless : '/' ∉ name

/-! ### Parts between slashes -/

theorem splitSlash_ne_nil (cs : List Char) : splitSlash cs ≠ [] := by
  cases cs with
  | nil => exact List.cons_ne_nil _ _
  | cons c cs =>
      rw [splitSlash]
      split
      · exact List.cons_ne_nil _ _
      · split <;> exact List.cons_ne_nil _ _

theorem splitSlash_slash (cs : List Char) : splitSlash ('/' :: cs) = [] :: splitSlash cs := rfl

/-- A character that is no slash belongs to the first part. -/
theorem splitSlash_cons {c : Char} (apart : c ≠ '/') {cs part : List Char}
    {parts : List (List Char)} (rest : splitSlash cs = part :: parts) :
    splitSlash (c :: cs) = (c :: part) :: parts := by
  rw [splitSlash, if_neg apart, rest]

theorem splitSlash_append_slash (a b : List Char) :
    splitSlash (a ++ '/' :: b) = splitSlash a ++ splitSlash b := by
  induction a with
  | nil => rfl
  | cons c a ih =>
      by_cases slash : c = '/'
      · subst slash
        rw [List.cons_append, splitSlash_slash, splitSlash_slash, ih, List.cons_append]
      · obtain ⟨part, parts, split⟩ := List.exists_cons_of_ne_nil (splitSlash_ne_nil a)
        rw [split] at ih
        rw [List.cons_append, splitSlash_cons slash ih, splitSlash_cons slash split]
        rfl

theorem splitSlash_of_slashless {cs : List Char} (slashless : '/' ∉ cs) :
    splitSlash cs = [cs] := by
  induction cs with
  | nil => rfl
  | cons c cs ih =>
      obtain ⟨apart, rest⟩ := not_or.mp (mt List.mem_cons.mpr slashless)
      exact splitSlash_cons (Ne.symm apart) (ih rest)

/-! ### Components -/

/-- What stands in front of the parts: a root, or a dot that leads. -/
def front (cs : List Char) : List Component :=
  match cs with
  | '/' :: _ => [.root]
  | _ => if (splitSlash cs).head? = some ['.'] then [.current] else []

theorem componentsOf_eq (cs : List Char) :
    componentsOf cs = front cs ++ (splitSlash cs).filterMap component? := rfl

theorem front_of_ne {c : Char} (apart : c ≠ '/') (cs : List Char) :
    front (c :: cs) = if (splitSlash (c :: cs)).head? = some ['.'] then [.current] else [] := by
  rw [front]
  exact fun _ same => apart (List.cons.inj same).1

theorem front_append_slash {a : List Char} (nonempty : a ≠ []) (b : List Char) :
    front (a ++ '/' :: b) = front a := by
  obtain ⟨c, a, rfl⟩ := List.exists_cons_of_ne_nil nonempty
  by_cases slash : c = '/'
  · subst slash
    rfl
  · obtain ⟨part, parts, split⟩ := List.exists_cons_of_ne_nil (splitSlash_ne_nil (c :: a))
    rw [front_of_ne slash, List.cons_append, front_of_ne slash, ← List.cons_append,
      splitSlash_append_slash, split]
    rfl

/-- What comes behind a slash is added to what stands before it. -/
theorem componentsOf_append_slash {a : List Char} (nonempty : a ≠ []) (b : List Char) :
    componentsOf (a ++ '/' :: b) = componentsOf a ++ (splitSlash b).filterMap component? := by
  rw [componentsOf_eq, componentsOf_eq, front_append_slash nonempty, splitSlash_append_slash,
    List.filterMap_append, List.append_assoc]

theorem componentsOf_root (b : List Char) :
    componentsOf ('/' :: b) = .root :: (splitSlash b).filterMap component? := rfl

variable {name : List Char}

theorem IsPlain.parts (h : IsPlain name) :
    (splitSlash name).filterMap component? = [.normal name] := by
  have ordinary : component? name = some (.normal name) := by
    rw [component?, if_neg (not_or.mpr ⟨h.ne_nil, h.ne_dot⟩), if_neg h.ne_dots]
  rw [splitSlash_of_slashless h.slashless, List.filterMap_cons_some ordinary]
  rfl

theorem IsPlain.not_isAbsolute (h : IsPlain name) : isAbsolute name = false := by
  obtain ⟨c, cs, rfl⟩ := List.exists_cons_of_ne_nil h.ne_nil
  have apart : c ≠ '/' := fun same => h.slashless (same ▸ List.mem_cons_self)
  simpa [isAbsolute] using apart

theorem IsPlain.componentsOf (h : IsPlain name) : componentsOf name = [.normal name] := by
  obtain ⟨c, cs, rfl⟩ := List.exists_cons_of_ne_nil h.ne_nil
  have apart : c ≠ '/' := fun same => h.slashless (same ▸ List.mem_cons_self)
  have unled : (splitSlash (c :: cs)).head? ≠ some ['.'] := by
    rw [splitSlash_of_slashless h.slashless]
    exact fun dot => h.ne_dot (Option.some.inj dot)
  rw [componentsOf_eq, front_of_ne apart, if_neg unled, h.parts]
  rfl

/-- Whatever the path looks like, a plain name that is joined to it is its last component. -/
theorem components_join (p : Path) {name : String} (plain : IsPlain name.toList) :
    (p.join name).components = p.components ++ [.normal name.toList] := by
  rw [join, plain.not_isAbsolute, if_neg Bool.false_ne_true]
  split
  · rename_i bare
    rw [components, components, String.toList_ofList]
    obtain none | slash := bare
    · rw [none]
      exact plain.componentsOf
    · -- The path ends with a slash, so that its last part is empty and the name takes its place.
      obtain ⟨a, written⟩ := List.getLast?_eq_some_iff.mp slash
      rw [written, List.append_assoc, List.singleton_append]
      cases a with
      | nil =>
          rw [List.nil_append, List.nil_append, componentsOf_root, componentsOf_root, plain.parts]
          rfl
      | cons c a =>
          rw [componentsOf_append_slash (List.cons_ne_nil c a),
            componentsOf_append_slash (List.cons_ne_nil c a), plain.parts]
          simp [splitSlash, component?]
  · rename_i bare
    rw [components, components, String.toList_ofList,
      componentsOf_append_slash (not_or.mp bare).1, plain.parts]

/-- The directory is the one that has this name in `dir`: the name alone is one component, and it
is all that the directory has more. -/
structure IsChild (home dir : Path) (name : String) : Prop where
  plain : IsPlain name.toList
  alone : components ⟨name⟩ = [.normal name.toList]
  components : home.components = dir.components ++ [.normal name.toList]

theorem isChild_join (p : Path) {name : String} (plain : IsPlain name.toList) :
    (p.join name).IsChild p name :=
  ⟨plain, plain.componentsOf, p.components_join plain⟩

theorem IsChild.apart {home home' dir : Path} {name name' : String} (h : home.IsChild dir name)
    (h' : home'.IsChild dir name') (other : name ≠ name') : (home == home') = false := by
  have differ : home.components ≠ home'.components := by
    intro same
    rw [h.components, h'.components] at same
    have last := List.append_cancel_left same
    exact other (String.toList_injective (Component.normal.inj (List.cons.inj last).1))
  show (home.components == home'.components) = false
  exact beq_eq_false_iff_ne.mpr differ

end TaskSync.Path
