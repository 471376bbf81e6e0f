/-!
# Similar words

How similar two words are: a fraction that grows with the characters they share at nearly the same
places and shrinks with the shared ones that are out of order. Words are alike when it is above
seven tenths.
-/

namespace TaskSync.Text

/-- A fraction; a denominator of zero stands for nothing in common. -/
structure Fraction where
  num : Nat
  den : Nat

def Fraction.isAbove (x y : Fraction) : Bool := decide (y.num * x.den < x.num * y.den)

/-- Whether the place `j` is still free and holds the character `c`. -/
def fits (b : Array Char) (taken : List Nat) (c : Char) (j : Nat) : Bool :=
  !taken.contains j && b[j]? == some c

/-- For each character of a word in turn, the first free place of the other word near its own
that holds it. -/
def matchFrom (b : Array Char) (reach : Nat) : Nat → List Nat → List Char → List (Char × Nat)
  | _, _, [] => []
  | i, taken, c :: cs =>
    let low := i - reach
    let near := (List.range (min b.size (i + reach + 1) - low)).map (· + low)
    match near.find? (fits b taken c) with
    | some j => (c, j) :: matchFrom b reach (i + 1) (j :: taken) cs
    | none => matchFrom b reach (i + 1) taken cs

/-- Three times the similarity: the shares of matched characters in both words, and the share of
the matched ones that are in order. -/
def similarity (s t : String) : Fraction :=
  let a := s.toList
  let b := t.toList.toArray
  let reach := max a.length b.size / 2 - 1
  let found := matchFrom b reach 0 [] a
  let inOrder := (found.map (·.2)).mergeSort (· ≤ ·)
  let swapped := (found.zip inOrder).countP fun (x, j) => b[j]? != some x.1
  let m := found.length
  ⟨m * m * b.size + m * m * a.length + (m - swapped / 2) * a.length * b.size, a.length * b.size * m⟩

def likeness : Fraction := ⟨21, 10⟩

/-- Puts a word in front of the first that is not more similar. -/
def insertBySimilarity (w : Fraction × String) :
    List (Fraction × String) → List (Fraction × String)
  | [] => [w]
  | x :: xs => if x.1.isAbove w.1 then x :: insertBySimilarity w xs else w :: x :: xs

/-- The words that are like a given one, the most similar first. -/
def alike (word : String) (words : List String) : List String :=
  (words.foldl
    (fun found x =>
      let score := similarity word x
      if score.isAbove likeness then insertBySimilarity (score, x) found else found)
    []).map (·.2)

end TaskSync.Text
