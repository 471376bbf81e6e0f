import TaskSync.Pattern.Basic
import TaskSync.Pattern.Property
import TaskSync.Text.Blank
import TaskSync.Text.Letter

/-!
# Reading regular expressions

A text is a regular expression if the grammar takes all of it, the classes it names exist, it
matches no half of a character, and its automaton is not too large. There is no look-around and
no reference to a group.
-/

namespace TaskSync.Pattern

open Text

/-- The modes that change what the text means. -/
structure Mode where
  /-- Blanks and comments do not count. -/
  spaced : Bool
  /-- Classes hold characters; otherwise bytes. -/
  unicode : Bool

/-- Skips blanks and comments where they do not count. -/
def skipSpace (m : Mode) : Nat → List Char → List Char
  | 0, cs => cs
  | fuel + 1, cs =>
    if !m.spaced then cs
    else
      match cs with
      | [] => []
      | c :: rest =>
        if isBlank c then skipSpace m fuel rest
        else if c = '#' then skipSpace m fuel ((rest.dropWhile (· ≠ '\n')).drop 1)
        else cs

def skip (m : Mode) (cs : List Char) : List Char := skipSpace m cs.length cs

/-- What is left after an optional space; `none` at the end of the text. -/
def more? (m : Mode) (cs : List Char) : Option (List Char) :=
  match skip m cs with
  | [] => none
  | cs => some cs

/-! ### Escapes -/

/-- What an escape stands for. -/
inductive Escaped where
  /-- A character; `byte` says that it was given as a byte. -/
  | literal (c : Nat) (byte : Bool)
  | digits (negated : Bool)
  | spaces (negated : Bool)
  | wordChars (negated : Bool)
  | property
  | assertion

/-- Characters with a meaning of their own. -/
def isMeta (c : Char) : Bool := "\\.+*?()|[]\x7b\x7d^$#&-~".toList.contains c

/-- Characters that a backslash leaves as they are: all of ASCII but letters, digits and angle
brackets. -/
def isEscapable (c : Char) : Bool :=
  isMeta c || (decide (c.toNat ≤ 0x7F) && !c.isAlphanum && c != '<' && c != '>')

def ofHexDigits? (ds : List Char) : Option Nat :=
  ds.foldlM (fun n c => (hexDigit? c).map (n * 16 + ·)) 0

/-- A code point that is a character. -/
def isCodePoint (n : Nat) : Bool := decide (n < 0xD800 ∨ (0xE000 ≤ n ∧ n < 0x110000))

/-- So many hexadecimal digits, with spaces in between where they do not count. -/
def hexDigits? (m : Mode) : Nat → List Char → List Char → Option (List Char × List Char)
  | 0, ds, cs => some (ds, cs)
  | n + 1, ds, cs =>
    match skip m cs with
    | [] => none
    | c :: rest => if (hexDigit? c).isSome then hexDigits? m n (ds ++ [c]) rest else none

/-- Hexadecimal digits up to a closing brace. -/
def hexBrace? (m : Mode) : Nat → List Char → List Char → Option (List Char × List Char)
  | 0, _, _ => none
  | fuel + 1, ds, cs =>
    match skip m cs with
    | [] => none
    | '\x7d' :: rest => if ds = [] then none else some (ds, rest)
    | c :: rest => if (hexDigit? c).isSome then hexBrace? m fuel (ds ++ [c]) rest else none

/-- A character by its number, behind the letter that says how many digits it has. -/
def hexEscape? (m : Mode) (count : Nat) (cs : List Char) : Option (Escaped × List Char) := do
  let cs ← more? m cs
  let (braced, ds, rest) ← show Option (Bool × List Char × List Char) from
    match cs with
    | '\x7b' :: rest => (hexBrace? m (rest.length + 1) [] rest).map fun r => (true, r)
    | cs => (hexDigits? m count [] cs).map fun r => (false, r)
  let n ← ofHexDigits? ds
  if isCodePoint n then some (.literal n (!braced && count == 2), rest) else none

/-- The text of a class name up to the closing brace. -/
def braceName? (m : Mode) : Nat → List Char → List Char → Option (List Char × List Char)
  | 0, _, _ => none
  | fuel + 1, ds, cs =>
    match skip m cs with
    | [] => none
    | '\x7d' :: rest => some (ds, rest)
    | c :: rest => braceName? m fuel (ds ++ [c]) rest

/-- Splits a name at the first place where a separator stands. -/
def splitAt? (mark : List Char) : List Char → List Char → Option (List Char × List Char)
  | _, [] => none
  | front, c :: cs =>
    if mark.isPrefixOf (c :: cs) then some (front.reverse, (c :: cs).drop mark.length)
    else splitAt? mark (c :: front) cs

/-- Whether the text between braces names a class. -/
def isBraceClass (name : List Char) : Bool :=
  match splitAt? ['!', '='] [] name <|> splitAt? [':'] [] name <|> splitAt? ['='] [] name with
  | some (p, v) => isValueName p v
  | none => isClassName name

/-- A class by its property, behind the letter. -/
def propertyEscape? (m : Mode) (cs : List Char) : Option (Escaped × List Char) := do
  let cs ← more? m cs
  match cs with
  | '\x7b' :: rest =>
    let (name, rest) ← braceName? m (rest.length + 1) [] rest
    if m.unicode && isBraceClass name then some (.property, rest) else none
  | c :: rest => if m.unicode && isClassName [c] then some (.property, rest) else none
  | [] => none

/-- The word boundaries that braces can name. -/
def boundaryNames : List String := ["start", "end", "start-half", "end-half"]

def isBoundaryChar (c : Char) : Bool := c.isAlpha || c == '-'

def boundaryName (m : Mode) : Nat → List Char → List Char → List Char × List Char
  | 0, ds, cs => (ds, cs)
  | fuel + 1, ds, cs =>
    match skip m cs with
    | c :: rest =>
      if isBoundaryChar c then boundaryName m fuel (ds ++ [c]) rest else (ds, c :: rest)
    | [] => (ds, [])

/-- Behind a word boundary, braces may name its kind; anything but a letter or hyphen in them
makes them a repetition. -/
def boundary? (m : Mode) (cs : List Char) : Option (Escaped × List Char) :=
  match cs with
  | '\x7b' :: rest => do
    let inner ← more? m rest
    match inner with
    | c :: _ =>
      if isBoundaryChar c then
        match boundaryName m (inner.length + 1) [] inner with
        | (ds, '\x7d' :: rest) =>
          if boundaryNames.any (·.toList == ds) then some (.assertion, rest) else none
        | _ => none
      else some (.assertion, cs)
    | [] => none
  | cs => some (.assertion, cs)

/-- An escape, behind its backslash. -/
def escape? (m : Mode) : List Char → Option (Escaped × List Char)
  | [] => none
  | c :: cs =>
    if c = 'x' then hexEscape? m 2 cs
    else if c = 'u' then hexEscape? m 4 cs
    else if c = 'U' then hexEscape? m 8 cs
    else if c = 'p' ∨ c = 'P' then propertyEscape? m cs
    else if c = 'd' then some (.digits false, cs)
    else if c = 'D' then some (.digits true, cs)
    else if c = 's' then some (.spaces false, cs)
    else if c = 'S' then some (.spaces true, cs)
    else if c = 'w' then some (.wordChars false, cs)
    else if c = 'W' then some (.wordChars true, cs)
    else if isEscapable c then some (.literal c.toNat false, cs)
    else if c = 'a' then some (.literal 7 false, cs)
    else if c = 'f' then some (.literal 12 false, cs)
    else if c = 't' then some (.literal 9 false, cs)
    else if c = 'n' then some (.literal 10 false, cs)
    else if c = 'r' then some (.literal 13 false, cs)
    else if c = 'v' then some (.literal 11 false, cs)
    else if c = 'b' then boundary? m cs
    else if c = 'A' ∨ c = 'z' ∨ c = 'B' ∨ c = '<' ∨ c = '>' then some (.assertion, cs)
    else none

/-! ### Sets of bytes -/

def allBytes : Nat := 2 ^ 256 - 1

/-- The bytes from `a` to `b`. -/
def byteRange (a b : Nat) : Nat := 2 ^ (b + 1) - 2 ^ a

def complement (mask : Nat) : Nat := allBytes ^^^ mask

def digitBytes : Nat := byteRange 0x30 0x39

def spaceBytes : Nat := byteRange 9 13 ||| byteRange 0x20 0x20

def wordBytes : Nat :=
  digitBytes ||| byteRange 0x41 0x5A ||| byteRange 0x61 0x7A ||| byteRange 0x5F 0x5F

/-- Whether a set of bytes holds ASCII alone. Any other could match half of a character. -/
def isAsciiMask (mask : Nat) : Bool := decide (mask < 2 ^ 128)

/-- The classes that can be named inside brackets. -/
def asciiClasses : List (String × Nat) :=
  [("alnum", digitBytes ||| byteRange 0x41 0x5A ||| byteRange 0x61 0x7A),
   ("alpha", byteRange 0x41 0x5A ||| byteRange 0x61 0x7A), ("ascii", byteRange 0 0x7F),
   ("blank", byteRange 9 9 ||| byteRange 0x20 0x20),
   ("cntrl", byteRange 0 0x1F ||| byteRange 0x7F 0x7F), ("digit", digitBytes),
   ("graph", byteRange 0x21 0x7E), ("lower", byteRange 0x61 0x7A),
   ("print", byteRange 0x20 0x7E),
   ("punct", byteRange 0x21 0x2F ||| byteRange 0x3A 0x40 ||| byteRange 0x5B 0x60
     ||| byteRange 0x7B 0x7E),
   ("space", spaceBytes), ("upper", byteRange 0x41 0x5A), ("word", wordBytes),
   ("xdigit", digitBytes ||| byteRange 0x41 0x46 ||| byteRange 0x61 0x66)]

/-! ### Sizes of automata

The automaton of a set is not built; how many bytes it takes is estimated here. What is known is
that twenty copies of `\w` take between 300 and 500 kilobytes. The other classes are set against
that by how many ranges of characters they have. A pattern whose automaton comes within a factor of
two of the limit may therefore be judged the wrong way.
-/

def utf8Bytes (n : Nat) : Nat :=
  if n < 0x80 then 1 else if n < 0x800 then 2 else if n < 0x10000 then 3 else 4

/-- An estimate for a range: a state of ASCII ranges, or a few states for each length of an
encoding. -/
def rangeSize (a b : Nat) : Nat := if b < 0x80 then 8 else 100 * (utf8Bytes b + 1 - utf8Bytes a)

/-- An estimate for any character: a few states for each of the four lengths of an encoding. -/
def anySize : Nat := 400

/-- An estimate for `\d`, which has fewer than a hundred ranges. -/
def digitSize : Nat := 2500

/-- An estimate for `\s`, which has about ten ranges. -/
def spaceSize : Nat := 500

/-- An estimate for `\w`: the middle of what is known of twenty copies. -/
def wordSize : Nat := 20000

/-- An estimate for a property. Properties have between one range and as many as `\w`; this is half
of the latter, whichever property it is. -/
def propertySize : Nat := 10000

/-- The set of a class given by one letter. -/
def classSet (m : Mode) (size mask : Nat) (negated : Bool) : CharSet :=
  let mask := if negated then complement mask else mask
  ⟨0, if m.unicode then size + (if negated then anySize else 0) else 2 * stateSize, mask⟩

/-! ### Sets in brackets -/

/-- The set that an escape stands for inside brackets; positions in the text are no sets. -/
def Escaped.set? (m : Mode) : Escaped → Option CharSet
  | literal n _ =>
    if m.unicode then some ⟨0, rangeSize n n, 0⟩
    else if n ≤ 0x7F then some ⟨0, 8, byteRange n n⟩
    else none
  | digits negated => some (classSet m digitSize digitBytes negated)
  | spaces negated => some (classSet m spaceSize spaceBytes negated)
  | wordChars negated => some (classSet m wordSize wordBytes negated)
  | property => some ⟨0, propertySize, 0⟩
  | assertion => none

/-- One element inside brackets. -/
def element? (m : Mode) : List Char → Option (Escaped × List Char)
  | [] => none
  | '\\' :: cs => escape? m cs
  | c :: cs => some (.literal c.toNat false, cs)

/-- An element or a range. A hyphen before a bracket or another hyphen makes no range. -/
def rangeOrElement? (m : Mode) (cs : List Char) : Option (CharSet × List Char) := do
  let (first, cs) ← element? m cs
  let cs ← more? m cs
  let single : Option (CharSet × List Char) := (first.set? m).map fun s => (s, cs)
  match cs with
  | '-' :: rest =>
    match skip m rest with
    | ']' :: _ | '-' :: _ => single
    | [] => none
    | rest =>
      let (last, rest) ← element? m rest
      match first, last with
      | .literal a _, .literal b _ =>
        if b < a then none
        else if m.unicode then some (⟨0, rangeSize a b, 0⟩, rest)
        else if b ≤ 0x7F then some (⟨0, 8, byteRange a b⟩, rest)
        else none
      | _, _ => none
  | _ => single

/-- A named class inside brackets, behind its opening bracket: `:alpha:]` or `:^alpha:]`. -/
def asciiClass? (m : Mode) (cs : List Char) : Option (CharSet × List Char) :=
  match cs with
  | ':' :: cs =>
    let (negated, cs) : Bool × List Char := match cs with
      | '^' :: cs => (true, cs)
      | cs => (false, cs)
    match cs.span (· ≠ ':') with
    | (name, ':' :: ']' :: rest) =>
      (asciiClasses.find? fun e => e.1.toList == name).map fun e =>
        (classSet m 64 e.2 negated, rest)
    | _ => none
  | _ => none

/-- How the sets inside brackets are combined. -/
inductive SetOp where
  | intersection | difference | symmetricDifference

def SetOp.apply (op : SetOp) (a b : CharSet) : CharSet where
  depth := max a.depth b.depth + 1
  size := a.size + b.size
  mask := match op with
    | intersection => a.mask &&& b.mask
    | difference => a.mask &&& complement b.mask
    | symmetricDifference => a.mask ^^^ b.mask

/-- The union of the elements read so far. -/
def union (items : List CharSet) : CharSet where
  depth := (items.map (·.depth)).foldl max 0 + if 2 ≤ items.length then 1 else 0
  size := (items.map (·.size)).foldl (· + ·) 0
  mask := (items.map (·.mask)).foldl (· ||| ·) 0

/-- A set whose last operand is complete. -/
def combine (left : Option (CharSet × SetOp)) (items : List CharSet) : CharSet :=
  match left with
  | some (a, op) => op.apply a (union items)
  | none => union items

/-- The set between brackets. A set of bytes has to be ASCII. -/
def bracketed? (m : Mode) (negated : Bool) (s : CharSet) : Option CharSet :=
  let mask := if negated then complement s.mask else s.mask
  if !m.unicode && !isAsciiMask mask then none
  else some ⟨s.depth + 1, s.size + (if negated then anySize else 0) + stateSize, mask⟩

/-- Hyphens at the front of a set stand for themselves. -/
def leadingHyphens (m : Mode) : Nat → Nat → List Char → Option (Nat × List Char)
  | 0, n, cs => some (n, cs)
  | fuel + 1, n, cs =>
    match cs with
    | '-' :: rest => do leadingHyphens m fuel (n + 1) (← more? m rest)
    | cs => some (n, cs)

def hyphenSet : CharSet := ⟨0, 8, byteRange 0x2D 0x2D⟩

def bracketSet : CharSet := ⟨0, 8, byteRange 0x5D 0x5D⟩

/-- The front of a set behind its bracket: whether it is negated, and the hyphens or the bracket
that stand for themselves. -/
def setFront? (m : Mode) (cs : List Char) : Option (Bool × List CharSet × List Char) := do
  let cs ← more? m cs
  let (negated, cs) ← show Option (Bool × List Char) from
    match cs with
    | '^' :: rest => (more? m rest).map fun cs => (true, cs)
    | cs => some (false, cs)
  let (hyphens, cs) ← leadingHyphens m cs.length 0 cs
  match hyphens, cs with
  | 0, ']' :: rest => do
    let cs ← more? m rest
    some (negated, [bracketSet], cs)
  | n, cs => some (negated, List.replicate n hyphenSet, cs)

/-- The rest of a set, up to its closing bracket. -/
def setBody? (m : Mode) : Nat → Bool → Option (CharSet × SetOp) → List CharSet → List Char →
    Option (CharSet × List Char)
  | 0, _, _, _, _ => none
  | fuel + 1, negated, left, items, cs =>
    match skip m cs with
    | [] => none
    | ']' :: rest => (bracketed? m negated (combine left items)).map fun s => (s, rest)
    | '[' :: rest =>
      match asciiClass? m rest with
      | some (s, rest) => setBody? m fuel negated left (items ++ [s]) rest
      | none => do
        let (n, inner, rest) ← setFront? m rest
        let (s, rest) ← setBody? m fuel n none inner rest
        setBody? m fuel negated left (items ++ [s]) rest
    | '&' :: '&' :: rest =>
      setBody? m fuel negated (some (combine left items, .intersection)) [] rest
    | '-' :: '-' :: rest =>
      setBody? m fuel negated (some (combine left items, .difference)) [] rest
    | '~' :: '~' :: rest =>
      setBody? m fuel negated (some (combine left items, .symmetricDifference)) [] rest
    | cs => do
      let (s, rest) ← rangeOrElement? m cs
      setBody? m fuel negated left (items ++ [s]) rest

/-- A set behind its opening bracket. -/
def set? (m : Mode) (cs : List Char) : Option (CharSet × List Char) := do
  let (negated, items, cs) ← setFront? m cs
  setBody? m (cs.length + 1) negated none items cs

/-! ### Repetitions and groups -/

/-- A count below 2^32 with blanks around it; `some none` where there are no digits. -/
def count? (m : Mode) (cs : List Char) : Option (Option Nat × List Char) :=
  let rec digitsOf : Nat → List Char → List Char → List Char × List Char
    | 0, ds, cs => (ds, cs)
    | fuel + 1, ds, cs =>
      match cs with
      | c :: rest => if c.isDigit then digitsOf fuel (ds ++ [c]) (skip m rest) else (ds, cs)
      | [] => (ds, [])
  let (ds, rest) := digitsOf (cs.length + 1) [] (cs.dropWhile isBlank)
  let rest := skip m (rest.dropWhile isBlank)
  if ds = [] then some (none, rest)
  else
    match ofDigits? ds with
    | some n => if n < 2 ^ 32 then some (some n, rest) else none
    | none => none

/-- The bounds of a repetition, behind the opening brace. -/
def bounds? (m : Mode) (cs : List Char) : Option ((Nat × Option Nat) × List Char) := do
  let cs ← more? m cs
  let (low, cs) ← count? m cs
  let low ← low
  match cs with
  | '\x7d' :: rest => some ((low, some low), rest)
  | ',' :: rest =>
    match ← more? m rest with
    | '\x7d' :: rest => some ((low, none), rest)
    | cs =>
      let (high, cs) ← count? m cs
      let high ← high
      match cs with
      | '\x7d' :: rest => if low ≤ high then some ((low, some high), rest) else none
      | _ => none
  | _ => none

/-- A question mark behind a repetition makes it reluctant. -/
def dropReluctant : List Char → List Char
  | '?' :: cs => cs
  | cs => cs

/-- The flags of a group up to `:` or `)`, each at most once; the last one is no minus. -/
def flags? : Nat → List Char → Bool → Mode → List Char → Option (List Char × Mode × List Char)
  | 0, _, _, _, _ => none
  | fuel + 1, seen, negated, m, cs =>
    match cs with
    | [] => none
    | c :: rest =>
      if c = ':' ∨ c = ')' then
        if seen.head? = some '-' then none else some (seen, m, cs)
      else if !"imsUuRx-".toList.contains c || seen.contains c then none
      else
        let m := match c with
          | 'x' => { m with spaced := !negated }
          | 'u' => { m with unicode := !negated }
          | _ => m
        flags? fuel (c :: seen) (negated || c == '-') m rest

def isNameStart (c : Char) : Bool := c == '_' || isLetter c

def isNamePart (c : Char) : Bool :=
  isNameStart c || isNumber c || c == '.' || c == '[' || c == ']'

/-- The name of a group, up to the closing angle bracket. -/
def groupName? (cs : List Char) : Option (List Char × List Char) :=
  match cs.span (· ≠ '>') with
  | (c :: name, '>' :: rest) =>
    if isNameStart c && name.all isNamePart then some (c :: name, rest) else none
  | _ => none

/-- What is known at a place of the text: the mode and the names of groups. -/
structure Context where
  mode : Mode
  names : List (List Char)

/-- What stands behind an opening parenthesis. -/
inductive GroupHead where
  /-- A change of mode for the rest of the enclosing group. -/
  | change (c : Context)
  | opened (capturing : Bool) (c : Context)

def groupHead? (c : Context) (cs : List Char) : Option (GroupHead × List Char) :=
  let named (cs : List Char) : Option (GroupHead × List Char) := do
    let (name, rest) ← groupName? cs
    if c.names.contains name then none
    else some (.opened true { c with names := name :: c.names }, rest)
  match skip c.mode cs with
  | '?' :: '=' :: _ | '?' :: '!' :: _ | '?' :: '<' :: '=' :: _ | '?' :: '<' :: '!' :: _ => none
  | '?' :: 'P' :: '<' :: cs => named cs
  | '?' :: '<' :: cs => named cs
  | '?' :: cs =>
    match flags? (cs.length + 1) [] false c.mode cs with
    | some (_, m, ':' :: rest) => some (.opened false { c with mode := m }, rest)
    | some (seen, m, ')' :: rest) =>
      if seen = [] then none else some (.change { c with mode := m }, rest)
    | _ => none
  | cs => some (.opened true c, cs)

/-- The pattern of an escape outside of brackets. -/
def Escaped.pattern? (m : Mode) (e : Escaped) : Option Pattern :=
  match e with
  | .assertion => some .assertion
  | .literal n byte =>
    if !m.unicode && byte && 0x7F < n then none else some (.literal (utf8Bytes n))
  | e => do
    let s ← e.set? m
    if !m.unicode && !isAsciiMask s.mask then none else some (.set s)

/-- One item that is neither a group nor a set in brackets. -/
def primitive? (m : Mode) : List Char → Option (Pattern × List Char)
  | [] => none
  | '\\' :: cs => do
    let (e, rest) ← escape? m cs
    some (← e.pattern? m, rest)
  | '.' :: cs => if m.unicode then some (.set ⟨0, anySize, 0⟩, cs) else none
  | '^' :: cs | '$' :: cs => some (.assertion, cs)
  | c :: cs => some (.literal (utf8Bytes c.toNat), cs)

/-- Replaces the last item by its repetition. -/
def repeatLast? (items : List Pattern) (low : Nat) (high : Option Nat) : Option (List Pattern) :=
  match items with
  | p :: items => if p.isRepeatable then some (.repeated p low high :: items) else none
  | [] => none

/-- The rest of a group: alternatives read so far, and the items of the current one with the last
one first. Stops at a closing parenthesis or at the end. -/
def body? : Nat → Context → List Pattern → List Pattern → List Char →
    Option (Pattern × Context × List Char)
  | 0, _, _, _, _ => none
  | fuel + 1, c, branches, items, cs =>
    let finished := ofSequence items.reverse
    match skip c.mode cs with
    | [] => some (ofChoice (branches ++ [finished]), c, [])
    | ')' :: rest => some (ofChoice (branches ++ [finished]), c, ')' :: rest)
    | '|' :: rest => body? fuel c (branches ++ [finished]) [] rest
    | '(' :: rest => do
      match ← groupHead? c rest with
      | (.change c, rest) => body? fuel c branches (.mode :: items) rest
      | (.opened capturing inner, rest) =>
        let (p, inner, rest) ← body? fuel inner [] [] rest
        match rest with
        | ')' :: rest =>
          body? fuel { c with names := inner.names } branches (.group capturing p :: items) rest
        | _ => none
    | '[' :: rest => do
      let (s, rest) ← set? c.mode rest
      body? fuel c branches (.set s :: items) rest
    | '?' :: rest => do body? fuel c branches (← repeatLast? items 0 (some 1)) (dropReluctant rest)
    | '*' :: rest => do body? fuel c branches (← repeatLast? items 0 none) (dropReluctant rest)
    | '+' :: rest => do body? fuel c branches (← repeatLast? items 1 none) (dropReluctant rest)
    | '\x7b' :: rest => do
      let ((low, high), rest) ← bounds? c.mode rest
      body? fuel c branches (← repeatLast? items low high) (dropReluctant (skip c.mode rest))
    | cs => do
      let (p, rest) ← primitive? c.mode cs
      body? fuel c branches (p :: items) rest

/-- Reads a whole text. -/
def read? (s : String) : Option Pattern :=
  let cs := s.toList
  match body? (2 * cs.length + 2) ⟨⟨false, true⟩, []⟩ [] [] cs with
  | some (p, _, []) => some p
  | _ => none

/-- Whether a text is a regular expression of acceptable size. -/
def isValid (s : String) : Bool := (read? s).any isSmall

end TaskSync.Pattern
