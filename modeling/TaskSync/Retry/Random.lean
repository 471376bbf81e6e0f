import TaskSync.Number.Power

/-!
# A reproducible source of random words

A stream cipher with twelve rounds, run on a counter: the words of a seed are settled by their
place alone. A short seed is stretched to the key by a linear congruential generator whose output
is mixed by a rotation.
-/

namespace TaskSync.Random

/-- Sixteen words of cipher state. -/
abbrev Block := Array UInt32

def rotateLeft (x : UInt32) (n : UInt32) : UInt32 := (x <<< n) ||| (x >>> (32 - n))

def wordAt (b : Block) (i : Nat) : UInt32 := b.getD i 0

/-- Mixes four words of a block. -/
def quarterRound (s : Block) (a b c d : Nat) : Block :=
  let x := wordAt s a + wordAt s b
  let w := rotateLeft (wordAt s d ^^^ x) 16
  let z := wordAt s c + w
  let y := rotateLeft (wordAt s b ^^^ z) 12
  let x := x + y
  let w := rotateLeft (w ^^^ x) 8
  let z := z + w
  let y := rotateLeft (y ^^^ z) 7
  (((s.setIfInBounds a x).setIfInBounds b y).setIfInBounds c z).setIfInBounds d w

/-- A round on the columns and a round on the diagonals. -/
def doubleRound (s : Block) : Block :=
  let s := quarterRound s 0 4 8 12
  let s := quarterRound s 1 5 9 13
  let s := quarterRound s 2 6 10 14
  let s := quarterRound s 3 7 11 15
  let s := quarterRound s 0 5 10 15
  let s := quarterRound s 1 6 11 12
  let s := quarterRound s 2 7 8 13
  quarterRound s 3 4 9 14

/-- The words in front of the key. -/
def constants : Block := #[0x61707865, 0x3320646e, 0x79622d32, 0x6b206574]

/-- The block at a place of the stream. -/
def block (key : Block) (counter : Nat) : Block :=
  let start := constants ++ key
    ++ #[UInt32.ofNat counter, UInt32.ofNat (counter / 2 ^ 32), 0, 0]
  let mixed := (List.range 6).foldl (fun s _ => doubleRound s) start
  mixed.zipWith (· + ·) start

/-- The state of the generator that stretches a seed, one step on. -/
def stretchStep (state : UInt64) : UInt64 := state * 6364136223846793005 + 11634580027462260723

/-- The output that belongs to a state. -/
def stretchOutput (state : UInt64) : UInt32 :=
  let x := (((state >>> 18) ^^^ state) >>> 27).toUInt32
  let r := (state >>> 59).toUInt32
  if r = 0 then x else (x >>> r) ||| (x <<< (32 - r))

/-- So many words from a state on. -/
def stretch : Nat → UInt64 → List UInt32
  | 0, _ => []
  | n + 1, state =>
    let state := stretchStep state
    stretchOutput state :: stretch n state

/-- A source: its key, and how many words of 64 bits have been taken. -/
structure Source where
  key : Block
  taken : Nat

def Source.ofSeed (seed : UInt64) : Source := ⟨(stretch 8 seed).toArray, 0⟩

/-- The next word. A block holds eight of them, the lower half first. -/
def Source.next (s : Source) : UInt64 × Source :=
  let b := block s.key (s.taken / 8)
  let i := s.taken % 8
  let low := (wordAt b (2 * i)).toUInt64
  let high := (wordAt b (2 * i + 1)).toUInt64
  (low ||| (high <<< 32), { s with taken := s.taken + 1 })

end TaskSync.Random
