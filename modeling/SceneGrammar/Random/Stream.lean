import SceneGrammar.Random.Cipher
import SceneGrammar.Random.Source

/-!
# Random streams

A position in the words of the generator. A draw takes two words, read as one number of 64 bits; an
integer of a range is the high half of the product of that number with the size of the range, and
draws that would favour some integers are thrown away.
-/

namespace SceneGrammar.Random

/-- A key, the number of a stream and the number of words taken from it so far, which starts over
after `2 ^ 68`. -/
structure Stream where
  key : Key
  stream : UInt64
  position : BitVec 68
deriving Repr, DecidableEq

namespace Stream

/-- The step from one state of the seed expander to the next. -/
def seedStep (state : UInt64) : UInt64 := state * 6364136223846793005 + 11634580027462260723

/-- The output word of a state of the seed expander: some of its bits, turned by its highest. -/
def seedWord (state : UInt64) : UInt32 :=
  let mixed := (((state >>> 18) ^^^ state) >>> 27).toUInt32
  let turn := (state >>> 59).toUInt32
  mixed >>> turn ||| mixed <<< ((32 - turn) % 32)

/-- The bytes of a word, the lowest first. -/
def bytes (w : UInt32) : List UInt8 :=
  [w.toUInt8, (w >>> 8).toUInt8, (w >>> 16).toUInt8, (w >>> 24).toUInt8]

/-- The bytes of the next words of the seed expander. -/
def seedBytes : Nat → UInt64 → List UInt8
  | 0, _ => []
  | n + 1, state => bytes (seedWord (seedStep state)) ++ seedBytes n (seedStep state)

theorem length_seedBytes (n : Nat) (state : UInt64) : (seedBytes n state).length = 4 * n := by
  induction n generalizing state with
  | zero => rfl
  | succ n ih => simp [seedBytes, bytes, ih]; omega

/-- The key that a seed expands to. -/
def keyOfSeed (seed : UInt64) : Key := ⟨(seedBytes 8 seed).toArray, by simp [length_seedBytes]⟩

/-- The start of the stream of a seed. -/
def ofSeed (seed : UInt64) : Stream := ⟨keyOfSeed seed, 0, 0⟩

/-- The next 64 bits. -/
def next (s : Stream) : UInt64 × Stream :=
  let low := wordAt s.key s.stream s.position
  let high := wordAt s.key s.stream (s.position + 1)
  (low.toUInt64 ||| high.toUInt64 <<< 32, { s with position := s.position + 2 })

/-- The number that 64 random bits stand for: their upper 53 as a fraction of one. -/
def fraction (bits : UInt64) : Float := (bits >>> 11).toFloat * Float.ofBits 0x3CA0000000000000

/-- The offset into a range of `size` integers that 64 random bits stand for, none if they are thrown
away. They are kept if the low half of their product with the size lies below the size moved up until
its highest bit is the highest of 64. -/
def offset? (size : Nat) (bits : UInt64) : Option Nat :=
  let product := bits.toNat * size
  if product % Nat.pow 2 64 < size * Nat.pow 2 (63 - size.log2) then some (product / Nat.pow 2 64)
  else none

/-- The offset of the first draw that is kept. The generator has come round after `2 ^ 67` draws. -/
def drawOffset (size : Nat) : Nat → Stream → Nat × Stream
  | 0, s => (0, s)
  | bound + 1, s =>
    match offset? size s.next.1 with
    | some n => (n, s.next.2)
    | none => drawOffset size bound s.next.2

/-- An integer between two bounds; the range of all integers takes the bits as they are. -/
def intRange (min max : Int64) (s : Stream) : Int64 × Stream :=
  if max ≤ min then (min, s)
  else
    let size := (max.toInt - min.toInt + 1).toNat
    if size = Nat.pow 2 64 then (s.next.1.toInt64, s.next.2)
    else
      let (n, s) := drawOffset size (Nat.pow 2 67) s
      (Int64.ofInt (min.toInt + n), s)

instance : RandomSource Stream where
  uniform s := (fraction s.next.1, s.next.2)
  intRange := intRange

end Stream

end SceneGrammar.Random
