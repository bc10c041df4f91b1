/-!
# The word generator

A block cipher of eight rounds in counter mode. A block is a square of sixteen words: constants, a
key of eight words, the number of the block and the number of the stream. The output words are
numbered through from the first word of block zero.
-/

namespace SceneGrammar.Random

/-- A row of the square. -/
structure Row where
  a : UInt32
  b : UInt32
  c : UInt32
  d : UInt32
deriving Repr, DecidableEq

namespace Row

instance : Add Row := ⟨fun r s => ⟨r.a + s.a, r.b + s.b, r.c + s.c, r.d + s.d⟩⟩

instance : XorOp Row := ⟨fun r s => ⟨r.a ^^^ s.a, r.b ^^^ s.b, r.c ^^^ s.c, r.d ^^^ s.d⟩⟩

/-- Each word with its bits turned left. -/
def rotl (r : Row) (n : UInt32) : Row :=
  let turn (w : UInt32) : UInt32 := w <<< n ||| w >>> (32 - n)
  ⟨turn r.a, turn r.b, turn r.c, turn r.d⟩

/-- The words moved one place to the left, the first to the end. -/
def shift (r : Row) : Row := ⟨r.b, r.c, r.d, r.a⟩

/-- The words in order. -/
def toList (r : Row) : List UInt32 := [r.a, r.b, r.c, r.d]

end Row

/-- Sixteen words in four rows. -/
structure Square where
  r₀ : Row
  r₁ : Row
  r₂ : Row
  r₃ : Row
deriving Repr, DecidableEq

namespace Square

instance : Add Square := ⟨fun s t => ⟨s.r₀ + t.r₀, s.r₁ + t.r₁, s.r₂ + t.r₂, s.r₃ + t.r₃⟩⟩

/-- Mixes the four words of every column. -/
def mixColumns (s : Square) : Square :=
  let a := s.r₀ + s.r₁
  let d := (s.r₃ ^^^ a).rotl 16
  let c := s.r₂ + d
  let b := (s.r₁ ^^^ c).rotl 12
  let a := a + b
  let d := (d ^^^ a).rotl 8
  let c := c + d
  let b := (b ^^^ c).rotl 7
  ⟨a, b, c, d⟩

/-- Turns diagonals into columns. -/
def slant (s : Square) : Square := ⟨s.r₀, s.r₁.shift, s.r₂.shift.shift, s.r₃.shift.shift.shift⟩

/-- Turns columns back into diagonals. -/
def unslant (s : Square) : Square := ⟨s.r₀, s.r₁.shift.shift.shift, s.r₂.shift.shift, s.r₃.shift⟩

/-- Two rounds: columns, then diagonals. -/
def doubleRound (s : Square) : Square := s.mixColumns.slant.mixColumns.unslant

/-- Eight rounds, and the square they started from added. -/
def scramble (s : Square) : Square := s.doubleRound.doubleRound.doubleRound.doubleRound + s

/-- The words in order. -/
def toList (s : Square) : List UInt32 :=
  s.r₀.toList ++ s.r₁.toList ++ s.r₂.toList ++ s.r₃.toList

end Square

/-- A key of thirty-two bytes. -/
abbrev Key := Vector UInt8 32

/-- The word of four bytes that start at an index, the lowest byte first. -/
def Key.word (key : Key) (i : Nat) : UInt32 :=
  let byte (j : Nat) : UInt32 := (key.toArray.getD (4 * i + j) 0).toUInt32
  byte 0 ||| byte 1 <<< 8 ||| byte 2 <<< 16 ||| byte 3 <<< 24

/-- The square that block number `block` of a stream starts from. -/
def startSquare (key : Key) (stream block : UInt64) : Square where
  r₀ := ⟨0x61707865, 0x3320646e, 0x79622d32, 0x6b206574⟩
  r₁ := ⟨key.word 0, key.word 1, key.word 2, key.word 3⟩
  r₂ := ⟨key.word 4, key.word 5, key.word 6, key.word 7⟩
  r₃ := ⟨block.toUInt32, (block >>> 32).toUInt32, stream.toUInt32, (stream >>> 32).toUInt32⟩

/-- The output word at a position. -/
def wordAt (key : Key) (stream : UInt64) (position : BitVec 68) : UInt32 :=
  let block := UInt64.ofNat (position.toNat / 16)
  (startSquare key stream block).scramble.toList.getD (position.toNat % 16) 0

end SceneGrammar.Random
