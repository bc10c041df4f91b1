import SceneGrammar.Text.CharSet

/-!
# Characters as bytes

The encoding of characters by one to four bytes: a leading byte, whose value tells how many follow,
and following bytes of six bits each. A set of characters is here a list of sequences of byte
ranges; every choice of bytes from the ranges of one sequence encodes a character.
-/

namespace SceneGrammar.Text.Utf8

/-- A range of bytes, ends included. -/
abbrev ByteRange := Nat × Nat

/-- The code points that a number of following bytes can encode: the first, the last and the leading
byte of zero. Surrogates have no encoding. -/
def forms : List (Nat × Nat × Nat × Nat) :=
  [(0, 0x0, 0x7F, 0x0), (1, 0x80, 0x7FF, 0xC0), (2, 0x800, 0xD7FF, 0xE0), (2, 0xE000, 0xFFFF, 0xE0),
    (3, 0x10000, 0x10FFFF, 0xF0)]

/-- The encodings of the numbers from `low` to `high` by a byte on top of `base` and a number of
following bytes. Where the first bytes of the ends differ, an end whose following bytes are not at
their limit has a sequence of its own. -/
def cut (base : Nat) : Nat → Nat → Nat → List (List ByteRange)
  | 0, low, high => [[(base + low, base + high)]]
  | following + 1, low, high =>
    let unit := 64 ^ (following + 1)
    let first := low / unit
    let last := high / unit
    let led (byte low high : Nat) : List (List ByteRange) :=
      (cut 0x80 following low high).map ((base + byte, base + byte) :: ·)
    if first = last then led first (low % unit) (high % unit)
    else
      let fromFirst := if low % unit = 0 then [] else led first (low % unit) (unit - 1)
      let toLast := if high % unit = unit - 1 then [] else led last 0 (high % unit)
      let whole := if fromFirst.isEmpty then first else first + 1
      let stop := if toLast.isEmpty then last + 1 else last
      let between :=
        if whole < stop then
          [(base + whole, base + stop - 1) :: List.replicate (following + 1) (0x80, 0xBF)]
        else []
      fromFirst ++ between ++ toLast

/-- The encodings of a range of code points. -/
def ofRange (low high : Nat) : List (List ByteRange) :=
  forms.flatMap fun (following, first, last, base) =>
    if max low first ≤ min high last then cut base following (max low first) (min high last) else []

/-- The encodings of a set, which ascend. -/
def ofSet (s : CharSet) : List (List ByteRange) :=
  s.ranges.toList.flatMap fun (low, high) => ofRange low high

end SceneGrammar.Text.Utf8
