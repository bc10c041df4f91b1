import SceneGrammar.Decimal.Basic

/-!
# Shortest decimals

The decimal with the fewest digits that reads back to a given binary64 number, and of those the
nearest. All comparisons are exact: the number, its two bounds and the candidates are brought to a
common denominator.
-/

namespace SceneGrammar.Decimal

/-- Whether `candidate / unit` lies between the bounds, which belong to the interval iff `closed`. -/
def within (closed : Bool) (low high candidate : Nat) : Bool :=
  if closed then low ≤ candidate && candidate ≤ high else low < candidate && candidate < high

/-- The multiple of `10 ^ k` that reads back to the magnitude, the nearer one if there are two. The
number is `4 * mantissa` quarters of its unit; it is read back from up to half a unit away, below
it from a quarter where the gap is narrow. The bounds read back iff the mantissa is even. -/
def onGrid (tie : Tie) (b : Binary) (k : Int) : Option Decimal :=
  let scale := Nat.pow 2 (b.exponent - 2).toNat * Nat.pow 10 (-k).toNat
  let unit := Nat.pow 2 (2 - b.exponent).toNat * Nat.pow 10 k.toNat
  let value := 4 * b.mantissa * scale
  let low := (4 * b.mantissa - if b.narrowBelow then 1 else 2) * scale
  let high := (4 * b.mantissa + 2) * scale
  let closed := b.mantissa % 2 == 0
  let down := value / unit
  let downFits := within closed low high (down * unit)
  let upFits := within closed low high ((down + 1) * unit)
  if downFits && upFits then some ⟨roundDiv tie value unit, k⟩
  else if downFits then some ⟨down, k⟩
  else if upFits then some ⟨down + 1, k⟩
  else none

/-- Tries grids of more and more digits, from the grid `10 ^ k` down. -/
def firstGrid (tie : Tie) (b : Binary) : Nat → Int → Decimal
  | 0, k => ⟨b.mantissa * Nat.pow 2 b.exponent.toNat, k⟩
  | more + 1, k => (onGrid tie b k).getD (firstGrid tie b more (k - 1))

/-- The shortest decimal that reads back to a magnitude. Seventeen digits are enough for any. -/
def shortest (tie : Tie) (b : Binary) : Decimal :=
  if b.mantissa = 0 then ⟨0, 0⟩ else (firstGrid tie b 17 b.leadingExponent).trim

/-- The magnitude rounded to `count` digits, a tie going to the even neighbour. -/
def rounded (count : Nat) (b : Binary) : Decimal :=
  if b.mantissa = 0 then ⟨0, 0⟩
  else
    let k := b.leadingExponent + 1 - count
    let (num, den) := b.scaled k
    trim ⟨roundDiv .toEven num den, k⟩

end SceneGrammar.Decimal
