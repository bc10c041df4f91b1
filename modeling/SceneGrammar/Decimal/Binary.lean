/-!
# Binary numbers

A binary64 number taken apart: its sign and its magnitude `mantissa * 2 ^ exponent`, or one of the
values that are no numbers of that form. All decimal text is computed from these parts.
-/

namespace SceneGrammar.Decimal

/-- The magnitude `mantissa * 2 ^ exponent`. The gap below a number is half the gap above it where
the mantissa is the smallest of its exponent; `narrowBelow` marks these numbers. -/
structure Binary where
  mantissa : Nat
  exponent : Int
  narrowBelow : Bool := false
deriving Repr, DecidableEq

/-- What a binary64 number stands for, its sign aside. -/
inductive Magnitude where
  | nan
  | infinite
  | finite (value : Binary)
deriving Repr, DecidableEq

/-- Whether the sign bit is set. -/
def isNegative (x : Float) : Bool := x.toBits >>> 63 == 1

/-- The magnitude of a binary64 number. -/
def magnitude (x : Float) : Magnitude :=
  let bits := x.toBits.toNat
  let fraction : Nat := bits % Nat.pow 2 52
  let biased : Nat := bits / Nat.pow 2 52 % Nat.pow 2 11
  if biased = 2047 then if fraction = 0 then .infinite else .nan
  else if biased = 0 then .finite ⟨fraction, -1074, false⟩
  else .finite ⟨Nat.pow 2 52 + fraction, (biased : Int) - 1075, fraction = 0 ∧ biased ≠ 1⟩

/-- The integer part of a number, the sign kept; none if the number is not finite. -/
def truncate? (x : Float) : Option Int :=
  match magnitude x with
  | .finite b =>
    let whole := if 0 ≤ b.exponent then b.mantissa * Nat.pow 2 b.exponent.toNat
      else b.mantissa / Nat.pow 2 (-b.exponent).toNat
    some (if isNegative x then -whole else whole)
  | _ => none

namespace Binary

/-- Two numbers of naturals whose quotient is the magnitude over `10 ^ k`. -/
def scaled (b : Binary) (k : Int) : Nat × Nat :=
  (b.mantissa * Nat.pow 2 b.exponent.toNat * Nat.pow 10 (-k).toNat,
    Nat.pow 2 (-b.exponent).toNat * Nat.pow 10 k.toNat)

/-- The exponent `k` with `10 ^ k ≤ b < 10 ^ (k + 1)`, for a magnitude that is not zero. The place
of the leading binary digit gives it up to one; `log10 2` lies close above `30102999 / 10 ^ 8`. -/
def leadingExponent (b : Binary) : Int :=
  let estimate := ((b.mantissa.log2 : Int) + b.exponent) * 30103 / 100000
  let (num, den) := b.scaled (estimate + 1)
  if den ≤ num then estimate + 1 else estimate

end Binary

end SceneGrammar.Decimal
