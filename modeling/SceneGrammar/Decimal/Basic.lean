import SceneGrammar.Decimal.Binary

/-!
# Decimals

A decimal numeral `digits * 10 ^ exponent`, how a real number between two of them is rounded, and
how a decimal is read as a binary64 number.
-/

namespace SceneGrammar

/-- The number `significand * 10 ^ exponent`. -/
structure Decimal where
  significand : Nat
  exponent : Int
deriving Repr, DecidableEq, Inhabited

namespace Decimal

/-- Which neighbour a number goes to that lies half way between two. -/
inductive Tie where
  | up
  | toEven
deriving Repr, DecidableEq

/-- The quotient `num / den` rounded to the nearest natural number. -/
def roundDiv (tie : Tie) (num den : Nat) : Nat :=
  let low := num / den
  let twice := 2 * (num % den)
  if twice < den then low
  else if den < twice then low + 1
  else match tie with
    | .up => low + 1
    | .toEven => if low % 2 = 0 then low else low + 1

/-- The decimal digits of a natural number, from the highest. -/
def digits (n : Nat) : List Char := Nat.toDigits 10 n

/-- Drops zeros at the end of the significand; zero has exponent zero. -/
def trimFrom : Nat → Decimal → Decimal
  | 0, d => d
  | fuel + 1, d =>
    if d.significand = 0 then ⟨0, 0⟩
    else if d.significand % 10 = 0 then trimFrom fuel ⟨d.significand / 10, d.exponent + 1⟩
    else d

/-- The same number without zeros at the end of the significand. -/
def trim (d : Decimal) : Decimal := trimFrom (d.significand.log2 + 1) d

/-- The nearest binary64 number, without a sign. A number of more than 310 digits before the point
is infinite, one that starts more than 330 places after it is zero. -/
def toFloat (d : Decimal) : Float :=
  if d.significand = 0 then 0
  else
    let places := (digits d.significand).length + d.exponent
    if 311 ≤ places then Float.ofBits 0x7FF0000000000000
    else if places ≤ -331 then 0
    else if d.exponent < 0 then Float.ofScientific d.significand true (-d.exponent).toNat
    else Float.ofScientific d.significand false d.exponent.toNat

end Decimal

end SceneGrammar
