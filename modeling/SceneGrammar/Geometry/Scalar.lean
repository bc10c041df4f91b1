/-!
# Scalars

Coordinates are generic in their number type: a run computes with `Float`, a proof may use an
exact field. The class names the operations that frames need and nothing more.
-/

namespace SceneGrammar

/-- The arithmetic of coordinates. -/
class Scalar (α : Type) extends Add α, Sub α, Mul α, Neg α, Zero α, One α where
  /-- One divided by the number. -/
  recip : α → α
  sin : α → α
  cos : α → α
  /-- Too small in absolute value to divide by. -/
  negligible : α → Bool
  /-- Reads a coordinate that a grammar wrote. -/
  ofFloat : Float → α

/-- The distance from one to the next larger binary64 number, `2^-52`. -/
def unitGap : Float := Float.ofBits 0x3CB0000000000000

/-- Coordinates of a run: binary64, where a number below `2^-52` counts as zero when divided by. -/
instance : Scalar Float where
  zero := 0
  one := 1
  recip x := 1 / x
  sin := Float.sin
  cos := Float.cos
  negligible x := x.abs < unitGap
  ofFloat x := x

end SceneGrammar
