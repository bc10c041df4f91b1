import Mathlib.Analysis.Complex.Trigonometric
import Mathlib.LinearAlgebra.Matrix.Notation
import Mathlib.Tactic.FinCases
import Mathlib.Tactic.LinearCombination
import SceneGrammar.Decimal.Binary
import SceneGrammar.Geometry.Offset

/-!
# Exact frames

Over coordinates that form an ordered field, frames multiply as matrices do, and an affine frame whose
determinant is not negligible has the inverse that `inverse?` computes. The real numbers are such
coordinates, and so are the rational numbers, with which scenes can be computed.
-/

namespace SceneGrammar

/-- Coordinates without rounding. Angles may be measured in any way. -/
class ExactScalar (α : Type) extends Scalar α, Field α, LinearOrder α, IsStrictOrderedRing α where
  recip_eq (x : α) : recip x = x⁻¹
  negligible_iff (x : α) : negligible x = true ↔ |x| < 1 / 2 ^ 52

/-- The real number that a binary64 number stands for, zero if it stands for none. -/
noncomputable def realOfFloat (x : Float) : ℝ :=
  match Decimal.magnitude x with
  | .finite b => (if Decimal.isNegative x then -1 else 1) * b.mantissa * 2 ^ b.exponent
  | _ => 0

open Classical in
noncomputable instance : ExactScalar ℝ where
  __ := (inferInstance : Field ℝ)
  __ := (inferInstance : LinearOrder ℝ)
  __ := (inferInstance : IsStrictOrderedRing ℝ)
  recip x := x⁻¹
  sin := Real.sin
  cos := Real.cos
  negligible x := decide (|x| < 1 / 2 ^ 52)
  ofFloat := realOfFloat
  recip_eq _ := rfl
  negligible_iff _ := decide_eq_true_iff

/-- The rational number that a binary64 number stands for, zero if it stands for none. -/
def rationalOfFloat (x : Float) : ℚ :=
  match Decimal.magnitude x with
  | .finite b => (if Decimal.isNegative x then -1 else 1) * b.mantissa * 2 ^ b.exponent
  | _ => 0

/-- The rational numbers, with angles measured by the tangents of their halves. -/
instance : ExactScalar ℚ where
  __ := (inferInstance : Field ℚ)
  __ := (inferInstance : LinearOrder ℚ)
  __ := (inferInstance : IsStrictOrderedRing ℚ)
  recip x := x⁻¹
  sin t := 2 * t / (1 + t ^ 2)
  cos t := (1 - t ^ 2) / (1 + t ^ 2)
  negligible x := decide (|x| < 1 / 2 ^ 52)
  ofFloat := rationalOfFloat
  recip_eq _ := rfl
  negligible_iff _ := decide_eq_true_iff

namespace Matrix4

variable {α : Type}

/-- The matrix of the entries. -/
def toMatrix (m : Matrix4 α) : Matrix (Fin 4) (Fin 4) α :=
  !![m.xx, m.xy, m.xz, m.xw; m.yx, m.yy, m.yz, m.yw; m.zx, m.zy, m.zz, m.zw; m.wx, m.wy, m.wz, m.ww]

/-- A transform is known by its entries. -/
lemma toMatrix_injective : Function.Injective (toMatrix : Matrix4 α → _) := by
  intro a b h
  have entry := fun i j => congrFun (congrFun h i) j
  ext
  exacts [entry 0 0, entry 0 1, entry 0 2, entry 0 3, entry 1 0, entry 1 1, entry 1 2, entry 1 3,
    entry 2 0, entry 2 1, entry 2 2, entry 2 3, entry 3 0, entry 3 1, entry 3 2, entry 3 3]

/-- A transform that leaves the plane of points where it is: its last row is `0 0 0 1`. -/
structure Affine [Scalar α] (m : Matrix4 α) : Prop where
  wx : m.wx = 0
  wy : m.wy = 0
  wz : m.wz = 0
  ww : m.ww = 1

instance [Scalar α] [DecidableEq α] (m : Matrix4 α) : Decidable m.Affine :=
  decidable_of_iff (m.wx = 0 ∧ m.wy = 0 ∧ m.wz = 0 ∧ m.ww = 1)
    ⟨fun ⟨wx, wy, wz, ww⟩ => ⟨wx, wy, wz, ww⟩, fun h => ⟨h.wx, h.wy, h.wz, h.ww⟩⟩

/-- The identity is affine. -/
lemma affine_one [Scalar α] : (1 : Matrix4 α).Affine := ⟨rfl, rfl, rfl, rfl⟩

/-- A shift is affine. -/
lemma affine_shift [Scalar α] (p : Vec3 α) : (shift p).Affine := ⟨rfl, rfl, rfl, rfl⟩

variable [ExactScalar α] {a b v w : Matrix4 α}

/-- The entries of a product are those of the product of matrices. -/
lemma toMatrix_mul (a b : Matrix4 α) : (a * b).toMatrix = a.toMatrix * b.toMatrix := by
  ext i j
  fin_cases i <;> fin_cases j <;> simp [toMatrix, Matrix.mul_apply, Fin.sum_univ_four] <;> rfl

/-- The entries of the identity are those of the identity matrix. -/
lemma toMatrix_one : (1 : Matrix4 α).toMatrix = 1 := by
  ext i j
  fin_cases i <;> fin_cases j <;> simp [toMatrix] <;> rfl

instance : Semigroup (Matrix4 α) := toMatrix_injective.semigroup toMatrix toMatrix_mul

instance : MulOneClass (Matrix4 α) := toMatrix_injective.mulOneClass toMatrix toMatrix_one toMatrix_mul

/-- Affine frames one after the other are affine. -/
lemma Affine.mul (ha : a.Affine) (hb : b.Affine) : (a * b).Affine := by
  refine ⟨?wx, ?wy, ?wz, ?ww⟩
  case wx =>
    show a.wx * b.xx + a.wy * b.yx + a.wz * b.zx + a.ww * b.wx = 0
    simp [ha.wx, ha.wy, ha.wz, hb.wx]
  case wy =>
    show a.wx * b.xy + a.wy * b.yy + a.wz * b.zy + a.ww * b.wy = 0
    simp [ha.wx, ha.wy, ha.wz, hb.wy]
  case wz =>
    show a.wx * b.xz + a.wy * b.yz + a.wz * b.zz + a.ww * b.wz = 0
    simp [ha.wx, ha.wy, ha.wz, hb.wz]
  case ww =>
    show a.wx * b.xw + a.wy * b.yw + a.wz * b.zw + a.ww * b.ww = 1
    simp [ha.wx, ha.wy, ha.wz, ha.ww, hb.ww]

/-- A scaling is affine. -/
lemma affine_scaling (v : Vec3 α) : (scaling v).Affine := ⟨rfl, rfl, rfl, rfl⟩

/-- A rotation is affine. -/
lemma affine_rotation (angles : Vec3 α) : (rotation angles).Affine := by
  have x : (rotationX angles.x).Affine := ⟨rfl, rfl, rfl, rfl⟩
  have y : (rotationY angles.y).Affine := ⟨rfl, rfl, rfl, rfl⟩
  have z : (rotationZ angles.z).Affine := ⟨rfl, rfl, rfl, rfl⟩
  exact (z.mul y).mul x

/-! ## Inverses -/

/-- Whatever has an inverse, the inverse is affine. -/
lemma affine_inverse? (h : w.inverse? = some v) : v.Affine := by
  unfold inverse? at h
  split at h
  · cases h
  · obtain rfl := Option.some.inj h
    exact ⟨rfl, rfl, rfl, rfl⟩

/-- A frame has an inverse if its determinant is not negligible. -/
lemma inverse?_eq_none_iff : w.inverse? = none ↔ |w.det| < 1 / 2 ^ 52 := by
  rw [inverse?, ← ExactScalar.negligible_iff]
  split <;> simp [*]

/-- A transform has an inverse if its determinant is not negligible. -/
lemma exists_inverse?_iff : (∃ v, w.inverse? = some v) ↔ 1 / 2 ^ 52 ≤ |w.det| := by
  rw [← not_lt, ← inverse?_eq_none_iff, ← ne_eq, Option.ne_none_iff_exists']

/-- The inverse of an affine frame is one. -/
lemma Affine.mul_inverse (hw : w.Affine) (h : w.inverse? = some v) : w * v = 1 := by
  have big : 1 / 2 ^ 52 ≤ |w.det| := exists_inverse?_iff.mp ⟨v, h⟩
  have hdet : w.det ≠ 0 := by
    intro e
    rw [e, abs_zero] at big
    exact absurd big (by norm_num)
  have hr : w.det * w.det⁻¹ = 1 := mul_inv_cancel₀ hdet
  unfold inverse? at h
  rw [if_neg (by rwa [ExactScalar.negligible_iff, not_lt]), ExactScalar.recip_eq] at h
  obtain rfl := Option.some.inj h
  apply toMatrix_injective
  rw [toMatrix_mul, toMatrix_one]
  obtain ⟨hx, hy, hz, hw⟩ := hw
  generalize w.det⁻¹ = r at hr
  unfold det at hr
  ext i j
  rw [Matrix.mul_apply, Fin.sum_univ_four]
  fin_cases i <;> fin_cases j
  all_goals
    simp only [toMatrix, hx, hy, hz, hw, affine_one.wx, affine_one.wy, affine_one.wz, affine_one.ww,
      Fin.zero_eta, Fin.mk_one, Fin.reduceFinMk, Fin.reduceEq, Matrix.of_apply, Matrix.cons_val',
      Matrix.cons_val_fin_one, Matrix.cons_val_zero, Matrix.cons_val_one, Matrix.cons_val,
      Matrix.one_apply, if_true, if_false]
  -- A row times the cofactors of that row is the determinant, and times those of another row nothing.
  -- So the shift is undone as well.
  · linear_combination hr
  · ring
  · ring
  · linear_combination -w.xw * hr
  · ring
  · linear_combination hr
  · ring
  · linear_combination -w.yw * hr
  · ring
  · ring
  · linear_combination hr
  · linear_combination -w.zw * hr
  all_goals ring

/-- The identity has an inverse. -/
lemma inverse?_one_ne_none : (1 : Matrix4 α).inverse? ≠ none := by
  have unit : (1 : Matrix4 α).det = 1 := by
    show (1 : α) * (1 * 1 - 0 * 0) - 0 * (0 * 1 - 0 * 0) + 0 * (0 * 0 - 1 * 0) = 1
    ring
  rw [ne_eq, inverse?_eq_none_iff, unit, abs_one]
  norm_num

end Matrix4

/-- An offset is affine, whatever its parts are. -/
lemma Offset.affine_matrix {α : Type} [ExactScalar α] (o : Offset α) : o.matrix.Affine :=
  ((Matrix4.affine_shift _).mul (Matrix4.affine_rotation _)).mul (Matrix4.affine_scaling _)

end SceneGrammar
