import Mathlib.LinearAlgebra.Matrix.NonsingularInverse
import SceneGrammar.Proofs.Geometry.Exact

/-!
# The algebra of affine frames

Over exact coordinates, affine frames act one after the other on points, determinants multiply, and an
inverse is one from both sides. A turn has determinant one, however its angle is measured, as long as
sine and cosine lie on the unit circle, so an offset has the product of its factors for a determinant
(`Offset.det_matrix`).
-/

namespace SceneGrammar

/-- Angles whose sines and cosines lie on the unit circle. -/
def Vec3.Circular {α : Type} [ExactScalar α] (angles : Vec3 α) : Prop :=
  ∀ angle ∈ angles.toList, Scalar.sin angle ^ 2 + Scalar.cos angle ^ 2 = 1

/-- Angles that are measured by the tangents of their halves are circular. -/
lemma Vec3.circular_rat (angles : Vec3 ℚ) : angles.Circular := by
  intro t _
  show (2 * t / (1 + t ^ 2)) ^ 2 + ((1 - t ^ 2) / (1 + t ^ 2)) ^ 2 = 1
  have : 1 + t ^ 2 ≠ 0 := by positivity
  field_simp
  ring

namespace Matrix4
variable {α : Type} [ExactScalar α] {a b v w : Matrix4 α}

/-- Frames act one after the other. -/
lemma Affine.apply_mul (hb : b.Affine) (a : Matrix4 α) (p : Vec3 α) :
    (a * b).apply p = a.apply (b.apply p) := by
  obtain ⟨hx, hy, hz, hw⟩ := hb
  -- The shift of the product has the shift of `a` as it is, since the last row of `b` is `0 0 0 1`.
  have row (x y z t : α) :
      (x * b.xx + y * b.yx + z * b.zx + t * b.wx) * p.x
        + (x * b.xy + y * b.yy + z * b.zy + t * b.wy) * p.y
        + (x * b.xz + y * b.yz + z * b.zz + t * b.wz) * p.z
        + (x * b.xw + y * b.yw + z * b.zw + t * b.ww) =
      x * (b.apply p).x + y * (b.apply p).y + z * (b.apply p).z + t := by
    rw [hx, hy, hz, hw]
    simp only [apply]
    ring
  exact Vec3.ext (row a.xx a.xy a.xz a.xw) (row a.yx a.yy a.yz a.yw) (row a.zx a.zy a.zz a.zw)

/-! ## Determinants -/

/-- The linear part. -/
def linear (m : Matrix4 α) : Matrix (Fin 3) (Fin 3) α :=
  !![m.xx, m.xy, m.xz; m.yx, m.yy, m.yz; m.zx, m.zy, m.zz]

/-- The determinant is that of the linear part. -/
lemma det_linear (m : Matrix4 α) : m.linear.det = m.det := by
  rw [Matrix.det_fin_three]
  simp only [linear, det, Matrix.of_apply, Matrix.cons_val]
  ring

/-- The linear part of a product, of which the second factor is affine. -/
lemma Affine.linear_mul (hb : b.Affine) (a : Matrix4 α) : (a * b).linear = a.linear * b.linear := by
  obtain ⟨hx, hy, hz, -⟩ := hb
  have entry (x y z t p q r s : α) (hs : s = 0) :
      x * p + y * q + z * r + t * s = x * p + y * q + z * r := by
    rw [hs, mul_zero, add_zero]
  ext i j
  rw [Matrix.mul_apply, Fin.sum_univ_three]
  fin_cases i <;> fin_cases j
  all_goals exact entry _ _ _ _ _ _ _ _ (by assumption)

/-- The determinant of frames one after the other. -/
lemma Affine.det_mul (hb : b.Affine) (a : Matrix4 α) : (a * b).det = a.det * b.det := by
  rw [← det_linear, hb.linear_mul, Matrix.det_mul, det_linear, det_linear]

/-- A shift has the determinant one. -/
lemma det_shift (p : Vec3 α) : (shift p).det = 1 := by
  show (1 : α) * (1 * 1 - 0 * 0) - 0 * (0 * 1 - 0 * 0) + 0 * (0 * 0 - 1 * 0) = 1
  ring

/-- A scaling has the product of its factors for a determinant. -/
lemma det_scaling (p : Vec3 α) : (scaling p).det = p.x * p.y * p.z := by
  show p.x * (p.y * p.z - 0 * 0) - 0 * (0 * p.z - 0 * 0) + 0 * (0 * 0 - p.y * 0) = p.x * p.y * p.z
  ring

/-- Turns change no volume. -/
lemma det_rotation {angles : Vec3 α} (h : angles.Circular) : (rotation angles).det = 1 := by
  have hx := h angles.x (by simp [Vec3.toList])
  have hy := h angles.y (by simp [Vec3.toList])
  have hz := h angles.z (by simp [Vec3.toList])
  have x : (rotationX angles.x).det = 1 := by
    show (1 : α) * (Scalar.cos angles.x * Scalar.cos angles.x - -Scalar.sin angles.x * Scalar.sin angles.x)
      - 0 * (0 * Scalar.cos angles.x - -Scalar.sin angles.x * 0)
      + 0 * (0 * Scalar.sin angles.x - Scalar.cos angles.x * 0) = 1
    linear_combination hx
  have y : (rotationY angles.y).det = 1 := by
    show Scalar.cos angles.y * (1 * Scalar.cos angles.y - 0 * 0)
      - 0 * (0 * Scalar.cos angles.y - 0 * -Scalar.sin angles.y)
      + Scalar.sin angles.y * (0 * 0 - 1 * -Scalar.sin angles.y) = 1
    linear_combination hy
  have z : (rotationZ angles.z).det = 1 := by
    show Scalar.cos angles.z * (Scalar.cos angles.z * 1 - 0 * 0)
      - -Scalar.sin angles.z * (Scalar.sin angles.z * 1 - 0 * 0)
      + 0 * (Scalar.sin angles.z * 0 - Scalar.cos angles.z * 0) = 1
    linear_combination hz
  have affine (angle : α) : (rotationX angle).Affine ∧ (rotationY angle).Affine :=
    ⟨⟨rfl, rfl, rfl, rfl⟩, ⟨rfl, rfl, rfl, rfl⟩⟩
  rw [rotation, (affine _).1.det_mul, (affine _).2.det_mul, x, y, z, one_mul, one_mul]

/-! ## Inverses -/

/-- The inverse of an affine frame is one from the other side, too. -/
lemma Affine.inverse_mul (hw : w.Affine) (h : w.inverse? = some v) : v * w = 1 := by
  have e := congrArg toMatrix (hw.mul_inverse h)
  rw [toMatrix_mul, toMatrix_one, mul_eq_one_comm] at e
  apply toMatrix_injective
  rw [toMatrix_mul, toMatrix_one, e]

end Matrix4

namespace Offset
variable {α : Type} [ExactScalar α] {o : Offset α}

/-- The determinant of an offset is the product of its factors. -/
lemma det_matrix (h : o.rotation.Circular) :
    o.matrix.det = o.scale.x * o.scale.y * o.scale.z := by
  rw [matrix, (Matrix4.affine_scaling _).det_mul, (Matrix4.affine_rotation _).det_mul,
    Matrix4.det_shift, Matrix4.det_rotation h, Matrix4.det_scaling, one_mul, one_mul]

end Offset

end SceneGrammar
