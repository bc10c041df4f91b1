import SceneGrammar.Geometry.Vec3

/-!
# Matrices

Four by four matrices that act on column vectors, so `a * b` applies `b` first. An entry is named
by its row and its column: `xw` is the shift along `x`. The last row of an affine matrix is
`0 0 0 1`; `inverse?` inverts affine matrices only.
-/

namespace SceneGrammar

/-- A matrix, one row to a line. -/
@[ext] structure Matrix4 (α : Type) where
  xx : α
  xy : α
  xz : α
  xw : α
  yx : α
  yy : α
  yz : α
  yw : α
  zx : α
  zy : α
  zz : α
  zw : α
  wx : α
  wy : α
  wz : α
  ww : α
deriving Repr, BEq, DecidableEq, Inhabited

namespace Matrix4
variable {α : Type}

/-- The rows, each from left to right. -/
def rows (m : Matrix4 α) : List (List α) :=
  [[m.xx, m.xy, m.xz, m.xw], [m.yx, m.yy, m.yz, m.yw],
   [m.zx, m.zy, m.zz, m.zw], [m.wx, m.wy, m.wz, m.ww]]

/-- Reads sixteen entries, row by row. -/
def ofList? : List α → Option (Matrix4 α)
  | [xx, xy, xz, xw, yx, yy, yz, yw, zx, zy, zz, zw, wx, wy, wz, ww] =>
    some ⟨xx, xy, xz, xw, yx, yy, yz, yw, zx, zy, zz, zw, wx, wy, wz, ww⟩
  | _ => none

theorem ofList?_rows (m : Matrix4 α) : ofList? m.rows.flatten = some m := rfl

/-- The image of the origin, which is the last column. -/
def origin (m : Matrix4 α) : Vec3 α := ⟨m.xw, m.yw, m.zw⟩

variable [Scalar α]

instance : One (Matrix4 α) := ⟨⟨1, 0, 0, 0, 0, 1, 0, 0, 0, 0, 1, 0, 0, 0, 0, 1⟩⟩

instance : Mul (Matrix4 α) where
  mul a b :=
    { xx := a.xx * b.xx + a.xy * b.yx + a.xz * b.zx + a.xw * b.wx
      xy := a.xx * b.xy + a.xy * b.yy + a.xz * b.zy + a.xw * b.wy
      xz := a.xx * b.xz + a.xy * b.yz + a.xz * b.zz + a.xw * b.wz
      xw := a.xx * b.xw + a.xy * b.yw + a.xz * b.zw + a.xw * b.ww
      yx := a.yx * b.xx + a.yy * b.yx + a.yz * b.zx + a.yw * b.wx
      yy := a.yx * b.xy + a.yy * b.yy + a.yz * b.zy + a.yw * b.wy
      yz := a.yx * b.xz + a.yy * b.yz + a.yz * b.zz + a.yw * b.wz
      yw := a.yx * b.xw + a.yy * b.yw + a.yz * b.zw + a.yw * b.ww
      zx := a.zx * b.xx + a.zy * b.yx + a.zz * b.zx + a.zw * b.wx
      zy := a.zx * b.xy + a.zy * b.yy + a.zz * b.zy + a.zw * b.wy
      zz := a.zx * b.xz + a.zy * b.yz + a.zz * b.zz + a.zw * b.wz
      zw := a.zx * b.xw + a.zy * b.yw + a.zz * b.zw + a.zw * b.ww
      wx := a.wx * b.xx + a.wy * b.yx + a.wz * b.zx + a.ww * b.wx
      wy := a.wx * b.xy + a.wy * b.yy + a.wz * b.zy + a.ww * b.wy
      wz := a.wx * b.xz + a.wy * b.yz + a.wz * b.zz + a.ww * b.wz
      ww := a.wx * b.xw + a.wy * b.yw + a.wz * b.zw + a.ww * b.ww }

/-- Moves by a vector. -/
def shift (v : Vec3 α) : Matrix4 α := { (1 : Matrix4 α) with xw := v.x, yw := v.y, zw := v.z }

/-- Stretches each axis by its factor. -/
def scaling (v : Vec3 α) : Matrix4 α := { (1 : Matrix4 α) with xx := v.x, yy := v.y, zz := v.z }

/-- Turns about the `x` axis, from `y` towards `z`. -/
def rotationX (angle : α) : Matrix4 α :=
  let s := Scalar.sin angle
  let c := Scalar.cos angle
  { (1 : Matrix4 α) with yy := c, yz := -s, zy := s, zz := c }

/-- Turns about the `y` axis, from `z` towards `x`. -/
def rotationY (angle : α) : Matrix4 α :=
  let s := Scalar.sin angle
  let c := Scalar.cos angle
  { (1 : Matrix4 α) with xx := c, xz := s, zx := -s, zz := c }

/-- Turns about the `z` axis, from `x` towards `y`. -/
def rotationZ (angle : α) : Matrix4 α :=
  let s := Scalar.sin angle
  let c := Scalar.cos angle
  { (1 : Matrix4 α) with xx := c, xy := -s, yx := s, yy := c }

/-- Turns about `x`, then `y`, then `z`. -/
def rotation (angles : Vec3 α) : Matrix4 α :=
  rotationZ angles.z * rotationY angles.y * rotationX angles.x

/-- The image of a point. -/
def apply (m : Matrix4 α) (p : Vec3 α) : Vec3 α :=
  { x := m.xx * p.x + m.xy * p.y + m.xz * p.z + m.xw
    y := m.yx * p.x + m.yy * p.y + m.yz * p.z + m.yw
    z := m.zx * p.x + m.zy * p.y + m.zz * p.z + m.zw }

/-- The determinant of the linear part. -/
def det (m : Matrix4 α) : α :=
  m.xx * (m.yy * m.zz - m.yz * m.zy) - m.xy * (m.yx * m.zz - m.yz * m.zx)
    + m.xz * (m.yx * m.zy - m.yy * m.zx)

/-- The inverse of an affine matrix, none if its determinant is negligible. The linear part is the
matrix of cofactors over the determinant, the new origin the one that undoes the shift. -/
def inverse? (m : Matrix4 α) : Option (Matrix4 α) :=
  if Scalar.negligible m.det then none
  else
    let r := Scalar.recip m.det
    let xx := (m.yy * m.zz - m.yz * m.zy) * r
    let xy := (m.xz * m.zy - m.xy * m.zz) * r
    let xz := (m.xy * m.yz - m.xz * m.yy) * r
    let yx := (m.yz * m.zx - m.yx * m.zz) * r
    let yy := (m.xx * m.zz - m.xz * m.zx) * r
    let yz := (m.xz * m.yx - m.xx * m.yz) * r
    let zx := (m.yx * m.zy - m.yy * m.zx) * r
    let zy := (m.xy * m.zx - m.xx * m.zy) * r
    let zz := (m.xx * m.yy - m.xy * m.yx) * r
    some
      { (1 : Matrix4 α) with
        xx, xy, xz, yx, yy, yz, zx, zy, zz
        xw := -(xx * m.xw + xy * m.yw + xz * m.zw)
        yw := -(yx * m.xw + yy * m.yw + yz * m.zw)
        zw := -(zx * m.xw + zy * m.yw + zz * m.zw) }

/-- Whether no entry differs by more than `tolerance`. -/
def near (a b : Matrix4 Float) (tolerance : Float) : Bool :=
  (a.rows.flatten.zip b.rows.flatten).all fun (p, q) => (p - q).abs ≤ tolerance

end Matrix4

end SceneGrammar
