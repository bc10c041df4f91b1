import SceneGrammar.Geometry.Offset
import SceneGrammar.Json.Record

/-!
# Geometry as interchange trees
-/

namespace SceneGrammar

/-- The tree of a vector. -/
def Vec3.toJson (v : Vec3 Float) : Json := .obj [("x", .float v.x), ("y", .float v.y), ("z", .float v.z)]

/-- The vector of a tree. -/
def Vec3.ofJson? (j : Json) : Option (Vec3 Float) := do
  match ← j.parts? ["x", "y", "z"] with
  | [some x, some y, some z] => pure ⟨← x.number?, ← y.number?, ← z.number?⟩
  | _ => none

/-- The tree of a matrix. -/
def Matrix4.toJson (m : Matrix4 Float) : Json :=
  .obj [("m", .arr (m.rows.map fun row => .arr (row.map .float)))]

/-- Four numbers in an array. -/
def Matrix4.rowOfJson? (j : Json) : Option (List Float) := do
  let row ← (← j.items?).mapM Json.number?
  if row.length = 4 then pure row else none

/-- The matrix of a tree. -/
def Matrix4.ofJson? (j : Json) : Option (Matrix4 Float) := do
  match ← j.parts? ["m"] with
  | [some m] => Matrix4.ofList? (← (← m.items?).mapM Matrix4.rowOfJson?).flatten
  | _ => none

/-- The tree of an offset. -/
def Offset.toJson (o : Offset Float) : Json :=
  .obj [("location", o.location.toJson), ("rotation", o.rotation.toJson), ("scale", o.scale.toJson)]

/-- The offset of a tree. -/
def Offset.ofJson? (j : Json) : Option (Offset Float) := do
  match ← j.parts? ["location", "rotation", "scale"] with
  | [some l, some r, some s] => pure ⟨← Vec3.ofJson? l, ← Vec3.ofJson? r, ← Vec3.ofJson? s⟩
  | _ => none

end SceneGrammar
