import SceneGrammar.Geometry.Scalar

/-!
# Vectors

Three coordinates, with sum and component-wise product.
-/

namespace SceneGrammar

/-- A triple of coordinates. -/
@[ext] structure Vec3 (α : Type) where
  x : α
  y : α
  z : α
deriving Repr, BEq, DecidableEq, Inhabited

namespace Vec3
variable {α : Type}

/-- Applies a function to each coordinate. -/
def map {β : Type} (f : α → β) (v : Vec3 α) : Vec3 β := ⟨f v.x, f v.y, f v.z⟩

/-- The coordinates in order. -/
def toList (v : Vec3 α) : List α := [v.x, v.y, v.z]

variable [Scalar α]

instance : Zero (Vec3 α) := ⟨⟨0, 0, 0⟩⟩

/-- The vector of three ones, neutral for the component-wise product. -/
def ones : Vec3 α := ⟨1, 1, 1⟩

instance : Add (Vec3 α) := ⟨fun a b => ⟨a.x + b.x, a.y + b.y, a.z + b.z⟩⟩

/-- The component-wise product. -/
def times (a b : Vec3 α) : Vec3 α := ⟨a.x * b.x, a.y * b.y, a.z * b.z⟩

/-- Whether no coordinate differs by more than `tolerance`. -/
def near (a b : Vec3 Float) (tolerance : Float) : Bool :=
  (a.x - b.x).abs ≤ tolerance && (a.y - b.y).abs ≤ tolerance && (a.z - b.z).abs ≤ tolerance

end Vec3

end SceneGrammar
