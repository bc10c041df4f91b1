import SceneGrammar.Geometry.Matrix4

/-!
# Offsets

The displacement that accumulates at a link: a location, three angles and three factors. Each
channel changes on its own, and the matrix always scales first, then turns, then moves, whatever
the order of the changes was.
-/

namespace SceneGrammar

/-- The three parts of an offset. -/
inductive Channel where
  | location
  | rotation
  | scale
deriving Repr, DecidableEq, Inhabited

/-- A displacement relative to a frame; the rotation holds angles in radians. -/
@[ext] structure Offset (α : Type) where
  location : Vec3 α
  rotation : Vec3 α
  scale : Vec3 α
deriving Repr, BEq, DecidableEq

namespace Offset
variable {α : Type}

/-- The part of the offset in a channel. -/
def get (o : Offset α) : Channel → Vec3 α
  | .location => o.location
  | .rotation => o.rotation
  | .scale => o.scale

/-- The offset with one channel replaced. -/
def set (o : Offset α) (v : Vec3 α) : Channel → Offset α
  | .location => { o with location := v }
  | .rotation => { o with rotation := v }
  | .scale => { o with scale := v }

theorem get_set (o : Offset α) (v : Vec3 α) (c c' : Channel) :
    (o.set v c).get c' = if c = c' then v else o.get c' := by
  cases c <;> cases c' <;> rfl

variable [Scalar α]

/-- No displacement. -/
instance : One (Offset α) := ⟨⟨0, 0, Vec3.ones⟩⟩

instance : Inhabited (Offset α) := ⟨1⟩

/-- How a relative change combines with what a channel holds: locations and angles add up, factors
multiply. -/
def accumulate : Channel → Vec3 α → Vec3 α → Vec3 α
  | .location, held, v => held + v
  | .rotation, held, v => held + v
  | .scale, held, v => held.times v

/-- Sets a channel, or combines the vector with what it holds. -/
def adjust (o : Offset α) (c : Channel) (v : Vec3 α) (absolute : Bool) : Offset α :=
  o.set (if absolute then v else accumulate c (o.get c) v) c

/-- Scale, then rotation, then shift. -/
def matrix (o : Offset α) : Matrix4 α :=
  Matrix4.shift o.location * Matrix4.rotation o.rotation * Matrix4.scaling o.scale

end Offset

end SceneGrammar
