import SceneGrammar.Bindings
import SceneGrammar.Fault
import SceneGrammar.Geometry.Offset

/-!
# Cursors

The place of a scene at which a grammar is at work: an object, or a link with the offset that has
accumulated since it was entered.
-/

namespace SceneGrammar

/-- The links that a definition publishes, by alias, in the order of their first publication. -/
abbrev Aliases := Bindings String NodeId

/-- A link, its place in the world when it was entered, and the offset since then. -/
structure LinkPlace (α : Type) where
  node : NodeId
  world : Matrix4 α
  offset : Offset α
deriving BEq, DecidableEq

namespace LinkPlace
variable {α : Type} [Scalar α]

/-- A link that has just been entered. -/
def enter (node : NodeId) (world : Matrix4 α) : LinkPlace α := ⟨node, world, 1⟩

/-- The place in the world at which something is put. -/
def composed (p : LinkPlace α) : Matrix4 α := p.world * p.offset.matrix

end LinkPlace

/-- Where a grammar is at work. -/
inductive Cursor (α : Type) where
  /-- An object that was placed. -/
  | object (node : NodeId)
  /-- An object that a definition placed, whose links are the published ones. -/
  | aliased (node : NodeId) (aliases : Aliases)
  | link (place : LinkPlace α)

namespace Cursor
variable {α : Type}

/-- The kind of the place. -/
def kind : Cursor α → CursorKind
  | .object _ => .object
  | .aliased _ _ => .aliasedObject
  | .link _ => .link

/-- The object, at an object. -/
def object? : Cursor α → Option NodeId
  | .object n => some n
  | .aliased n _ => some n
  | .link _ => none

/-- The link, at a link. -/
def link? : Cursor α → Option (LinkPlace α)
  | .link place => some place
  | _ => none

end Cursor

/-- A definition that is being expanded: the cursor it started from, the first object that was
placed since then, and what it has published. -/
structure Capture (α : Type) where
  entry : Cursor α
  object : Option NodeId := none
  aliases : Aliases := ∅

end SceneGrammar
