import SceneGrammar.Scene.Edit
import SceneGrammar.Scene.Event

/-!
# Hosts

What a run needs of the scene it grows. A grammar sees its scene through these requests alone;
`Scene` answers them itself, and other hosts may stand in between.
-/

namespace SceneGrammar

/-- The requests that a run makes. -/
class Host (σ : Type) (α : outParam Type) where
  /-- A number of visits that no search through the nodes needs to exceed. -/
  size : σ → Nat
  parent? : σ → NodeId → Option NodeId
  /-- The children of a node, in an order that does not change by itself. -/
  children : σ → NodeId → List NodeId
  property? : σ → NodeId → String → Option Literal
  /-- The collection that a node is in. -/
  container? : σ → NodeId → Option String
  /-- The members of a collection that have no parent, none if there is no such collection. -/
  topLevel? : σ → String → Option (List NodeId)
  setProperty : NodeId → String → Literal → Edit σ Unit
  /-- The transform from a node to the world. -/
  world : NodeId → Edit σ (Matrix4 α)
  setWorld : NodeId → Matrix4 α → Edit σ Unit
  /-- Copies a node and all below it and returns the copy of the node. -/
  duplicate : NodeId → Edit σ NodeId
  /-- Moves the first node under the second and keeps its place in the world. -/
  reparent : NodeId → NodeId → Edit σ Unit
  /-- Moves a single node from one collection to another. -/
  moveTo : NodeId → Option String → Option String → Edit σ Unit
  /-- Turns the normals of a node over. -/
  flip : NodeId → Edit σ Unit
  /-- Bakes the scale of a node into its geometry. -/
  bake : NodeId → Edit σ Unit
  /-- Adds an empty node at a place in the world, under another node. -/
  addMarker : Matrix4 α → NodeId → Edit σ NodeId
  /-- Removes a node and all below it. -/
  remove : NodeId → Edit σ Unit
  /-- Takes notice of a point of the run. -/
  observe : Event α → σ → σ := fun _ s => s

instance {α : Type} [Scalar α] : Host (Scene α) α where
  size := Scene.lastId
  parent? := Scene.parent?
  children := Scene.children
  property? := Scene.property?
  container? := Scene.container?
  topLevel? := Scene.topLevel?
  setProperty := Scene.setProperty
  world := Scene.world
  setWorld := Scene.setWorld
  duplicate := Scene.duplicate
  reparent := Scene.reparent
  moveTo := Scene.moveTo
  flip := Scene.flip
  bake := Scene.bake
  addMarker := Scene.addMarker
  remove := Scene.remove

namespace Host
variable {σ α : Type} [Host σ α]

/-- All nodes below a node, a node before its children. -/
def descendants (s : σ) (n : NodeId) : List NodeId :=
  Walk.preorder (children s) (size s) (children s n)

/-- Moves a node and all below it from one collection to another, going at most `bound` nodes deep. -/
def moveAllWithin : Nat → NodeId → Option String → Option String → Edit σ Unit
  | 0, _, _, _ => pure ()
  | bound + 1, n, origin, target => do
    moveTo n origin target
    (children (← get) n).forM fun child => moveAllWithin bound child origin target

/-- Moves a node and all below it from one collection to another. -/
def moveAll (n : NodeId) (origin target : Option String) : Edit σ Unit := do
  moveAllWithin (size (← get) + 1) n origin target

end Host

end SceneGrammar
