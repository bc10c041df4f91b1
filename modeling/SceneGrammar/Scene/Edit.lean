import SceneGrammar.Scene.Basic
import SceneGrammar.Scene.Walk

/-!
# Changing scenes

The changes that a scene offers. Those that name nodes are refused where a node does not exist, and
placing a node is refused where the frame of its parent cannot be inverted. A parent is not checked
when a node is added, so a chain of parents is followed for as many steps as the scene has nodes.
-/

namespace SceneGrammar

/-- A new node without relations. -/
def Node.new {α : Type} [Scalar α] (name : String) : Node α where
  name
  parent := none
  children := []
  properties := ∅
  frame := 1
  container := none
  source := none
  flipped := false
  baked := false

namespace Scene
variable {α : Type} [Scalar α]

/-! ## Building -/

/-- Declares a collection, once. -/
def addCollection (s : Scene α) (name : String) : Scene α :=
  if s.collections.contains name then s else { s with collections := s.collections ++ [name] }

/-- Appends a node to the children of another one. -/
def appendChild (s : Scene α) (parent child : NodeId) : Scene α :=
  s.modifyNode parent fun node => { node with children := node.children ++ [child] }

/-- Removes a node from the children of another one. -/
def dropChild (s : Scene α) (parent child : NodeId) : Scene α :=
  s.modifyNode parent fun node => { node with children := node.children.filter (· ≠ child) }

/-- Adds a node, which joins the collection of its parent. The parent need not exist. -/
def addNode (s : Scene α) (name : String) (parent : Option NodeId) : NodeId × Scene α :=
  let id := s.lastId + 1
  let container := parent.bind s.container?
  let s' := s.pushNode { Node.new name with parent, container }
  match parent with
  | some p => if (s.node? p).isSome then (id, s'.appendChild p id) else (id, s')
  | none => (id, s')

/-- Adds a node without a parent to a collection, which is declared if need be. -/
def addTemplate (s : Scene α) (collection name : String) : NodeId × Scene α :=
  let (id, s) := (s.addCollection collection).addNode name none
  (id, s.modifyNode id fun node => { node with container := some collection })

/-- Sets a property of a node, if there is such a node. -/
def tag (s : Scene α) (n : NodeId) (key : String) (value : Literal) : Scene α :=
  s.modifyNode n fun node => { node with properties := node.properties.insert key value }

/-- Sets the frame of a node, if there is such a node. -/
def setFrame (s : Scene α) (n : NodeId) (frame : Matrix4 α) : Scene α :=
  s.modifyNode n fun node => { node with frame }

/-! ## Requests -/

/-- The node with a number, which has to exist. -/
def get (n : NodeId) : Edit (Scene α) (Node α) := fun s =>
  match s.node? n with
  | some node => .ok node s
  | none => .error (.unknownNode n) s

/-- Changes a node, which has to exist. -/
def update (n : NodeId) (f : Node α → Node α) : Edit (Scene α) Unit := do
  let _ ← get n
  modify (·.modifyNode n f)

/-- Adds a node and returns its number. -/
def add (node : Node α) : Edit (Scene α) NodeId :=
  modifyGet fun s => (s.lastId + 1, s.pushNode node)

/-- The product of the frames from the root down to a node, following at most `bound` parents. -/
def worldWithin (s : Scene α) : Nat → NodeId → Except SceneFault (Matrix4 α)
  | 0, n => .error (.cycle n n)
  | bound + 1, n =>
    match s.node? n with
    | none => .error (.unknownNode n)
    | some node =>
      match node.parent with
      | none => .ok (1 * node.frame)
      | some p => (s.worldWithin bound p).map (· * node.frame)

/-- The transform from a node to the world. -/
def worldOf (s : Scene α) (n : NodeId) : Except SceneFault (Matrix4 α) :=
  s.worldWithin (s.lastId + 1) n

/-- The transform from a node's parent to the world. -/
def parentWorldOf (s : Scene α) (node : Node α) : Except SceneFault (Matrix4 α) :=
  match node.parent with
  | none => .ok 1
  | some p => s.worldOf p

/-- A question to the scene, which may be refused. -/
def ask {β : Type} (question : Scene α → Except SceneFault β) : Edit (Scene α) β := fun s =>
  match question s with
  | .ok b => .ok b s
  | .error e => .error e s

/-- The transform from a node to the world. -/
def world (n : NodeId) : Edit (Scene α) (Matrix4 α) := ask (·.worldOf n)

/-- Places a node in the world: its frame becomes what is left of the transform after the parent. -/
def setWorld (n : NodeId) (world : Matrix4 α) : Edit (Scene α) Unit := do
  let node ← get n
  let parentWorld ← ask (·.parentWorldOf node)
  match parentWorld.inverse? with
  | some inverse => update n fun node => { node with frame := inverse * world }
  | none => throw (SceneFault.singularParent n)

/-- Sets a property of a node. -/
def setProperty (n : NodeId) (key : String) (value : Literal) : Edit (Scene α) Unit :=
  update n fun node => { node with properties := node.properties.insert key value }

/-- Copies a node and all below it under a parent, going at most `bound` nodes deep. -/
def copyUnder : Nat → NodeId → Option NodeId → Edit (Scene α) NodeId
  | 0, source, _ => throw (.unknownNode source)
  | bound + 1, source, parent => do
    let node ← get source
    let id ← add { node with parent, children := [], source := some source }
    node.children.forM fun child => do
      let copy ← copyUnder bound child (some id)
      update id fun node => { node with children := node.children ++ [copy] }
    pure id

/-- Copies a node and all below it; the copy gets the same parent and stands last under it. -/
def duplicate (n : NodeId) : Edit (Scene α) NodeId := do
  let node ← get n
  let bound := (← MonadState.get).lastId + 1
  let copy ← copyUnder bound n node.parent
  match node.parent with
  | some p => update p fun node => { node with children := node.children ++ [copy] }
  | none => pure ()
  pure copy

/-- Whether parents lead from a node to another one, or the two are the same. -/
def isAncestor (s : Scene α) (ancestor n : NodeId) : Bool :=
  Walk.leadsTo s.parent? ancestor (s.lastId + 2) n

/-- Moves a node under another one, where it stands last, and keeps its place in the world. -/
def reparent (n parent : NodeId) : Edit (Scene α) Unit := do
  let _ ← get parent
  if (← MonadState.get).isAncestor n parent then throw (.cycle n parent)
  let world ← world n
  match (← get n).parent with
  | some old => update old fun node => { node with children := node.children.filter (· ≠ n) }
  | none => pure ()
  update n fun node => { node with parent := some parent }
  update parent fun node => { node with children := node.children ++ [n] }
  setWorld n world

/-- Moves a single node to another collection, or out of all of them. -/
def moveTo (n : NodeId) (_origin target : Option String) : Edit (Scene α) Unit :=
  update n fun node => { node with container := target }

/-- Turns the normals of a node over. -/
def flip (n : NodeId) : Edit (Scene α) Unit :=
  update n fun node => { node with flipped := !node.flipped }

/-- Bakes the scale of a node into its geometry. -/
def bake (n : NodeId) : Edit (Scene α) Unit :=
  update n fun node => { node with baked := true }

/-- Adds an empty node under another one, at a place in the world. -/
def addMarker (world : Matrix4 α) (parent : NodeId) : Edit (Scene α) NodeId := do
  let _ ← get parent
  let id ← modifyGet (·.addNode "link" (some parent))
  setWorld id world
  pure id

/-- All nodes below a node, a node before its children. -/
def descendants (s : Scene α) (n : NodeId) : List NodeId :=
  Walk.preorder s.children s.lastId (s.children n)

/-- Removes a node and all below it. -/
def remove (n : NodeId) : Edit (Scene α) Unit := do
  match (← get n).parent with
  | some p => update p fun node => { node with children := node.children.filter (· ≠ n) }
  | none => pure ()
  modify fun s => (s.descendants n ++ [n]).foldl (fun s m => s.setNode m none) s

end Scene

end SceneGrammar
