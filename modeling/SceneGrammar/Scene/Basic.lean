import SceneGrammar.Bindings
import SceneGrammar.Fault
import SceneGrammar.Geometry.Matrix4

/-!
# Scenes

A forest of nodes, each with a frame relative to its parent, so that moving a parent carries its
children along. Nodes are numbered from one in the order in which they are made, and a number is
never used again. There is no geometry: that normals were flipped or a scale was baked in is only
marked. `node?` is the view through which everything else looks at a scene.
-/

namespace SceneGrammar

/-- A node of a scene. -/
structure Node (α : Type) where
  name : String
  parent : Option NodeId
  children : List NodeId
  properties : Bindings String Literal
  /-- The transform from the node to its parent, or to the world if it has none. -/
  frame : Matrix4 α
  /-- The collection that the node is in. -/
  container : Option String
  /-- The node that this one is a copy of. -/
  source : Option NodeId
  flipped : Bool
  baked : Bool
deriving Inhabited

/-- A scene: the node with number `n + 1` is in slot `n`, which is empty once it has been removed. -/
structure Scene (α : Type) where
  slots : Array (Option (Node α)) := #[]
  collections : List String := []
deriving Inhabited

/-- A change of a scene, which may be refused; what was changed before the refusal stays changed. -/
abbrev Edit (σ : Type) (β : Type) := EStateM SceneFault σ β

namespace Scene
variable {α : Type}

/-- The scene without nodes and collections. -/
def empty : Scene α := {}

/-- The node with a number. -/
def node? (s : Scene α) : NodeId → Option (Node α)
  | 0 => none
  | n + 1 => (s.slots[n]?).join

/-- The greatest number that a node of the scene has or had. -/
def lastId (s : Scene α) : Nat := s.slots.size

/-- The numbers of the nodes, in ascending order. -/
def ids (s : Scene α) : List NodeId :=
  ((List.range s.lastId).map (· + 1)).filter fun n => (s.node? n).isSome

/-- The number of nodes. -/
def nodeCount (s : Scene α) : Nat := s.ids.length

/-- The parent of a node. -/
def parent? (s : Scene α) (n : NodeId) : Option NodeId := (s.node? n).bind (·.parent)

/-- The children of a node, in order. -/
def children (s : Scene α) (n : NodeId) : List NodeId :=
  match s.node? n with
  | some node => node.children
  | none => []

/-- A property of a node. -/
def property? (s : Scene α) (n : NodeId) (key : String) : Option Literal :=
  (s.node? n).bind (·.properties.get? key)

/-- The collection that a node is in. -/
def container? (s : Scene α) (n : NodeId) : Option String := (s.node? n).bind (·.container)

/-- The name of a node. -/
def name? (s : Scene α) (n : NodeId) : Option String := (s.node? n).map (·.name)

/-- The nodes with a name. -/
def named (s : Scene α) (name : String) : List NodeId :=
  s.ids.filter fun n => s.name? n == some name

/-- The nodes of a collection that have no parent, none if there is no such collection. -/
def topLevel? (s : Scene α) (collection : String) : Option (List NodeId) :=
  if s.collections.contains collection then
    some <| s.ids.filter fun n =>
      match s.node? n with
      | some node => node.parent.isNone && node.container == some collection
      | none => false
  else none

/-- Puts a node into the slot of its number, if the scene has that slot. -/
def setNode (s : Scene α) (n : NodeId) (node : Option (Node α)) : Scene α :=
  match n with
  | 0 => s
  | n + 1 => { s with slots := s.slots.setIfInBounds n node }

/-- Changes the node with a number, if there is one. -/
def modifyNode (s : Scene α) (n : NodeId) (f : Node α → Node α) : Scene α :=
  match s.node? n with
  | some node => s.setNode n (some (f node))
  | none => s

/-- Adds a node under the next number. -/
def pushNode (s : Scene α) (node : Node α) : Scene α := { s with slots := s.slots.push (some node) }

/-- No node has the number zero. -/
@[simp] theorem node?_zero (s : Scene α) : s.node? 0 = none := rfl

/-- No node has a number that has not been given. -/
theorem node?_eq_none_of_lt {s : Scene α} {n : NodeId} (h : s.lastId < n) : s.node? n = none := by
  cases n with
  | zero => rfl
  | succ n =>
    have hn : s.slots.size ≤ n := Nat.le_of_lt_succ h
    simp [node?, Array.getElem?_eq_none hn]

/-- Setting a node changes what is found under its number only. -/
theorem node?_setNode (s : Scene α) (n m : NodeId) (node : Option (Node α)) :
    (s.setNode n node).node? m =
      if n = m ∧ 0 < n ∧ n ≤ s.lastId then node else s.node? m := by
  cases n with
  | zero => simp [setNode]
  | succ n =>
    cases m with
    | zero => simp [node?]
    | succ m =>
      simp only [node?, setNode, lastId, Array.getElem?_setIfInBounds]
      by_cases h : n = m
      · subst h
        by_cases hn : n < s.slots.size
        · simp [hn, Nat.succ_le_of_lt hn]
        · have hn' : ¬ n + 1 ≤ s.slots.size := fun h => hn h
          simp [hn, hn']
      · simp [h]

@[simp] theorem lastId_setNode (s : Scene α) (n : NodeId) (node : Option (Node α)) :
    (s.setNode n node).lastId = s.lastId := by
  cases n <;> simp [setNode, lastId]

/-- The numbers of nodes have been given. -/
theorem le_lastId_of_node? {s : Scene α} {n : NodeId} {node : Node α} (h : s.node? n = some node) :
    n ≤ s.lastId := by
  by_cases hn : n ≤ s.lastId
  · exact hn
  · rw [node?_eq_none_of_lt (Nat.lt_of_not_le hn)] at h; cases h

/-- A change of a node is seen at its number and nowhere else. -/
theorem node?_modifyNode (s : Scene α) (n m : NodeId) (f : Node α → Node α) :
    (s.modifyNode n f).node? m = if n = m then (s.node? m).map f else s.node? m := by
  unfold modifyNode
  split
  · next node h =>
    rw [node?_setNode]
    by_cases hnm : n = m
    · subst hnm
      have h₁ : 0 < n := by
        cases n with
        | zero => cases h
        | succ n => exact Nat.succ_pos n
      simp [h, h₁, le_lastId_of_node? h]
    · simp [hnm]
  · next h =>
    by_cases hnm : n = m
    · subst hnm; simp [h]
    · simp [hnm]

@[simp] theorem lastId_modifyNode (s : Scene α) (n : NodeId) (f : Node α → Node α) :
    (s.modifyNode n f).lastId = s.lastId := by
  unfold modifyNode; split <;> simp

@[simp] theorem lastId_pushNode (s : Scene α) (node : Node α) :
    (s.pushNode node).lastId = s.lastId + 1 := by simp [pushNode, lastId]

/-- A new node is seen under the next number. -/
theorem node?_pushNode (s : Scene α) (node : Node α) (n : NodeId) :
    (s.pushNode node).node? n = if n = s.lastId + 1 then some node else s.node? n := by
  cases n with
  | zero => simp [node?]
  | succ n =>
    by_cases h : n = s.slots.size <;> simp [node?, pushNode, lastId, Array.getElem?_push, h]

end Scene

end SceneGrammar
