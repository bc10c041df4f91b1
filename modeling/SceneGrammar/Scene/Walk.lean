import SceneGrammar.Fault

/-!
# Walks

Searches through a forest that is given by the children of its nodes. A search keeps the nodes that
are still to be visited in a list and visits the first of them; every visit uses up one unit of a
bound, and a bound of one visit per node is never used up on a forest.
-/

namespace SceneGrammar.Walk

/-- Visits the waiting nodes and all below them, a node before its children. -/
def preorder (children : NodeId → List NodeId) : Nat → List NodeId → List NodeId
  | 0, _ => []
  | _ + 1, [] => []
  | bound + 1, n :: waiting => n :: preorder children bound (children n ++ waiting)

/-- The nodes with an accepted tag among the waiting nodes and all below them. The search does not
go below a node with a tag. -/
def tagged (children : NodeId → List NodeId) (tag : NodeId → Option String)
    (accept : String → Bool) : Nat → List NodeId → List NodeId
  | 0, _ => []
  | _ + 1, [] => []
  | bound + 1, n :: waiting =>
    match tag n with
    | some t =>
      let found := tagged children tag accept bound waiting
      if accept t then n :: found else found
    | none => tagged children tag accept bound (children n ++ waiting)

/-- Whether a node is among those that parents lead to from another one, which is itself the first
of them. -/
def leadsTo (parent? : NodeId → Option NodeId) (target : NodeId) : Nat → NodeId → Bool
  | 0, _ => false
  | bound + 1, n =>
    if n = target then true
    else match parent? n with
      | some p => leadsTo parent? target bound p
      | none => false

end SceneGrammar.Walk
