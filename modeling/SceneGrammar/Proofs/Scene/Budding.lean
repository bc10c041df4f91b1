import SceneGrammar.Proofs.Scene.Growth
import SceneGrammar.Proofs.Scene.Reparent

/-!
# One more node

A scene is `Budded` if one node has been added below another one: it stands last there and is the only
change. A marker that can be placed is such a node, in the place that was asked for (`addMarker_budded`).
-/

namespace SceneGrammar.Scene

variable {α : Type} {s t : Scene α} {p : NodeId} {bud : Node α}

/-- A forest with one new node, which stands last under an old one. -/
structure Budded (s t : Scene α) (p : NodeId) (bud : Node α) : Prop extends Grown s t where
  number : t.lastId = s.lastId + 1
  bud : t.node? (s.lastId + 1) = some bud
  others : ∀ m, m ≠ s.lastId + 1 → t.node? m = (s.node? m).map fun node =>
    { node with children := node.children ++ if m = p then [s.lastId + 1] else [] }

/-- A node as it is added under another one. -/
def sprig [Scalar α] (s : Scene α) (p : NodeId) (name : String) : Node α :=
  { Node.new name with parent := some p, container := s.container? p }

/-- Adding a node under a node of a forest is one more bud. -/
lemma budded_addNode [Scalar α] (hs : s.WellFormed) (hp : s.Live p) (name : String) :
    Budded s (s.addNode name (some p)).2 p (s.sprig p name) := by
  obtain ⟨u, hu, e⟩ := addNode_sprouts s name (live_some hp)
  have pushed : (s.addNode name (some p)).2 = (s.pushNode (s.sprig p name)).appendChild p (s.lastId + 1) := by
    simp [addNode, sprig, live_iff.mp hp]
  have old := hp.le_lastId
  refine ⟨⟨e ▸ (Extends.refl s).sprouts hu, hs.addNode name (live_some hp)⟩, ?number, ?bud,
    fun m hm => ?others⟩
  case number => rw [pushed, appendChild, lastId_modifyNode, lastId_pushNode]
  case bud => rw [pushed, appendChild, node?_modifyNode, if_neg (by lia), node?_pushNode, if_pos rfl]
  case others =>
    rw [pushed, appendChild, node?_modifyNode, node?_pushNode, if_neg hm]
    cases s.node? m with
    | none => simp
    | some node => by_cases hmp : p = m <;> simp [hmp, eq_comm]

namespace Budded

/-- A change of the new node. -/
lemma modify (h : Budded s t p bud) {f : Node α → Node α} (hp : ∀ node, (f node).parent = node.parent)
    (hc : ∀ node, (f node).children = node.children) :
    Budded s (t.modifyNode (s.lastId + 1) f) p (f bud) := by
  have links := sameLinks_modifyNode hp hc t (s.lastId + 1)
  refine ⟨⟨h.modify_fresh (Nat.lt_succ_self _) f, links.wellFormed h.wellFormed⟩,
    links.lastId.trans h.number, ?bud, fun m hm => ?others⟩
  case bud => rw [node?_modifyNode, if_pos rfl, h.bud, Option.map_some]
  case others => rw [node?_modifyNode, if_neg (Ne.symm hm), h.others m hm]

/-- The bud is the last child of its parent. -/
lemma children_parent (h : Budded s t p bud) (hp : s.Live p) :
    t.children p = s.children p ++ [s.lastId + 1] := by
  obtain ⟨node, e⟩ := hp
  have grown := h.others p (by have := le_lastId_of_node? e; lia)
  rw [e, Option.map_some, if_pos rfl] at grown
  rw [children_eq grown, children_eq e]

/-- No other node has other children. -/
lemma children_other (h : Budded s t p bud) {m : NodeId} (hm : m ≠ s.lastId + 1) (hmp : m ≠ p) :
    t.children m = s.children m := by
  have same := h.others m hm
  rw [if_neg hmp] at same
  unfold children
  rw [same]
  cases s.node? m <;> simp

/-- The new node is where its frame puts it. -/
lemma worldOf [Scalar α] (h : Budded s t p bud) (parent : bud.parent = some p) {w : Matrix4 α}
    (hw : s.worldOf p = .ok w) : t.worldOf (s.lastId + 1) = .ok (w * bud.frame) := by
  rw [h.wellFormed.worldOf_eq h.bud, parentWorldOf, parent]
  dsimp only
  rw [h.worldOf_ok hw]
  rfl

end Budded

/-- A marker that is added under a node gets the frame that is left of its place after that of the node. -/
lemma addMarker_budded [Scalar α] (hs : s.WellFormed) {w : Matrix4 α} (hw : s.worldOf p = .ok w)
    (world : Matrix4 α) :
    Ends (addMarker world p) s
      (fun link t => link = s.lastId + 1 ∧ ∃ v, w.inverse? = some v ∧
        Budded s t p { s.sprig p "link" with frame := v * world })
      (fun _ _ => True) := by
  obtain ⟨node, e⟩ := live_of_worldOf hw
  have added := budded_addNode hs ⟨node, e⟩ "link"
  unfold addMarker
  apply Ends.bind
  refine Ends.of_ok (get_eq e) ?_
  apply Ends.bind
  refine Ends.modifyGet ?_
  apply Ends.bind
  rw [addNode_fst]
  refine Ends.imp (Ends.itself) ?_ (fun _ _ _ => trivial)
  rintro _ t run
  rw [setWorld_under (parent?_eq added.bud) (added.worldOf_ok hw)] at run
  cases inverse : w.inverse? with
  | none =>
    rw [inverse] at run
    cases run
  | some v =>
    rw [inverse] at run
    obtain rfl := (EStateM.Result.ok.inj run).2
    exact Ends.pure ⟨rfl, v, rfl, added.modify (fun _ => rfl) (fun _ => rfl)⟩

end SceneGrammar.Scene
