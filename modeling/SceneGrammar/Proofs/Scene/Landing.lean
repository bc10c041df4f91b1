import SceneGrammar.Proofs.Scene.Straight

/-!
# Copies under a link

A copy that is brought to a link is made beside its source, put to its place, moved to the collection of
the link and then moved under the link. What comes of it is a `Replica`: every node as it was in the
source, with the links among the copies, in the collection of the link. Nothing else has changed but that
the link lists the copy last (`WellFormed.planted`), and without rounding the copy is at its place
(`Straight.landed`). Copies of several nodes, one after the other, stand in line behind the children that
the link had (`Transplanted.step`).
-/

namespace SceneGrammar.Scene

variable {α : Type} {s t u : Scene α} {n m c p first : NodeId} {mirrored : Bool}

/-- A copy of a node and of all below it, as these were in the first scene: the first copy is under another
node with a frame of its own, mirrored if asked, and all copies are in the collection of that node. -/
structure Replica (s t : Scene α) (n first p : NodeId) (mirrored : Bool) : Prop where
  root : ∀ node, s.node? n = some node → ∃ frame, t.node? first = some
    { node with
      parent := some p
      children := node.children.map (s.spot n first)
      frame
      container := s.container? p
      source := some n
      flipped := node.flipped ^^ mirrored
      baked := node.baked || mirrored }
  below : ∀ m ∈ s.descendants n, ∀ node, s.node? m = some node → t.node? (s.spot n first m) = some
    { node with
      parent := node.parent.map (s.spot n first)
      children := node.children.map (s.spot n first)
      container := s.container? p
      source := some m }

lemma container?_eq {node : Node α} (e : s.node? n = some node) : s.container? n = node.container := by
  unfold container?
  rw [e]
  rfl

/-- Old nodes are in their old collections. -/
lemma Extends.container?_old (h : Extends s t) (hn : s.Live n) : t.container? n = s.container? n := by
  obtain ⟨node, e⟩ := hn
  obtain ⟨added, e', -⟩ := h.old n node e
  rw [container?_eq e, container?_eq e']

/-- An old node without new children is as it was. -/
lemma Extends.node?_old (h : Extends s t) {node : Node α} (e : s.node? n = some node)
    (same : t.children n = s.children n) : t.node? n = some node := by
  obtain ⟨added, e', -⟩ := h.old n node e
  have none_added : node.children ++ added = node.children :=
    (children_eq e').symm.trans (same.trans (children_eq e))
  rw [e', none_added]

/-- New nodes may be in any collection. -/
lemma Extends.moved (h : Extends s t) {S : NodeId → Prop} {target : Option String}
    (k : Moved S target t u) (hS : ∀ m, S m → s.lastId < m) : Extends s u where
  lastId := k.lastId ▸ h.lastId
  collections := k.collections.trans h.collections
  old m node e := by
    rw [k.outside m fun hm => Nat.not_lt_of_le (le_lastId_of_node? e) (hS m hm)]
    exact h.old m node e
  fresh m hm := h.fresh m ((k.links.live m).mp hm)

/-! ## Bringing a node to its place -/

/-- Scenes with the same links have the same nodes below each other. -/
lemma SameLinks.under (h : SameLinks s t) : t.Under m n ↔ s.Under m n := by
  have e : t.ParentOf = s.ParentOf := by
    funext a b
    rw [ParentOf, h.parent?]
  rw [Under, e]

/-- A node and all below it are in another collection, and the node is under another one, where it stands
last, with a frame of its own. -/
structure Settled (s t : Scene α) (n p : NodeId) (target : Option String) (frame : Matrix4 α) :
    Prop where
  inside : ∀ m, s.Under m n → t.node? m = (s.node? m).map fun node =>
    { node with
      parent := if m = n then some p else node.parent
      container := target
      frame := if m = n then frame else node.frame }
  outside : ∀ m, ¬ s.Under m n → t.node? m = (s.node? m).map fun node =>
    { node with children := node.children.filter (· ≠ n) ++ if m = p then [n] else [] }

/-- A new frame changes the frame of its node only. -/
lemma node?_setFrame (s : Scene α) (n : NodeId) (frame : Matrix4 α) (m : NodeId) :
    (s.setFrame n frame).node? m =
      (s.node? m).map fun node => { node with frame := if m = n then frame else node.frame } := by
  rw [setFrame, node?_modifyNode]
  cases s.node? m with
  | none => simp
  | some node => by_cases h : n = m <;> simp [h, eq_comm]

/-- A node that was put somewhere, then moved to another collection and then under another node. -/
lemma WellFormed.settled (hs : s.WellFormed) (apart : ¬ s.Under p n) {target : Option String}
    {frame : Matrix4 α} (h : Moved (s.Under · n) target (s.setFrame n frame) t) (frame' : Matrix4 α) :
    Settled s ((t.relink n p).setFrame n frame') n p target frame' := by
  have ht : t.WellFormed := h.links.wellFormed (hs.setFrame n frame)
  refine ⟨fun m hm => ?inside, fun m hm => ?outside⟩
  case inside =>
    have hmp : m ≠ p := fun e => apart (e ▸ hm)
    rw [node?_setFrame, ht.node?_relink, h.inside m hm, node?_setFrame]
    cases e : s.node? m with
    | none => rfl
    | some node =>
      -- What is under the node does not list it.
      have unlisted : node.children.filter (· ≠ n) = node.children := by
        refine List.filter_eq_self.mpr fun x hx => ?_
        have hxn : x ≠ n := fun exn => hs.not_under_child (hs.named (children_eq e ▸ exn ▸ hx)) hm
        simpa using hxn
      simp only [Option.map_some, if_neg hmp, unlisted, List.append_nil]
      by_cases hmn : m = n
      · simp only [if_pos hmn]
      · simp only [if_neg hmn]
  case outside =>
    have hmn : m ≠ n := fun e => hm (e ▸ .refl)
    rw [node?_setFrame, ht.node?_relink, h.outside m hm, node?_setFrame]
    cases s.node? m with
    | none => rfl
    | some node => simp [if_neg hmn]

/-! ## Trees of copies -/

/-- The first copy is that of the node alone. -/
lemma WellFormed.spot_ne (hs : s.WellFormed) (hm : m ∈ s.descendants n) (first : NodeId) :
    s.spot n first m ≠ first := by
  have hmn : n ≠ m := fun e => (List.nodup_cons.mp (hs.nodup_tree n)).1 (e ▸ hm)
  unfold spot tree
  rw [List.idxOf_cons_ne _ hmn]
  lia

/-- What is below a node is copied below the copy of the node. -/
lemma Duplicated.under (h : Duplicated s t n) (hm : s.Under m n) :
    t.Under (s.spot n (s.lastId + 1) m) (s.lastId + 1) := by
  induction hm using Relation.ReflTransGen.head_induction_on with
  | refl => exact s.spot_self n _ ▸ .refl
  | @head a c e hc ih =>
    by_cases han : a = n
    · rw [han, spot_self]
    · obtain ⟨node, ea⟩ := live_of_parent? e
      refine .head ?_ ih
      rw [ParentOf, parent?_eq (h.copies a node (.head e hc) ea), if_neg han]
      show node.parent.map _ = _
      rw [← parent?_eq ea, e, Option.map_some]

/-- A tree depends on the children of its nodes only. -/
lemma WellFormed.tree_congr (hs : s.WellFormed) (ht : t.WellFormed)
    (same : ∀ m, s.Under m n → t.children m = s.children m) : t.tree n = s.tree n := by
  induction n using hs.upwards with
  | step n ih =>
    rw [tree, tree, ht.descendants_eq, hs.descendants_eq, same n .refl]
    refine congrArg _ (List.flatMap_congr fun c hc => ih c hc fun m hm => ?_)
    exact same m (hm.tail (hs.named hc))

namespace Replica

/-- A replica of what was there already. -/
lemma rebase (h : Replica t u n first p mirrored) (hs : s.WellFormed) (ht : t.WellFormed)
    (same : ∀ m, s.Under m n → t.node? m = s.node? m) (container : t.container? p = s.container? p) :
    Replica s u n first p mirrored := by
  have tree : t.tree n = s.tree n := by
    refine hs.tree_congr ht fun m hm => ?_
    unfold children
    rw [same m hm]
  have spots : t.spot n first = s.spot n first := by
    funext m
    rw [spot, spot, tree]
  have below : t.descendants n = s.descendants n := (List.cons.inj tree).2
  refine ⟨fun node e => ?_, fun m hm node e => ?_⟩
  · rw [← spots, ← container]
    exact h.root node ((same n .refl).trans e)
  · rw [← spots, ← container]
    exact h.below m (below ▸ hm) node ((same m (hs.mem_tree_iff.mp (.tail n hm))).trans e)

/-- A replica remains one while its nodes are as they are. -/
lemma kept (h : Replica s t n first p mirrored)
    (same : ∀ m node, first ≤ m → t.node? m = some node → u.node? m = some node) :
    Replica s u n first p mirrored := by
  refine ⟨fun node e => ?_, fun m hm node e => ?_⟩
  · obtain ⟨frame, e'⟩ := h.root node e
    exact ⟨frame, same first _ (Nat.le_refl _) e'⟩
  · exact same _ _ (Nat.le_add_right _ _) (h.below m hm node e)

/-- All nodes of a replica are in the collection of the other node. -/
lemma container? (h : Replica s t n first p mirrored) (hs : s.WellFormed) (hn : s.Live n)
    (hm : s.Under m n) :
    t.Live (s.spot n first m) ∧ t.container? (s.spot n first m) = s.container? p := by
  obtain ⟨node, e⟩ := live_of_under hn hm
  cases List.mem_cons.mp (hs.mem_tree_iff.mpr hm) with
  | inl hmn =>
    obtain ⟨frame, e'⟩ := h.root node (hmn ▸ e)
    rw [hmn, spot_self]
    exact ⟨⟨_, e'⟩, container?_eq e'⟩
  | inr below =>
    have e' := h.below m below node e
    exact ⟨⟨_, e'⟩, container?_eq e'⟩

/-- A replica whose first node is mirrored where it is. -/
lemma mirror (h : Replica s t n first p false) (hs : s.WellFormed) (frame : Matrix4 α)
    (root : ∀ node, t.node? first = some node → u.node? first =
      some { node with frame, baked := true, flipped := !node.flipped })
    (others : ∀ m, m ≠ first → u.node? m = t.node? m) : Replica s u n first p true := by
  refine ⟨fun node e => ?_, fun m hm node e => ?_⟩
  · obtain ⟨_, e'⟩ := h.root node e
    refine ⟨frame, ?_⟩
    rw [root _ e']
    simp
  · rw [others _ (hs.spot_ne hm first)]
    exact h.below m hm node e

end Replica

/-! ## Planting -/

/-- A copy of a node and of all below it has been brought under another node, where it stands last, and
nothing else has changed. -/
structure Planted (s t : Scene α) (n p : NodeId) : Prop extends Grown s t where
  number : t.lastId = s.lastId + s.weight n
  replica : Replica s t n (s.lastId + 1) p false
  children : ∀ m, s.Live m → t.children m = s.children m ++ if m = p then [s.lastId + 1] else []

/-- A copy that was made beside a node, put somewhere, moved to the collection of another node and then
under that one. -/
lemma WellFormed.planted (hs : s.WellFormed) (hp : s.Live p) (h : Duplicated s t n)
    {frame frame' : Matrix4 α} (moved : Moved (t.Under · (s.lastId + 1)) (s.container? p)
      (t.setFrame (s.lastId + 1) frame) u)
    (wellFormed : ((u.relink (s.lastId + 1) p).setFrame (s.lastId + 1) frame').WellFormed) :
    Planted s ((u.relink (s.lastId + 1) p).setFrame (s.lastId + 1) frame') n p := by
  have new : s.lastId < s.lastId + 1 := Nat.lt_succ_self _
  have fresh : ∀ m, t.Under m (s.lastId + 1) → s.lastId < m := fun m =>
    h.toExtends.fresh_under hs new
  have outside : ∀ m, s.Live m → ¬ t.Under m (s.lastId + 1) := fun m hm hu =>
    Nat.not_le_of_lt (fresh m hu) hm.le_lastId
  have settled := h.wellFormed.settled (outside p hp) moved frame'
  have placed := (h.toExtends.modify_fresh new fun node => { node with frame }).moved moved fresh
  refine ⟨⟨(placed.relink hs new p).modify_fresh new _, wellFormed⟩, ?number, ?replica, ?children⟩
  case number =>
    rw [Scene.setFrame, lastId_modifyNode, lastId_relink, moved.lastId, Scene.setFrame,
      lastId_modifyNode, h.number]
  case replica =>
    refine ⟨fun node e => ⟨frame', ?_⟩, fun m hm node e => ?_⟩
    · have copied := h.copies n node .refl e
      rw [spot_self] at copied
      rw [settled.inside _ .refl, copied]
      simp [Node.copy]
    · have under := hs.mem_tree_iff.mp (.tail n hm)
      have hmn : m ≠ n := fun e =>
        (List.nodup_cons.mp (hs.nodup_tree n)).1 (e ▸ hm)
      have apart := hs.spot_ne hm (s.lastId + 1)
      rw [settled.inside _ (h.under under), h.copies m node under e]
      simp [Node.copy, hmn, apart]
  case children =>
    intro m hm
    obtain ⟨node, e⟩ := hm
    have hle := le_lastId_of_node? e
    have old : node.children.filter (· ≠ s.lastId + 1) = node.children := by
      refine List.filter_eq_self.mpr fun x hx => ?_
      have hx := (hs.live_child (children_eq e ▸ hx)).le_lastId
      simpa using Nat.ne_of_lt (Nat.lt_succ_of_le hx)
    have now := settled.outside m (outside m ⟨node, e⟩)
    rw [h.beside m hle, e] at now
    rw [children_eq e]
    by_cases above : s.parent? n = some m
    · rw [if_pos above, Option.map_some, Option.map_some] at now
      rw [children_eq now, List.filter_append, old]
      simp
    · rw [if_neg above, Option.map_some] at now
      rw [children_eq now, old]

/-! ## Landing -/

section
variable [Scalar α] {w : Matrix4 α}

/-- A copy of a node and of all below it has been brought to a place under another node, where it stands
last, and nothing else has changed. -/
structure Landed (s t : Scene α) (n p : NodeId) (mirrored : Bool) (w : Matrix4 α) : Prop
    extends Extends s t where
  straight : t.Straight
  replica : Replica s t n (s.lastId + 1) p mirrored
  children : ∀ m, s.Live m → t.children m = s.children m ++ if m = p then [s.lastId + 1] else []
  place : t.worldOf (s.lastId + 1) = .ok w

/-- A copy that was made beside a node, put to its place, moved to the collection of another node and
then under that one. -/
lemma Straight.landed (hs : s.Straight) (hp : s.Live p) (h : Duplicated s t n)
    {frame frame' : Matrix4 α} (moved : Moved (t.Under · (s.lastId + 1)) (s.container? p)
      (t.setFrame (s.lastId + 1) frame) u)
    (straight : ((u.relink (s.lastId + 1) p).setFrame (s.lastId + 1) frame').Straight)
    (place : ((u.relink (s.lastId + 1) p).setFrame (s.lastId + 1) frame').worldOf (s.lastId + 1) =
      .ok w) :
    Landed s ((u.relink (s.lastId + 1) p).setFrame (s.lastId + 1) frame') n p false w :=
  have planted := hs.wellFormed.planted hp h moved straight.wellFormed
  ⟨planted.toExtends, straight, planted.replica, planted.children, place⟩

/-- Places do not depend on anything but parents and frames. -/
lemma worldOf_modifyNode {f : Node α → Node α} (hp : ∀ node, (f node).parent = node.parent)
    (hf : ∀ node, (f node).frame = node.frame) (m : NodeId) (e : s.worldOf n = .ok w) :
    (s.modifyNode m f).worldOf n = .ok w :=
  worldWithin_pose (Nat.succ_le_succ (Nat.le_of_eq (lastId_modifyNode s m f).symm))
    (fun _ _ _ => pose?_modifyNode hp hf s m _) e

/-- A copy that has landed is put to another place, its scale baked in and its normals turned over. -/
lemma Landed.mirror (h : Landed s t n p false w) (hs : s.WellFormed) {frame w' : Matrix4 α}
    (straight : (t.setFrame (s.lastId + 1) frame).Straight)
    (place : (t.setFrame (s.lastId + 1) frame).worldOf (s.lastId + 1) = .ok w') :
    Landed s (((t.setFrame (s.lastId + 1) frame).modifyNode (s.lastId + 1)
      fun node => { node with baked := true }).modifyNode (s.lastId + 1)
      fun node => { node with flipped := !node.flipped }) n p true w' := by
  have new : s.lastId < s.lastId + 1 := Nat.lt_succ_self _
  refine ⟨((h.modify_fresh new _).modify_fresh new _).modify_fresh new _, ?straight, ?replica,
    fun m hm => ?children, ?place⟩
  case straight =>
    exact (straight.modifyNode (by simp) (by simp) (by simp) _).modifyNode (by simp) (by simp)
      (by simp) _
  case replica =>
    refine h.replica.mirror hs frame (fun node e => ?_) (fun m hm => ?_)
    · simp [setFrame, node?_modifyNode, e]
    · simp [setFrame, node?_modifyNode, hm.symm]
  case children =>
    rw [← h.children m hm, children_modifyNode_of (by simp), children_modifyNode_of (by simp)]
    exact (sameLinks_setFrame t _ frame).children m
  case place =>
    exact worldOf_modifyNode (by simp) (by simp) _ (worldOf_modifyNode (by simp) (by simp) _ place)

/-! ## One copy after the other -/

/-- Copies of nodes and all below them have been brought to a place under another node, one after the
other, where they stand behind its other children in the order of the nodes; nothing else has changed. -/
structure Transplanted (s t : Scene α) (p : NodeId) (mirrored : Bool) (W : Matrix4 α → Prop)
    (done copies : List NodeId) : Prop extends Extends s t where
  straight : t.Straight
  children : ∀ m, s.Live m → t.children m = s.children m ++ if m = p then copies else []
  replicas : done.Forall₂ (fun n first => s.lastId < first ∧ Replica s t n first p mirrored) copies
  places : ∀ first ∈ copies, ∃ w, t.worldOf first = .ok w ∧ W w
  ascending : copies.Pairwise (· < ·)

namespace Transplanted
variable {W : Matrix4 α → Prop} {done copies : List NodeId}

lemma refl (hs : s.Straight) (p : NodeId) (mirrored : Bool) (W : Matrix4 α → Prop) :
    Transplanted s s p mirrored W [] [] where
  toExtends := .refl s
  straight := hs
  children m _ := by simp
  replicas := .nil
  places _ h := by cases h
  ascending := .nil

/-- One more copy. -/
lemma step (h : Transplanted s t p mirrored W done copies) (hs : s.WellFormed) (hp : s.Live p)
    (hn : s.Live n) (apart : ¬ s.Under p n) (k : Landed t u n p mirrored w)
    (hw : W w) : Transplanted s u p mirrored W (done ++ [n]) (copies ++ [t.lastId + 1]) := by
  refine ⟨h.trans k.toExtends, k.straight, fun m hm => ?children, ?replicas, fun first hf => ?places,
    ?ascending⟩
  case children =>
    rw [k.children m (h.live hm), h.children m hm, List.append_assoc]
    split <;> rfl
  case replicas =>
    -- The copies so far have no new children.
    have others : ∀ n' first, s.lastId < first ∧ Replica s t n' first p mirrored →
        s.lastId < first ∧ Replica s u n' first p mirrored := by
      rintro n' first ⟨new, r⟩
      refine ⟨new, r.kept fun m node hm e => k.node?_old e ?_⟩
      have hmp : m ≠ p := fun e => Nat.not_le_of_lt (Nat.lt_of_lt_of_le new hm) (e ▸ hp.le_lastId)
      rw [k.children m ⟨node, e⟩, if_neg hmp, List.append_nil]
    have last : Replica s u n (t.lastId + 1) p mirrored := by
      refine k.replica.rebase hs h.straight.wellFormed (fun m hm => ?_) (h.container?_old hp)
      obtain ⟨node, e⟩ := live_of_under hn hm
      have hmp : m ≠ p := fun e => apart (e ▸ hm)
      rw [e]
      refine h.node?_old e ?_
      rw [h.children m ⟨node, e⟩, if_neg hmp, List.append_nil]
    exact List.rel_append (h.replicas.imp others) (.cons ⟨Nat.lt_succ_of_le h.lastId, last⟩ .nil)
  case places =>
    cases List.mem_append.mp hf with
    | inl hf =>
      obtain ⟨w', e, hw'⟩ := h.places first hf
      exact ⟨w', k.worldOf_ok e, hw'⟩
    | inr hf => exact ⟨w, List.mem_singleton.mp hf ▸ k.place, hw⟩
  case ascending =>
    refine List.pairwise_append.mpr ⟨h.ascending, List.pairwise_singleton _ _, fun a ha b hb => ?_⟩
    rw [List.mem_singleton.mp hb]
    obtain ⟨w', e, -⟩ := h.places a ha
    exact Nat.lt_succ_of_le (live_of_worldOf e).le_lastId

end Transplanted

end

end SceneGrammar.Scene
