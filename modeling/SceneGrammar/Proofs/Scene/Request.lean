import SceneGrammar.Proofs.Outcome
import SceneGrammar.Proofs.Scene.Forest

/-!
# What requests do

For each request that changes one node or moves one: what the scene is afterwards, whether the request
was refused or not. A refused request leaves the scene alone, except that a node whose frame cannot be
set after it was moved or added stays where it is.
-/

namespace SceneGrammar.Scene

variable {α : Type} {s : Scene α} {n m p : NodeId}

/-! ## Changes of single nodes -/

/-- A number is that of a node if it is bound to one. -/
lemma live_iff : s.Live n ↔ (s.node? n).isSome := Option.isSome_iff_exists.symm

@[simp] lemma collections_setNode (s : Scene α) (n : NodeId) (node : Option (Node α)) :
    (s.setNode n node).collections = s.collections := by
  unfold setNode
  split <;> rfl

@[simp] lemma collections_modifyNode (s : Scene α) (n : NodeId) (f : Node α → Node α) :
    (s.modifyNode n f).collections = s.collections := by
  unfold modifyNode
  split
  · exact collections_setNode s n _
  · rfl

/-- The parents after a node was changed. -/
lemma parent?_modifyNode (s : Scene α) (n m : NodeId) (f : Node α → Node α) :
    (s.modifyNode n f).parent? m =
      if n = m then (s.node? m).bind fun node => (f node).parent else s.parent? m := by
  unfold parent?
  rw [node?_modifyNode]
  by_cases e : n = m <;> simp [e, Option.bind_map]

/-- The children after a node was changed. -/
lemma children_modifyNode (s : Scene α) (n m : NodeId) (f : Node α → Node α) :
    (s.modifyNode n f).children m =
      if n = m then ((s.node? m).map fun node => (f node).children).getD [] else s.children m := by
  unfold children
  rw [node?_modifyNode]
  by_cases e : n = m
  · cases s.node? m <;> simp [e]
  · simp [e]

/-- A change that leaves the children of a node leaves those of all nodes. -/
lemma children_modifyNode_of {f : Node α → Node α} (hf : ∀ node, (f node).children = node.children)
    (s : Scene α) (n m : NodeId) : (s.modifyNode n f).children m = s.children m := by
  rw [children_modifyNode]
  simp only [hf]
  split
  · unfold children
    cases s.node? m <;> rfl
  · rfl

/-- A change that leaves the parent of a node leaves those of all nodes. -/
lemma parent?_modifyNode_of {f : Node α → Node α} (hf : ∀ node, (f node).parent = node.parent)
    (s : Scene α) (n m : NodeId) : (s.modifyNode n f).parent? m = s.parent? m := by
  rw [parent?_modifyNode]
  simp only [hf]
  exact ite_self _

/-- Changing a node neither adds nor removes one. -/
@[simp] lemma live_modifyNode (s : Scene α) (n m : NodeId) (f : Node α → Node α) :
    (s.modifyNode n f).Live m ↔ s.Live m := by
  rw [live_iff, live_iff, node?_modifyNode]
  by_cases e : n = m <;> simp [e]

/-- Listing a child changes no parent. -/
@[simp] lemma parent?_appendChild (s : Scene α) (p c m : NodeId) :
    (s.appendChild p c).parent? m = s.parent? m := by
  unfold appendChild
  rw [parent?_modifyNode]
  exact ite_self _

/-- A listed child stands behind the other children. -/
lemma children_appendChild (h : s.Live p) (c m : NodeId) :
    (s.appendChild p c).children m = s.children m ++ if m = p then [c] else [] := by
  unfold appendChild
  rw [children_modifyNode]
  obtain ⟨node, e⟩ := h
  by_cases hm : p = m
  · subst hm
    simp [e, children_eq e]
  · simp [hm, Ne.symm hm]

/-- A node is listed once if it was not listed before. -/
lemma nodup_listed {l : List NodeId} (h : l.Nodup) (hn : n ∉ l) (c : Prop) [Decidable c] :
    (l ++ if c then [n] else []).Nodup := by
  split
  · refine List.nodup_append.mpr ⟨h, List.nodup_singleton n, ?_⟩
    intro x hx y hy e
    exact hn (List.mem_singleton.mp hy ▸ e ▸ hx)
  · rwa [List.append_nil]

/-- Listing a child neither adds nor removes a node. -/
@[simp] lemma live_appendChild (s : Scene α) (p c m : NodeId) :
    (s.appendChild p c).Live m ↔ s.Live m := live_modifyNode s p m _

/-- Striking a child off the list changes no parent. -/
@[simp] lemma parent?_dropChild (s : Scene α) (p c m : NodeId) :
    (s.dropChild p c).parent? m = s.parent? m := by
  unfold dropChild
  rw [parent?_modifyNode]
  exact ite_self _

/-- A new node is there under the next number, and the others still are. -/
@[simp] lemma live_pushNode {node : Node α} :
    (s.pushNode node).Live m ↔ m = s.lastId + 1 ∨ s.Live m := by
  rw [live_iff, live_iff, node?_pushNode]
  by_cases e : m = s.lastId + 1 <;> simp [e]

/-- A new node has its own parent, and the others keep theirs. -/
lemma parent?_pushNode (s : Scene α) (node : Node α) (m : NodeId) :
    (s.pushNode node).parent? m = if m = s.lastId + 1 then node.parent else s.parent? m := by
  unfold parent?
  rw [node?_pushNode]
  split <;> rfl

/-- A new node has its own children, and the others keep theirs. -/
lemma children_pushNode (s : Scene α) (node : Node α) (m : NodeId) :
    (s.pushNode node).children m = if m = s.lastId + 1 then node.children else s.children m := by
  unfold children
  rw [node?_pushNode]
  by_cases e : m = s.lastId + 1 <;> simp [e]

/-- The same nodes under the same numbers, with the same parents and children. -/
structure SameLinks (s t : Scene α) : Prop where
  lastId : t.lastId = s.lastId
  live : ∀ m, t.Live m ↔ s.Live m
  parent? : ∀ m, t.parent? m = s.parent? m
  children : ∀ m, t.children m = s.children m

/-- What leaves the links leaves them one after the other. -/
lemma SameLinks.trans {t u : Scene α} (h : SameLinks s t) (k : SameLinks t u) : SameLinks s u where
  lastId := k.lastId.trans h.lastId
  live m := (k.live m).trans (h.live m)
  parent? m := (k.parent? m).trans (h.parent? m)
  children m := (k.children m).trans (h.children m)

/-- A scene with the links of a forest is a forest. -/
lemma SameLinks.wellFormed {t : Scene α} (h : SameLinks s t) (hs : s.WellFormed) :
    t.WellFormed := by
  have hp : t.ParentOf = s.ParentOf := by
    funext n p
    rw [ParentOf, h.parent?]
  refine ⟨?listed, ?named, ?nodup, ?acyclic⟩
  case listed =>
    intro n p e
    rw [h.children]
    exact hs.listed (h.parent? n ▸ e)
  case named =>
    intro n p e
    rw [h.parent?]
    exact hs.named (h.children p ▸ e)
  case nodup =>
    intro p
    rw [h.children]
    exact hs.nodup p
  case acyclic =>
    rw [hp]
    exact hs.acyclic

/-- A change of a node that leaves its parent and its children alone. -/
lemma sameLinks_modifyNode {f : Node α → Node α} (hp : ∀ node, (f node).parent = node.parent)
    (hc : ∀ node, (f node).children = node.children) (s : Scene α) (n : NodeId) :
    SameLinks s (s.modifyNode n f) where
  lastId := lastId_modifyNode s n f
  live m := live_modifyNode s n m f
  parent? m := parent?_modifyNode_of hp s n m
  children m := children_modifyNode_of hc s n m

/-- A new frame leaves all links. -/
lemma sameLinks_setFrame (s : Scene α) (n : NodeId) (frame : Matrix4 α) :
    SameLinks s (s.setFrame n frame) := sameLinks_modifyNode (by simp) (by simp) s n

/-! ## Requests for one node -/

variable {β : Type}

/-- A node that is there is given. -/
lemma get_eq {node : Node α} (e : s.node? n = some node) : get n s = .ok node s := by
  simp [get, e]

/-- Asking for a node leaves the scene, and gives the node if it is there. -/
lemma get_ends (s : Scene α) (n : NodeId) :
    Ends (get n) s (fun node t => t = s ∧ s.node? n = some node) (fun _ t => t = s) := by
  unfold get Ends
  cases e : s.node? n <;> simp [e]

/-- A question leaves the scene. -/
lemma ask_ends (s : Scene α) (question : Scene α → Except SceneFault β) :
    Ends (ask question) s (fun b t => t = s ∧ question s = .ok b) (fun _ t => t = s) := by
  unfold ask Ends
  cases e : question s <;> simp [e]

/-- A change of a node is made if the node is there; otherwise nothing is. -/
lemma update_ends (s : Scene α) (n : NodeId) (f : Node α → Node α) :
    Ends (update n f) s (fun _ t => s.Live n ∧ t = s.modifyNode n f) (fun _ t => t = s) := by
  unfold update
  apply Ends.bind
  refine (get_ends s n).imp ?_ (fun _ _ => id)
  rintro node _ ⟨rfl, e⟩
  exact Ends.modify ⟨⟨node, e⟩, rfl⟩

/-- Changing a node that there is. -/
lemma update_live {E : SceneFault → Scene α → Prop} (f : Node α → Node α) (h : s.Live n) :
    Ends (update n f) s (fun _ t => t = s.modifyNode n f) E := by
  obtain ⟨node, e⟩ := h
  unfold update
  apply Ends.bind
  exact Ends.of_ok (get_eq e) (Ends.modify rfl)

variable [Scalar α]

/-- Asking for a place leaves the scene. -/
lemma world_ends (s : Scene α) (n : NodeId) :
    Ends (world n) s (fun _ t => t = s) (fun _ t => t = s) :=
  (ask_ends s _).imp (fun _ _ h => h.1) (fun _ _ => id)

/-- Setting a place gives the node a frame or leaves the scene. -/
lemma setWorld_ends (s : Scene α) (n : NodeId) (world : Matrix4 α) :
    Ends (setWorld n world) s (fun _ t => ∃ frame, t = s.setFrame n frame) (fun _ t => t = s) := by
  unfold setWorld
  apply Ends.bind
  refine (get_ends s n).imp ?_ (fun _ _ => id)
  rintro node _ ⟨rfl, -⟩
  apply Ends.bind
  refine (ask_ends _ _).imp ?_ (fun _ _ => id)
  rintro parentWorld _ ⟨rfl, -⟩
  cases parentWorld.inverse? with
  | none => exact Ends.throw rfl
  | some inverse => exact (update_ends _ n _).imp (fun _ _ h => ⟨_, h.2⟩) (fun _ _ => id)

/-! ## Moving, adding and removing nodes -/

/-- Takes a node off the children of its parent. -/
def unlist (s : Scene α) (n : NodeId) : Scene α :=
  match s.parent? n with
  | some p => s.dropChild p n
  | none => s

/-- Puts a node last under another one. -/
def relink (s : Scene α) (n p : NodeId) : Scene α :=
  ((s.unlist n).modifyNode n fun node => { node with parent := some p }).appendChild p n

/-- Takes nodes out of their slots. -/
def vacate (s : Scene α) (l : List NodeId) : Scene α := l.foldl (fun s m => s.setNode m none) s

/-- Takes a node and all below it out of a scene. -/
def prune (s : Scene α) (n : NodeId) : Scene α :=
  (s.unlist n).vacate ((s.unlist n).descendants n ++ [n])

omit [Scalar α] in
/-- Taking a node off the list of its parent neither adds nor removes one. -/
@[simp] lemma live_unlist (s : Scene α) (n m : NodeId) : (s.unlist n).Live m ↔ s.Live m := by
  unfold unlist
  split
  · exact live_modifyNode s _ m _
  · exact .rfl

/-- Putting a node last under another one once it is off the children of its parent. -/
lemma relink_ends {u : Scene α} {world : Matrix4 α} {Q : Unit → Scene α → Prop}
    {E : SceneFault → Scene α → Prop} (hu : s.unlist n = u) (hn : s.Live n) (hp : s.Live p)
    (h : Ends (setWorld n world) (s.relink n p) Q E) :
    Ends (do
        update n fun node => { node with parent := some p }
        update p fun node => { node with children := node.children ++ [n] }
        setWorld n world) u Q E := by
  subst hu
  apply Ends.bind
  refine (update_live _ ((live_unlist s n n).mpr hn)).imp ?_ (fun _ _ => id)
  rintro _ _ rfl
  apply Ends.bind
  refine (update_live _ (by simpa using hp)).imp ?_ (fun _ _ => id)
  rintro _ _ rfl
  exact h

/-- A node that may move hangs under its new parent, whether or not it then gets a frame. -/
lemma reparent_ends (s : Scene α) (n p : NodeId) :
    Ends (reparent n p) s
      (fun _ t => s.Live n ∧ s.Live p ∧ s.isAncestor n p = false ∧
        ∃ frame, t = (s.relink n p).setFrame n frame)
      (fun _ t => t = s ∨ s.Live n ∧ s.Live p ∧ s.isAncestor n p = false ∧ t = s.relink n p) := by
  unfold reparent
  apply Ends.bind
  refine (get_ends s p).imp ?_ (fun _ _ => .inl)
  rintro pnode _ ⟨rfl, ep⟩
  apply Ends.get
  split
  · exact Ends.bind (Ends.throw (.inl rfl))
  · next ha =>
    have ha := Bool.eq_false_iff.mpr ha
    apply Ends.bind
    refine (world_ends _ n).imp ?_ (fun _ _ => .inl)
    rintro world _ rfl
    apply Ends.bind
    refine (get_ends _ n).imp ?_ (fun _ _ => .inl)
    rintro node s ⟨rfl, e⟩
    have hn : s.Live n := ⟨node, e⟩
    have hp : s.Live p := ⟨pnode, ep⟩
    have placed : Ends (setWorld n world) (s.relink n p)
        (fun _ t => s.Live n ∧ s.Live p ∧ s.isAncestor n p = false ∧
          ∃ frame, t = (s.relink n p).setFrame n frame)
        (fun _ t => t = s ∨ s.Live n ∧ s.Live p ∧ s.isAncestor n p = false ∧ t = s.relink n p) := by
      refine (setWorld_ends (s.relink n p) n world).imp ?_ ?_
      · rintro _ _ ⟨frame, rfl⟩
        exact ⟨hn, hp, ha, frame, rfl⟩
      · rintro f _ rfl
        exact .inr ⟨hn, hp, ha, rfl⟩
    cases e' : node.parent with
    | none => exact relink_ends (by simp [unlist, parent?_eq e, e']) hn hp placed
    | some old =>
      apply Ends.bind
      refine (update_ends s old _).imp ?_ (fun _ _ => .inl)
      rintro _ _ ⟨-, rfl⟩
      exact relink_ends (by simp [unlist, parent?_eq e, e', dropChild]) hn hp placed

/-- A new node gets the next number. -/
lemma addNode_fst (s : Scene α) (name : String) (parent : Option NodeId) :
    (s.addNode name parent).1 = s.lastId + 1 := by
  unfold addNode
  cases parent with
  | none => rfl
  | some p =>
    dsimp only
    split <;> rfl

/-- A marker is added under its parent, whether or not it then gets a frame. -/
lemma addMarker_ends (s : Scene α) (world : Matrix4 α) (p : NodeId) :
    Ends (addMarker world p) s
      (fun id t => s.Live p ∧ id = s.lastId + 1 ∧
        ∃ frame, t = (s.addNode "link" (some p)).2.setFrame id frame)
      (fun _ t => t = s ∨ s.Live p ∧ t = (s.addNode "link" (some p)).2) := by
  unfold addMarker
  apply Ends.bind
  refine (get_ends s p).imp ?_ (fun _ _ => .inl)
  rintro node _ ⟨rfl, e⟩
  apply Ends.bind
  refine Ends.modifyGet ?_
  apply Ends.bind
  refine (setWorld_ends _ _ world).imp ?_ ?_
  · rintro _ t h
    exact Ends.pure ⟨⟨node, e⟩, addNode_fst _ _ _, h⟩
  · rintro _ _ rfl
    exact .inr ⟨⟨node, e⟩, rfl⟩

omit [Scalar α] in
/-- Removing a node that there is. -/
lemma remove_live {E : SceneFault → Scene α → Prop} (hs : s.WellFormed) (hn : s.Live n) :
    Ends (remove n) s (fun _ t => t = s.prune n) E := by
  obtain ⟨node, e⟩ := hn
  unfold remove
  apply Ends.bind
  refine Ends.of_ok (get_eq e) ?_
  cases e' : node.parent with
  | none =>
    refine Ends.modify ?_
    simp [prune, vacate, unlist, parent?_eq e, e']
  | some old =>
    apply Ends.bind
    refine (update_live _ (hs.live_parent ((parent?_eq e).trans e'))).imp ?_ (fun _ _ => id)
    rintro _ _ rfl
    refine Ends.modify ?_
    simp [prune, vacate, unlist, parent?_eq e, e', dropChild]

omit [Scalar α] in
/-- A node of a forest is removed with all below it if it is there. -/
lemma remove_ends (hs : s.WellFormed) (n : NodeId) :
    Ends (remove n) s (fun _ t => s.Live n ∧ t = s.prune n) (fun _ t => t = s) := by
  by_cases hn : s.Live n
  · exact (remove_live hs hn).imp (fun _ _ e => ⟨hn, e⟩) (fun _ _ => id)
  · unfold remove
    apply Ends.bind
    refine (get_ends s n).imp ?_ (fun _ _ => id)
    rintro node _ ⟨rfl, e⟩
    exact absurd ⟨node, e⟩ hn

end SceneGrammar.Scene
