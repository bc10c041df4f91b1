import SceneGrammar.Proofs.Scene.Likeness
import SceneGrammar.Proofs.Scene.Request

/-!
# Scenes of the same shape

Two scenes have the same shape if they differ only in where their nodes are, what these are called,
where they come from and how they are marked, and in properties that do not matter. A request that
neither of them refuses ends with the same answer and leaves scenes of the same shape: this is the
`shape` of scenes as a likeness (`shape_lasts`). Where the nodes are decides only whether a request is
refused.
-/

namespace SceneGrammar

variable {α β γ : Type} {keys : List String}

/-- Nodes that have the same relations and agree in the properties that matter. -/
structure Node.SameShape (keys : List String) (a b : Node α) : Prop where
  parent : b.parent = a.parent
  children : b.children = a.children
  container : b.container = a.container
  property : ∀ key ∈ keys, b.properties.get? key = a.properties.get? key

namespace Node.SameShape
variable {a b : Node α}

lemma refl (a : Node α) : a.SameShape keys a := ⟨rfl, rfl, rfl, fun _ _ => rfl⟩

/-- Nodes of the same shape have it still when both get a property. -/
lemma setProperty (h : a.SameShape keys b) (key : String) (v : Literal) :
    Node.SameShape keys { a with properties := a.properties.insert key v }
      { b with properties := b.properties.insert key v } where
  parent := h.parent
  children := h.children
  container := h.container
  property k hk := by
    rw [Bindings.get?_insert, Bindings.get?_insert, h.property k hk]

end Node.SameShape

namespace Scene

/-- Scenes with the same nodes but for what does not make up their shape. -/
structure SameShape (keys : List String) (s t : Scene α) : Prop where
  lastId : t.lastId = s.lastId
  collections : t.collections = s.collections
  node? : ∀ n, Option.Rel (Node.SameShape keys) (s.node? n) (t.node? n)

namespace SameShape
variable {s t : Scene α} {n m : NodeId}

lemma refl (s : Scene α) : s.SameShape keys s where
  lastId := rfl
  collections := rfl
  node? n := by
    generalize s.node? n = node
    cases node with
    | none => exact .none
    | some a => exact .some (.refl a)

/-- A node is in both scenes or in neither. -/
lemma node (h : s.SameShape keys t) (n : NodeId) :
    s.node? n = none ∧ t.node? n = none ∨
      ∃ a b, s.node? n = some a ∧ t.node? n = some b ∧ a.SameShape keys b := by
  have hn := h.node? n
  revert hn
  generalize s.node? n = node
  generalize t.node? n = node'
  rintro (hab | _)
  · exact .inr ⟨_, _, rfl, rfl, hab⟩
  · exact .inl ⟨rfl, rfl⟩

/-! ## What the shape decides -/

/-- What is read off the shape of a node is the same. -/
lemma read (h : s.SameShape keys t) {f : Node α → Option γ}
    (hf : ∀ a b, a.SameShape keys b → f b = f a) (n : NodeId) :
    (t.node? n).bind f = (s.node? n).bind f := by
  obtain ⟨e, e'⟩ | ⟨a, b, e, e', hab⟩ := h.node n
  · rw [e, e']
  · rw [e, e']
    exact hf a b hab

/-- Scenes of the same shape have the same parents. -/
lemma parent? (h : s.SameShape keys t) : t.parent? = s.parent? :=
  funext (h.read fun _ _ hab => hab.parent)

/-- Scenes of the same shape have their nodes in the same collections. -/
lemma container? (h : s.SameShape keys t) : t.container? = s.container? :=
  funext (h.read fun _ _ hab => hab.container)

/-- Scenes of the same shape agree in the properties that matter. -/
lemma property? (h : s.SameShape keys t) (n : NodeId) {key : String} (hk : key ∈ keys) :
    t.property? n key = s.property? n key :=
  h.read (fun _ _ hab => hab.property key hk) n

/-- Scenes of the same shape have the same children. -/
lemma children (h : s.SameShape keys t) : t.children = s.children := by
  funext n
  unfold Scene.children
  obtain ⟨e, e'⟩ | ⟨a, b, e, e', hab⟩ := h.node n
  · rw [e, e']
  · rw [e, e']
    exact hab.children

/-- Scenes of the same shape have the same nodes. -/
lemma ids (h : s.SameShape keys t) : t.ids = s.ids := by
  unfold Scene.ids
  rw [h.lastId]
  congr 1
  funext n
  obtain ⟨e, e'⟩ | ⟨a, b, e, e', -⟩ := h.node n <;> rw [e, e']
  rfl

/-- Scenes of the same shape have the same members of collections. -/
lemma topLevel? (h : s.SameShape keys t) : t.topLevel? = s.topLevel? := by
  funext collection
  unfold Scene.topLevel?
  rw [h.collections, h.ids]
  congr 3
  funext n
  obtain ⟨e, e'⟩ | ⟨a, b, e, e', hab⟩ := h.node n
  · rw [e, e']
  · simp only [e, e', hab.parent, hab.container]

/-- Scenes of the same shape have the same nodes below a node. -/
lemma descendants (h : s.SameShape keys t) (n : NodeId) : t.descendants n = s.descendants n := by
  unfold Scene.descendants
  rw [h.children, h.lastId]

/-- Scenes of the same shape have the same nodes above a node. -/
lemma isAncestor (h : s.SameShape keys t) (m n : NodeId) : t.isAncestor m n = s.isAncestor m n := by
  unfold Scene.isAncestor
  rw [h.parent?, h.lastId]

/-! ## Changes that keep the shape -/

/-- Scenes keep the same shape when like nodes are put under a number. -/
lemma setNode (h : s.SameShape keys t) (n : NodeId) {node node' : Option (Node α)}
    (hn : Option.Rel (Node.SameShape keys) node node') :
    (s.setNode n node).SameShape keys (t.setNode n node') where
  lastId := by rw [lastId_setNode, lastId_setNode, h.lastId]
  collections := by rw [collections_setNode, collections_setNode, h.collections]
  node? m := by
    rw [node?_setNode, node?_setNode, h.lastId]
    split
    · exact hn
    · exact h.node? m

/-- Scenes keep the same shape when a node is changed alike. -/
lemma modifyNode (h : s.SameShape keys t) (n : NodeId) {f g : Node α → Node α}
    (hf : ∀ a b, a.SameShape keys b → (f a).SameShape keys (g b)) :
    (s.modifyNode n f).SameShape keys (t.modifyNode n g) := by
  unfold Scene.modifyNode
  obtain ⟨e, e'⟩ | ⟨a, b, e, e', hab⟩ := h.node n
  · rw [e, e']
    exact h
  · rw [e, e']
    exact h.setNode n (.some (hf a b hab))

/-- Scenes keep the same shape when like nodes are added. -/
lemma pushNode (h : s.SameShape keys t) {a b : Node α} (hab : a.SameShape keys b) :
    (s.pushNode a).SameShape keys (t.pushNode b) where
  lastId := by rw [lastId_pushNode, lastId_pushNode, h.lastId]
  collections := h.collections
  node? m := by
    rw [node?_pushNode, node?_pushNode, h.lastId]
    split
    · exact .some hab
    · exact h.node? m

/-- Scenes keep the same shape when the same nodes are taken out. -/
lemma vacate (h : s.SameShape keys t) (l : List NodeId) : (s.vacate l).SameShape keys (t.vacate l) := by
  induction l generalizing s t with
  | nil => exact h
  | cons n l ih => exact ih (h.setNode n .none)

/-- A new node gets the same number in scenes of the same shape, and they keep it. -/
lemma addNode [Scalar α] (h : s.SameShape keys t) (name : String) (parent : Option NodeId) :
    (t.addNode name parent).1 = (s.addNode name parent).1 ∧
      (s.addNode name parent).2.SameShape keys (t.addNode name parent).2 := by
  refine ⟨by rw [addNode_fst, addNode_fst, h.lastId], ?_⟩
  have pushed := h.pushNode
    (a := { Node.new name with parent, container := parent.bind s.container? })
    (b := { Node.new name with parent, container := parent.bind t.container? })
    ⟨rfl, rfl, by rw [h.container?], fun _ _ => rfl⟩
  unfold Scene.addNode
  cases parent with
  | none => exact pushed
  | some p =>
    have live : (t.node? p).isSome = (s.node? p).isSome := by
      obtain ⟨e, e'⟩ | ⟨a, b, e, e', -⟩ := h.node p <;> rw [e, e']
      rfl
    dsimp only
    rw [live]
    split
    · rw [h.lastId]
      exact pushed.modifyNode p fun a b hab =>
        ⟨hab.parent, by rw [hab.children], hab.container, hab.property⟩
    · exact pushed

end SameShape

/-! ## Requests -/

/-- Scenes are alike if they have the same shape. Places do not matter, as long as nothing is refused. -/
def shape (keys : List String) : Likeness (Scene α) (Scene α) α where
  host := SameShape keys
  place _ _ := True
  excused _ := True
  faults e e' := e' = e

section
variable {s t : Scene α}

/-- Scenes of the same shape give like nodes. -/
lemma get_shape (h : s.SameShape keys t) (n : NodeId) :
    (shape keys).Pairs (Node.SameShape keys) (get n) (get n) s t := by
  unfold Likeness.Pairs Paired get
  obtain ⟨e, e'⟩ | ⟨a, b, e, e', hab⟩ := h.node n
  · rw [e, e']
    exact .inl trivial
  · rw [e, e']
    exact ⟨hab, h⟩

/-- Scenes of the same shape keep it when a node is updated alike. -/
lemma update_shape (h : s.SameShape keys t) (n : NodeId) {f g : Node α → Node α}
    (hf : ∀ a b, a.SameShape keys b → (f a).SameShape keys (g b)) :
    (shape keys).Pairs Eq (update n f) (update n g) s t :=
  .bind (get_shape h n) fun _ _ _ _ _ ht => .modify (SameShape.modifyNode ht n hf)

/-- Questions that are answered by places. -/
lemma ask_shape (h : s.SameShape keys t) (question question' : Scene α → Except SceneFault β) :
    (shape keys).Pairs (fun _ _ => True) (ask question) (ask question') s t := by
  unfold Likeness.Pairs Paired ask
  cases question s <;> cases question' t
  · exact .inl trivial
  · trivial
  · trivial
  · exact ⟨trivial, h⟩

/-- Scenes of the same shape keep it when a child is listed. -/
lemma appendChild_shape (h : s.SameShape keys t) (p n : NodeId) :
    (shape keys).Pairs Eq (update p fun node => { node with children := node.children ++ [n] })
      (update p fun node => { node with children := node.children ++ [n] }) s t :=
  update_shape h p fun _ _ hab => ⟨hab.parent, by rw [hab.children], hab.container, hab.property⟩

/-- Scenes of the same shape keep it when a child is struck off the list. -/
lemma dropChild_shape (h : s.SameShape keys t) (p n : NodeId) :
    (shape keys).Pairs Eq (update p fun node => { node with children := node.children.filter (· ≠ n) })
      (update p fun node => { node with children := node.children.filter (· ≠ n) }) s t :=
  update_shape h p fun _ _ hab => ⟨hab.parent, by rw [hab.children], hab.container, hab.property⟩

/-- Scenes of the same shape copy what is below a node alike. -/
lemma copyUnder_shape (bound : Nat) (n : NodeId) (parent : Option NodeId) (h : s.SameShape keys t) :
    (shape keys).Pairs Eq (copyUnder bound n parent) (copyUnder bound n parent) s t := by
  induction bound generalizing n parent s t with
  | zero => exact .throw _ h
  | succ bound ih =>
    unfold copyUnder
    refine .bind (get_shape h n) fun a b s t hab h => ?_
    have h : s.SameShape keys t := h
    have added : (s.pushNode { a with parent, children := [], source := some n }).SameShape keys
        (t.pushNode { b with parent, children := [], source := some n }) :=
      h.pushNode ⟨rfl, rfl, hab.container, hab.property⟩
    -- The copies get the same number, as equally many nodes have been made.
    refine .bind (V := Eq) (.modifyGet (by rw [h.lastId]) added) fun id _ s t e h => ?_
    subst e
    rw [hab.children]
    refine .bind (.forM h fun child _ s t h => ?_) fun _ _ _ _ _ h => .pure rfl h
    refine .bind (ih child (some id) h) fun copy _ s t e h => ?_
    subst e
    exact appendChild_shape h id copy

/-- Scenes of the same shape copy a node alike. -/
lemma duplicate_shape (h : s.SameShape keys t) (n : NodeId) :
    (shape keys).Pairs Eq (duplicate n) (duplicate n) s t := by
  unfold duplicate
  refine .bind (get_shape h n) fun a b s t hab h => .get ?_
  have h : s.SameShape keys t := h
  dsimp only
  rw [h.lastId, hab.parent]
  refine .bind (copyUnder_shape _ n a.parent h) fun copy _ s t e h => ?_
  subst e
  cases a.parent with
  | none => exact .pure rfl h
  | some p => exact .bind (appendChild_shape h p copy) fun _ _ _ _ _ h => .pure rfl h

/-- Scenes of the same shape remove a node alike. -/
lemma remove_shape (h : s.SameShape keys t) (n : NodeId) :
    (shape keys).Pairs Eq (remove n) (remove n) s t := by
  have gone : ∀ {s t : Scene α}, s.SameShape keys t → (shape keys).Pairs Eq
      (modify fun s => s.vacate (s.descendants n ++ [n]) : Edit (Scene α) Unit)
      (modify fun s => s.vacate (s.descendants n ++ [n])) s t := by
    intro s t h
    refine .modify ?_
    rw [h.descendants]
    exact h.vacate _
  unfold remove
  refine .bind (get_shape h n) fun a b s t hab h => ?_
  rw [hab.parent]
  cases a.parent with
  | none => exact gone h
  | some p => exact .bind (dropChild_shape h p n) fun _ _ _ _ _ h => gone h

variable [Scalar α]

/-- Scenes of the same shape keep it wherever a node is put in each. -/
lemma setWorld_shape (h : s.SameShape keys t) (n : NodeId) (w w' : Matrix4 α) :
    (shape keys).Pairs Eq (setWorld n w) (setWorld n w') s t := by
  unfold setWorld
  refine .bind (get_shape h n) fun a b s t _ h => ?_
  refine .bind (ask_shape h _ _) fun parentWorld parentWorld' s t _ h => ?_
  -- One parent may have an inverse and the other one none, which is then refused.
  cases e : parentWorld.inverse? with
  | none => exact .excused_left rfl trivial
  | some inverse =>
    cases e' : parentWorld'.inverse? with
    | none => exact .excused_right rfl trivial
    | some inverse' =>
      exact update_shape h n fun _ _ hab => ⟨hab.parent, hab.children, hab.container, hab.property⟩

/-- Scenes of the same shape move a node alike. -/
lemma reparent_shape (h : s.SameShape keys t) (n p : NodeId) :
    (shape keys).Pairs Eq (reparent n p) (reparent n p) s t := by
  have linked : ∀ {s t : Scene α} (w w' : Matrix4 α), s.SameShape keys t → (shape keys).Pairs Eq
      (do
        update n fun node => { node with parent := some p }
        update p fun node => { node with children := node.children ++ [n] }
        setWorld n w)
      (do
        update n fun node => { node with parent := some p }
        update p fun node => { node with children := node.children ++ [n] }
        setWorld n w') s t := by
    intro s t w w' h
    refine .bind (update_shape h n fun _ _ hab => ?_) fun _ _ s t _ h => ?_
    · exact ⟨rfl, hab.children, hab.container, hab.property⟩
    · exact .bind (appendChild_shape h p n) fun _ _ s t _ h => setWorld_shape h n w w'
  unfold reparent
  refine .bind (get_shape h p) fun _ _ s t _ h => .get ?_
  have h : s.SameShape keys t := h
  rw [h.isAncestor]
  split
  · exact .excused_left rfl trivial
  · refine .bind (ask_shape h _ _) fun w w' s t _ h => ?_
    refine .bind (get_shape h n) fun a b s t hab h => ?_
    dsimp only
    rw [hab.parent]
    cases a.parent with
    | none => exact linked w w' h
    | some old => exact .bind (dropChild_shape h old n) fun _ _ _ _ _ h => linked w w' h

/-- Scenes of the same shape get a marker alike, wherever it is put in each. -/
lemma addMarker_shape (h : s.SameShape keys t) (w w' : Matrix4 α) (p : NodeId) :
    (shape keys).Pairs Eq (addMarker w p) (addMarker w' p) s t := by
  unfold addMarker
  refine .bind (get_shape h p) fun _ _ s t _ h => ?_
  obtain ⟨e, added⟩ := SameShape.addNode h "link" (some p)
  refine .bind (V := Eq) (.modifyGet e.symm added) fun id _ s t e h => ?_
  subst e
  exact .bind (setWorld_shape h id w w') fun _ _ _ _ _ h => .pure rfl h

/-- Scenes of the same shape answer alike and keep the same shape. -/
theorem shape_lasts (keys : List String) : (shape keys : Likeness (Scene α) (Scene α) α).Lasts keys where
  combine _ _ _ _ _ _ _ := trivial
  size h := h.lastId
  parent? h := h.parent?
  children h := h.children
  property? h n _ hk := h.property? n hk
  container? h := h.container?
  topLevel? h := h.topLevel?
  observe h _ := h
  setProperty n key v h := update_shape h n fun _ _ hab => hab.setProperty key v
  world _ h := ask_shape h _ _
  setWorld _ h _ := setWorld_shape h _ _ _
  duplicate n h := duplicate_shape h n
  reparent n p h := reparent_shape h n p
  moveTo n _ _ h := update_shape h n fun _ _ hab =>
    ⟨hab.parent, hab.children, rfl, hab.property⟩
  flip n h := update_shape h n fun _ _ hab => ⟨hab.parent, hab.children, hab.container, hab.property⟩
  bake n h := update_shape h n fun _ _ hab => ⟨hab.parent, hab.children, hab.container, hab.property⟩
  addMarker p h _ := addMarker_shape h _ _ p
  remove n h := remove_shape h n

end

end Scene

end SceneGrammar
