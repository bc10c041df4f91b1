import SceneGrammar.Proofs.Scene.Rearrange
import SceneGrammar.Proofs.Scene.Sprout

/-!
# What requests keep

`Host.Lasts P` says that `P` lasts through every request that a run makes once it has started, refused
or not, and `Host.Keeps P` that it lasts through events too. Being a forest is such a property of scenes
(`wellFormed_keeps`), and it lasts through removals as well.
-/

namespace SceneGrammar

/-- The requests that a run makes once it has started. -/
inductive Host.Offers {σ α : Type} [Host σ α] : {β : Type} → Edit σ β → Prop where
  | setProperty (n : NodeId) (key : String) (v : Literal) : Offers (Host.setProperty n key v)
  | world (n : NodeId) : Offers (Host.world n)
  | setWorld (n : NodeId) (world : Matrix4 α) : Offers (Host.setWorld n world)
  | duplicate (n : NodeId) : Offers (Host.duplicate n)
  | reparent (n parent : NodeId) : Offers (Host.reparent n parent)
  | moveTo (n : NodeId) (origin target : Option String) : Offers (Host.moveTo n origin target)
  | flip (n : NodeId) : Offers (Host.flip n)
  | bake (n : NodeId) : Offers (Host.bake n)
  | addMarker (world : Matrix4 α) (parent : NodeId) : Offers (Host.addMarker world parent)

/-- A property of hosts that lasts through requests, refused ones too. -/
structure Host.Lasts {σ α : Type} [Host σ α] (P : σ → Prop) : Prop where
  offer : ∀ {β} {act : Edit σ β}, Host.Offers act → ∀ s, P s → Ends act s (fun _ => P) (fun _ => P)

/-- A property of hosts that lasts through requests and events. -/
structure Host.Keeps {σ α : Type} [Host σ α] (P : σ → Prop) : Prop extends Host.Lasts P where
  observe : ∀ e s, P s → P (Host.observe e s)

section
variable {σ α : Type} [Host σ α] {P : σ → Prop} {N : NodeId → Prop} {origin target : Option String}

/-- What moving a single node keeps, moving all that is below it keeps, as long as the nodes that have
to be moved are below nodes that may be. -/
lemma Host.moveAllWithin_ends {E : SceneFault → σ → Prop}
    (hm : ∀ n s, N n → P s → Ends (Host.moveTo n origin target) s (fun _ => P) E)
    (hc : ∀ n s, N n → P s → ∀ c ∈ Host.children s n, N c) (bound : Nat) (n : NodeId) (s : σ)
    (hn : N n) (hs : P s) :
    Ends (Host.moveAllWithin bound n origin target) s (fun _ => P) E := by
  induction bound generalizing n s with
  | zero => exact Ends.pure hs
  | succ bound ih =>
    apply Ends.bind
    refine (hm n s hn hs).imp ?_ (fun _ _ => id)
    intro _ t ht
    apply Ends.get
    exact Ends.forM ht fun child h u hu => ih child u (hc n t hn ht child h) hu

/-- What a move to another collection keeps at each node is kept by the whole. -/
lemma Host.moveAll_ends {E : SceneFault → σ → Prop}
    (hm : ∀ n s, N n → P s → Ends (Host.moveTo n origin target) s (fun _ => P) E)
    (hc : ∀ n s, N n → P s → ∀ c ∈ Host.children s n, N c) (n : NodeId) (s : σ) (hn : N n)
    (hs : P s) : Ends (Host.moveAll n origin target) s (fun _ => P) E := by
  unfold Host.moveAll
  apply Ends.get
  exact Host.moveAllWithin_ends hm hc _ n s hn hs

/-- Moving all that is below a node is a sequence of requests. -/
lemma Host.Lasts.moveAll (h : Host.Lasts P) (n : NodeId) (origin target : Option String) (s : σ)
    (hs : P s) : Ends (Host.moveAll n origin target) s (fun _ => P) (fun _ => P) :=
  Host.moveAll_ends (N := fun _ => True) (fun n s _ => h.offer (.moveTo n origin target) s)
    (fun _ _ _ _ _ _ => trivial) n s trivial hs

end

namespace Scene

variable {α : Type} [Scalar α] {s : Scene α}

omit [Scalar α] in
/-- A change of a node that leaves its links alone keeps a forest. -/
lemma wellFormed_update {f : Node α → Node α} (hp : ∀ node, (f node).parent = node.parent)
    (hc : ∀ node, (f node).children = node.children) (hs : s.WellFormed) (n : NodeId) :
    Ends (update n f) s (fun _ => WellFormed) (fun _ => WellFormed) := by
  refine (update_ends s n f).imp ?_ ?_
  · rintro _ _ ⟨-, rfl⟩
    exact (sameLinks_modifyNode hp hc s n).wellFormed hs
  · rintro _ _ rfl
    exact hs

omit [Scalar α] in
/-- A forest stays one when a node gets another frame. -/
lemma WellFormed.setFrame (hs : s.WellFormed) (n : NodeId) (frame : Matrix4 α) :
    (s.setFrame n frame).WellFormed :=
  (sameLinks_setFrame s n frame).wellFormed hs

/-- A forest stays one when a node is added under one that is there. -/
lemma WellFormed.addNode (hs : s.WellFormed) (name : String) {parent : Option NodeId}
    (hp : ∀ p, parent = some p → s.Live p) : (s.addNode name parent).2.WellFormed := by
  obtain ⟨t, ht, e⟩ := addNode_sprouts s name hp
  rw [e]
  exact ht.attach_wellFormed hs hp

/-- Every request keeps a forest, refused or not. -/
theorem wellFormed_keeps : Host.Keeps (WellFormed : Scene α → Prop) where
  observe _ _ := id
  offer h s hs := by
    cases h with
    | setProperty n key v => exact wellFormed_update (by simp) (by simp) hs n
    | world n => exact (world_ends s n).imp (fun _ _ e => e ▸ hs) (fun _ _ e => e ▸ hs)
    | setWorld n world =>
      refine (setWorld_ends s n world).imp ?_ (fun _ _ e => e ▸ hs)
      rintro _ _ ⟨frame, rfl⟩
      exact hs.setFrame n frame
    | duplicate n =>
      refine (duplicate_ends hs n).imp ?_ (fun _ _ e => e ▸ hs)
      rintro root _ ⟨-, u, hu, rfl⟩
      exact hu.attach_wellFormed hs fun p e => hs.live_parent e
    | reparent n p =>
      have key : s.Live n → s.Live p → s.isAncestor n p = false → (s.relink n p).WellFormed := by
        intro hn hp ha
        refine hs.relink hn hp ?_
        rw [← hs.isAncestor_iff, ha]
        exact Bool.false_ne_true
      refine (reparent_ends s n p).imp ?_ ?_
      · rintro _ _ ⟨hn, hp, ha, frame, rfl⟩
        exact (key hn hp ha).setFrame n frame
      · rintro _ _ (rfl | ⟨hn, hp, ha, rfl⟩)
        · exact hs
        · exact key hn hp ha
    | moveTo n origin target => exact wellFormed_update (by simp) (by simp) hs n
    | flip n => exact wellFormed_update (by simp) (by simp) hs n
    | bake n => exact wellFormed_update (by simp) (by simp) hs n
    | addMarker world p =>
      refine (addMarker_ends s world p).imp ?_ ?_
      · rintro id _ ⟨hp, -, frame, rfl⟩
        exact (hs.addNode "link" (live_some hp)).setFrame id frame
      · rintro _ _ (rfl | ⟨hp, rfl⟩)
        · exact hs
        · exact hs.addNode "link" (live_some hp)

omit [Scalar α] in
/-- Removing a node keeps a forest. -/
theorem wellFormed_remove (hs : s.WellFormed) (n : NodeId) :
    Ends (remove n) s (fun _ => WellFormed) (fun _ => WellFormed) := by
  refine (remove_ends hs n).imp ?_ ?_
  · rintro _ _ ⟨-, rfl⟩
    exact hs.prune n
  · rintro _ _ rfl
    exact hs

/-! ## Building -/

omit [Scalar α] in
/-- The empty scene is a forest. -/
lemma wellFormed_empty : (empty : Scene α).WellFormed := by
  have dead : ∀ n, (empty : Scene α).node? n = none := by
    intro n
    cases n <;> rfl
  have parent : ∀ n, (empty : Scene α).parent? n = none := by simp [parent?, dead]
  have children : ∀ n, (empty : Scene α).children n = [] := by simp [children, dead]
  refine .of_ascending ?_ ?_ ?_ ?_
  · simp [parent]
  · simp [children]
  · simp [children]
  · simp [parent]

omit [Scalar α] in
/-- A forest stays one when a collection is added. -/
lemma WellFormed.addCollection (hs : s.WellFormed) (name : String) :
    (s.addCollection name).WellFormed := by
  unfold Scene.addCollection
  split
  · exact hs
  · exact ⟨hs.listed, hs.named, hs.nodup, hs.acyclic⟩

/-- A forest stays one when a template is added. -/
lemma WellFormed.addTemplate (hs : s.WellFormed) (collection name : String) :
    (s.addTemplate collection name).2.WellFormed := by
  have added : ((s.addCollection collection).addNode name none).2.WellFormed :=
    (hs.addCollection collection).addNode name (by simp)
  exact (sameLinks_modifyNode (by simp) (by simp) _ _).wellFormed added

/-- A template, and a root to place it under. -/
def orchard : Scene α := ((empty.addTemplate "trees" "oak").2.addNode "root" none).2

/-- The orchard is a forest. -/
lemma orchard_wellFormed : (orchard : Scene α).WellFormed :=
  (wellFormed_empty.addTemplate "trees" "oak").addNode "root" (by simp)

end Scene

end SceneGrammar
