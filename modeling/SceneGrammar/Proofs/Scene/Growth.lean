import SceneGrammar.Proofs.Scene.Keep

/-!
# Growth

A scene `Extends` another one if what there was is still there with all its data, except that new nodes
stand behind the old children of nodes. New nodes have numbers that the first scene never gave. `Tends`
is what changes of new nodes do to a forest that has grown from another one; `Rooted` names the new
nodes that need not stand below other new nodes.
-/

namespace SceneGrammar.Scene

variable {α : Type} {b s t u : Scene α} {n m p root : NodeId} {S : NodeId → Prop}

/-- What there was is there, and what is new has a new number. -/
structure Extends (b s : Scene α) : Prop where
  lastId : b.lastId ≤ s.lastId
  collections : s.collections = b.collections
  old : ∀ n node, b.node? n = some node →
    ∃ added, s.node? n = some { node with children := node.children ++ added } ∧
      ∀ m ∈ added, b.lastId < m
  fresh : ∀ n, s.Live n → ¬ b.Live n → b.lastId < n

/-- A forest that has grown from a scene. -/
structure Grown (b s : Scene α) : Prop extends Extends b s where
  wellFormed : s.WellFormed

namespace Extends

lemma refl (b : Scene α) : Extends b b where
  lastId := Nat.le_refl _
  collections := rfl
  old n node e := ⟨[], by simp [e], by simp⟩
  fresh _ hs hb := absurd hs hb

/-- What is not new was there before. -/
lemma live_old (h : Extends b s) (hn : s.Live n) (hle : n ≤ b.lastId) : b.Live n := by
  by_contra hb
  exact Nat.not_lt_of_le hle (h.fresh n hn hb)

/-- No node is lost. -/
lemma live (h : Extends b s) (hn : b.Live n) : s.Live n := by
  obtain ⟨node, e⟩ := hn
  obtain ⟨added, e', -⟩ := h.old n node e
  exact ⟨_, e'⟩

/-- Old nodes have their old parents. -/
lemma parent?_old (h : Extends b s) (hn : b.Live n) : s.parent? n = b.parent? n := by
  obtain ⟨node, e⟩ := hn
  obtain ⟨added, e', -⟩ := h.old n node e
  rw [parent?_eq e, parent?_eq e']

/-- They have their old properties. -/
lemma property?_old (h : Extends b s) (hn : b.Live n) (key : String) :
    s.property? n key = b.property? n key := by
  obtain ⟨node, e⟩ := hn
  obtain ⟨added, e', -⟩ := h.old n node e
  unfold Scene.property?
  rw [e, e']
  rfl

lemma trans (h : Extends b s) (k : Extends s t) : Extends b t where
  lastId := Nat.le_trans h.lastId k.lastId
  collections := k.collections.trans h.collections
  old n node e := by
    obtain ⟨added, e', ha⟩ := h.old n node e
    obtain ⟨added', e'', ha'⟩ := k.old n _ e'
    refine ⟨added ++ added', by simpa using e'', fun m hm => ?_⟩
    cases List.mem_append.mp hm with
    | inl hm => exact ha m hm
    | inr hm => exact Nat.lt_of_le_of_lt h.lastId (ha' m hm)
  fresh n hn hb := by
    by_cases hs : s.Live n
    · exact h.fresh n hs hb
    · exact Nat.lt_of_le_of_lt h.lastId (k.fresh n hn hs)

/-- What is below a new node is new. -/
lemma fresh_child (h : Extends b s) (hb : b.WellFormed) (hn : b.lastId < n)
    (e : s.parent? m = some n) : b.lastId < m := by
  by_contra hle
  have hm := h.live_old (live_of_parent? e) (Nat.le_of_not_lt hle)
  rw [h.parent?_old hm] at e
  exact Nat.not_le_of_lt hn (hb.live_parent e).le_lastId

/-- What is below a new node is new. -/
lemma fresh_under (h : Extends b s) (hb : b.WellFormed) (hn : b.lastId < n) (hu : s.Under m n) :
    b.lastId < m := by
  induction hu using Relation.ReflTransGen.head_induction_on with
  | refl => exact hn
  | head e _ ih => exact h.fresh_child hb ih e

/-- Changing the children of nodes where they are new. -/
lemma modify (h : Extends b s) {f : Node α → Node α}
    (hf : n ≤ b.lastId → ∀ node added, b.node? n = some node → (∀ m ∈ added, b.lastId < m) →
      ∃ added', f { node with children := node.children ++ added } =
        { node with children := node.children ++ added' } ∧ ∀ m ∈ added', b.lastId < m) :
    Extends b (s.modifyNode n f) where
  lastId := by
    rw [lastId_modifyNode]
    exact h.lastId
  collections := (collections_modifyNode s n f).trans h.collections
  old m node e := by
    obtain ⟨added, e', ha⟩ := h.old m node e
    rw [node?_modifyNode]
    split
    · next hnm =>
      subst hnm
      obtain ⟨added', ef, ha'⟩ := hf (le_lastId_of_node? e) node added e ha
      exact ⟨added', by rw [e', Option.map_some, ef], ha'⟩
    · exact ⟨added, e', ha⟩
  fresh m hm := h.fresh m ((live_modifyNode s n m f).mp hm)

/-- A change of a new node. -/
lemma modify_fresh (h : Extends b s) (hn : b.lastId < n) (f : Node α → Node α) :
    Extends b (s.modifyNode n f) :=
  h.modify fun hle => absurd hn (Nat.not_lt_of_le hle)

/-- A new node behind the children of another one. -/
lemma appendChild (h : Extends b s) (hn : b.lastId < n) (p : NodeId) :
    Extends b (s.appendChild p n) := by
  refine h.modify fun _ node added _ ha => ⟨added ++ [n], by simp, ?_⟩
  intro m hm
  cases List.mem_append.mp hm with
  | inl hm => exact ha m hm
  | inr hm => exact List.mem_singleton.mp hm ▸ hn

/-- A new node taken off the children of another one. -/
lemma dropChild (h : Extends b s) (hb : b.WellFormed) (hn : b.lastId < n) (p : NodeId) :
    Extends b (s.dropChild p n) := by
  refine h.modify fun _ node added e ha => ⟨added.filter (· ≠ n), ?_, ?_⟩
  · have hold : node.children.filter (· ≠ n) = node.children := by
      -- The children that the node had are old, so that only one that was added is dropped.
      refine List.filter_eq_self.mpr fun m hm => ?_
      have hm := (hb.live_child (children_eq e ▸ hm)).le_lastId
      have hmn : m ≠ n := fun e => Nat.not_le_of_lt hn (e ▸ hm)
      simpa using hmn
    rw [List.filter_append, hold]
  · exact fun m hm => ha m (List.mem_filter.mp hm).1

/-- A scene has still grown when a new node is taken off a list. -/
lemma unlist (h : Extends b s) (hb : b.WellFormed) (hn : b.lastId < n) : Extends b (s.unlist n) := by
  unfold Scene.unlist
  split
  · exact h.dropChild hb hn _
  · exact h

/-- A scene has still grown when a new node is hung elsewhere. -/
lemma relink (h : Extends b s) (hb : b.WellFormed) (hn : b.lastId < n) (p : NodeId) :
    Extends b (s.relink n p) :=
  ((h.unlist hb hn).modify_fresh hn _).appendChild hn p

/-- New nodes. -/
lemma sprouts (h : Extends b s) {parent : Option NodeId} (k : Sprouts s t root parent) :
    Extends b (t.attach parent root) := by
  have hroot : b.lastId < root := k.root_eq ▸ Nat.lt_succ_of_le h.lastId
  have ht : Extends b t := by
    refine ⟨?_, k.collections.trans h.collections, ?_, ?_⟩
    · exact Nat.le_of_lt (Nat.lt_of_le_of_lt h.lastId k.lastId_lt)
    · intro n node e
      rw [k.old n (Nat.le_trans (le_lastId_of_node? e) h.lastId)]
      exact h.old n node e
    · intro n hn hbn
      by_cases hle : n ≤ s.lastId
      · obtain ⟨node, e⟩ := hn
        exact h.fresh n ⟨node, (k.old n hle).symm.trans e⟩ hbn
      · exact Nat.lt_of_le_of_lt h.lastId (Nat.lt_of_not_le hle)
  cases parent with
  | some p => exact ht.appendChild hroot p
  | none => exact ht

end Extends

/-! ## What tends a grown scene -/

/-- The new nodes are among some of them, or below new nodes. -/
def Rooted (b : Scene α) (S : NodeId → Prop) (s : Scene α) : Prop :=
  ∀ m, s.Live m → b.lastId < m → S m ∨ ∃ p, s.parent? m = some p ∧ b.lastId < p

lemma Rooted.refl (b : Scene α) (S : NodeId → Prop) : Rooted b S b := by
  intro m hm hlt
  exact absurd hm.le_lastId (Nat.not_le_of_lt hlt)

/-- New nodes are rooted in more nodes as well. -/
lemma Rooted.mono {S' : NodeId → Prop} (h : Rooted b S s) (hS : ∀ m, S m → S' m) : Rooted b S' s :=
  fun m hm hlt => (h m hm hlt).imp_left (hS m)

/-- A step from one forest to another one, both grown from the same scene: no node is lost, and new
nodes stay rooted. -/
structure Tends (b : Scene α) (S : NodeId → Prop) (s t : Scene α) : Prop where
  grown : Grown b t
  lastId : s.lastId ≤ t.lastId
  live : ∀ m, s.Live m → t.Live m
  rooted : Rooted b S s → Rooted b S t

lemma Grown.refl (h : b.WellFormed) : Grown b b := ⟨.refl b, h⟩

namespace Tends

lemma refl (h : Grown b s) : Tends b S s s := ⟨h, Nat.le_refl _, fun _ => id, id⟩

/-- A step that does nothing tends a forest. -/
lemma of_eq (h : Grown b s) (e : t = s) : Tends b S s t := by
  subst e
  exact .refl h

/-- Steps that tend a forest do so one after the other. -/
lemma trans (h : Tends b S s t) (k : Tends b S t u) : Tends b S s u :=
  ⟨k.grown, Nat.le_trans h.lastId k.lastId, fun m hm => k.live m (h.live m hm),
    fun hr => k.rooted (h.rooted hr)⟩

/-- A change of a new node that leaves its links alone. -/
lemma modify (h : Grown b s) {f : Node α → Node α} (hn : b.lastId < n)
    (hp : ∀ node, (f node).parent = node.parent)
    (hc : ∀ node, (f node).children = node.children) : Tends b S s (s.modifyNode n f) := by
  have hl := sameLinks_modifyNode hp hc s n
  refine ⟨⟨h.modify_fresh hn f, hl.wellFormed h.wellFormed⟩, ?_, ?_, ?_⟩
  · exact Nat.le_of_eq hl.lastId.symm
  · exact fun m hm => (hl.live m).mpr hm
  · intro hr m hm hlt
    rw [hl.parent?]
    exact hr m ((hl.live m).mp hm) hlt

/-- A new node, which need not stand below a new one, is put under another node. -/
lemma relink (h : Grown b s) (hb : b.WellFormed) (hn : b.lastId < n) (hS : S n) (hl : s.Live n)
    (hp : s.Live p) (ha : s.isAncestor n p = false) : Tends b S s (s.relink n p) := by
  have hu : ¬ s.Under p n := by
    rw [← h.wellFormed.isAncestor_iff, ha]
    exact Bool.false_ne_true
  refine ⟨⟨h.toExtends.relink hb hn p, h.wellFormed.relink hl hp hu⟩, ?lastId, ?live, ?rooted⟩
  case lastId =>
    exact Nat.le_of_eq (lastId_relink s n p).symm
  case live =>
    exact fun m hm => (live_relink s n p m).mpr hm
  case rooted =>
    intro hr m hm hlt
    rw [parent?_relink hl]
    by_cases hmn : m = n
    · exact .inl (hmn ▸ hS)
    · rw [if_neg hmn]
      exact hr m ((live_relink s n p m).mp hm) hlt

/-- A new tree, whose root need not stand below a new node or does. -/
lemma sprouts (h : Grown b s) {parent : Option NodeId} (k : Sprouts s t root parent)
    (hp : ∀ p, parent = some p → s.Live p)
    (hS : S root ∨ ∃ p, parent = some p ∧ b.lastId < p) :
    Tends b S s (t.attach parent root) := by
  have hroot := k.root_eq
  have hlast := h.lastId
  refine ⟨⟨h.toExtends.sprouts k, k.attach_wellFormed h.wellFormed hp⟩, ?lastId, ?live, ?rooted⟩
  case lastId =>
    rw [lastId_attach]
    exact Nat.le_of_lt k.lastId_lt
  case live =>
    exact fun m hm => k.attach_live.mpr (k.old_live hm)
  case rooted =>
    intro hr m hm hlt
    have hm := k.attach_live.mp hm
    -- In the new tree the root alone need not stand below a new node.
    rw [k.attach_parent?]
    by_cases hle : m ≤ s.lastId
    · obtain ⟨node, e⟩ := hm
      rw [k.old_parent? hle]
      exact hr m ⟨node, (k.old m hle).symm.trans e⟩ hlt
    · by_cases hmr : m = root
      · subst hmr
        rw [k.parent?]
        exact hS
      · obtain ⟨q, hq, -, e, -⟩ := k.above m (by lia) hm.le_lastId
        exact .inr ⟨q, e, by lia⟩

end Tends

/-! ## Requests for new nodes -/

namespace Grown
variable (h : Grown b s)
include h

/-- A request that changes a new node and leaves its links alone. -/
lemma update {f : Node α → Node α} (hn : b.lastId < n)
    (hp : ∀ node, (f node).parent = node.parent)
    (hc : ∀ node, (f node).children = node.children) :
    Ends (Scene.update n f) s (fun _ => Tends b S s) (fun _ => Tends b S s) := by
  refine (update_ends s n f).imp ?_ ?_
  · rintro _ _ ⟨-, rfl⟩
    exact .modify h hn hp hc
  · rintro _ _ rfl
    exact .refl h

variable [Scalar α]

/-- Asking for a place tends a forest. -/
lemma world (n : NodeId) : Ends (Scene.world n) s (fun _ => Tends b S s) (fun _ => Tends b S s) :=
  (world_ends s n).imp (fun _ _ e => .of_eq h e) (fun _ _ e => .of_eq h e)

/-- Placing a new node tends a forest. -/
lemma setWorld (hn : b.lastId < n) (world : Matrix4 α) :
    Ends (Scene.setWorld n world) s (fun _ => Tends b S s) (fun _ => Tends b S s) := by
  refine (setWorld_ends s n world).imp ?_ (fun _ _ e => .of_eq h e)
  rintro _ _ ⟨frame, rfl⟩
  exact .modify h hn (fun _ => rfl) (fun _ => rfl)

omit [Scalar α] in
/-- Marking a new node tends a forest. -/
lemma setProperty (hn : b.lastId < n) (key : String) (v : Literal) :
    Ends (Scene.setProperty n key v) s (fun _ => Tends b S s) (fun _ => Tends b S s) :=
  h.update hn (fun _ => rfl) (fun _ => rfl)

/-- Moving a new node to another collection tends a forest. -/
lemma moveAll (hb : b.WellFormed) (hn : b.lastId < n) (origin target : Option String) :
    Ends (Host.moveAll n origin target) s (fun _ => Tends b S s) (fun _ => Tends b S s) := by
  refine Host.moveAll_ends (N := (b.lastId < ·)) ?_ ?_ n s hn (.refl h)
  · intro n t hn ht
    have hm : Ends (Host.moveTo n origin target) t (fun _ => Tends b S t) (fun _ => Tends b S t) :=
      ht.grown.update hn (fun _ => rfl) (fun _ => rfl)
    exact hm.imp (fun _ _ => ht.trans) (fun _ _ => ht.trans)
  · intro n t hn ht c hc
    exact ht.grown.fresh_child hb hn (ht.grown.wellFormed.named hc)

/-- Hanging one of the roots elsewhere tends a forest. -/
lemma reparent (hb : b.WellFormed) (hn : b.lastId < n) (hS : S n) (p : NodeId) :
    Ends (Scene.reparent n p) s (fun _ => Tends b S s) (fun _ => Tends b S s) := by
  refine (reparent_ends s n p).imp ?_ ?_
  · rintro _ _ ⟨hl, hp, ha, frame, rfl⟩
    have hr : Tends b S s (s.relink n p) := .relink h hb hn hS hl hp ha
    exact hr.trans (.modify hr.grown hn (fun _ => rfl) (fun _ => rfl))
  · rintro _ _ (rfl | ⟨hl, hp, ha, rfl⟩)
    · exact .refl h
    · exact .relink h hb hn hS hl hp ha

omit [Scalar α] in
/-- Copies are new. -/
lemma duplicate (hS : S (s.lastId + 1)) (n : NodeId) :
    Ends (Scene.duplicate n) s (fun root t => root = s.lastId + 1 ∧ t.Live root ∧ Tends b S s t)
      (fun _ => Tends b S s) := by
  refine (duplicate_ends h.wellFormed n).imp ?_ (fun _ _ e => .of_eq h e)
  rintro root _ ⟨-, u, hu, rfl⟩
  refine ⟨hu.root_eq, hu.attach_live.mpr hu.live, ?_⟩
  exact .sprouts h hu (fun p e => h.wellFormed.live_parent e) (.inl (hu.root_eq ▸ hS))

/-- So are markers. -/
lemma addMarker (world : Matrix4 α) (hS : S (s.lastId + 1) ∨ b.lastId < p) :
    Ends (Scene.addMarker world p) s
      (fun root t => b.lastId < root ∧ t.Live root ∧ Tends b S s t) (fun _ => Tends b S s) := by
  have key : s.Live p → Tends b S s (s.addNode "link" (some p)).2 ∧
      (s.addNode "link" (some p)).2.Live (s.lastId + 1) := by
    intro hl
    obtain ⟨t, ht, e⟩ := addNode_sprouts s "link" (live_some hl)
    rw [e]
    exact ⟨.sprouts h ht (live_some hl) (hS.imp_right fun hp => ⟨p, rfl, hp⟩),
      ht.attach_live.mpr ht.live⟩
  refine (addMarker_ends s world p).imp ?_ ?_
  · rintro root _ ⟨hl, rfl, frame, rfl⟩
    obtain ⟨ht, hlive⟩ := key hl
    have hroot : b.lastId < s.lastId + 1 := Nat.lt_succ_of_le h.lastId
    refine ⟨hroot, (live_modifyNode _ _ _ _).mpr hlive, ?_⟩
    exact ht.trans (.modify ht.grown hroot (fun _ => rfl) (fun _ => rfl))
  · rintro _ _ (rfl | ⟨hl, rfl⟩)
    · exact .refl h
    · exact (key hl).1

end Grown

end SceneGrammar.Scene
