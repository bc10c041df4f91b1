import SceneGrammar.Proofs.Scene.Request

/-!
# New nodes

Nodes are added as trees of their own: a marker is a tree of one node, a copy has the shape of what it
is a copy of. `Sprouts s t root parent` says that the nodes of `t` that `s` does not have are such a
tree, whose root claims a parent that does not list it yet. Once it does, the scene is well-formed
again.
-/

namespace SceneGrammar.Scene

variable {α : Type} {s t u : Scene α} {n m p root c : NodeId} {parent : Option NodeId}

/-- The new nodes form a tree, which nothing else leads to. -/
structure Sprouts (s t : Scene α) (root : NodeId) (parent : Option NodeId) : Prop where
  root_eq : root = s.lastId + 1
  live : t.Live root
  collections : t.collections = s.collections
  old : ∀ m ≤ s.lastId, t.node? m = s.node? m
  parent? : t.parent? root = parent
  above : ∀ m, root < m → m ≤ t.lastId →
    ∃ q, root ≤ q ∧ q < m ∧ t.parent? m = some q ∧ m ∈ t.children q
  below : ∀ m c, root ≤ m → c ∈ t.children m → root < c ∧ t.parent? c = some m
  nodup : ∀ m, root ≤ m → (t.children m).Nodup

/-- Lists a node under its parent, if it has one. -/
def attach (s : Scene α) (parent : Option NodeId) (n : NodeId) : Scene α :=
  match parent with
  | some p => s.appendChild p n
  | none => s

@[simp] lemma lastId_attach (s : Scene α) (parent : Option NodeId) (n : NodeId) :
    (s.attach parent n).lastId = s.lastId := by
  unfold attach
  split
  · exact lastId_modifyNode s _ _
  · rfl

/-- The nodes after one was listed under its parent. -/
lemma node?_attach (s : Scene α) (parent : Option NodeId) (n m : NodeId) :
    (s.attach parent n).node? m = if parent = some m then
      (s.node? m).map fun node => { node with children := node.children ++ [n] }
    else s.node? m := by
  cases parent with
  | none => rfl
  | some p => simp only [attach, appendChild, node?_modifyNode, Option.some.injEq]

/-- A node without children is a tree. -/
lemma sprouts_leaf (s : Scene α) (node : Node α) (h : node.children = []) :
    Sprouts s (s.pushNode node) (s.lastId + 1) node.parent where
  root_eq := rfl
  live := live_pushNode.mpr (.inl rfl)
  collections := rfl
  old m hm := by
    rw [node?_pushNode, if_neg (by lia)]
  parent? := by
    rw [parent?_pushNode, if_pos rfl]
  above m hm hl := by
    rw [lastId_pushNode] at hl
    lia
  below m c hm hc := by
    have hl := (live_of_mem_children hc).le_lastId
    rw [lastId_pushNode] at hl
    obtain rfl : m = s.lastId + 1 := by lia
    rw [children_pushNode, if_pos rfl, h] at hc
    cases hc
  nodup m hm := by
    rw [children_pushNode]
    split
    · rw [h]
      exact .nil
    · rw [children_eq_nil fun hl => by have := hl.le_lastId; lia]
      exact .nil

namespace Sprouts

/-- A scene with new nodes has given more numbers. -/
lemma lastId_lt (h : Sprouts s t root parent) : s.lastId < t.lastId := by
  have hr := h.root_eq
  have hl := h.live.le_lastId
  lia

/-- The old nodes keep their parents. -/
lemma old_parent? (h : Sprouts s t root parent) (hm : m ≤ s.lastId) :
    t.parent? m = s.parent? m := by
  unfold Scene.parent?
  rw [h.old m hm]

/-- The old nodes keep their children. -/
lemma old_children (h : Sprouts s t root parent) (hm : m ≤ s.lastId) :
    t.children m = s.children m := by
  unfold Scene.children
  rw [h.old m hm]

/-- The old nodes are still there. -/
lemma old_live (h : Sprouts s t root parent) (hm : s.Live m) : t.Live m := by
  obtain ⟨node, e⟩ := hm
  exact ⟨node, (h.old m (le_lastId_of_node? e)).trans e⟩

/-- A tree that is listed under the root of another one is part of it. -/
lemma graft (h : Sprouts s t root parent) (k : Sprouts t u c (some root)) :
    Sprouts s (u.appendChild root c) root parent := by
  have hroot := h.root_eq
  have hc := k.root_eq
  have hrl := h.live.le_lastId
  have hlast : (u.appendChild root c).lastId = u.lastId := lastId_modifyNode u root _
  have hlive : u.Live root := k.old_live h.live
  have hchildren := children_appendChild hlive c
  -- Up to `t.lastId` new nodes are those of the first tree, from `c` on those of the other one.
  refine ⟨hroot, ?live, ?collections, ?old, ?parent, ?above, ?below, ?nodup⟩
  case live =>
    exact (live_appendChild u root c root).mpr hlive
  case collections =>
    exact (collections_modifyNode u root _).trans (k.collections.trans h.collections)
  case old =>
    intro m hm
    unfold appendChild
    rw [node?_modifyNode, if_neg (by lia), k.old m (by lia), h.old m hm]
  case parent =>
    rw [parent?_appendChild, k.old_parent? hrl, h.parent?]
  case above =>
    intro m hm hl
    rw [hlast] at hl
    rw [parent?_appendChild]
    by_cases hmt : m ≤ t.lastId
    · obtain ⟨q, hq, hqm, e, hmem⟩ := h.above m hm hmt
      refine ⟨q, hq, hqm, (k.old_parent? hmt).trans e, ?_⟩
      rw [hchildren, k.old_children (by lia)]
      exact List.mem_append_left _ hmem
    · by_cases hmc : m = c
      · subst hmc
        refine ⟨root, Nat.le_refl _, hm, k.parent?, ?_⟩
        rw [hchildren, if_pos rfl]
        exact List.mem_append_right _ List.mem_cons_self
      · obtain ⟨q, hq, hqm, e, hmem⟩ := k.above m (by lia) hl
        refine ⟨q, by lia, hqm, e, ?_⟩
        rw [hchildren]
        exact List.mem_append_left _ hmem
  case below =>
    intro m x hm hx
    rw [parent?_appendChild]
    rw [hchildren, List.mem_append] at hx
    cases hx with
    | inl hx =>
      by_cases hmt : m ≤ t.lastId
      · rw [k.old_children hmt] at hx
        obtain ⟨hlt, e⟩ := h.below m x hm hx
        exact ⟨hlt, (k.old_parent? (live_of_parent? e).le_lastId).trans e⟩
      · obtain ⟨hlt, e⟩ := k.below m x (by lia) hx
        exact ⟨by lia, e⟩
    | inr hx =>
      split at hx
      · next e =>
        obtain rfl := List.mem_singleton.mp hx
        exact ⟨by lia, e ▸ k.parent?⟩
      · cases hx
  case nodup =>
    intro m hm
    rw [hchildren]
    by_cases hmt : m ≤ t.lastId
    · rw [k.old_children hmt]
      refine nodup_listed (h.nodup m hm) (fun hx => ?_) _
      have hcl := (live_of_parent? (h.below m c hm hx).2).le_lastId
      lia
    · rw [if_neg (by lia), List.append_nil]
      exact k.nodup m (by lia)

/-! ## Listing the new tree -/

section
variable (h : Sprouts s t root parent)
include h

/-- Listing the new nodes adds none. -/
lemma attach_live : (t.attach parent root).Live m ↔ t.Live m := by
  cases parent with
  | some p => exact live_appendChild t p root m
  | none => exact .rfl

/-- Listing the new nodes changes no parent. -/
lemma attach_parent? : (t.attach parent root).parent? m = t.parent? m := by
  cases parent with
  | some p => exact parent?_appendChild t p root m
  | none => rfl

/-- The first of the new nodes is listed last under its parent. -/
lemma attach_children (hp : ∀ p, parent = some p → s.Live p) :
    (t.attach parent root).children m = t.children m ++ if parent = some m then [root] else [] := by
  cases parent with
  | some p =>
    have hl := h.old_live (hp p rfl)
    simp only [attach, children_appendChild hl, Option.some.injEq, eq_comm]
  | none => simp [attach]

/-- A parent of a new node stands before it. -/
lemma parent_lt (hp : ∀ p, parent = some p → s.Live p) (hm : root ≤ m) (e : t.parent? m = some q) :
    q < m := by
  have hroot := h.root_eq
  by_cases hmr : m = root
  · subst hmr
    have hq := (hp q (h.parent?.symm.trans e)).le_lastId
    lia
  · obtain ⟨q', -, hlt, e', -⟩ := h.above m (by lia) (live_of_parent? e).le_lastId
    obtain rfl := Option.some.inj (e'.symm.trans e)
    exact hlt

/-- New nodes are not below themselves, and old ones neither. -/
lemma acyclic (hs : s.WellFormed) (hp : ∀ p, parent = some p → s.Live p) (n : NodeId) :
    ¬ Relation.TransGen t.ParentOf n n := by
  have hroot := h.root_eq
  intro hn
  -- From an old node parents lead to old nodes, along old links. From a new node they lead to smaller
  -- numbers, or to an old node, which has a smaller one as well.
  by_cases hle : n ≤ s.lastId
  · have key : ∀ m, Relation.TransGen t.ParentOf n m →
        m ≤ s.lastId ∧ Relation.TransGen s.ParentOf n m := by
      intro m hm
      induction hm with
      | single e =>
        have e : s.ParentOf n _ := (h.old_parent? hle).symm.trans e
        exact ⟨(hs.live_parent e).le_lastId, .single e⟩
      | tail _ e ih =>
        have e : s.ParentOf _ _ := (h.old_parent? ih.1).symm.trans e
        exact ⟨(hs.live_parent e).le_lastId, ih.2.tail e⟩
    exact hs.acyclic n (key n hn).2
  · have key : ∀ m, Relation.TransGen t.ParentOf n m → m < n := by
      intro m hm
      induction hm with
      | single e => exact h.parent_lt hp (by lia) e
      | @tail b c _ e ih =>
        by_cases hb : b ≤ s.lastId
        · have e : s.ParentOf b c := (h.old_parent? hb).symm.trans e
          have hc := (hs.live_parent e).le_lastId
          lia
        · have hc := h.parent_lt hp (by lia) e
          lia
    exact Nat.lt_irrefl n (key n hn)

/-- A new tree makes a forest larger. -/
theorem attach_wellFormed (hs : s.WellFormed) (hp : ∀ p, parent = some p → s.Live p) :
    (t.attach parent root).WellFormed := by
  have hroot := h.root_eq
  have hpar : (t.attach parent root).ParentOf = t.ParentOf := by
    funext m q
    rw [ParentOf, h.attach_parent?]
  refine ⟨?listed, ?named, ?nodup, hpar ▸ h.acyclic hs hp⟩
  case listed =>
    intro m q e
    rw [h.attach_parent?] at e
    rw [h.attach_children hp, List.mem_append]
    by_cases hm : m ≤ s.lastId
    · have e : s.parent? m = some q := (h.old_parent? hm).symm.trans e
      rw [h.old_children (hs.live_parent e).le_lastId]
      exact .inl (hs.listed e)
    · by_cases hmr : m = root
      · subst hmr
        rw [if_pos (h.parent?.symm.trans e)]
        exact .inr List.mem_cons_self
      · obtain ⟨q', -, -, e', hmem⟩ := h.above m (by lia) (live_of_parent? e).le_lastId
        obtain rfl := Option.some.inj (e'.symm.trans e)
        exact .inl hmem
  case named =>
    intro m q hm
    rw [h.attach_parent?]
    rw [h.attach_children hp, List.mem_append] at hm
    cases hm with
    | inl hm =>
      by_cases hq : q ≤ s.lastId
      · rw [h.old_children hq] at hm
        have e := hs.named hm
        exact (h.old_parent? (live_of_parent? e).le_lastId).trans e
      · exact (h.below q m (by lia) hm).2
    | inr hm =>
      split at hm
      · next e =>
        obtain rfl := List.mem_singleton.mp hm
        exact h.parent?.trans e
      · cases hm
  case nodup =>
    intro q
    rw [h.attach_children hp]
    by_cases hq : q ≤ s.lastId
    · rw [h.old_children hq]
      refine nodup_listed (hs.nodup q) (fun hx => ?_) _
      have hl := (hs.live_child hx).le_lastId
      lia
    · rw [if_neg fun e => by have := (hp q e).le_lastId; lia, List.append_nil]
      exact h.nodup q (by lia)

end

end Sprouts

/-! ## Copies and markers -/

/-- Adding a node makes a tree of one node and lists it. -/
lemma addNode_sprouts [Scalar α] (s : Scene α) (name : String)
    (hp : ∀ p, parent = some p → s.Live p) :
    ∃ t, Sprouts s t (s.lastId + 1) parent ∧
      (s.addNode name parent).2 = t.attach parent (s.lastId + 1) := by
  have h : Sprouts s (s.pushNode _) _ parent := sprouts_leaf s
    { Node.new name with parent := parent, container := parent.bind s.container? } rfl
  refine ⟨_, h, ?_⟩
  cases parent with
  | some p => simp [addNode, attach, live_iff.mp (hp p rfl)]
  | none => rfl

/-- A node that is there, as the parent of another one. -/
lemma live_some (h : s.Live p) : ∀ q, some p = some q → s.Live q :=
  fun _ e => Option.some.inj e ▸ h

variable {b : Scene α}

/-- A copy that is listed under a new node becomes a part of its tree. -/
lemma Sprouts.list (h : Sprouts s t root parent) {act : Edit (Scene α) NodeId}
    (ha : Ends act t (fun c u => Sprouts t u c (some root)) (fun _ _ => False)) :
    Ends (do
      let copy ← act
      update root fun node => { node with children := node.children ++ [copy] }) t
      (fun _ u => Sprouts s u root parent) (fun _ _ => False) := by
  apply Ends.bind
  refine ha.imp ?_ (fun _ _ => id)
  intro c u hu
  exact (update_live _ (hu.old_live h.live)).imp (fun _ _ e => e ▸ h.graft hu) (fun _ _ => id)

/-- A copy under a parent is a tree of its own, whatever was copied before. -/
lemma copyUnder_ends (hb : b.WellFormed) (bound : Nat) (source : NodeId) (parent : Option NodeId)
    (hl : b.Live source) (hw : b.weight source ≤ bound) (t : Scene α) (hle : b.lastId ≤ t.lastId)
    (hold : ∀ m ≤ b.lastId, t.node? m = b.node? m) :
    Ends (copyUnder bound source parent) t (fun root u => Sprouts t u root parent)
      (fun _ _ => False) := by
  induction bound generalizing source parent t with
  | zero => exact absurd (weight_pos hl) (by lia)
  | succ bound ih =>
    obtain ⟨node, e⟩ := hl
    have et : t.node? source = some node := (hold source (le_lastId_of_node? e)).trans e
    unfold copyUnder
    apply Ends.bind
    refine Ends.of_ok (get_eq et) ?_
    apply Ends.bind
    refine Ends.modifyGet ?_
    have hleaf := sprouts_leaf t { node with parent, children := [], source := some source } rfl
    apply Ends.bind
    refine Ends.imp (Ends.forM (I := fun u => Sprouts t u (t.lastId + 1) parent) hleaf ?_) ?_
      (fun _ _ => id)
    · intro child hc u hu
      have hc : child ∈ b.children source := by rwa [children_eq e]
      have hwc := hb.weight_child_lt hc
      refine hu.list (ih child (some (t.lastId + 1)) (hb.live_child hc) (by lia) u ?_ ?_)
      · exact Nat.le_of_lt (Nat.lt_of_le_of_lt hle hu.lastId_lt)
      · intro m hm
        exact (hu.old m (Nat.le_trans hm hle)).trans (hold m hm)
    · intro _ u hu
      exact Ends.pure hu

/-- A copy is listed last under the parent of what it is a copy of. -/
lemma duplicate_attach {Q : NodeId → Scene α → Prop} {E : SceneFault → Scene α → Prop}
    (hs : s.WellFormed) (hn : s.Live n)
    (copied : Ends (copyUnder (s.lastId + 1) n (s.parent? n)) s Q (fun _ _ => False))
    (kept : ∀ root u, Q root u → ∀ m, s.Live m → u.Live m) :
    Ends (duplicate n) s (fun root t => ∃ u, Q root u ∧ t = u.attach (s.parent? n) root) E := by
  obtain ⟨node, e⟩ := hn
  have hp := parent?_eq e
  rw [hp] at copied ⊢
  unfold duplicate
  apply Ends.bind
  refine Ends.of_ok (get_eq e) ?_
  apply Ends.get
  apply Ends.bind
  refine copied.imp (fun root u hu => ?_) (fun _ _ => False.elim)
  cases e' : node.parent with
  | none => exact Ends.pure ⟨u, hu, rfl⟩
  | some p =>
    have hlive : u.Live p := kept root u hu p (hs.live_parent (hp.trans e'))
    apply Ends.bind
    refine (update_live _ hlive).imp ?_ (fun _ _ => False.elim)
    rintro _ _ rfl
    exact Ends.pure ⟨u, hu, rfl⟩

/-- Copying a node that there is makes a tree under its parent. -/
lemma duplicate_live {E : SceneFault → Scene α → Prop} (hs : s.WellFormed) (hn : s.Live n) :
    Ends (duplicate n) s
      (fun root t => ∃ u, Sprouts s u root (s.parent? n) ∧ t = u.attach (s.parent? n) root) E :=
  duplicate_attach hs hn
    (copyUnder_ends hs (s.lastId + 1) n _ hn (Nat.le_succ_of_le (s.weight_le_lastId n)) s
      (Nat.le_refl _) fun _ _ => rfl)
    fun _ _ hu _ => hu.old_live

/-- A copy of a node sprouts and is listed, or there is no such node and nothing changes. -/
lemma duplicate_ends (hs : s.WellFormed) (n : NodeId) :
    Ends (duplicate n) s
      (fun root t => s.Live n ∧ ∃ u, Sprouts s u root (s.parent? n) ∧
        t = u.attach (s.parent? n) root) (fun _ t => t = s) := by
  by_cases hn : s.Live n
  · exact (duplicate_live hs hn).imp (fun _ _ h => ⟨hn, h⟩) (fun _ _ => id)
  · unfold duplicate
    apply Ends.bind
    refine (get_ends s n).imp ?_ (fun _ _ => id)
    rintro node _ ⟨rfl, e⟩
    exact absurd ⟨node, e⟩ hn

end SceneGrammar.Scene
