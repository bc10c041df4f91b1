import SceneGrammar.Proofs.Scene.History
import SceneGrammar.Proofs.Scene.Preorder

/-!
# Copies

A copy of a node and all below it gets the next numbers, in the order in which a search visits what is
copied: the copy of a node has the number `spot` of it. `Copied` says how far the copying of a node has
come: the copies of the children that are done stand behind the scene, each with all below it, and the
copy of the node lists them. The copy of a child makes one step (`Copied.step`), so that in the end
`duplicate_copies` says what every node is.
-/

namespace SceneGrammar

/-- The copy of a node, with a parent and children of its own. -/
def Node.copy {α : Type} (node : Node α) (source : NodeId) (parent : Option NodeId)
    (children : List NodeId) : Node α :=
  { node with parent, children, source := some source }

namespace Scene

variable {α : Type} {b s t u v : Scene α} {n m c p first : NodeId} {parent : Option NodeId}
  {done rest : List NodeId} {node : Node α}

/-! ## Numbers of copies -/

/-- Where the copy of a node stands if a tree is copied to the numbers from `first` on. -/
def spot (s : Scene α) (n first m : NodeId) : NodeId := first + (s.tree n).idxOf m

@[simp] lemma spot_self (s : Scene α) (n first : NodeId) : s.spot n first n = first := by
  simp [spot, tree]

/-- The copies of a tree stand in the order of the tree, without a gap. -/
lemma WellFormed.map_spot (h : s.WellFormed) (n first : NodeId) :
    (s.tree n).map (s.spot n first) = List.range' first (s.tree n).length := by
  apply List.ext_getElem
  · simp
  · intro i hi _
    rw [List.length_map] at hi
    simp [spot, (h.nodup_tree n).idxOf_getElem i hi]

section
variable (h : s.WellFormed) (hc : s.children n = done ++ c :: rest)
include h hc

/-- What is below a node, split at one of its children. -/
lemma tree_split :
    s.tree n = n :: (done.flatMap s.tree ++ (s.tree c ++ rest.flatMap s.tree)) := by
  rw [tree, h.descendants_eq, hc, List.flatMap_append, List.flatMap_cons]

/-- What is below the first children of a node is copied next to the node. -/
lemma spot_done (first : NodeId) (hm : m ∈ done.flatMap s.tree) :
    first < s.spot n first m ∧ s.spot n first m ≤ first + (done.flatMap s.tree).length := by
  have nodup := h.nodup_tree n
  rw [tree_split h hc] at nodup
  have hne : n ≠ m := fun e =>
    (List.nodup_cons.mp nodup).1 (List.mem_append_left _ (e ▸ hm))
  have hlt := List.idxOf_lt_length_iff.mpr hm
  unfold spot
  rw [tree_split h hc, List.idxOf_cons_ne _ hne, List.idxOf_append_of_mem hm]
  lia

/-- What is below the next child is copied behind that, as if it were copied alone. -/
lemma spot_child (hm : m ∈ s.tree c) :
    s.spot c (first + 1 + (done.flatMap s.tree).length) m = s.spot n first m := by
  have nodup := h.nodup_tree n
  rw [tree_split h hc, List.nodup_cons] at nodup
  obtain ⟨root, nodup⟩ := nodup
  have hne : n ≠ m := by
    rintro rfl
    exact root (List.mem_append_right _ (List.mem_append_left _ hm))
  have hnotin : m ∉ done.flatMap s.tree := fun hd =>
    (List.nodup_append.mp nodup).2.2 m hd m (List.mem_append_left _ hm) rfl
  unfold spot
  rw [tree_split h hc, List.idxOf_cons_ne _ hne, List.idxOf_append_of_notMem hnotin,
    List.idxOf_append_of_mem hm]
  lia

end

/-! ## Copying -/

/-- A node and all below some of its children have been copied behind a scene. -/
structure Copied (b t u : Scene α) (n : NodeId) (parent : Option NodeId) (done : List NodeId) :
    Prop where
  lastId : u.lastId = t.lastId + 1 + (done.flatMap b.tree).length
  collections : u.collections = t.collections
  old : ∀ m ≤ t.lastId, u.node? m = t.node? m
  root : ∀ node, b.node? n = some node →
    u.node? (t.lastId + 1) = some (node.copy n parent (done.map (b.spot n (t.lastId + 1))))
  below : ∀ m ∈ done.flatMap b.tree, ∀ node, b.node? m = some node →
    u.node? (b.spot n (t.lastId + 1) m) =
      some (node.copy m (node.parent.map (b.spot n (t.lastId + 1)))
        (node.children.map (b.spot n (t.lastId + 1))))

/-- A node has been copied before its children are. -/
lemma copied_leaf (t : Scene α) (parent : Option NodeId) (e : b.node? n = some node) :
    Copied b t (t.pushNode (node.copy n parent [])) n parent [] where
  lastId := lastId_pushNode t _
  collections := rfl
  old m hm := by
    rw [node?_pushNode, if_neg (by lia)]
  root node' e' := by
    obtain rfl := Option.some.inj (e.symm.trans e')
    rw [node?_pushNode, if_pos rfl]
    rfl
  below m hm := absurd hm List.not_mem_nil

/-- The parent of what is below a node is the node or below it. -/
lemma WellFormed.parent_mem_tree (h : s.WellFormed) (hm : m ∈ s.descendants n)
    (e : s.parent? m = some p) : p ∈ s.tree n := by
  obtain ⟨c, hc, hu⟩ := h.mem_descendants_iff.mp hm
  obtain ⟨q, eq, hq⟩ := Relation.TransGen.head'_iff.mp (.tail' hu (h.named hc))
  obtain rfl := Option.some.inj (e.symm.trans eq)
  exact h.mem_tree_iff.mpr hq

/-- The child of a node of a tree is in the tree. -/
lemma WellFormed.child_mem_tree (h : s.WellFormed) (hm : m ∈ s.tree n) (hc : c ∈ s.children m) :
    c ∈ s.tree n :=
  h.mem_tree_iff.mpr (.head (h.named hc) (h.mem_tree_iff.mp hm))

/-- The next child has been copied with all below it and is listed under the copy of the node. -/
lemma Copied.step (hb : b.WellFormed) (hc : b.children n = done ++ c :: rest)
    (h : Copied b t u n parent done) (k : Copied b u v c (some (t.lastId + 1)) (b.children c)) :
    Copied b t (v.appendChild (t.lastId + 1) (u.lastId + 1)) n parent (done ++ [c]) := by
  have hlast := h.lastId
  have tree : b.tree c = c :: (b.children c).flatMap b.tree := congrArg _ (hb.descendants_eq c)
  have added : (done ++ [c]).flatMap b.tree = done.flatMap b.tree ++ b.tree c := by simp
  -- What is below `c` is copied to the same numbers, whether by itself or as a part of all below `n`.
  have same : ∀ x ∈ b.tree c, b.spot c (u.lastId + 1) x = b.spot n (t.lastId + 1) x := by
    intro x hx
    rw [← spot_child hb hc hx, hlast]
    congr 1
    lia
  have children : ∀ x ∈ b.tree c, ∀ node, b.node? x = some node →
      node.children.map (b.spot c (u.lastId + 1)) = node.children.map (b.spot n (t.lastId + 1)) := by
    intro x hx node e
    refine List.map_congr_left fun y hy => same y ?_
    exact hb.child_mem_tree hx (children_eq e ▸ hy)
  have other : ∀ {m}, m ≠ t.lastId + 1 →
      (v.appendChild (t.lastId + 1) (u.lastId + 1)).node? m = v.node? m := by
    intro m hm
    rw [appendChild, node?_modifyNode, if_neg (Ne.symm hm)]
  refine ⟨?lastId, ?collections, ?old, ?root, ?below⟩
  case lastId =>
    rw [appendChild, lastId_modifyNode, k.lastId, hlast, added, List.length_append, tree,
      List.length_cons]
    lia
  case collections =>
    exact (collections_modifyNode v _ _).trans (k.collections.trans h.collections)
  case old =>
    intro m hm
    rw [other (by lia), k.old m (by lia), h.old m hm]
  case root =>
    intro node e
    rw [appendChild, node?_modifyNode, if_pos rfl, k.old _ (by lia), h.root node e]
    have last : b.spot n (t.lastId + 1) c = u.lastId + 1 := by
      rw [← same c List.mem_cons_self, spot_self]
    simp [Node.copy, last]
  case below =>
    intro m hm node e
    rw [added, List.mem_append] at hm
    cases hm with
    | inl hm =>
      obtain ⟨hlt, hle⟩ := spot_done hb hc (t.lastId + 1) hm
      rw [other (by lia), k.old _ (by lia)]
      exact h.below m hm node e
    | inr hm =>
      rw [← same m hm, ← children m hm node e, other (by unfold spot; lia)]
      rw [tree, List.mem_cons] at hm
      cases hm with
      | inl hmc =>
        subst hmc
        have up : node.parent = some n :=
          (parent?_eq e).symm.trans (hb.named (hc ▸ by simp))
        rw [spot_self, k.root node e, ← children_eq e, up, Option.map_some, spot_self]
      | inr hm =>
        rw [k.below m hm node e]
        -- The parent of `m` is below `c` too, or it is `c`.
        have up : node.parent.map (b.spot c (u.lastId + 1)) =
            node.parent.map (b.spot n (t.lastId + 1)) := by
          refine Option.map_congr fun q hq => same q ?_
          exact hb.parent_mem_tree (hb.descendants_eq c ▸ hm) ((parent?_eq e).trans hq)
        rw [up]

/-- A node is copied with all below it, whatever was copied before. -/
lemma copyUnder_copied (hb : b.WellFormed) (bound : Nat) (source : NodeId) (parent : Option NodeId)
    (hl : b.Live source) (hw : b.weight source ≤ bound) (t : Scene α) (hle : b.lastId ≤ t.lastId)
    (hold : ∀ m ≤ b.lastId, t.node? m = b.node? m) :
    Ends (copyUnder bound source parent) t
      (fun root u => root = t.lastId + 1 ∧ Copied b t u source parent (b.children source))
      (fun _ _ => False) := by
  induction bound generalizing source parent t with
  | zero => exact absurd (weight_pos hl) (by lia)
  | succ bound ih =>
    obtain ⟨node, e⟩ := hl
    have et : t.node? source = some node := (hold source (le_lastId_of_node? e)).trans e
    unfold copyUnder
    apply Ends.bind
    refine Ends.of_ok (get_eq et) ?_
    apply Ends.bind
    refine Ends.modifyGet ?_
    apply Ends.bind
    rw [children_eq e]
    refine (Ends.forM_prefix (I := fun done u => Copied b t u source parent done)
      (copied_leaf t parent e) ?_).imp (fun _ u hu => Ends.pure ⟨rfl, hu⟩) (fun _ _ => id)
    intro done child rest hc u hu
    have hc : b.children source = done ++ child :: rest := (children_eq e).trans hc
    have hmem : child ∈ b.children source := hc ▸ by simp
    have hwc := hb.weight_child_lt hmem
    have hlast := hu.lastId
    apply Ends.bind
    refine (ih child (some (t.lastId + 1)) (hb.live_child hmem) (by lia) u (by lia)
      fun m hm => (hu.old m (by lia)).trans (hold m hm)).imp ?_ (fun _ _ => id)
    rintro _ v ⟨rfl, hv⟩
    have live : v.Live (t.lastId + 1) := by
      rw [live_iff, hv.old _ (by lia), hu.root node e]
      rfl
    exact (update_live _ live).imp (fun _ _ e => e ▸ hu.step hb hc hv) (fun _ _ => id)

/-! ## The copy of a node -/

/-- What the copy of each node is once a node has been copied with all below it. -/
lemma Copied.copies (hs : s.WellFormed) (hu : Copied s t u n (s.parent? n) (s.children n))
    (hm : s.Under m n) (e : s.node? m = some node) :
    u.node? (s.spot n (t.lastId + 1) m) = some (node.copy m
      (if m = n then node.parent else node.parent.map (s.spot n (t.lastId + 1)))
      (node.children.map (s.spot n (t.lastId + 1)))) := by
  rcases List.mem_cons.mp (hs.mem_tree_iff.mpr hm) with rfl | below
  · rw [spot_self, hu.root node e, if_pos rfl, parent?_eq e, children_eq e]
  · have hmn : m ≠ n := fun e => (List.nodup_cons.mp (hs.nodup_tree n)).1 (e ▸ below)
    rw [hu.below m (hs.descendants_eq n ▸ below) node e, if_neg hmn]

/-- A node has been copied with all below it to the next numbers; the first copy is beside the node, and
nothing else has changed. -/
structure Duplicated (s t : Scene α) (n : NodeId) : Prop extends Grown s t where
  number : t.lastId = s.lastId + s.weight n
  copies : ∀ m node, s.Under m n → s.node? m = some node →
    t.node? (s.spot n (s.lastId + 1) m) = some (node.copy m
      (if m = n then node.parent else node.parent.map (s.spot n (s.lastId + 1)))
      (node.children.map (s.spot n (s.lastId + 1))))
  beside : ∀ m ≤ s.lastId, t.node? m = if s.parent? n = some m then
      (s.node? m).map fun node => { node with children := node.children ++ [s.lastId + 1] }
    else s.node? m

/-- Copying a node that there is. -/
lemma WellFormed.duplicate_duplicated {E : SceneFault → Scene α → Prop} (hs : s.WellFormed)
    (hn : s.Live n) :
    Ends (duplicate n) s (fun root t => root = s.lastId + 1 ∧ Duplicated s t n) E := by
  have light : s.weight n ≤ s.lastId + 1 := Nat.le_succ_of_le (s.weight_le_lastId n)
  have ends := (copyUnder_ends hs (s.lastId + 1) n (s.parent? n) hn light s (Nat.le_refl _)
    fun _ _ => rfl).and (copyUnder_copied hs (s.lastId + 1) n (s.parent? n) hn light s
    (Nat.le_refl _) fun _ _ => rfl)
  refine (duplicate_attach hs hn (ends.imp (fun _ _ => id) (fun _ _ h => h.1))
    fun _ _ hu _ => hu.1.old_live).imp ?_ (fun _ _ => id)
  rintro _ _ ⟨u, ⟨grown, rfl, hu⟩, rfl⟩
  have parents : ∀ p, s.parent? n = some p → s.Live p := fun p e => hs.live_parent e
  refine ⟨rfl, ⟨(Extends.refl s).sprouts grown, grown.attach_wellFormed hs parents⟩, ?number,
    fun m node hm e => ?copies, fun m hm => ?beside⟩
  case number =>
    rw [lastId_attach, hu.lastId, ← hs.length_tree hn, tree, hs.descendants_eq, List.length_cons]
    lia
  case copies =>
    have new : s.parent? n ≠ some (s.spot n (s.lastId + 1) m) := by
      intro e
      have hle := (parents _ e).le_lastId
      unfold spot at hle
      lia
    rw [node?_attach, if_neg new, hu.copies hs hm e]
  case beside =>
    rw [node?_attach, hu.old m hm]

variable [Scalar α]

/-- Copies of a node and of all below it, the first of them beside the node, are where these are. -/
lemma WellFormed.worldOf_copy (hs : s.WellFormed) (ht : t.WellFormed) (hn : s.Live n)
    {copy : NodeId → NodeId}
    (copies : ∀ m node, s.Under m n → s.node? m = some node → t.node? (copy m) = some (node.copy m
      (if m = n then node.parent else node.parent.map copy) (node.children.map copy)))
    (places : ∀ m, s.Live m → t.worldOf m = s.worldOf m) (hm : s.Under m n) :
    t.worldOf (copy m) = s.worldOf m := by
  refine hs.worldOf_image ht (S := (s.Under · n)) (fun m hm => ?_) hm
  obtain ⟨node, e⟩ := live_of_under hn hm
  have copied := copies m node hm e
  by_cases hmn : m = n
  · rw [if_pos hmn] at copied
    rw [hs.worldOf_eq e, ht.worldOf_eq copied]
    unfold parentWorldOf Node.copy
    cases hp : node.parent with
    | none => exact .inl rfl
    | some p =>
      have up : s.parent? n = some p := hmn ▸ (parent?_eq e).trans hp
      exact .inl (congrArg _ (places p (hs.live_parent up)))
  · rw [if_neg hmn] at copied
    refine .inr ⟨node, _, e, copied, rfl, rfl, fun p hp => ?_⟩
    obtain ⟨q, up, hq⟩ := (WellFormed.under_head_iff.mp hm).resolve_left hmn
    obtain rfl := Option.some.inj (up.symm.trans ((parent?_eq e).trans hp))
    exact hq

/-- A copy of a node that there is stands where the node is and has all that is below it in the same order,
each node with the data of its original, while the other nodes stay as they are. -/
theorem duplicate_copies (hs : s.WellFormed) (hn : s.Live n) :
    let first := s.lastId + 1
    let copy := s.spot n first
    ∃ t, duplicate n s = .ok first t ∧
      t.WellFormed ∧
      t.lastId = s.lastId + s.weight n ∧
      -- Numbers are given in the order of a search, the first one to the copy of the node.
      (s.tree n).map copy = List.range' first (s.weight n) ∧
      -- Parents and children are copies too, but for the parent of the first copy.
      (∀ m node, s.Under m n → s.node? m = some node → t.node? (copy m) = some
        { node with
          parent := if m = n then node.parent else node.parent.map copy
          children := node.children.map copy
          source := some m }) ∧
      (∀ m, s.Under m n → t.worldOf (copy m) = s.worldOf m) ∧
      -- The parent of the node lists the copy last.
      (∀ m ≤ s.lastId, t.node? m = if s.parent? n = some m then
          (s.node? m).map fun node => { node with children := node.children ++ [first] }
        else s.node? m) ∧
      (∀ m, s.Live m → t.worldOf m = s.worldOf m) ∧
      t.collections = s.collections := by
  intro first copy
  obtain ⟨_, t, run, rfl, ht⟩ := (hs.duplicate_duplicated hn).exists_ok
  have places : ∀ m, s.Live m → t.worldOf m = s.worldOf m := by
    intro m hm
    obtain ⟨w, e⟩ := hs.worldOf_ok hm
    rw [e, ht.toExtends.worldOf_ok e]
  exact ⟨t, run, ht.wellFormed, ht.number, hs.length_tree hn ▸ hs.map_spot n first, ht.copies,
    fun m hm => hs.worldOf_copy ht.wellFormed hn ht.copies places hm, ht.beside, places,
    ht.collections⟩

/-- An avenue with an oak, which has boughs and leaves, and a bench. -/
def avenue : Scene Float :=
  empty.applyAll [.addNode "avenue" none, .addNode "oak" (some 1), .addNode "bough" (some 2),
    .addNode "leaf" (some 3), .addNode "bough" (some 2), .addNode "bench" (some 1)]

/-- The avenue is a forest. -/
lemma avenue_wellFormed : avenue.WellFormed := wellFormed_empty.applyAll _ (by decide)

/-- The copy of the oak stands behind the bench. -/
theorem duplicate_copies_avenue :
    avenue.WellFormed ∧ avenue.Live 2 ∧ avenue.tree 2 = [2, 3, 4, 5] ∧
      ∃ t, duplicate 2 avenue = .ok 7 t ∧ t.lastId = 10 ∧ t.children 1 = [2, 6, 7] ∧
        t.children 7 = [8, 10] ∧ t.worldOf 9 = avenue.worldOf 4 := by
  have hs := avenue_wellFormed
  have hn : avenue.Live 2 := by decide
  have order : avenue.tree 2 = [2, 3, 4, 5] := by decide
  have size : avenue.weight 2 = 4 := by rw [← hs.length_tree hn, order]; rfl
  obtain ⟨t, run, -, number, -, copies, places, old, -, -⟩ := duplicate_copies hs hn
  refine ⟨hs, hn, order, t, run, ?number, ?parent, ?root, ?leaf⟩
  case number =>
    rw [number, size]
    decide
  case parent =>
    obtain ⟨node, e⟩ : avenue.Live 1 := by decide
    have listed := old 1 (by decide)
    rw [if_pos (by decide), e, Option.map_some] at listed
    rw [children_eq listed, ← children_eq e]
    show avenue.children 1 ++ [avenue.lastId + 1] = [2, 6, 7]
    decide
  case root =>
    obtain ⟨node, e⟩ := hn
    have copied := copies 2 node .refl e
    rw [show avenue.spot 2 (avenue.lastId + 1) 2 = 7 by decide] at copied
    rw [children_eq copied, ← children_eq e]
    show (avenue.children 2).map (avenue.spot 2 (avenue.lastId + 1)) = [8, 10]
    decide
  case leaf =>
    have under : avenue.Under 4 2 := .head (b := 3) (by decide) (.single (by decide))
    have place := places 4 under
    rwa [show avenue.spot 2 (avenue.lastId + 1) 4 = 9 by decide] at place

end Scene

end SceneGrammar
