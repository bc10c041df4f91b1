import SceneGrammar.Proofs.Scene.Request
import SceneGrammar.Proofs.Scene.Walks

/-!
# Moving and removing nodes

What a scene looks like after a node was put under another one (`relink`) or was removed with all below
it (`prune`), and that it is a forest still.
-/

namespace SceneGrammar.Scene

variable {α : Type} {s : Scene α} {n m p q : NodeId}

/-! ## Taking a node off its parent -/

@[simp] lemma parent?_unlist (s : Scene α) (n m : NodeId) : (s.unlist n).parent? m = s.parent? m := by
  unfold unlist
  split
  · exact parent?_dropChild s _ n m
  · rfl

@[simp] lemma lastId_unlist (s : Scene α) (n : NodeId) : (s.unlist n).lastId = s.lastId := by
  unfold unlist
  split
  · exact lastId_modifyNode s _ _
  · rfl

@[simp] lemma collections_unlist (s : Scene α) (n : NodeId) :
    (s.unlist n).collections = s.collections := by
  unfold unlist
  split
  · exact collections_modifyNode s _ _
  · rfl

/-- No other node lists it, so only its parent changes. -/
lemma WellFormed.node?_unlist (h : s.WellFormed) (n m : NodeId) :
    (s.unlist n).node? m =
      (s.node? m).map fun node => { node with children := node.children.filter (· ≠ n) } := by
  have same : s.parent? n ≠ some m → s.node? m =
      (s.node? m).map fun node => { node with children := node.children.filter (· ≠ n) } := by
    intro hne
    cases e : s.node? m with
    | none => rfl
    | some node =>
      have kept : node.children.filter (· ≠ n) = node.children := by
        refine List.filter_eq_self.mpr fun x hx => ?_
        have hxn : x ≠ n := fun exn => hne (h.named (children_eq e ▸ exn ▸ hx))
        simpa using hxn
      rw [Option.map_some, kept]
  unfold unlist
  cases e : s.parent? n with
  | none => exact same (by simp [e])
  | some p =>
    dsimp only
    rw [dropChild, node?_modifyNode]
    split
    · rfl
    · next hpm => exact same (by simpa [e] using hpm)

/-- In a forest, a node taken off the list of its parent is listed nowhere. -/
lemma WellFormed.children_unlist (h : s.WellFormed) (n m : NodeId) :
    (s.unlist n).children m = (s.children m).filter (· ≠ n) := by
  unfold children
  rw [h.node?_unlist]
  cases s.node? m <;> rfl

/-! ## Moving -/

/-- What every node is after a node was put under another one. -/
lemma WellFormed.node?_relink (h : s.WellFormed) (n p m : NodeId) :
    (s.relink n p).node? m = (s.node? m).map fun node =>
      { node with
        parent := if m = n then some p else node.parent
        children := node.children.filter (· ≠ n) ++ if m = p then [n] else [] } := by
  rw [relink, appendChild, node?_modifyNode, node?_modifyNode, h.node?_unlist]
  cases s.node? m with
  | none => simp
  | some node => by_cases hn : n = m <;> by_cases hp : p = m <;> simp [hn, hp, eq_comm]

/-- A node that is hung under another one has that one for a parent. -/
lemma parent?_relink (hn : s.Live n) (p m : NodeId) :
    (s.relink n p).parent? m = if m = n then some p else s.parent? m := by
  obtain ⟨node, e⟩ := (live_unlist s n n).mpr hn
  unfold relink
  rw [parent?_appendChild, parent?_modifyNode]
  by_cases hmn : m = n
  · subst hmn
    simp [e]
  · simp [hmn, Ne.symm hmn]

@[simp] lemma live_relink (s : Scene α) (n p m : NodeId) : (s.relink n p).Live m ↔ s.Live m := by
  simp [relink]

@[simp] lemma lastId_relink (s : Scene α) (n p : NodeId) : (s.relink n p).lastId = s.lastId := by
  simp [relink, appendChild]

/-- In a forest, a node that is hung under another one stands there last and nowhere else. -/
lemma WellFormed.children_relink (h : s.WellFormed) (hp : s.Live p) (n m : NodeId) :
    (s.relink n p).children m = (s.children m).filter (· ≠ n) ++ if m = p then [n] else [] := by
  unfold relink
  have hf : ∀ node : Node α, { node with parent := some p }.children = node.children := fun _ => rfl
  rw [children_appendChild (by simpa using hp), children_modifyNode_of hf, h.children_unlist]

/-- A path that passes the new parent of a node has come from the node. -/
lemma relink_transGen (hn : s.Live n) {a b : NodeId}
    (h : Relation.TransGen (s.relink n p).ParentOf a b) :
    Relation.TransGen s.ParentOf a b ∨
      (s.relink n p).Under a n ∧ (s.relink n p).Under p b := by
  induction h with
  | @single b e =>
    rw [ParentOf, parent?_relink hn] at e
    split at e
    · next hna =>
      obtain rfl := Option.some.inj e
      exact .inr ⟨hna ▸ .refl, .refl⟩
    · exact .inl (.single e)
  | @tail b c hab e ih =>
    cases ih with
    | inr ih => exact .inr ⟨ih.1, ih.2.tail e⟩
    | inl ih =>
      have e' := e
      rw [ParentOf, parent?_relink hn] at e'
      split at e'
      · next hnb =>
        obtain rfl := Option.some.inj e'
        exact .inr ⟨hnb ▸ hab.to_reflTransGen, .refl⟩
      · exact .inl (ih.tail e')

/-- What a node is under does not change on the way to the node that was moved. -/
lemma relink_under (hn : s.Live n) {a : NodeId} (h : (s.relink n p).Under a n) : s.Under a n := by
  induction h using Relation.ReflTransGen.head_induction_on with
  | refl => exact .refl
  | @head a c e _ ih =>
    rw [ParentOf, parent?_relink hn] at e
    split at e
    · next hna => exact hna ▸ .refl
    · exact .head e ih

/-- No cycle arises where a node is put under another one that is not under it. -/
lemma Acyclic.relink (h : s.Acyclic) (hn : s.Live n) (ha : ¬ s.Under p n) : (s.relink n p).Acyclic := by
  intro x hx
  -- A new cycle would pass the new parent, and so the new parent would have been under the node.
  cases relink_transGen hn hx with
  | inl hx => exact h x hx
  | inr hx => exact ha (relink_under hn (hx.2.trans hx.1))

/-- A forest stays one if a node is put under another one that is not under it. -/
theorem WellFormed.relink (h : s.WellFormed) (hn : s.Live n) (hp : s.Live p) (ha : ¬ s.Under p n) :
    (s.relink n p).WellFormed := by
  refine ⟨?listed, ?named, ?nodup, Acyclic.relink h.acyclic hn ha⟩
  case listed =>
    intro m q e
    rw [parent?_relink hn] at e
    rw [h.children_relink hp, List.mem_append]
    split at e
    · next hmn =>
      obtain rfl := Option.some.inj e
      exact .inr (by simp [hmn])
    · next hmn => exact .inl (List.mem_filter.mpr ⟨h.listed e, by simpa using hmn⟩)
  case named =>
    intro m q hm
    rw [parent?_relink hn]
    rw [h.children_relink hp, List.mem_append] at hm
    cases hm with
    | inl hm =>
      obtain ⟨hm, hmn⟩ := List.mem_filter.mp hm
      rw [if_neg (by simpa using hmn)]
      exact h.named hm
    | inr hm =>
      split at hm
      · next hqp =>
        rw [if_pos (List.mem_singleton.mp hm), hqp]
      · cases hm
  case nodup =>
    intro q
    rw [h.children_relink hp]
    exact nodup_listed ((h.nodup q).filter _) (by simp) _

/-! ## Removing -/

/-- A search depends on the children of what it visits only. -/
lemma preorder_congr {f g : NodeId → List NodeId} (bound : Nat) (waiting : List NodeId)
    (P : NodeId → Prop) (hw : ∀ w ∈ waiting, P w) (hP : ∀ m, P m → ∀ c ∈ f m, P c)
    (hfg : ∀ m, P m → g m = f m) : Walk.preorder g bound waiting = Walk.preorder f bound waiting := by
  induction bound generalizing waiting with
  | zero => rfl
  | succ bound ih =>
    cases waiting with
    | nil => rfl
    | cons n waiting =>
      have hn := hw n List.mem_cons_self
      rw [Walk.preorder, Walk.preorder, hfg n hn, ih]
      intro w hmem
      cases List.mem_append.mp hmem with
      | inl hmem => exact hP n hn w hmem
      | inr hmem => exact hw w (List.mem_cons_of_mem n hmem)

/-- What is found below a node does not depend on whether its parent lists it. -/
lemma WellFormed.preorder_unlist (h : s.WellFormed) (n : NodeId) (bound : Nat) :
    Walk.preorder (s.unlist n).children bound ((s.unlist n).children n) =
      Walk.preorder s.children bound (s.children n) := by
  -- The children of a node under `n` do not include `n`, or there would be a cycle.
  have hsame : ∀ m, s.Under m n → (s.unlist n).children m = s.children m := by
    intro m hm
    rw [h.children_unlist]
    refine List.filter_eq_self.mpr fun x hx => ?_
    have hxn : x ≠ n := fun e => h.not_under_child (h.named (e ▸ hx)) hm
    simpa using hxn
  rw [hsame n .refl]
  refine preorder_congr _ _ (s.Under · n) ?_ ?_ hsame
  · exact fun c hc => .single (h.named hc)
  · exact fun m hm c hc => .head (h.named hc) hm

/-- What is below a node stays there when the node is taken off a list. -/
lemma WellFormed.descendants_unlist (h : s.WellFormed) (n : NodeId) :
    (s.unlist n).descendants n = s.descendants n := by
  unfold descendants
  rw [lastId_unlist]
  exact h.preorder_unlist n s.lastId

/-- Nodes that are taken out are gone, and the others stay as they are. -/
lemma node?_vacate (s : Scene α) (l : List NodeId) (m : NodeId) :
    (s.vacate l).node? m = if m ∈ l then none else s.node? m := by
  induction l generalizing s with
  | nil => simp [vacate]
  | cons n l ih =>
    have e : s.vacate (n :: l) = (s.setNode n none).vacate l := rfl
    rw [e, ih, node?_setNode]
    by_cases hl : m ∈ l
    · simp [hl]
    · by_cases hmn : m = n
      · subst hmn
        cases m with
        | zero => simp
        | succ m =>
          by_cases hm : m + 1 ≤ s.lastId
          · simp [hm]
          · simp [hm, node?_eq_none_of_lt (Nat.lt_of_not_le hm)]
      · simp [hl, hmn, Ne.symm hmn]

/-- Taking nodes out leaves the collections. -/
lemma collections_vacate (s : Scene α) (l : List NodeId) :
    (s.vacate l).collections = s.collections := by
  induction l generalizing s with
  | nil => rfl
  | cons n l ih => exact (ih _).trans (collections_setNode s n none)

/-- Taking nodes out gives no number back. -/
lemma lastId_vacate (s : Scene α) (l : List NodeId) : (s.vacate l).lastId = s.lastId := by
  induction l generalizing s with
  | nil => rfl
  | cons n l ih => exact (ih _).trans (lastId_setNode s n none)

@[simp] lemma lastId_prune (s : Scene α) (n : NodeId) : (s.prune n).lastId = s.lastId := by
  unfold prune
  rw [lastId_vacate, lastId_unlist]

@[simp] lemma collections_prune (s : Scene α) (n : NodeId) :
    (s.prune n).collections = s.collections := by
  unfold prune
  rw [collections_vacate, collections_unlist]

open Classical in
/-- Removing a node empties the slots of what is under it, and nothing else. -/
theorem WellFormed.node?_prune (h : s.WellFormed) (n m : NodeId) :
    (s.prune n).node? m = if s.Under m n then none else (s.unlist n).node? m := by
  unfold prune
  rw [node?_vacate, h.descendants_unlist]
  simp only [h.mem_removed_iff]

/-- What is left after a removal keeps its parent. -/
lemma WellFormed.parent?_prune (h : s.WellFormed) (hm : ¬ s.Under m n) :
    (s.prune n).parent? m = s.parent? m := by
  rw [← parent?_unlist s n]
  unfold parent?
  rw [h.node?_prune, if_neg hm]

/-- What is left after a removal keeps its children but for the removed node. -/
lemma WellFormed.children_prune (h : s.WellFormed) (hm : ¬ s.Under m n) :
    (s.prune n).children m = (s.children m).filter (· ≠ n) := by
  rw [← h.children_unlist]
  unfold children
  rw [h.node?_prune, if_neg hm]

/-- A removal leaves the nodes that are not below the removed one. -/
lemma WellFormed.live_prune (h : s.WellFormed) :
    (s.prune n).Live m ↔ s.Live m ∧ ¬ s.Under m n := by
  rw [live_iff, h.node?_prune]
  by_cases hm : s.Under m n
  · simp [hm]
  · simp [hm, ← live_iff]

/-- A forest stays one if a node is removed with all below it. -/
theorem WellFormed.prune (h : s.WellFormed) (n : NodeId) : (s.prune n).WellFormed := by
  have up : ∀ {m q}, (s.prune n).parent? m = some q → ¬ s.Under m n ∧ s.parent? m = some q := by
    intro m q e
    have hm := (h.live_prune.mp (live_of_parent? e)).2
    exact ⟨hm, (h.parent?_prune hm).symm.trans e⟩
  refine ⟨?listed, ?named, ?nodup, ?acyclic⟩
  case listed =>
    intro m q e
    obtain ⟨hm, e⟩ := up e
    rw [h.children_prune fun hq => hm (.head e hq)]
    have hmn : m ≠ n := fun e => hm (e ▸ .refl)
    exact List.mem_filter.mpr ⟨h.listed e, by simpa using hmn⟩
  case named =>
    intro m q hm
    -- A child of a node that is left is left, unless it is the node that was removed.
    have hq := (h.live_prune.mp (live_of_mem_children hm)).2
    rw [h.children_prune hq] at hm
    obtain ⟨hm, hmn⟩ := List.mem_filter.mp hm
    have e := h.named hm
    refine (h.parent?_prune ?_).trans e
    intro hu
    cases under_head_iff.mp hu with
    | inl e => exact absurd e (by simpa using hmn)
    | inr hu =>
      obtain ⟨p, ep, hu⟩ := hu
      obtain rfl := Option.some.inj (e.symm.trans ep)
      exact hq hu
  case nodup =>
    intro q
    by_cases hq : s.Under q n
    · rw [children_eq_nil fun hl => (h.live_prune.mp hl).2 hq]
      exact .nil
    · rw [h.children_prune hq]
      exact (h.nodup q).filter _
  case acyclic =>
    intro x hx
    exact h.acyclic x (Relation.TransGen.mono (fun _ _ e => (up e).2) _ _ hx)

end SceneGrammar.Scene
