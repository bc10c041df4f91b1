import Mathlib.Algebra.BigOperators.Group.Finset.Basic
import Mathlib.Algebra.GroupWithZero.Nat
import Mathlib.Algebra.Order.BigOperators.Group.Finset
import Mathlib.Logic.Relation
import Mathlib.Order.Interval.Finset.Nat
import Mathlib.Tactic.Lemma
import SceneGrammar.Scene.Host

/-!
# Forests

A scene is `WellFormed` if parents and children agree and no node is below itself. Then every node has
a `rank`, which is less than that of what is below it, and a `weight`, which is more than that of all
its children together. Both are at most the number of nodes, which is why no search through a scene
needs a greater bound. Facts about a forest are shown from the leaves to the roots (`upwards`) or from
the roots to the leaves (`downwards`).
-/

namespace SceneGrammar.Scene

variable {α : Type} {s t : Scene α} {n m p q : NodeId}

/-- Whether a number is that of a node. -/
def Live (s : Scene α) (n : NodeId) : Prop := ∃ node, s.node? n = some node

/-- One step towards the root. -/
abbrev ParentOf (s : Scene α) (n p : NodeId) : Prop := s.parent? n = some p

/-- Parents lead from the first node to the second one, or the two are the same. -/
abbrev Under (s : Scene α) : NodeId → NodeId → Prop := Relation.ReflTransGen s.ParentOf

/-- No node is above itself. -/
def Acyclic (s : Scene α) : Prop := ∀ n, ¬ Relation.TransGen s.ParentOf n n

/-- A scene is a forest: a node stands exactly once among the children of its parent, and nowhere
else, and no node is below itself. -/
structure WellFormed (s : Scene α) : Prop where
  listed : ∀ {n p}, s.parent? n = some p → n ∈ s.children p
  named : ∀ {n p}, n ∈ s.children p → s.parent? n = some p
  nodup : ∀ p, (s.children p).Nodup
  acyclic : ∀ n, ¬ Relation.TransGen s.ParentOf n n

/-! ## Nodes -/

/-- What has a parent is there. -/
lemma live_of_parent? (h : s.parent? n = some p) : s.Live n := by
  unfold parent? at h
  cases e : s.node? n with
  | some node => exact ⟨node, e⟩
  | none => rw [e] at h; cases h

/-- What has a child is there. -/
lemma live_of_mem_children (h : m ∈ s.children n) : s.Live n := by
  unfold children at h
  cases e : s.node? n with
  | some node => exact ⟨node, e⟩
  | none => rw [e] at h; cases h

/-- What has a property is there. -/
lemma live_of_property? {key : String} {v : Literal} (h : s.property? n key = some v) : s.Live n := by
  obtain ⟨node, e, -⟩ := Option.bind_eq_some_iff.mp h
  exact ⟨node, e⟩

/-- A node has one of the numbers that were given. -/
lemma Live.le_lastId (h : s.Live n) : n ≤ s.lastId := by
  obtain ⟨node, e⟩ := h
  exact le_lastId_of_node? e

/-- A node has a number from one on. -/
lemma Live.pos (h : s.Live n) : 0 < n := by
  obtain ⟨node, e⟩ := h
  cases n with
  | zero => cases e
  | succ n => exact Nat.succ_pos n

/-- The children of a node are those it lists. -/
lemma children_eq {node : Node α} (h : s.node? n = some node) : s.children n = node.children := by
  unfold children
  rw [h]

/-- The parent of a node is the one it names. -/
lemma parent?_eq {node : Node α} (h : s.node? n = some node) : s.parent? n = node.parent := by
  unfold parent?
  rw [h]
  rfl

/-- What is not there has no children. -/
lemma children_eq_nil (h : ¬ s.Live n) : s.children n = [] := by
  unfold children
  cases e : s.node? n with
  | some node => exact absurd ⟨node, e⟩ h
  | none => rfl

/-- A node has one parent, so of two nodes above it one is above the other. -/
lemma under_total (hp : s.Under n p) (hq : s.Under n q) : s.Under p q ∨ s.Under q p :=
  Relation.ReflTransGen.total_of_right_unique
    (fun _ _ _ h k => Option.some.inj (h.symm.trans k)) hp hq

/-- What is under a node that there is, there is. -/
lemma live_of_under (hn : s.Live n) (hu : s.Under m n) : s.Live m := by
  cases hu.cases_head with
  | inl e => exact e ▸ hn
  | inr e =>
    obtain ⟨p, e, -⟩ := e
    exact live_of_parent? e

namespace WellFormed

/-- The parents in a forest are there. -/
lemma live_parent (h : s.WellFormed) (e : s.parent? n = some p) : s.Live p :=
  live_of_mem_children (h.listed e)

/-- The children in a forest are there. -/
lemma live_child (h : s.WellFormed) (e : m ∈ s.children n) : s.Live m := live_of_parent? (h.named e)

/-- A node is not above its parent. -/
lemma not_under_child (h : s.WellFormed) (e : s.parent? n = some p) : ¬ s.Under p n :=
  fun hu => h.acyclic n (.head' e hu)

/-- Numbers that grow towards the leaves exclude cycles. -/
lemma of_ascending (listed : ∀ {n p}, s.parent? n = some p → n ∈ s.children p)
    (named : ∀ {n p}, n ∈ s.children p → s.parent? n = some p)
    (nodup : ∀ p, (s.children p).Nodup) (lt : ∀ n p, s.parent? n = some p → p < n) :
    s.WellFormed := by
  refine ⟨listed, named, nodup, fun n hn => ?_⟩
  have hlt : ∀ m, Relation.TransGen s.ParentOf n m → m < n := by
    intro m hm
    induction hm with
    | single e => exact lt _ _ e
    | tail _ e ih => exact Nat.lt_trans (lt _ _ e) ih
  exact Nat.lt_irrefl n (hlt n hn)

end WellFormed

/-! ## Ranks and weights -/

open Classical in
/-- The nodes that a node is under. -/
noncomputable def ancestry (s : Scene α) (n : NodeId) : Finset NodeId :=
  {m ∈ Finset.range (s.lastId + 1) | s.Live m ∧ s.Under n m}

open Classical in
/-- The nodes under a node. -/
noncomputable def subtree (s : Scene α) (n : NodeId) : Finset NodeId :=
  {m ∈ Finset.range (s.lastId + 1) | s.Live m ∧ s.Under m n}

/-- The number of nodes that a node is under. -/
noncomputable def rank (s : Scene α) (n : NodeId) : Nat := (s.ancestry n).card

/-- The number of nodes under a node. -/
noncomputable def weight (s : Scene α) (n : NodeId) : Nat := (s.subtree n).card

/-- The nodes on the way up are those that parents lead to. -/
@[simp] lemma mem_ancestry : m ∈ s.ancestry n ↔ s.Live m ∧ s.Under n m := by
  simp only [ancestry, Finset.mem_filter, Finset.mem_range, and_iff_right_iff_imp]
  rintro ⟨hm, -⟩
  exact Nat.lt_succ_of_le hm.le_lastId

/-- The nodes of a subtree are those from which parents lead to its root. -/
@[simp] lemma mem_subtree : m ∈ s.subtree n ↔ s.Live m ∧ s.Under m n := by
  simp only [subtree, Finset.mem_filter, Finset.mem_range, and_iff_right_iff_imp]
  rintro ⟨hm, -⟩
  exact Nat.lt_succ_of_le hm.le_lastId

/-- Nodes are numbered from one. -/
lemma card_le_lastId {S : Finset NodeId} (h : ∀ m ∈ S, s.Live m) : S.card ≤ s.lastId := by
  have hs : S ⊆ Finset.Icc 1 s.lastId := by
    intro m hm
    exact Finset.mem_Icc.mpr ⟨(h m hm).pos, (h m hm).le_lastId⟩
  simpa using Finset.card_le_card hs

/-- No node is deeper than numbers were given. -/
lemma rank_le_lastId (s : Scene α) (n : NodeId) : s.rank n ≤ s.lastId :=
  card_le_lastId fun _ hm => (mem_ancestry.mp hm).1

/-- No subtree has more nodes than numbers were given. -/
lemma weight_le_lastId (s : Scene α) (n : NodeId) : s.weight n ≤ s.lastId :=
  card_le_lastId fun _ hm => (mem_subtree.mp hm).1

/-- A subtree has a node at least. -/
lemma weight_pos (h : s.Live n) : 0 < s.weight n :=
  Finset.card_pos.mpr ⟨n, mem_subtree.mpr ⟨h, .refl⟩⟩

/-- Ranks fall towards the root. -/
lemma Acyclic.rank_parent_lt (h : s.Acyclic) (e : s.parent? n = some p) : s.rank p < s.rank n := by
  -- A node is one of those that it is under, and it is none of those that its parent is under.
  apply Finset.card_lt_card
  refine ⟨fun m hm => ?_, fun hsub => ?_⟩
  · rw [mem_ancestry] at hm ⊢
    exact ⟨hm.1, .head e hm.2⟩
  · have hm := hsub (mem_ancestry.mpr ⟨live_of_parent? e, .refl⟩)
    exact h n (.head' e (mem_ancestry.mp hm).2)

namespace WellFormed

/-- A node of a forest is deeper than its parent. -/
lemma rank_parent_lt (h : s.WellFormed) (e : s.parent? n = some p) : s.rank p < s.rank n :=
  Acyclic.rank_parent_lt h.acyclic e

/-- Of two children of a node none is above the other one. -/
lemma not_under_sibling (h : s.WellFormed) (hc : m ∈ s.children n) (hd : q ∈ s.children n)
    (hne : m ≠ q) : ¬ s.Under m q := by
  intro hu
  cases hu.cases_head with
  | inl e => exact hne e
  | inr e =>
    obtain ⟨x, ex, hx⟩ := e
    obtain rfl := Option.some.inj ((h.named hc).symm.trans ex)
    exact h.not_under_child (h.named hd) hx

/-- What is under one child of a node is under no other one. -/
lemma apart_siblings (h : s.WellFormed) (hc : m ∈ s.children n) (hd : q ∈ s.children n)
    (hne : m ≠ q) (hm : s.Under p m) : ¬ s.Under p q := by
  intro hq
  cases under_total hm hq with
  | inl hu => exact h.not_under_sibling hc hd hne hu
  | inr hu => exact h.not_under_sibling hd hc hne.symm hu

/-- The children of a node weigh less than the node, all together. -/
lemma weight_children_lt (h : s.WellFormed) (hn : s.Live n) :
    ((s.children n).map s.weight).sum < s.weight n := by
  have hsum := List.sum_toFinset s.weight (h.nodup n)
  rw [← hsum]
  unfold weight
  -- What is under one child is under no other one, and the node itself is under none.
  rw [← Finset.card_biUnion]
  · apply Finset.card_lt_card
    refine ⟨fun m hm => ?_, fun hsub => ?_⟩
    · simp only [Finset.mem_biUnion, List.mem_toFinset, mem_subtree] at hm ⊢
      obtain ⟨c, hc, hm, hu⟩ := hm
      exact ⟨hm, hu.tail (h.named hc)⟩
    · have hmem := hsub (mem_subtree.mpr ⟨hn, .refl⟩)
      simp only [Finset.mem_biUnion, List.mem_toFinset, mem_subtree] at hmem
      obtain ⟨c, hc, -, hu⟩ := hmem
      exact h.not_under_child (h.named hc) hu
  · intro c hc d hd hcd
    simp only [List.coe_toFinset, Set.mem_ofPred_eq] at hc hd
    rw [Function.onFun, Finset.disjoint_left]
    intro m hmc hmd
    exact h.apart_siblings hc hd hcd (mem_subtree.mp hmc).2 (mem_subtree.mp hmd).2

/-- The subtrees of the children have no more nodes than numbers were given. -/
lemma weight_children_le_lastId (h : s.WellFormed) (n : NodeId) :
    ((s.children n).map s.weight).sum ≤ s.lastId := by
  by_cases hn : s.Live n
  · exact Nat.le_of_lt (Nat.lt_of_lt_of_le (h.weight_children_lt hn) (s.weight_le_lastId n))
  · rw [children_eq_nil hn]
    exact Nat.zero_le _

/-- The subtree of a child is smaller than that of its parent. -/
lemma weight_child_lt (h : s.WellFormed) (hm : m ∈ s.children n) : s.weight m < s.weight n := by
  have hle : s.weight m ≤ ((s.children n).map s.weight).sum :=
    List.single_le_sum (fun _ _ => Nat.zero_le _) _ (List.mem_map_of_mem hm)
  exact Nat.lt_of_le_of_lt hle (h.weight_children_lt (live_of_mem_children hm))

/-- What holds of a node if it holds of its children holds of all nodes. -/
lemma upwards (h : s.WellFormed) {P : NodeId → Prop} (step : ∀ n, (∀ c ∈ s.children n, P c) → P n)
    (n : NodeId) : P n := by
  induction hw : s.weight n using Nat.strong_induction_on generalizing n with
  | _ w ih =>
    subst hw
    exact step n fun c hc => ih (s.weight c) (h.weight_child_lt hc) c rfl

/-- What holds of a node if it holds of its parent holds of all nodes. -/
lemma downwards (h : s.WellFormed) {P : NodeId → Prop}
    (step : ∀ n, (∀ p, s.parent? n = some p → P p) → P n) (n : NodeId) : P n := by
  induction hr : s.rank n using Nat.strong_induction_on generalizing n with
  | _ r ih =>
    subst hr
    exact step n fun p e => ih (s.rank p) (h.rank_parent_lt e) p rfl

end WellFormed

end SceneGrammar.Scene
