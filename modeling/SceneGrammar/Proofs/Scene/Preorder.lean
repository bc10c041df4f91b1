import Mathlib.Data.List.Flatten
import SceneGrammar.Proofs.Scene.Walks

/-!
# Searches as recursions

On a well-formed scene a search that keeps its waiting nodes in a list finds what a recursion over the
tree finds, in the same order: first a node, then what is below its first child, then what is below the
next one (`preorder_eq`, `tagged_eq`). So all nodes below a node are found once, and what a search for
tags finds is a part of them in the same order. Facts about what is below a node are shown for the
children of a node before the node itself (`WellFormed.upwards`).
-/

namespace SceneGrammar

/-- A search with a filter finds what it finds without one, filtered. -/
lemma Walk.tagged_eq_filter (children : NodeId → List NodeId) (tag : NodeId → Option String)
    (accept : String → Bool) (bound : Nat) (waiting : List NodeId) :
    tagged children tag accept bound waiting =
      (tagged children tag (fun _ => true) bound waiting).filter fun n => (tag n).any accept := by
  induction bound generalizing waiting with
  | zero => rfl
  | succ bound ih =>
    cases waiting with
    | nil => rfl
    | cons n waiting =>
      cases e : tag n with
      | none =>
        simp only [tagged, e]
        exact ih _
      | some t =>
        simp only [tagged, e, if_true]
        rw [ih waiting]
        by_cases h : accept t <;> simp [e, h]

/-- What a search for tags finds at a node: the node if its tag is accepted, nothing at any other tag,
and what is found below it if it has none. -/
def Walk.atNode (tag : NodeId → Option String) (accept : String → Bool) (below : NodeId → List NodeId)
    (n : NodeId) : List NodeId :=
  match tag n with
  | some t => if accept t then [n] else []
  | none => below n

namespace Scene

variable {α : Type} {s : Scene α} {n m c q : NodeId}

/-- A node and all nodes below it, a node before its children. -/
def tree (s : Scene α) (n : NodeId) : List NodeId := n :: s.descendants n

/-- What a search for tags finds below a node. -/
def taggedBelow (s : Scene α) (tag : NodeId → Option String) (accept : String → Bool) (n : NodeId) :
    List NodeId :=
  Walk.tagged s.children tag accept s.lastId (s.children n)

namespace WellFormed

/-! ## All nodes -/

/-- A search below a node that is long enough finds all nodes below it. -/
lemma preorder_children (h : s.WellFormed) {bound : Nat}
    (hb : ((s.children n).map s.weight).sum ≤ bound) :
    Walk.preorder s.children bound (s.children n) = s.descendants n := by
  have live : ∀ w ∈ s.children n, s.Live w := fun _ hw => h.live_child hw
  rw [h.preorder_bound hb _ live (Nat.le_refl _), descendants,
    h.preorder_bound (h.weight_children_le_lastId n) _ live (Nat.le_refl _)]

/-- The waiting nodes are visited one after the other, each with all that is below it. -/
lemma preorder_eq (h : s.WellFormed) (bound : Nat) (waiting : List NodeId)
    (hl : ∀ w ∈ waiting, s.Live w) (hb : (waiting.map s.weight).sum ≤ bound) :
    Walk.preorder s.children bound waiting = waiting.flatMap s.tree := by
  induction bound generalizing waiting with
  | zero =>
    cases waiting with
    | nil => rfl
    | cons n waiting => exact absurd hb (not_light hl)
  | succ bound ih =>
    cases waiting with
    | nil => rfl
    | cons n waiting =>
      have hn := hl n List.mem_cons_self
      have light := h.weight_visit_le hn hb
      have below : ((s.children n).map s.weight).sum ≤ bound := by
        simp only [List.map_append, List.sum_append] at light
        omega
      -- What the visit makes wait is all below `n`, by the same induction.
      rw [Walk.preorder, ih _ (h.live_visit hl) light, List.flatMap_append,
        ← ih _ (fun _ hw => h.live_child hw) below, h.preorder_children below]
      rfl

/-- All nodes below a node: its children, each with all that is below it. -/
theorem descendants_eq (h : s.WellFormed) (n : NodeId) :
    s.descendants n = (s.children n).flatMap s.tree :=
  h.preorder_eq _ _ (fun _ hw => h.live_child hw) (h.weight_children_le_lastId n)

lemma mem_tree_iff (h : s.WellFormed) : m ∈ s.tree n ↔ s.Under m n := by
  rw [tree, List.mem_cons, h.mem_descendants_iff, h.under_iff]

/-- All nodes of a tree are visited once. -/
lemma nodup_tree (h : s.WellFormed) (n : NodeId) : (s.tree n).Nodup := by
  induction n using h.upwards with
  | step n ih =>
    rw [tree, h.descendants_eq, List.nodup_cons, List.nodup_flatMap]
    refine ⟨fun hn => ?_, ih, ?_⟩
    · obtain ⟨c, hc, hm⟩ := List.mem_flatMap.mp hn
      exact h.not_under_child (h.named hc) (h.mem_tree_iff.mp hm)
    · refine (h.nodup n).imp_of_mem fun hc hd hne => ?_
      intro m hm hm'
      exact h.apart_siblings hc hd hne (h.mem_tree_iff.mp hm) (h.mem_tree_iff.mp hm')

/-- They are the nodes that the node outweighs. -/
lemma length_tree (h : s.WellFormed) (hn : s.Live n) : (s.tree n).length = s.weight n := by
  rw [← List.toFinset_card_of_nodup (h.nodup_tree n)]
  refine congrArg Finset.card (Finset.ext fun m => ?_)
  rw [List.mem_toFinset, h.mem_tree_iff, mem_subtree]
  exact ⟨fun hu => ⟨live_of_under hn hu, hu⟩, And.right⟩

/-! ## Tags -/

variable {tag : NodeId → Option String} {accept : String → Bool}

/-- A search below a node that is long enough finds all tags there. -/
lemma tagged_children (h : s.WellFormed) {bound : Nat}
    (hb : ((s.children n).map s.weight).sum ≤ bound) :
    Walk.tagged s.children tag accept bound (s.children n) = s.taggedBelow tag accept n := by
  have live : ∀ w ∈ s.children n, s.Live w := fun _ hw => h.live_child hw
  rw [h.tagged_bound tag accept hb _ live (Nat.le_refl _), taggedBelow,
    h.tagged_bound tag accept (h.weight_children_le_lastId n) _ live (Nat.le_refl _)]

/-- The waiting nodes are searched one after the other. -/
lemma tagged_eq (h : s.WellFormed) (bound : Nat) (waiting : List NodeId)
    (hl : ∀ w ∈ waiting, s.Live w) (hb : (waiting.map s.weight).sum ≤ bound) :
    Walk.tagged s.children tag accept bound waiting =
      waiting.flatMap (Walk.atNode tag accept (s.taggedBelow tag accept)) := by
  induction bound generalizing waiting with
  | zero =>
    cases waiting with
    | nil => rfl
    | cons n waiting => exact absurd hb (not_light hl)
  | succ bound ih =>
    cases waiting with
    | nil => rfl
    | cons n waiting =>
      have hn := hl n List.mem_cons_self
      have light := h.weight_visit_le hn hb
      simp only [List.map_append, List.sum_append] at light
      rw [Walk.tagged, List.flatMap_cons, Walk.atNode]
      cases tag n with
      | some t =>
        -- What is below a tagged node does not come to wait.
        dsimp only
        rw [ih waiting (fun w hw => hl w (List.mem_cons_of_mem n hw)) (by omega)]
        split <;> rfl
      | none =>
        dsimp only
        rw [ih _ (h.live_visit hl) (by simpa using light), List.flatMap_append,
          ← ih _ (fun _ hw => h.live_child hw) (by omega), h.tagged_children (by omega)]

/-- What is found below a node is what is found at its children. -/
theorem taggedBelow_eq (h : s.WellFormed) (n : NodeId) :
    s.taggedBelow tag accept n =
      (s.children n).flatMap (Walk.atNode tag accept (s.taggedBelow tag accept)) :=
  h.tagged_eq _ _ (fun _ hw => h.live_child hw) (h.weight_children_le_lastId n)

/-- There is one way to search like this. -/
lemma eq_taggedBelow (h : s.WellFormed) {f : NodeId → List NodeId}
    (hf : ∀ n, f n = (s.children n).flatMap (Walk.atNode tag accept f)) :
    f = s.taggedBelow tag accept := by
  funext n
  induction n using h.upwards with
  | step n ih =>
    rw [hf, h.taggedBelow_eq]
    refine List.flatMap_congr fun c hc => ?_
    unfold Walk.atNode
    rw [ih c hc]

/-- Nodes are found in the order in which they are visited. -/
lemma taggedBelow_sublist (h : s.WellFormed) (n : NodeId) :
    List.Sublist (s.taggedBelow tag accept n) (s.descendants n) := by
  induction n using h.upwards with
  | step n ih =>
    rw [h.taggedBelow_eq, h.descendants_eq]
    refine List.Sublist.flatMap_right _ fun c hc => ?_
    unfold Walk.atNode tree
    cases tag c with
    | some t =>
      dsimp only
      split
      · exact (List.nil_sublist _).cons_cons c
      · exact List.nil_sublist _
    | none => exact (ih c hc).cons c

/-- What is above a child of a node is the node or above it. -/
lemma under_of_above_child (h : s.WellFormed) (hc : c ∈ s.children n)
    (hu : Relation.TransGen s.ParentOf c q) : s.Under n q := by
  obtain ⟨p, e, hu⟩ := Relation.TransGen.head'_iff.mp hu
  obtain rfl := Option.some.inj ((h.named hc).symm.trans e)
  exact hu

/-- The nodes that are found: those with accepted tags that are below the node without a tag in
between. -/
theorem mem_taggedBelow_iff (h : s.WellFormed) : m ∈ s.taggedBelow tag accept n ↔
    (∃ t, tag m = some t ∧ accept t = true) ∧ Relation.TransGen s.ParentOf m n ∧
      ∀ q, Relation.TransGen s.ParentOf m q → Relation.TransGen s.ParentOf q n → tag q = none := by
  induction n using h.upwards with
  | step n ih =>
    -- Nothing is above a child of `n` and below `n`.
    have none_between : ∀ c ∈ s.children n, ∀ q, Relation.TransGen s.ParentOf c q →
        ¬ Relation.TransGen s.ParentOf q n :=
      fun c hc q hu hq => h.acyclic n (.trans_right (h.under_of_above_child hc hu) hq)
    rw [h.taggedBelow_eq, List.mem_flatMap]
    constructor
    · rintro ⟨c, hc, hm⟩
      have up := h.named hc
      unfold Walk.atNode at hm
      cases e : tag c with
      | some t =>
        rw [e] at hm
        dsimp only at hm
        split at hm
        · next ht =>
          obtain rfl := List.mem_singleton.mp hm
          exact ⟨⟨t, e, ht⟩, .single up, fun q hu hq => absurd hq (none_between m hc q hu)⟩
        · cases hm
      | none =>
        rw [e] at hm
        obtain ⟨tagged, below, between⟩ := (ih c hc).mp hm
        refine ⟨tagged, below.tail up, fun q hu hq => ?_⟩
        -- A node between `m` and `n` is below `c`, or it is `c`.
        cases under_total hu.to_reflTransGen below.to_reflTransGen with
        | inl hqc =>
          cases Relation.reflTransGen_iff_eq_or_transGen.mp hqc with
          | inl same => exact same ▸ e
          | inr hqc => exact between q hu hqc
        | inr hcq =>
          cases Relation.reflTransGen_iff_eq_or_transGen.mp hcq with
          | inl same => exact same ▸ e
          | inr hcq => exact absurd hq (none_between c hc q hcq)
    · rintro ⟨tagged, below, between⟩
      obtain ⟨c, hu, up⟩ := Relation.TransGen.tail'_iff.mp below
      have hc := h.listed up
      refine ⟨c, hc, ?_⟩
      unfold Walk.atNode
      cases Relation.reflTransGen_iff_eq_or_transGen.mp hu with
      | inl same =>
        obtain ⟨t, e, ht⟩ := tagged
        simp [same, e, ht]
      | inr hu =>
        rw [between c hu (.single up)]
        exact (ih c hc).mpr ⟨tagged, hu, fun q hq hqc => between q hq (hqc.tail up)⟩

end WellFormed

end Scene

end SceneGrammar
