import SceneGrammar.Proofs.Scene.Landing
import SceneGrammar.Proofs.Scene.Pool

/-!
# Copies under copies

A replica has the tree of what it is a copy of, with each node replaced by its copy (`Replica.tree`). A copy
that is planted under a node makes no new member of a collection without a parent, since all its nodes have
parents (`Planted.topLevel?`), and it changes no tree that the node is not in (`Planted.tree_apart`). So
copies of one node can be `Chained`, each under the copy of a leaf in the one before it, and one more copy
makes the chain longer at its beginning (`Chained.step`).
-/

namespace SceneGrammar.Scene

variable {α : Type} {s t : Scene α} {n m p q first : NodeId} {mirrored : Bool}

/-! ## The tree of a replica -/

namespace Replica
variable (h : Replica s t n first p mirrored) (hs : s.WellFormed)
include h hs

/-- What every node of a replica has of the node that it is a copy of. -/
lemma copy (hm : s.Under m n) {node : Node α} (e : s.node? m = some node) :
    ∃ copy, t.node? (s.spot n first m) = some copy ∧
      copy.parent = (if m = n then some p else node.parent.map (s.spot n first)) ∧
      copy.children = node.children.map (s.spot n first) ∧
      copy.properties = node.properties ∧ copy.source = some m := by
  cases List.mem_cons.mp (hs.mem_tree_iff.mpr hm) with
  | inl hmn =>
    subst hmn
    obtain ⟨frame, e'⟩ := h.root node e
    rw [spot_self]
    exact ⟨_, e', (if_pos rfl).symm, rfl, rfl, rfl⟩
  | inr below =>
    have hmn : m ≠ n := fun e => (List.nodup_cons.mp (hs.nodup_tree n)).1 (e ▸ below)
    exact ⟨_, h.below m below node e, (if_neg hmn).symm, rfl, rfl, rfl⟩

/-- The children of a copy are the copies of the children. -/
lemma children (hn : s.Live n) (hm : s.Under m n) :
    t.children (s.spot n first m) = (s.children m).map (s.spot n first) := by
  obtain ⟨node, e⟩ := live_of_under hn hm
  obtain ⟨copy, e', -, children, -⟩ := h.copy hs hm e
  rw [children_eq e', children_eq e, children]

/-- A copy has the properties of its original. -/
lemma property? (hn : s.Live n) (hm : s.Under m n) (key : String) :
    t.property? (s.spot n first m) key = s.property? m key := by
  obtain ⟨node, e⟩ := live_of_under hn hm
  obtain ⟨copy, e', -, -, properties, -⟩ := h.copy hs hm e
  unfold Scene.property?
  rw [e', e, Option.bind_some, Option.bind_some, properties]

/-- The tree below a copy consists of the copies of the tree. -/
lemma tree (ht : t.WellFormed) (hn : s.Live n) (hm : s.Under m n) :
    t.tree (s.spot n first m) = (s.tree m).map (s.spot n first) := by
  induction m using hs.upwards with
  | step m ih =>
    rw [Scene.tree, Scene.tree, ht.descendants_eq, hs.descendants_eq, h.children hs hn hm,
      List.flatMap_map, List.map_cons, List.map_flatMap]
    refine congrArg _ (List.flatMap_congr fun c hc => ih c hc ?_)
    exact .head (hs.named hc) hm

/-- Copies are below the copy of what they are below. -/
lemma under (ht : t.WellFormed) (hn : s.Live n) (hm : s.Under m n) :
    t.Under (s.spot n first m) first := by
  have tree := h.tree hs ht hn .refl
  rw [spot_self] at tree
  rw [← ht.mem_tree_iff, tree]
  exact List.mem_map_of_mem (hs.mem_tree_iff.mpr hm)

end Replica

/-! ## What a planted copy leaves as it was -/

/-- What an old node is under, it was under before. -/
lemma Extends.under_old (h : Extends s t) (hs : s.WellFormed) (hm : s.Live m) (hu : t.Under m q) :
    s.Under m q := by
  induction hu using Relation.ReflTransGen.head_induction_on with
  | refl => exact .refl
  | head e _ ih =>
    have e : s.parent? _ = some _ := (h.parent?_old hm).symm.trans e
    exact .head e (ih (hs.live_parent e))

namespace Planted
variable (h : Planted s t n p)
include h

/-- A tree that the parent of the copy is not in stays as it was. -/
lemma node?_apart (hq : s.Live q) (outside : ¬ s.Under p q) (hm : s.Under m q) :
    t.node? m = s.node? m := by
  obtain ⟨node, e⟩ := live_of_under hq hm
  have hmp : m ≠ p := fun same => outside (same ▸ hm)
  have same : t.children m = s.children m := by
    rw [h.children m ⟨node, e⟩, if_neg hmp, List.append_nil]
  rw [e, h.node?_old e same]

/-- What is not above the new parent has the same nodes below it. -/
lemma tree_apart (hs : s.WellFormed) (hq : s.Live q) (outside : ¬ s.Under p q) : t.tree q = s.tree q := by
  refine hs.tree_congr h.wellFormed fun m hm => ?_
  unfold Scene.children
  rw [h.node?_apart hq outside hm]

/-- The copy of the node is under the other node. -/
lemma root_parent (hn : s.Live n) : t.parent? (s.lastId + 1) = some p := by
  obtain ⟨node, e⟩ := hn
  obtain ⟨frame, e'⟩ := h.replica.root node e
  exact parent?_eq e'

variable (hs : s.WellFormed) (hn : s.Live n)
include hs hn

/-- New nodes have parents. -/
lemma exists_parent (hm : t.Live m) (new : s.lastId < m) : ∃ q, t.parent? m = some q := by
  have last : m < s.lastId + 1 + s.weight n := by
    have := h.number ▸ hm.le_lastId
    lia
  obtain ⟨x, hx, rfl⟩ := hs.exists_spot hn new last
  obtain ⟨node, e⟩ := live_of_under hn hx
  obtain ⟨copy, e', parent, -⟩ := h.replica.copy hs hx e
  rw [parent?_eq e', parent]
  cases WellFormed.under_head_iff.mp hx with
  | inl same => exact ⟨p, if_pos same⟩
  | inr above =>
    obtain ⟨q, up, -⟩ := above
    rw [← parent?_eq e, up]
    split
    · exact ⟨p, rfl⟩
    · exact ⟨_, rfl⟩

/-- No collection gets a new member without a parent. -/
lemma topLevel? (collection : String) : t.topLevel? collection = s.topLevel? collection := by
  refine topLevel?_congr h.collections h.lastId fun m => ?_
  by_cases hm : s.Live m
  · obtain ⟨node, e⟩ := hm
    obtain ⟨added, e', -⟩ := h.old m node e
    rw [tops_eq e, tops_eq e']
  · have dead : s.node? m = none := by simpa [live_iff] using hm
    rw [tops_none dead]
    cases e : t.node? m with
    | none => exact tops_none e
    | some node =>
      have live : t.Live m := ⟨node, e⟩
      obtain ⟨q, up⟩ := h.exists_parent hs hn live (h.fresh m live hm)
      exact tops_child up

/-- A node that is not above the parent of the copy is not above the copies. -/
lemma apart (hp : s.Live p) (hq : s.Live q) (outside : ¬ s.Under p q) (hm : t.Under m (s.lastId + 1)) :
    ¬ t.Under m q := by
  have root := h.root_parent hn
  have new : ¬ t.Under q (s.lastId + 1) := fun hu =>
    Nat.not_le_of_lt (h.fresh_under hs (Nat.lt_succ_self _) hu) hq.le_lastId
  intro hu
  cases under_total hm hu with
  | inr above => exact new above
  | inl above =>
    cases WellFormed.under_head_iff.mp above with
    | inl same => exact new (same ▸ .refl)
    | inr above =>
      obtain ⟨p', up, above⟩ := above
      obtain rfl := Option.some.inj (root.symm.trans up)
      exact outside (h.under_old hs hp above)

end Planted

/-! ## Chains of copies -/

/-- Where the copies of a node stand that are made one right after the other. -/
def stage (s : Scene α) (n : NodeId) (k : Nat) : NodeId :=
  s.lastId + 1 + k * (s.tree n).length

lemma stage_zero (s : Scene α) (n : NodeId) : s.stage n 0 = s.lastId + 1 := by simp [stage]

/-- Different copies stand at different places. -/
lemma stage_injective (s : Scene α) (n : NodeId) : Function.Injective (s.stage n) := fun _ _ e =>
  Nat.eq_of_mul_eq_mul_right (Nat.succ_pos _) (Nat.add_left_cancel e)

/-- Copies of a node with all below it, the first of them under another node and each other one under the
copy of a leaf in the one before it. -/
structure Chained (s t : Scene α) (n leaf p : NodeId) (count : Nat) : Prop extends Grown s t where
  base : 0 < count → t.parent? (s.stage n 0) = some p
  link : ∀ k, k + 1 < count → t.parent? (s.stage n (k + 1)) = some (s.spot n (s.stage n k) leaf)
  copies : ∀ k < count, ∀ m, s.Under m n →
    (t.node? (s.spot n (s.stage n k) m)).bind (·.source) = some m ∧
      t.Under (s.spot n (s.stage n k) m) (s.stage n k)

/-- What an old node was under, it is under. -/
lemma Extends.under (h : Extends s t) (hu : s.Under m q) : t.Under m q :=
  hu.lift id fun _ _ e => (h.parent?_old (live_of_parent? e)).trans e

/-- An old node is a copy of what it was a copy of. -/
lemma Extends.source_old (h : Extends s t) (hm : s.Live m) :
    (t.node? m).bind (·.source) = (s.node? m).bind (·.source) := by
  obtain ⟨node, e⟩ := hm
  obtain ⟨added, e', -⟩ := h.old m node e
  rw [e, e']
  rfl

/-- A chain of no copies. -/
lemma Chained.none (hs : s.WellFormed) (n leaf p : NodeId) : Chained s s n leaf p 0 where
  toGrown := .refl hs
  base h := absurd h (Nat.lt_irrefl 0)
  link _ h := absurd h (Nat.not_lt_zero _)
  copies _ h := absurd h (Nat.not_lt_zero _)

namespace Planted
variable (h : Planted s t n p) (hs : s.WellFormed) (hn : s.Live n) (outside : ¬ s.Under p n)
include h hs hn outside

/-- Copying goes on as before after copies elsewhere. -/
lemma spot_apart (first : NodeId) : t.spot n first = s.spot n first := by
  funext m
  rw [spot, spot, h.tree_apart hs hn outside]

/-- The places of the copies, counted from after the first one. -/
lemma stage_succ (k : Nat) : t.stage n k = s.stage n (k + 1) := by
  rw [stage, stage, h.tree_apart hs hn outside, h.number, ← hs.length_tree hn, Nat.succ_mul]
  lia

end Planted

/-- A chain that begins under the copy of the leaf in a copy is one that begins with that copy. -/
lemma Chained.step {u : Scene α} {leaf : NodeId} {count : Nat} (h : Planted s t n p) (hs : s.WellFormed)
    (hn : s.Live n) (outside : ¬ s.Under p n)
    (k : Chained t u n leaf (s.spot n (s.lastId + 1) leaf) count) : Chained s u n leaf p (count + 1) := by
  have first := s.stage_zero n
  have spots := h.spot_apart hs hn outside
  have stages := h.stage_succ hs hn outside
  obtain ⟨node, e⟩ := id hn
  obtain ⟨frame, root⟩ := h.replica.root node e
  refine ⟨⟨h.trans k.toExtends, k.wellFormed⟩, fun _ => ?base, fun i hi => ?link,
    fun i hi m hm => ?copies⟩
  case base =>
    rw [first, k.parent?_old ⟨_, root⟩]
    exact h.root_parent hn
  case link =>
    cases i with
    | zero =>
      rw [← stages 0, first]
      exact k.base (Nat.lt_of_succ_lt_succ hi)
    | succ i =>
      rw [← stages (i + 1), ← stages i, ← spots]
      exact k.link i (Nat.lt_of_succ_lt_succ hi)
  case copies =>
    cases i with
    | zero =>
      obtain ⟨old, e'⟩ := live_of_under hn hm
      obtain ⟨copy, copied, -, -, -, source⟩ := h.replica.copy hs hm e'
      rw [first, k.source_old ⟨_, copied⟩, copied]
      exact ⟨source, k.under (h.replica.under hs h.wellFormed hn hm)⟩
    | succ i =>
      rw [← stages i, ← spots]
      exact k.copies i (Nat.lt_of_succ_lt_succ hi) m (h.under hm)

end SceneGrammar.Scene
