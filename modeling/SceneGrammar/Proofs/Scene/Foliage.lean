import SceneGrammar.Proofs.Scene.Budding
import SceneGrammar.Proofs.Scene.Copy

/-!
# What leaves hold

If the leaves of a forest hold only values of a kind under a key, this lasts. A copy of a tree has leaves
where the tree has them, with the same values (`Foliage.duplicate`). No node becomes a leaf when the copy
leaves its first place: a node with nothing but the copy below it would count as a leaf in a `Foliage`
from which the copy is `away`.
-/

namespace SceneGrammar.Scene

variable {α : Type} {s t : Scene α} {n m p : NodeId} {key : String} {Q : Literal → Prop}
  {away : NodeId → Prop}

/-- A forest whose leaves hold only values of a kind under a key, where a node is a leaf already if all
its children are away. -/
structure Foliage (key : String) (Q : Literal → Prop) (away : NodeId → Prop) (s : Scene α) : Prop where
  wellFormed : s.WellFormed
  leaf : ∀ n v, (∀ c ∈ s.children n, away c) → s.property? n key = some v → Q v

/-- The source of a new node. -/
lemma Duplicated.exists_spot (dup : Duplicated s t n) (hs : s.WellFormed) (hn : s.Live n)
    (new : s.lastId < m) (hm : t.Live m) : ∃ x, s.Under x n ∧ s.spot n (s.lastId + 1) x = m := by
  have place : m ∈ (s.tree n).map (s.spot n (s.lastId + 1)) := by
    have hle := hm.le_lastId
    rw [dup.number] at hle
    rw [hs.map_spot, hs.length_tree hn, List.mem_range'_1]
    lia
  obtain ⟨x, hx, e⟩ := List.mem_map.mp place
  exact ⟨x, hs.mem_tree_iff.mp hx, e⟩

namespace Foliage

/-- If no node is away any more, there are fewer leaves. -/
lemma home (h : Foliage key Q away s) : Foliage key Q (fun _ => False) s where
  wellFormed := h.wellFormed
  leaf n v hc := h.leaf n v fun c hm => (hc c hm).elim

/-! ## Changes of single nodes -/

/-- A change of a node that leaves its links and its value alone. -/
lemma modifyNode {f : Node α → Node α} (h : Foliage key Q away s)
    (hp : ∀ node, (f node).parent = node.parent) (hc : ∀ node, (f node).children = node.children)
    (hv : ∀ node, (f node).properties.get? key = node.properties.get? key) (n : NodeId) :
    Foliage key Q away (s.modifyNode n f) := by
  refine ⟨(sameLinks_modifyNode hp hc s n).wellFormed h.wellFormed, fun m v away e => ?_⟩
  rw [children_modifyNode_of hc] at away
  refine h.leaf m v away ?_
  rw [← e, property?, property?, node?_modifyNode]
  split
  · cases s.node? m with
    | none => rfl
    | some node => exact (hv node).symm
  · rfl

/-- What leaves hold stays so when a node is updated but for its links and the property. -/
lemma update {f : Node α → Node α} (h : Foliage key Q away s)
    (hp : ∀ node, (f node).parent = node.parent) (hc : ∀ node, (f node).children = node.children)
    (hv : ∀ node, (f node).properties.get? key = node.properties.get? key) (n : NodeId) :
    Ends (Scene.update n f) s (fun _ => Foliage key Q away) (fun _ => Foliage key Q away) := by
  refine (update_ends s n f).imp ?_ (fun _ _ e => e ▸ h)
  rintro _ _ ⟨-, rfl⟩
  exact h.modifyNode hp hc hv n

/-- What leaves hold stays so when a node gets another frame. -/
lemma setFrame (h : Foliage key Q away s) (n : NodeId) (frame : Matrix4 α) :
    Foliage key Q away (s.setFrame n frame) :=
  h.modifyNode (by simp) (by simp) (by simp) n

/-- A property under another key. -/
lemma setProperty (h : Foliage key Q away s) {key' : String} (hne : key' ≠ key) (n : NodeId)
    (v : Literal) :
    Ends (Scene.setProperty n key' v) s (fun _ => Foliage key Q away) (fun _ => Foliage key Q away) := by
  exact h.update (by simp) (by simp) (by simp [Bindings.get?_insert, hne]) n

/-! ## More nodes -/

/-- A copied node is a leaf only if the node is, and old nodes get children only. -/
lemma duplicated (h : Foliage key Q (fun _ => False) s) (hn : s.Live n) (dup : Duplicated s t n) :
    Foliage key Q (fun _ => False) t where
  wellFormed := dup.wellFormed
  leaf m v hc e := by
    obtain ⟨node, em⟩ := live_of_property? e
    have childless : node.children = [] :=
      List.eq_nil_iff_forall_not_mem.mpr fun c hm => hc c (children_eq em ▸ hm)
    rw [property?, em, Option.bind_some] at e
    by_cases new : s.lastId < m
    · obtain ⟨x, hx, rfl⟩ := dup.exists_spot h.wellFormed hn new ⟨node, em⟩
      obtain ⟨source, ex⟩ := live_of_under hn hx
      obtain rfl := Option.some.inj ((dup.copies x source hx ex).symm.trans em)
      refine h.leaf x v (fun c hm => ?_) (by rw [property?, ex]; exact e)
      rw [children_eq ex, List.map_eq_nil_iff.mp childless] at hm
      cases hm
    · have old := dup.beside m (Nat.le_of_not_lt new)
      rw [em] at old
      split at old
      · obtain ⟨_, -, rfl⟩ := Option.map_eq_some_iff.mp old.symm
        exact absurd childless (by simp)
      · refine h.leaf m v (fun c hm => ?_) (by rw [property?, ← old]; exact e)
        rw [children_eq old.symm, childless] at hm
        cases hm

/-- Nothing has the copy for its only child, which stands beside what it is a copy of. -/
lemma besides (h : Foliage key Q (fun _ => False) t) (hn : s.Live n) (dup : Duplicated s t n) :
    Foliage key Q (· = s.lastId + 1) t where
  wellFormed := h.wellFormed
  leaf m v hc := h.leaf m v fun c hm => by
    obtain rfl := hc c hm
    obtain ⟨node, e⟩ := hn
    have copied := dup.copies n node .refl e
    rw [spot_self, if_pos rfl] at copied
    have up : s.parent? n = some m :=
      (parent?_eq e).trans ((parent?_eq copied).symm.trans (h.wellFormed.named hm))
    have beside : n ∈ t.children m :=
      h.wellFormed.listed ((dup.parent?_old ⟨node, e⟩).trans up)
    have hle := le_lastId_of_node? e
    rw [hc n beside] at hle
    exact Nat.not_succ_le_self _ hle

/-- A copy of a tree, until it is taken to another place. -/
lemma duplicate (h : Foliage key Q (fun _ => False) s) (n : NodeId) :
    Ends (Scene.duplicate n) s (fun copy => Foliage key Q (· = copy))
      (fun _ => Foliage key Q (fun _ => False)) := by
  by_cases hn : s.Live n
  · refine (h.wellFormed.duplicate_duplicated hn).imp ?_ (fun _ _ => id)
    rintro _ t ⟨rfl, dup⟩
    exact (h.duplicated hn dup).besides hn dup
  · unfold Scene.duplicate
    apply Ends.bind
    refine (get_ends s n).imp ?_ (fun _ _ e => e ▸ h)
    rintro node _ ⟨rfl, e⟩
    exact absurd ⟨node, e⟩ hn

/-- A new node that holds nothing. -/
lemma budded {bud : Node α} (h : Foliage key Q away s) (grown : Budded s t p bud)
    (bare : bud.properties.get? key = none) : Foliage key Q away t where
  wellFormed := grown.wellFormed
  leaf m v hc e := by
    by_cases new : m = s.lastId + 1
    · rw [property?, new, grown.bud, Option.bind_some, bare] at e
      cases e
    · obtain ⟨node, em⟩ := live_of_property? e
      have old := grown.others m new
      rw [em] at old
      obtain ⟨source, es, rfl⟩ := Option.map_eq_some_iff.mp old.symm
      rw [property?, em] at e
      refine h.leaf m v (fun c hm => hc c ?_) (by rw [property?, es]; exact e)
      rw [children_eq em]
      exact List.mem_append_left _ (children_eq es ▸ hm)

/-! ## Requests -/

variable [Scalar α]

/-- What leaves hold stays so when a node is placed. -/
lemma setWorld (h : Foliage key Q away s) (n : NodeId) (world : Matrix4 α) :
    Ends (Scene.setWorld n world) s (fun _ => Foliage key Q away) (fun _ => Foliage key Q away) := by
  refine (setWorld_ends s n world).imp ?_ (fun _ _ e => e ▸ h)
  rintro _ _ ⟨frame, rfl⟩
  exact h.setFrame n frame

/-- A node that is away is put under another one. -/
lemma reparent (h : Foliage key Q (· = n) s) (p : NodeId) :
    Ends (Scene.reparent n p) s (fun _ => Foliage key Q (· = n)) (fun _ => Foliage key Q (· = n)) := by
  have relinked : s.Live n → s.Live p → s.isAncestor n p = false →
      Foliage key Q (· = n) (s.relink n p) := by
    intro hn hp ha
    have outside : ¬ s.Under p n := fun hu => by simp [h.wellFormed.isAncestor_iff.mpr hu] at ha
    refine ⟨h.wellFormed.relink hn hp outside, fun m v hc e => h.leaf m v (fun c hm => ?_) ?_⟩
    · by_contra hne
      refine hne (hc c ?_)
      rw [h.wellFormed.children_relink hp]
      exact List.mem_append_left _ (List.mem_filter.mpr ⟨hm, by simpa using hne⟩)
    · rw [property?, h.wellFormed.node?_relink] at e
      rw [← e, property?]
      cases s.node? m <;> rfl
  refine (reparent_ends s n p).imp ?_ ?_
  · rintro _ _ ⟨hn, hp, ha, frame, rfl⟩
    exact (relinked hn hp ha).setFrame n frame
  · rintro _ _ (rfl | ⟨hn, hp, ha, rfl⟩)
    · exact h
    · exact relinked hn hp ha

/-- A marker holds nothing. -/
lemma addMarker (h : Foliage key Q away s) (world : Matrix4 α) (p : NodeId) :
    Ends (Scene.addMarker world p) s (fun _ => Foliage key Q away) (fun _ => Foliage key Q away) := by
  have added : s.Live p → Foliage key Q away (s.addNode "link" (some p)).2 := fun hp =>
    h.budded (budded_addNode h.wellFormed hp "link") rfl
  refine (addMarker_ends s world p).imp ?_ ?_
  · rintro id _ ⟨hp, -, frame, rfl⟩
    exact (added hp).setFrame id frame
  · rintro _ _ (rfl | ⟨hp, rfl⟩)
    · exact h
    · exact added hp

end Foliage

end SceneGrammar.Scene
