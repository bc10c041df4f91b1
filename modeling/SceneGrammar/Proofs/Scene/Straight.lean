import SceneGrammar.Proofs.Scene.Copy
import SceneGrammar.Proofs.Scene.Moving
import SceneGrammar.Proofs.Scene.Reparent

/-!
# Forests of affine frames

Without rounding a node of a forest of affine frames is put exactly where it is meant to be
(`Straight.setWorld`), and moving it under another node leaves everything where it is
(`Straight.reparent`). The requests that place affine transforms keep such a forest, refused or not.
-/

namespace SceneGrammar.Scene

variable {α : Type} {s t : Scene α} {n m p : NodeId}

/-- A forest whose frames are affine. -/
structure Straight [Scalar α] (s : Scene α) : Prop where
  wellFormed : s.WellFormed
  affine : s.Affine

/-- The numbers of a copy are those of copies. -/
lemma WellFormed.exists_spot (hs : s.WellFormed) (hn : s.Live n) {first x : NodeId} (hle : first ≤ x)
    (hlt : x < first + s.weight n) : ∃ m, s.Under m n ∧ s.spot n first m = x := by
  have hx : x ∈ (s.tree n).map (s.spot n first) := by
    rw [hs.map_spot, hs.length_tree hn]
    exact List.mem_range'_1.mpr ⟨hle, hlt⟩
  obtain ⟨m, hm, e⟩ := List.mem_map.mp hx
  exact ⟨m, hs.mem_tree_iff.mp hm, e⟩

section
variable [Scalar α]

/-- Copies have the frames of what they are copies of. -/
lemma Duplicated.affine (h : Duplicated s t n) (hs : s.Straight) (hn : s.Live n) : t.Affine := by
  intro x node e
  by_cases hle : x ≤ s.lastId
  · rw [h.beside x hle] at e
    split at e
    · obtain ⟨old, e', rfl⟩ := Option.map_eq_some_iff.mp e
      exact hs.affine x old e'
    · exact hs.affine x node e
  · have last : x ≤ s.lastId + s.weight n := h.number ▸ le_lastId_of_node? e
    have new : s.lastId + 1 ≤ x := Nat.lt_of_not_le hle
    have hlt : x < s.lastId + 1 + s.weight n := by lia
    obtain ⟨m, hm, rfl⟩ := hs.wellFormed.exists_spot hn new hlt
    obtain ⟨old, e'⟩ := live_of_under hn hm
    rw [h.copies m old hm e'] at e
    obtain rfl := Option.some.inj e
    exact hs.affine m old e'

/-- Nodes that are in other collections have the frames that they had. -/
lemma Moved.affine {S : NodeId → Prop} {target : Option String} (h : Moved S target s t)
    (hs : s.Affine) : t.Affine := by
  intro x node e
  cases e' : s.node? x with
  | none =>
    rw [h.node?_none e'] at e
    cases e
  | some old =>
    obtain ⟨container, e''⟩ := h.node? e'
    rw [e''] at e
    obtain rfl := Option.some.inj e
    exact hs x old e'

namespace Straight

/-- Frames stay affine when a node gets an affine one. -/
lemma setFrame (h : s.Straight) {frame : Matrix4 α} (hf : frame.Affine) (n : NodeId) :
    (s.setFrame n frame).Straight :=
  ⟨h.wellFormed.setFrame n frame, h.affine.modifyNode (fun _ _ => hf) n⟩

/-- Frames stay affine when a node is changed but for its links and frame. -/
lemma modifyNode (h : s.Straight) {f : Node α → Node α} (hp : ∀ node, (f node).parent = node.parent)
    (hc : ∀ node, (f node).children = node.children) (hf : ∀ node, (f node).frame = node.frame)
    (n : NodeId) : (s.modifyNode n f).Straight :=
  ⟨(sameLinks_modifyNode hp hc s n).wellFormed h.wellFormed,
    h.affine.modifyNode (fun node k => (hf node).symm ▸ k) n⟩

/-- Frames stay affine when a node is hung elsewhere. -/
lemma relink (h : s.Straight) (hn : s.Live n) (hp : s.Live p) (apart : ¬ s.Under p n) :
    (s.relink n p).Straight := by
  refine ⟨h.wellFormed.relink hn hp apart, fun m node e => ?_⟩
  rw [h.wellFormed.node?_relink] at e
  obtain ⟨old, e', rfl⟩ := Option.map_eq_some_iff.mp e
  exact h.affine m old e'

/-- Frames stay affine when a node is added. -/
lemma addNode (h : s.Straight) (name : String) (hp : s.Live p) :
    (s.addNode name (some p)).2.Straight :=
  ⟨h.wellFormed.addNode name (live_some hp), h.affine.addNode name (some p)⟩

/-- Frames stay affine when nodes are removed. -/
lemma prune (h : s.Straight) (n : NodeId) : (s.prune n).Straight := by
  refine ⟨h.wellFormed.prune n, fun m node e => ?_⟩
  rw [h.wellFormed.node?_prune] at e
  split at e
  · cases e
  · rw [h.wellFormed.node?_unlist] at e
    obtain ⟨old, e', rfl⟩ := Option.map_eq_some_iff.mp e
    exact h.affine m old e'

/-- Frames stay affine when a node is updated but for its links and frame. -/
lemma update (h : s.Straight) {f : Node α → Node α} (hp : ∀ node, (f node).parent = node.parent)
    (hc : ∀ node, (f node).children = node.children) (hf : ∀ node, (f node).frame = node.frame)
    (n : NodeId) : Ends (Scene.update n f) s (fun _ t => t = s.modifyNode n f ∧ t.Straight)
      (fun _ => Straight) := by
  refine (update_ends s n f).imp ?_ ?_
  · rintro _ _ ⟨-, rfl⟩
    exact ⟨rfl, h.modifyNode hp hc hf n⟩
  · rintro _ _ rfl
    exact h

/-- A copy of whatever there is. -/
lemma duplicate (h : s.Straight) (n : NodeId) :
    Ends (Scene.duplicate n) s
      (fun root t => s.Live n ∧ root = s.lastId + 1 ∧ Duplicated s t n ∧ t.Straight)
      (fun _ => Straight) := by
  by_cases hn : s.Live n
  · refine (h.wellFormed.duplicate_duplicated hn).imp ?_ (fun _ _ => id)
    rintro root t ⟨hroot, ht⟩
    exact ⟨hn, hroot, ht, ht.wellFormed, ht.affine h hn⟩
  · refine (duplicate_ends h.wellFormed n).imp ?_ (fun _ _ e => e ▸ h)
    exact fun _ _ k => absurd k.1 hn

end Straight

end

variable [ExactScalar α] {w : Matrix4 α}

namespace Straight

/-- The place of a parent is affine. -/
lemma affine_parentWorldOf (h : s.Straight) {node : Node α} (e : s.parentWorldOf node = .ok w) :
    w.Affine := by
  unfold parentWorldOf at e
  split at e
  · obtain rfl := Except.ok.inj e
    exact Matrix4.affine_one
  · exact h.wellFormed.affine_worldOf h.affine e

/-- A node is put where it is meant to be. -/
lemma setWorld (h : s.Straight) (hw : w.Affine) (n : NodeId) :
    Ends (Scene.setWorld n w) s
      (fun _ t => ∃ frame, t = s.setFrame n frame ∧ t.Straight ∧ t.worldOf n = .ok w)
      (fun _ => Straight) := by
  unfold Scene.setWorld
  apply Ends.bind
  refine (get_ends s n).imp ?_ (fun _ _ e => e ▸ h)
  rintro node _ ⟨rfl, e⟩
  apply Ends.bind
  refine (ask_ends _ _).imp ?_ (fun _ _ e => e ▸ h)
  rintro above t ⟨rfl, parentWorld⟩
  cases inverse : above.inverse? with
  | none => exact Ends.throw h
  | some v =>
    refine (update_live _ ⟨node, e⟩).imp ?_ (fun _ _ => id)
    rintro _ _ rfl
    have placed : (t.setFrame n (v * w)).Straight :=
      h.setFrame ((Matrix4.affine_inverse? inverse).mul hw) n
    have enode : (t.setFrame n (v * w)).node? n = some { node with frame := v * w } := by
      rw [Scene.setFrame, node?_modifyNode, if_pos rfl, e, Option.map_some]
    -- The parent stays where it is, since it is not below the node.
    have kept : (t.setFrame n (v * w)).parentWorldOf { node with frame := v * w } = .ok above := by
      unfold parentWorldOf at parentWorld ⊢
      cases hp : node.parent with
      | none => rwa [hp] at parentWorld
      | some p =>
        rw [hp] at parentWorld
        have up : t.parent? n = some p := (parent?_eq e).trans hp
        refine worldOf_apart (n := n) ?_ (fun m hm => ?_) (h.wellFormed.not_under_child up) parentWorld
        · exact Nat.le_of_eq (lastId_modifyNode t n _).symm
        · unfold pose? Scene.setFrame
          rw [node?_modifyNode, if_neg (Ne.symm hm)]
    have back : above * (v * w) = w := by
      rw [← mul_assoc, (h.affine_parentWorldOf parentWorld).mul_inverse inverse, one_mul]
    have place : (t.setFrame n (v * w)).worldOf n = .ok w := by
      rw [placed.wellFormed.worldOf_eq enode, kept, Except.map, back]
    exact ⟨v * w, rfl, placed, place⟩

/-- A new node is put where it is meant to be. -/
lemma addMarker (h : s.Straight) (hw : w.Affine) (p : NodeId) :
    Ends (Scene.addMarker w p) s (fun _ => Straight) (fun _ => Straight) := by
  unfold Scene.addMarker
  apply Ends.bind
  refine (get_ends s p).imp ?_ (fun _ _ e => e ▸ h)
  rintro node _ ⟨rfl, e⟩
  apply Ends.bind
  refine Ends.modifyGet (Ends.bind ?_)
  refine ((h.addNode "link" ⟨node, e⟩).setWorld hw _).imp ?_ (fun _ _ => id)
  rintro _ _ ⟨frame, -, straight, -⟩
  exact Ends.pure straight

/-- A node that is moved under another one stays where it is, and so does everything else. -/
lemma reparent (h : s.Straight) (n p : NodeId) :
    Ends (Scene.reparent n p) s
      (fun _ t => s.Live n ∧ s.Live p ∧ (∃ f v, s.worldOf p = .ok f ∧ f.inverse? = some v) ∧
        (∃ frame, t = (s.relink n p).setFrame n frame) ∧ t.Straight ∧
        ∀ m, t.worldOf m = s.worldOf m)
      (fun _ => Straight) := by
  refine (Ends.itself.and (reparent_ends s n p)).imp ?_ ?_
  · rintro _ t ⟨run, hn, hp, ha, -⟩
    have apart : ¬ s.Under p n := by
      rw [← h.wellFormed.isAncestor_iff, ha]
      exact Bool.false_ne_true
    obtain ⟨f, hf⟩ := h.wellFormed.worldOf_ok hp
    obtain ⟨g, hg⟩ := h.wellFormed.worldOf_ok hn
    rw [reparent_apart h.wellFormed hn hp apart hf hg] at run
    cases inverse : f.inverse? with
    | none =>
      rw [inverse] at run
      cases run
    | some v =>
      rw [inverse] at run
      cases run
      have frame := (Matrix4.affine_inverse? inverse).mul
        (h.wellFormed.affine_worldOf h.affine hg)
      exact ⟨hn, hp, ⟨f, v, hf, inverse⟩, ⟨_, rfl⟩, (h.relink hn hp apart).setFrame frame n,
        h.wellFormed.worldOf_replaced h.affine hn hp apart hf hg inverse⟩
  · rintro f t ⟨-, rfl | ⟨hn, hp, ha, rfl⟩⟩
    · exact h
    · refine h.relink hn hp ?_
      rw [← h.wellFormed.isAncestor_iff, ha]
      exact Bool.false_ne_true

end Straight

end SceneGrammar.Scene
