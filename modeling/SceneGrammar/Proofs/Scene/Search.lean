import SceneGrammar.Proofs.Scene.Keep
import SceneGrammar.Proofs.Scene.Walks

/-!
# Searches end

Searches, copies and moves follow children and parents under a bound. A scene is `Searchable` if every
greater bound comes to the same, so that following them without any bound would as well. Forests are
(`WellFormed.searchable`).
-/

namespace SceneGrammar.Scene

variable {α : Type} {b : Scene α}

/-- A greater bound copies no more of what is below a node, whatever was copied before. -/
lemma copyUnder_bound (hb : b.WellFormed) {bound bound' : Nat} (hle : bound ≤ bound')
    (source : NodeId) (parent : Option NodeId) (hl : b.Live source) (hw : b.weight source ≤ bound)
    (t : Scene α) (hlast : b.lastId ≤ t.lastId) (hold : ∀ m ≤ b.lastId, t.node? m = b.node? m) :
    copyUnder bound' source parent t = copyUnder bound source parent t := by
  induction bound generalizing bound' source parent t with
  | zero => exact absurd (weight_pos hl) (by lia)
  | succ bound ih =>
    obtain ⟨bound', rfl⟩ := Nat.exists_eq_add_of_le' (Nat.le_trans (Nat.succ_pos bound) hle)
    obtain ⟨node, e⟩ := hl
    have et : t.node? source = some node := (hold source (le_lastId_of_node? e)).trans e
    have hleaf := sprouts_leaf t { node with parent, children := [], source := some source } rfl
    unfold copyUnder
    refine bind_eq rfl (Ends.of_ok (get_eq et) ?_)
    refine bind_eq rfl (Ends.modifyGet ?_)
    refine bind_left_eq (forM_eq (I := fun u => Sprouts t u (t.lastId + 1) parent) hleaf ?_)
    intro child hc u hu
    -- A child is copied in a scene with more nodes, but what there is to copy is the same as in `b`.
    have hc : child ∈ b.children source := by rwa [children_eq e]
    have hwc := hb.weight_child_lt hc
    have hlive := hb.live_child hc
    have hlast : b.lastId ≤ u.lastId := Nat.le_of_lt (Nat.lt_of_le_of_lt hlast hu.lastId_lt)
    have hold : ∀ m ≤ b.lastId, u.node? m = b.node? m := by
      intro m hm
      exact (hu.old m (by lia)).trans (hold m hm)
    constructor
    · exact bind_left_eq (ih (by lia) child _ hlive (by lia) u hlast hold)
    · have hcopy := copyUnder_ends hb bound' child (some (t.lastId + 1)) hlive (by lia) u hlast hold
      exact (hu.list hcopy).imp (fun _ _ => id) (fun _ _ => False.elim)

/-- A greater bound moves no more of what is below a node. -/
lemma moveAllWithin_bound [Scalar α] (hb : b.WellFormed) {origin target : Option String}
    {bound bound' : Nat} (hle : bound ≤ bound') (n : NodeId) (hw : b.weight n < bound) (t : Scene α)
    (ht : t.children = b.children) :
    Host.moveAllWithin bound' n origin target t = Host.moveAllWithin bound n origin target t := by
  have moved : ∀ n (t : Scene α), t.children = b.children →
      Ends (Host.moveTo n origin target) t (fun _ u => u.children = b.children)
        (fun _ u => u.children = b.children) := by
    intro n t ht
    refine (update_ends t n _).imp ?_ ?_
    · rintro _ _ ⟨-, rfl⟩
      rw [← ht]
      exact funext (children_modifyNode_of (by simp) t n)
    · rintro _ _ rfl
      exact ht
  induction bound generalizing bound' n t with
  | zero => exact absurd hw (Nat.not_lt_zero _)
  | succ bound ih =>
    obtain ⟨bound', rfl⟩ := Nat.exists_eq_add_of_le' (Nat.le_trans (Nat.succ_pos bound) hle)
    unfold Host.moveAllWithin
    refine bind_eq rfl ((moved n t ht).imp ?_ (fun _ _ _ => trivial))
    intro _ u hu
    refine bind_eq rfl (Ends.of_ok (b := u) (t := u) rfl ?_)
    refine forM_eq (I := fun v => v.children = b.children) hu fun child hc v hv => ?_
    have hwc : b.weight child < b.weight n := hb.weight_child_lt (hu ▸ hc)
    constructor
    · exact ih (by lia) child (by lia) v hv
    · exact (Host.moveAllWithin_ends (N := fun _ => True) (fun n s _ => moved n s)
        (fun _ _ _ _ _ _ => trivial) bound' child v trivial hv).imp (fun _ _ => id)
        (fun _ _ _ => trivial)

/-- No search, copy or move through the scene is cut off by its bound. -/
structure Searchable [Scalar α] (s : Scene α) : Prop where
  descendants : ∀ n bound, s.lastId ≤ bound →
    Walk.preorder s.children bound (s.children n) = s.descendants n
  /-- The search for what is removed with a node, which its parent does not list any more then. -/
  removed : ∀ n bound, s.lastId ≤ bound →
    Walk.preorder (s.unlist n).children bound ((s.unlist n).children n)
      = (s.unlist n).descendants n
  tagged : ∀ tag accept n bound, s.lastId ≤ bound →
    Walk.tagged s.children tag accept bound (s.children n)
      = Walk.tagged s.children tag accept s.lastId (s.children n)
  isAncestor : ∀ a n bound, s.lastId < bound →
    Walk.leadsTo s.parent? a bound n = s.isAncestor a n
  world : ∀ n bound, s.lastId < bound → s.worldWithin bound n = s.worldOf n
  copy : ∀ n parent bound, s.lastId < bound →
    copyUnder bound n parent s = copyUnder (s.lastId + 1) n parent s
  move : ∀ n origin target bound, s.lastId < bound →
    Host.moveAllWithin bound n origin target s = Host.moveAll n origin target s

/-- No search through a forest is cut off. -/
theorem WellFormed.searchable [Scalar α] {s : Scene α} (h : s.WellFormed) : s.Searchable where
  descendants n bound hb :=
    h.preorder_bound hb _ (fun _ hc => h.live_child hc) (h.weight_children_le_lastId n)
  removed n bound hb := by
    rw [h.preorder_unlist, h.descendants_unlist]
    exact h.preorder_bound hb _ (fun _ hc => h.live_child hc) (h.weight_children_le_lastId n)
  tagged tag accept n bound hb :=
    h.tagged_bound tag accept hb _ (fun _ hc => h.live_child hc) (h.weight_children_le_lastId n)
  isAncestor a n bound hb := h.leadsTo_bound hb
  world n bound hb := h.worldWithin_bound n hb (Nat.lt_succ_of_le (s.rank_le_lastId n))
  copy n parent bound hb := by
    by_cases hn : s.Live n
    · have hw := Nat.le_succ_of_le (s.weight_le_lastId n)
      exact copyUnder_bound h hb n parent hn hw s (Nat.le_refl _) fun _ _ => rfl
    · obtain ⟨bound, rfl⟩ := Nat.exists_eq_add_of_le' (Nat.le_trans (Nat.succ_pos _) hb)
      -- There is nothing to copy, which both find out before they look at children.
      have hget : get n s = .error (.unknownNode n) s := by
        cases e : s.node? n with
        | some node => exact absurd ⟨node, e⟩ hn
        | none => simp [get, e]
      simp only [copyUnder, Bind.bind, EStateM.bind, hget]
  move n origin target bound hb :=
    moveAllWithin_bound h hb n (Nat.lt_succ_of_le (s.weight_le_lastId n)) s rfl

end SceneGrammar.Scene
