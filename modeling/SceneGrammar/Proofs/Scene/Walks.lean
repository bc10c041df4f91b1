import SceneGrammar.Proofs.Scene.Forest

/-!
# Searches through forests

On a well-formed scene a search finds what it is meant to find: `mem_descendants_iff` and
`isAncestor_iff`. The bounds that searches carry are of no consequence there: with a greater bound the
answer is the same (`preorder_bound`, `tagged_bound`, `leadsTo_bound`, `worldWithin_bound`).
-/

namespace SceneGrammar.Scene

variable {α : Type} {s : Scene α} {n m a : NodeId}

namespace WellFormed

/-- What is under a node is the node, or under a child of it. -/
lemma under_iff (h : s.WellFormed) : s.Under m n ↔ m = n ∨ ∃ c ∈ s.children n, s.Under m c := by
  constructor
  · intro hu
    cases hu with
    | refl => exact .inl rfl
    | tail hu e => exact .inr ⟨_, h.listed e, hu⟩
  · rintro (rfl | ⟨c, hc, hu⟩)
    · exact .refl
    · exact hu.tail (h.named hc)

/-! ## Searches downwards -/

/-- A visit makes the waiting nodes lighter. -/
lemma weight_visit_le (h : s.WellFormed) {waiting : List NodeId} {bound : Nat} (hn : s.Live n)
    (hb : ((n :: waiting).map s.weight).sum ≤ bound + 1) :
    ((s.children n ++ waiting).map s.weight).sum ≤ bound := by
  have hc := h.weight_children_lt hn
  simp only [List.map_cons, List.sum_cons, List.map_append, List.sum_append] at hb ⊢
  omega

lemma live_visit (h : s.WellFormed) {waiting : List NodeId} (hl : ∀ w ∈ n :: waiting, s.Live w) :
    ∀ w ∈ s.children n ++ waiting, s.Live w := by
  intro w hw
  cases List.mem_append.mp hw with
  | inl hw => exact h.live_child hw
  | inr hw => exact hl w (List.mem_cons_of_mem n hw)

/-- Waiting nodes that weigh nothing are none. -/
lemma not_light {waiting : List NodeId} (hl : ∀ w ∈ n :: waiting, s.Live w) :
    ¬ ((n :: waiting).map s.weight).sum ≤ 0 := by
  have hn := weight_pos (hl n List.mem_cons_self)
  simp only [List.map_cons, List.sum_cons]
  omega

/-- A search that is long enough visits what is under the waiting nodes. -/
lemma mem_preorder_iff (h : s.WellFormed) (bound : Nat) (waiting : List NodeId)
    (hl : ∀ w ∈ waiting, s.Live w) (hb : (waiting.map s.weight).sum ≤ bound) :
    m ∈ Walk.preorder s.children bound waiting ↔ ∃ w ∈ waiting, s.Under m w := by
  induction bound generalizing waiting with
  | zero =>
    cases waiting with
    | nil => simp [Walk.preorder]
    | cons n waiting => exact absurd hb (not_light hl)
  | succ bound ih =>
    cases waiting with
    | nil => simp [Walk.preorder]
    | cons n waiting =>
      have hn := hl n List.mem_cons_self
      -- The visit costs one of the bound, and the children of `n`, which wait in its place, weigh less.
      have key := ih (s.children n ++ waiting) (h.live_visit hl) (h.weight_visit_le hn hb)
      rw [Walk.preorder, List.mem_cons, key]
      constructor
      · rintro (rfl | ⟨w, hw, hu⟩)
        · exact ⟨m, List.mem_cons_self, .refl⟩
        · cases List.mem_append.mp hw with
          | inl hw => exact ⟨n, List.mem_cons_self, hu.tail (h.named hw)⟩
          | inr hw => exact ⟨w, List.mem_cons_of_mem n hw, hu⟩
      · rintro ⟨w, hw, hu⟩
        cases List.mem_cons.mp hw with
        | inl e =>
          subst e
          refine (h.under_iff.mp hu).imp id ?_
          rintro ⟨c, hc, hu⟩
          exact ⟨c, List.mem_append_left waiting hc, hu⟩
        | inr hw => exact .inr ⟨w, List.mem_append_right _ hw, hu⟩

/-- What is found below a node is what is strictly under it. -/
theorem mem_descendants_iff (h : s.WellFormed) :
    m ∈ s.descendants n ↔ ∃ c ∈ s.children n, s.Under m c :=
  h.mem_preorder_iff _ _ (fun _ hw => h.live_child hw) (h.weight_children_le_lastId n)

/-- Removing a node and all below it removes what is under it. -/
lemma mem_removed_iff (h : s.WellFormed) : m ∈ s.descendants n ++ [n] ↔ s.Under m n := by
  rw [List.mem_append, h.mem_descendants_iff, List.mem_singleton, h.under_iff]
  exact or_comm

/-- A greater bound finds nothing more below nodes. -/
lemma preorder_bound (h : s.WellFormed) {bound bound' : Nat} (hle : bound ≤ bound')
    (waiting : List NodeId) (hl : ∀ w ∈ waiting, s.Live w)
    (hb : (waiting.map s.weight).sum ≤ bound) :
    Walk.preorder s.children bound' waiting = Walk.preorder s.children bound waiting := by
  induction bound generalizing bound' waiting with
  | zero =>
    cases waiting with
    | nil => cases bound' <;> rfl
    | cons n waiting => exact absurd hb (not_light hl)
  | succ bound ih =>
    obtain ⟨bound', rfl⟩ := Nat.exists_eq_add_of_le' (Nat.le_trans (Nat.succ_pos bound) hle)
    cases waiting with
    | nil => rfl
    | cons n waiting =>
      have hn := hl n List.mem_cons_self
      rw [Walk.preorder, Walk.preorder,
        ih (Nat.le_of_succ_le_succ hle) _ (h.live_visit hl) (h.weight_visit_le hn hb)]

/-- A greater bound finds no more tags below nodes. -/
lemma tagged_bound (h : s.WellFormed) (tag : NodeId → Option String) (accept : String → Bool)
    {bound bound' : Nat} (hle : bound ≤ bound') (waiting : List NodeId)
    (hl : ∀ w ∈ waiting, s.Live w) (hb : (waiting.map s.weight).sum ≤ bound) :
    Walk.tagged s.children tag accept bound' waiting =
      Walk.tagged s.children tag accept bound waiting := by
  induction bound generalizing bound' waiting with
  | zero =>
    cases waiting with
    | nil => cases bound' <;> rfl
    | cons n waiting => exact absurd hb (not_light hl)
  | succ bound ih =>
    obtain ⟨bound', rfl⟩ := Nat.exists_eq_add_of_le' (Nat.le_trans (Nat.succ_pos bound) hle)
    cases waiting with
    | nil => rfl
    | cons n waiting =>
      have hn := hl n List.mem_cons_self
      have hle := Nat.le_of_succ_le_succ hle
      rw [Walk.tagged, Walk.tagged]
      cases tag n with
      | some t =>
        -- What is below a tagged node is passed over.
        have hw : (waiting.map s.weight).sum ≤ bound := by
          have hc := weight_pos hn
          simp only [List.map_cons, List.sum_cons] at hb
          omega
        rw [ih hle waiting (fun w hw => hl w (List.mem_cons_of_mem n hw)) hw]
      | none => exact ih hle _ (h.live_visit hl) (h.weight_visit_le hn hb)

/-! ## Searches upwards -/

/-- A node is under itself and under what its parent is under. -/
lemma under_head_iff : s.Under n a ↔ n = a ∨ ∃ p, s.parent? n = some p ∧ s.Under p a :=
  Relation.ReflTransGen.cases_head_iff

end WellFormed

namespace Acyclic

/-- A chain of parents that is long enough leads to what a node is under. -/
lemma leadsTo_iff (h : s.Acyclic) {bound : Nat} (n : NodeId) (hb : s.rank n < bound) :
    Walk.leadsTo s.parent? a bound n = true ↔ s.Under n a := by
  induction bound generalizing n with
  | zero => exact absurd hb (Nat.not_lt_zero _)
  | succ bound ih =>
    rw [Walk.leadsTo, WellFormed.under_head_iff]
    by_cases e : n = a
    · simp [e]
    · rw [if_neg e]
      cases hp : s.parent? n with
      | none => simp [e]
      | some p =>
        have hr := h.rank_parent_lt hp
        simpa [e, hp] using ih p (by omega)

/-- A node is an ancestor of what is under it. -/
lemma isAncestor_iff (h : s.Acyclic) : s.isAncestor a n = true ↔ s.Under n a :=
  h.leadsTo_iff n (Nat.lt_of_le_of_lt (s.rank_le_lastId n) (by omega))

variable [Scalar α]

/-- A greater bound does not change the product of the frames. -/
lemma worldWithin_bound (h : s.Acyclic) {bound bound' : Nat} (n : NodeId)
    (hle : bound ≤ bound') (hb : s.rank n < bound) :
    s.worldWithin bound' n = s.worldWithin bound n := by
  induction bound generalizing bound' n with
  | zero => exact absurd hb (Nat.not_lt_zero _)
  | succ bound ih =>
    obtain ⟨bound', rfl⟩ := Nat.exists_eq_add_of_le' (Nat.le_trans (Nat.succ_pos bound) hle)
    unfold worldWithin
    cases e : s.node? n with
    | none => rfl
    | some node =>
      dsimp only
      cases hp : node.parent with
      | none => rfl
      | some p =>
        have hr := h.rank_parent_lt ((parent?_eq e).trans hp)
        dsimp only
        rw [ih p (Nat.le_of_succ_le_succ hle) (by omega)]

end Acyclic

namespace WellFormed

/-- A node is an ancestor of what is under it. -/
theorem isAncestor_iff (h : s.WellFormed) : s.isAncestor a n = true ↔ s.Under n a :=
  Acyclic.isAncestor_iff h.acyclic

/-- A greater bound leads to no more ancestors. -/
lemma leadsTo_bound (h : s.WellFormed) {bound : Nat} (hb : s.lastId < bound) :
    Walk.leadsTo s.parent? a bound n = s.isAncestor a n := by
  rw [Bool.eq_iff_iff, h.isAncestor_iff,
    Acyclic.leadsTo_iff h.acyclic n (Nat.lt_of_le_of_lt (s.rank_le_lastId n) hb)]

/-- A greater bound does not change the product of the frames. -/
lemma worldWithin_bound [Scalar α] (h : s.WellFormed) {bound bound' : Nat} (n : NodeId)
    (hle : bound ≤ bound') (hb : s.rank n < bound) :
    s.worldWithin bound' n = s.worldWithin bound n :=
  Acyclic.worldWithin_bound h.acyclic n hle hb

/-- A node is where its frame takes the place of its parent. -/
lemma worldOf_eq [Scalar α] (h : s.WellFormed) {node : Node α} (e : s.node? n = some node) :
    s.worldOf n = (s.parentWorldOf node).map (· * node.frame) := by
  unfold worldOf worldWithin parentWorldOf
  rw [e]
  dsimp only
  cases hp : node.parent with
  | none => rfl
  | some p =>
    have hr := h.rank_parent_lt ((parent?_eq e).trans hp)
    have hl := s.rank_le_lastId n
    dsimp only
    rw [worldOf, h.worldWithin_bound p (Nat.le_succ s.lastId) (by omega)]

/-- Nodes whose images have the same frames, below the images of their parents, are where their images
are, if those are that have other frames or parents. -/
lemma worldOf_image [Scalar α] {t : Scene α} (hs : s.WellFormed) (ht : t.WellFormed)
    {f : NodeId → NodeId} {S : NodeId → Prop}
    (image : ∀ m, S m → t.worldOf (f m) = s.worldOf m ∨
      ∃ node node', s.node? m = some node ∧ t.node? (f m) = some node' ∧
        node'.frame = node.frame ∧ node'.parent = node.parent.map f ∧
        ∀ p, node.parent = some p → S p)
    (hn : S n) : t.worldOf (f n) = s.worldOf n := by
  induction n using hs.downwards with
  | step n ih =>
    obtain there | ⟨node, node', e, e', frame, parent, above⟩ := image n hn
    · exact there
    · rw [hs.worldOf_eq e, ht.worldOf_eq e', frame]
      unfold parentWorldOf
      rw [parent]
      cases hp : node.parent with
      | none => rfl
      | some p =>
        dsimp only [Option.map_some]
        rw [ih p ((parent?_eq e).trans hp) (above p hp)]

end WellFormed

end SceneGrammar.Scene
