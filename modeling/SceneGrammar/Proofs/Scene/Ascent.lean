import SceneGrammar.Proofs.Scene.History

/-!
# The way up

From every node of a scene, parents lead to a node that has none, or to a number without a node. A node
may be added under a number that is not given yet, though, and the change that gives this number may
close a loop; from there the way up never ends. `applyAll_grounded_iff` says that there is no other way
to build a scene in which it does not, and that in all others the searches along parents are answered.
-/

namespace SceneGrammar

namespace Scene

variable {α : Type} {s t u : Scene α} {n m p q : NodeId} {parent : Option NodeId}

/-! ## Following parents -/

/-- So many steps lead from a node to one that has no parent or is not there. -/
def Climbs (s : Scene α) : Nat → NodeId → Prop
  | 0, n => s.parent? n = none
  | k + 1, n => ∃ p, s.parent? n = some p ∧ s.Climbs k p

/-- Following parents ends, wherever it begins. -/
def Grounded (s : Scene α) : Prop := ∀ n, ∃ k, s.Climbs k n

/-- What is passed on the way up is nearer to its end. -/
lemma Climbs.above {k : Nat} (h : s.Climbs k n) (hu : Relation.TransGen s.ParentOf n m) :
    ∃ j < k, s.Climbs j m := by
  have step : ∀ {k n p}, s.Climbs k n → s.parent? n = some p → ∃ j < k, s.Climbs j p := by
    intro k n p h e
    cases k with
    | zero => cases e.symm.trans h
    | succ k =>
      obtain ⟨p', e', h⟩ := h
      obtain rfl := Option.some.inj (e.symm.trans e')
      exact ⟨k, Nat.lt_succ_self k, h⟩
  induction hu with
  | single e => exact step h e
  | tail _ e ih =>
    obtain ⟨j, hj, h⟩ := ih
    obtain ⟨i, hi, h⟩ := step h e
    exact ⟨i, Nat.lt_trans hi hj, h⟩

/-- Without a loop, the way up is at most as long as the node ranks. -/
lemma Acyclic.climbs (h : s.Acyclic) (n : NodeId) : ∃ k ≤ s.rank n, s.Climbs k n := by
  induction hr : s.rank n using Nat.strong_induction_on generalizing n with
  | _ r ih =>
    cases e : s.parent? n with
    | none => exact ⟨0, Nat.zero_le r, e⟩
    | some p =>
      have hlt := h.rank_parent_lt e
      obtain ⟨k, hk, hp⟩ := ih (s.rank p) (hr ▸ hlt) p rfl
      exact ⟨k + 1, by lia, p, e, hp⟩

/-- From a loop the way up does not end. -/
lemma Climbs.not_loop {k : Nat} (h : s.Climbs k n) : ¬ Relation.TransGen s.ParentOf n n := by
  intro loop
  induction k using Nat.strong_induction_on with
  | _ k ih =>
    obtain ⟨j, hj, h⟩ := h.above loop
    exact ih j hj h

/-- The way up ends everywhere just where there is no loop. -/
lemma grounded_iff_acyclic : s.Grounded ↔ s.Acyclic := by
  constructor
  · intro h n
    obtain ⟨k, hk⟩ := h n
    exact hk.not_loop
  · intro h n
    obtain ⟨k, -, hk⟩ := h.climbs n
    exact ⟨k, hk⟩

/-! ## New nodes -/

/-- The new nodes are below the first of them, which claims a parent. -/
structure Adds (s t : Scene α) (parent : Option NodeId) : Prop where
  lastId : s.lastId ≤ t.lastId
  old : ∀ m ≤ s.lastId, t.parent? m = s.parent? m
  first : s.lastId < t.lastId → t.parent? (s.lastId + 1) = parent
  above : ∀ m, s.lastId + 1 < m → m ≤ t.lastId → ∃ q, s.lastId < q ∧ q < m ∧ t.parent? m = some q

/-- A scene with no new nodes. -/
lemma Adds.refl (s : Scene α) (parent : Option NodeId) : s.Adds s parent where
  lastId := Nat.le_refl _
  old _ _ := rfl
  first h := absurd h (Nat.lt_irrefl _)
  above m h hle := absurd hle (by lia)

/-- A node without children. -/
lemma adds_pushNode (s : Scene α) (node : Node α) : s.Adds (s.pushNode node) node.parent where
  lastId := by simp
  old m hm := by rw [parent?_pushNode, if_neg (by lia)]
  first _ := by rw [parent?_pushNode, if_pos rfl]
  above m h hle := absurd hle (by simp; lia)

namespace Adds

/-- What leaves all parents as they are adds nothing else. -/
lemma congr (h : Adds s t parent) (hl : u.lastId = t.lastId) (hp : ∀ m, u.parent? m = t.parent? m) :
    Adds s u parent where
  lastId := hl ▸ h.lastId
  old m hm := (hp m).trans (h.old m hm)
  first hlt := (hp _).trans (h.first (hl ▸ hlt))
  above m hm hle := by
    rw [hp]
    exact h.above m hm (hl ▸ hle)

/-- A change that leaves parents leaves new nodes where they are. -/
lemma modifyNode (h : Adds s t parent) {f : Node α → Node α}
    (hf : ∀ node, (f node).parent = node.parent) (n : NodeId) : Adds s (t.modifyNode n f) parent :=
  h.congr (lastId_modifyNode t n f) (parent?_modifyNode_of hf t n)

/-- Nodes that are added under the first one. -/
lemma graft (h : Adds s t parent) (hlt : s.lastId < t.lastId) (k : Adds t u (some (s.lastId + 1))) :
    Adds s u parent where
  lastId := Nat.le_trans h.lastId k.lastId
  old m hm := (k.old m (Nat.le_trans hm h.lastId)).trans (h.old m hm)
  first _ := (k.old _ hlt).trans (h.first hlt)
  above m hm hle := by
    by_cases hmt : m ≤ t.lastId
    · rw [k.old m hmt]
      exact h.above m hm hmt
    · by_cases hmf : m = t.lastId + 1
      · subst hmf
        exact ⟨s.lastId + 1, by lia, hm, k.first (by lia)⟩
      · obtain ⟨q, hq, hqm, e⟩ := k.above m (by lia) hle
        exact ⟨q, by lia, hqm, e⟩

section
variable (h : Adds s t parent)
include h

/-- Every new node is below the first one. -/
lemma under_first (hm : s.lastId < m) (hle : m ≤ t.lastId) : t.Under m (s.lastId + 1) := by
  induction m using Nat.strong_induction_on with
  | _ m ih =>
    by_cases e : m = s.lastId + 1
    · exact e ▸ .refl
    · obtain ⟨q, hq, hqm, e⟩ := h.above m (by lia) hle
      exact .head e (ih q hqm hq (by lia))

/-- Parents lead where they led among the old nodes. -/
lemma under_old (hu : s.Under n m) : t.Under n m :=
  Relation.ReflTransGen.mono (fun _ _ e => (h.old _ (live_of_parent? e).le_lastId).trans e) _ _ hu

/-- A way up is an old one, or begins with an old one that leads to the number of a new node. -/
lemma meets (hu : t.Under n m) :
    s.Under n m ∨ ∃ q, s.lastId < q ∧ q ≤ t.lastId ∧ s.Under n q ∧ t.Under q m := by
  induction hu using Relation.ReflTransGen.head_induction_on with
  | refl => exact .inl .refl
  | @head n c e hu ih =>
    by_cases hn : n ≤ s.lastId
    · have e : s.ParentOf n c := (h.old n hn).symm.trans e
      refine ih.imp (.head e) ?_
      rintro ⟨q, hq, hle, hcq, hqm⟩
      exact ⟨q, hq, hle, .head e hcq, hqm⟩
    · exact .inr ⟨n, Nat.lt_of_not_le hn, (live_of_parent? e).le_lastId, .refl, .head e hu⟩

/-- From a new node the way leads to those that were added before, or past the parent of the first. -/
lemma out (hn : s.lastId < n) (hu : Relation.TransGen t.ParentOf n m) :
    s.lastId < m ∧ m < n ∨ ∃ p, parent = some p ∧ t.Under p m := by
  have step : ∀ {n m}, s.lastId < n → t.parent? n = some m →
      s.lastId < m ∧ m < n ∨ parent = some m := by
    intro n m hn e
    have hle := (live_of_parent? e).le_lastId
    by_cases hnf : n = s.lastId + 1
    · subst hnf
      exact .inr ((h.first (by lia)).symm.trans e)
    · obtain ⟨q, hq, hqn, e'⟩ := h.above n (by lia) hle
      obtain rfl := Option.some.inj (e'.symm.trans e)
      exact .inl ⟨hq, hqn⟩
  induction hu with
  | single e => exact (step hn e).imp_right fun e => ⟨_, e, .refl⟩
  | tail _ e ih =>
    cases ih with
    | inl ih =>
      refine (step ih.1 e).imp ?_ fun e => ⟨_, e, .refl⟩
      exact fun h => ⟨h.1, Nat.lt_trans h.2 ih.2⟩
    | inr ih =>
      obtain ⟨p, ep, hp⟩ := ih
      exact .inr ⟨p, ep, hp.tail e⟩

/-- New nodes close a loop just where the parent of the first of them led to one of their numbers. -/
theorem acyclic_iff (hs : s.Acyclic) :
    t.Acyclic ↔ ¬ ∃ p m, parent = some p ∧ s.Under p m ∧ s.lastId < m ∧ m ≤ t.lastId := by
  constructor
  · rintro ht ⟨p, m, e, hu, hm, hle⟩
    have up : t.parent? (s.lastId + 1) = some p := (h.first (by lia)).trans e
    exact ht _ (.head' up ((h.under_old hu).trans (h.under_first hm hle)))
  · intro open_
    have new : ∀ m, s.lastId < m → ¬ Relation.TransGen t.ParentOf m m := by
      intro m hm hu
      obtain ⟨x, ex, -⟩ := Relation.TransGen.head'_iff.mp hu
      have hle := (live_of_parent? ex).le_lastId
      obtain hlt | ⟨p, e, hp⟩ := h.out hm hu
      · exact Nat.lt_irrefl m hlt.2
      · obtain hp | ⟨q, hq, hqle, hpq, -⟩ := h.meets hp
        · exact open_ ⟨p, m, e, hp, hm, hle⟩
        · exact open_ ⟨p, q, e, hpq, hq, hqle⟩
    intro n hn
    by_cases hle : n ≤ s.lastId
    · -- A loop through an old node is an old one, or it passes a new node.
      obtain ⟨c, ec, hc⟩ := Relation.TransGen.head'_iff.mp hn
      obtain hc | ⟨q, hq, -, hcq, hqn⟩ := h.meets hc
      · exact hs n (.head' ((h.old n hle).symm.trans ec) hc)
      · exact new q hq (.trans_right hqn (.head' ec (h.under_old hcq)))
    · exact new n (Nat.lt_of_not_le hle) hn

end

end Adds

/-- Copies are below the first of them. -/
lemma copyUnder_adds (bound : Nat) (source : NodeId) (parent : Option NodeId) (s : Scene α) :
    Ends (copyUnder bound source parent) s (fun _ t => Adds s t parent) (fun _ t => Adds s t parent) := by
  induction bound generalizing source parent s with
  | zero => exact Ends.throw (.refl s parent)
  | succ bound ih =>
    unfold copyUnder
    apply Ends.bind
    refine (get_ends s source).imp ?_ (fun _ _ e => e ▸ .refl s parent)
    rintro node s ⟨rfl, -⟩
    apply Ends.bind
    refine Ends.modifyGet ?_
    have hfirst := adds_pushNode s { node with parent, children := [], source := some source }
    apply Ends.bind
    refine Ends.imp (Ends.forM (I := fun t => Adds s t parent ∧ s.lastId < t.lastId) ⟨hfirst, by simp⟩ ?_)
      (fun _ _ h => Ends.pure h.1) (fun _ _ => id)
    rintro child - t ⟨ht, hlt⟩
    apply Ends.bind
    refine (ih child (some (s.lastId + 1)) t).imp ?_ (fun _ _ => ht.graft hlt)
    intro copy u hu
    have grafted : Adds s u parent := ht.graft hlt hu
    refine (update_ends u _ _).imp ?_ (fun _ _ e => e ▸ grafted)
    rintro _ _ ⟨-, rfl⟩
    exact ⟨grafted.modifyNode (by simp) _, by simpa using Nat.lt_of_lt_of_le hlt hu.lastId⟩

/-- A copy comes under the parent of its original, even if it ends half way. -/
lemma duplicate_adds (s : Scene α) (n : NodeId) :
    Ends (duplicate n) s (fun _ t => Adds s t (s.parent? n)) (fun _ t => Adds s t (s.parent? n)) := by
  unfold duplicate
  apply Ends.bind
  refine (get_ends s n).imp ?_ (fun _ _ e => e ▸ .refl s _)
  rintro node _ ⟨rfl, e⟩
  rw [parent?_eq e]
  apply Ends.get
  apply Ends.bind
  refine (copyUnder_adds _ n node.parent _).imp ?_ (fun _ _ => id)
  intro copy t ht
  cases e' : node.parent with
  | none => exact Ends.pure (e' ▸ ht)
  | some p =>
    rw [e'] at ht
    apply Ends.bind
    refine (update_ends t p _).imp ?_ (fun _ _ e => e ▸ ht)
    rintro _ _ ⟨-, rfl⟩
    exact Ends.pure (ht.modifyNode (by simp) _)

variable [Scalar α]

/-- A new node comes under its parent. -/
lemma addNode_adds (s : Scene α) (name : String) (parent : Option NodeId) :
    Adds s (s.addNode name parent).2 parent := by
  have pushed : Adds s (s.pushNode _) parent :=
    adds_pushNode s { Node.new name with parent, container := parent.bind s.container? }
  unfold addNode
  cases parent with
  | none => exact pushed
  | some p =>
    dsimp only
    split
    · exact pushed.modifyNode (by simp) p
    · exact pushed

/-- A marker comes under its parent, even if it cannot be placed. -/
lemma addMarker_adds (s : Scene α) (world : Matrix4 α) (p : NodeId) :
    Ends (addMarker world p) s (fun _ t => Adds s t (some p)) (fun _ t => Adds s t (some p)) := by
  have added := addNode_adds s "link" (some p)
  refine (addMarker_ends s world p).imp ?_ ?_
  · rintro _ _ ⟨-, -, frame, rfl⟩
    exact added.modifyNode (by simp) _
  · rintro _ _ (rfl | ⟨-, rfl⟩)
    · exact .refl _ _
    · exact added

/-! ## Other changes -/

omit [Scalar α] in
/-- What takes parents away only closes no loop. -/
lemma Acyclic.of_parents (hs : s.Acyclic) (h : ∀ m p, t.parent? m = some p → s.parent? m = some p) :
    t.Acyclic :=
  fun n hn => hs n (Relation.TransGen.mono h _ _ hn)

omit [Scalar α] in
/-- A change that leaves parents closes no loop. -/
lemma Acyclic.modifyNode (hs : s.Acyclic) {f : Node α → Node α}
    (hf : ∀ node, (f node).parent = node.parent) (n : NodeId) : (s.modifyNode n f).Acyclic :=
  hs.of_parents fun m _ e => (parent?_modifyNode_of hf s n m).symm.trans e

omit [Scalar α] in
/-- A new collection closes no loop. -/
lemma Acyclic.addCollection (hs : s.Acyclic) (name : String) : (s.addCollection name).Acyclic := by
  unfold Scene.addCollection
  split
  · exact hs
  · exact hs.of_parents fun _ _ => id

omit [Scalar α] in
/-- An update that leaves parents closes no loop. -/
lemma Acyclic.update (hs : s.Acyclic) {f : Node α → Node α}
    (hf : ∀ node, (f node).parent = node.parent) (n : NodeId) :
    Ends (Scene.update n f) s (fun _ => Acyclic) (fun _ => Acyclic) := by
  refine (update_ends s n f).imp ?_ (fun _ _ e => e ▸ hs)
  rintro _ _ ⟨-, rfl⟩
  exact hs.modifyNode hf n

omit [Scalar α] in
/-- Taking nodes out closes no loop. -/
lemma Acyclic.vacate (hs : s.Acyclic) (l : List NodeId) : (s.vacate l).Acyclic := by
  refine hs.of_parents fun m p e => ?_
  unfold Scene.parent? at e ⊢
  rw [node?_vacate] at e
  split at e
  · cases e
  · exact e

omit [Scalar α] in
/-- A removal closes no loop. -/
lemma Acyclic.remove (hs : s.Acyclic) (n : NodeId) :
    Ends (Scene.remove n) s (fun _ => Acyclic) (fun _ => Acyclic) := by
  unfold Scene.remove
  apply Ends.bind
  refine (get_ends s n).imp ?_ (fun _ _ e => e ▸ hs)
  rintro node s ⟨rfl, -⟩
  cases node.parent with
  | none => exact Ends.modify (hs.vacate _)
  | some p =>
    apply Ends.bind
    refine (hs.update (by simp) p).imp ?_ (fun _ _ => id)
    exact fun _ t ht => Ends.modify (ht.vacate _)

/-- A node that may move closes no loop, and one that may not stays. -/
lemma Acyclic.reparent (hs : s.Acyclic) (n p : NodeId) :
    Ends (Scene.reparent n p) s (fun _ => Acyclic) (fun _ => Acyclic) := by
  have moved : s.Live n → s.isAncestor n p = false → (s.relink n p).Acyclic := by
    intro hn ha
    refine hs.relink hn fun hu => ?_
    rw [hs.isAncestor_iff.mpr hu] at ha
    cases ha
  refine (reparent_ends s n p).imp ?_ ?_
  · rintro _ _ ⟨hn, -, ha, frame, rfl⟩
    exact (moved hn ha).modifyNode (by simp) n
  · rintro _ _ (rfl | ⟨hn, -, ha, rfl⟩)
    · exact hs
    · exact moved hn ha

/-- Placing a node closes no loop. -/
lemma Acyclic.setWorld (hs : s.Acyclic) (n : NodeId) (world : Matrix4 α) :
    Ends (Scene.setWorld n world) s (fun _ => Acyclic) (fun _ => Acyclic) := by
  refine (setWorld_ends s n world).imp ?_ (fun _ _ e => e ▸ hs)
  rintro _ _ ⟨frame, rfl⟩
  exact hs.modifyNode (by simp) n

/-- A move to another collection closes no loop. -/
lemma Acyclic.moveAll (hs : s.Acyclic) (n : NodeId) (origin target : Option String) :
    Ends (Host.moveAll n origin target) s (fun _ => Acyclic) (fun _ => Acyclic) :=
  Host.moveAll_ends (N := fun _ => True) (fun n _ _ ht => ht.update (by simp) n)
    (fun _ _ _ _ _ _ => trivial) n s trivial hs

/-! ## Searches along parents -/

/-- The search for the place of a node ends just where the way up does, and as soon. -/
lemma worldWithin_climbs {bound : Nat} :
    (∀ m, s.worldWithin bound n ≠ .error (.cycle m m)) ↔ ∃ k < bound, s.Climbs k n := by
  induction bound generalizing n with
  | zero => simp [worldWithin]
  | succ bound ih =>
    unfold worldWithin
    cases e : s.node? n with
    | none =>
      have top : s.parent? n = none := by simp [Scene.parent?, e]
      exact iff_of_true (by simp) ⟨0, Nat.succ_pos bound, top⟩
    | some node =>
      have up := parent?_eq e
      dsimp only
      cases hp : node.parent with
      | none => exact iff_of_true (by simp) ⟨0, Nat.succ_pos bound, up.trans hp⟩
      | some p =>
        have mapped : (∀ m, (s.worldWithin bound p).map (· * node.frame) ≠ .error (.cycle m m)) ↔
            ∀ m, s.worldWithin bound p ≠ .error (.cycle m m) := by
          cases s.worldWithin bound p <;> simp [Except.map]
        refine mapped.trans (ih.trans ⟨?_, ?_⟩)
        · rintro ⟨k, hk, h⟩
          exact ⟨k + 1, Nat.succ_lt_succ hk, p, up.trans hp, h⟩
        · rintro ⟨k, hk, h⟩
          cases k with
          | zero => cases h.symm.trans (up.trans hp)
          | succ k =>
            obtain ⟨p', e', h⟩ := h
            obtain rfl := Option.some.inj ((up.trans hp).symm.trans e')
            exact ⟨k, Nat.lt_of_succ_lt_succ hk, h⟩

/-- A search for the place of a node is cut off, or it runs into a number without a node. -/
lemma worldWithin_fault {bound : Nat} {f : SceneFault} (e : s.worldWithin bound n = .error f) :
    (∃ m, f = .unknownNode m) ∨ ∃ m, f = .cycle m m := by
  induction bound generalizing n with
  | zero =>
    cases e
    exact .inr ⟨n, rfl⟩
  | succ bound ih =>
    unfold worldWithin at e
    cases hn : s.node? n with
    | none =>
      rw [hn] at e
      cases e
      exact .inl ⟨n, rfl⟩
    | some node =>
      rw [hn] at e
      dsimp only at e
      cases hp : node.parent with
      | none =>
        rw [hp] at e
        cases e
      | some p =>
        rw [hp] at e
        dsimp only at e
        cases hw : s.worldWithin bound p with
        | ok w =>
          rw [hw] at e
          cases e
        | error g =>
          rw [hw] at e
          cases e
          exact ih hw

/-- Without a loop, a node has no place only if one on the way up is not there. -/
lemma Acyclic.worldOf_fault (hs : s.Acyclic) {f : SceneFault} (e : s.worldOf n = .error f) :
    ∃ m, f = .unknownNode m := by
  obtain ⟨k, hk, climbs⟩ := hs.climbs n
  have ends := worldWithin_climbs.mpr ⟨k, Nat.lt_succ_of_le (hk.trans (s.rank_le_lastId n)), climbs⟩
  obtain h | ⟨m, rfl⟩ := worldWithin_fault e
  · exact h
  · exact absurd e (ends m)

/-- The searches along parents are answered, and with every greater bound in the same way. -/
structure Climbable (s : Scene α) : Prop where
  isAncestor : ∀ a n, s.isAncestor a n = true ↔ s.Under n a
  leadsTo : ∀ a n bound, s.lastId < bound → Walk.leadsTo s.parent? a bound n = s.isAncestor a n
  world : ∀ n, Ends (Scene.world n) s (fun _ t => t = s) (fun f t => (∃ m, f = .unknownNode m) ∧ t = s)
  worldWithin : ∀ n bound, s.lastId < bound → s.worldWithin bound n = s.worldOf n
  setWorld : ∀ n w, Ends (Scene.setWorld n w) s (fun _ t => ∃ frame, t = s.setFrame n frame)
    (fun f t => ((∃ m, f = .unknownNode m) ∨ f.Singular) ∧ t = s)

/-- They are answered where there is no loop. -/
lemma Acyclic.climbable (hs : s.Acyclic) : s.Climbable where
  isAncestor a n := hs.isAncestor_iff
  leadsTo a n bound hb := by
    rw [Bool.eq_iff_iff, hs.isAncestor_iff,
      hs.leadsTo_iff n (Nat.lt_of_le_of_lt (s.rank_le_lastId n) hb)]
  world n := by
    cases e : s.worldOf n with
    | ok w => exact Ends.of_ok (world_eq e) rfl
    | error f =>
      have refused : Scene.world n s = .error f s := by simp [Scene.world, ask, e]
      exact Ends.of_error refused ⟨hs.worldOf_fault e, rfl⟩
  worldWithin n bound hb := hs.worldWithin_bound n hb (Nat.lt_succ_of_le (s.rank_le_lastId n))
  setWorld n w := by
    unfold Scene.setWorld
    apply Ends.bind
    cases hn : s.node? n with
    | none =>
      have refused : get n s = .error (.unknownNode n) s := by simp [get, hn]
      exact Ends.of_error refused ⟨.inl ⟨n, rfl⟩, rfl⟩
    | some node =>
      refine Ends.of_ok (get_eq hn) ?_
      apply Ends.bind
      cases e : s.parentWorldOf node with
      | error f =>
        have refused : ask (·.parentWorldOf node) s = .error f s := by simp [ask, e]
        refine Ends.of_error refused ⟨.inl ?_, rfl⟩
        unfold parentWorldOf at e
        split at e
        · cases e
        · exact hs.worldOf_fault e
      | ok parentWorld =>
        have asked : ask (·.parentWorldOf node) s = .ok parentWorld s := by simp [ask, e]
        refine Ends.of_ok asked ?_
        cases parentWorld.inverse? with
        | none => exact Ends.throw ⟨.inr ⟨n, rfl⟩, rfl⟩
        | some inverse => exact (update_live _ ⟨node, hn⟩).imp (fun _ _ h => ⟨_, h⟩) (fun _ _ => id)

end Scene

/-! ## Building -/

variable {α : Type} [Scalar α] {s : Scene α}

/-- The node under which a change adds nodes. -/
def Change.roof? (s : Scene α) : Change α → Option NodeId
  | .addNode _ parent => parent
  | .duplicate n => s.parent? n
  | .addMarker _ parent => some parent
  | _ => none

/-- Parents lead from the node under which a change adds nodes to one of the numbers that these get. -/
def Change.Loops (s : Scene α) (c : Change α) : Prop :=
  ∃ p m, c.roof? s = some p ∧ s.Under p m ∧ s.lastId < m ∧ m ≤ (c.apply s).lastId

/-- Adding nodes under one without a parent closes no loop, unless one of them gets that one's number. -/
lemma Change.not_loops_of_top {c : Change α} {p : NodeId} (roof : c.roof? s = some p)
    (top : s.parent? p = none) (apart : (c.apply s).lastId < p) : ¬ c.Loops s := by
  rintro ⟨q, m, e, hu, -, hle⟩
  obtain rfl := Option.some.inj (roof.symm.trans e)
  cases Relation.ReflTransGen.cases_head hu with
  | inl same => exact Nat.not_le_of_lt apart (same ▸ hle)
  | inr up =>
    obtain ⟨c, e, -⟩ := up
    cases top.symm.trans e

/-- A change that adds nothing under a node closes no loop. -/
lemma Change.not_loops_of_no_roof {c : Change α} (h : c.roof? s = none) : ¬ c.Loops s := by
  rintro ⟨p, m, e, -⟩
  cases h.symm.trans e

namespace Scene

/-- A change closes a loop just where parents lead from where it adds nodes to one of their numbers. -/
theorem Acyclic.apply_iff (hs : s.Acyclic) (c : Change α) : (c.apply s).Acyclic ↔ ¬ c.Loops s := by
  have other : ∀ {c : Change α}, c.roof? s = none → (c.apply s).Acyclic →
      ((c.apply s).Acyclic ↔ ¬ c.Loops s) := by
    exact fun e h => iff_of_true h (Change.not_loops_of_no_roof e)
  cases c with
  | addCollection name => exact other rfl (hs.addCollection name)
  | addNode name parent => exact (addNode_adds s name parent).acyclic_iff hs
  | addTemplate collection name =>
    have added := ((addNode_adds _ name none).acyclic_iff (hs.addCollection collection)).mpr (by simp)
    exact other rfl (added.modifyNode (by simp) _)
  | tag n key value => exact other rfl (hs.modifyNode (by simp) n)
  | setFrame n frame => exact other rfl (hs.modifyNode (by simp) n)
  | setProperty n key value => exact other rfl (hs.update (by simp) n).after
  | setWorld n world => exact other rfl (hs.setWorld n world).after
  | duplicate n => exact (duplicate_adds s n).after.acyclic_iff hs
  | reparent n parent => exact other rfl (hs.reparent n parent).after
  | moveTo n origin target => exact other rfl (hs.update (by simp) n).after
  | moveAll n origin target => exact other rfl (hs.moveAll n origin target).after
  | flip n => exact other rfl (hs.update (by simp) n).after
  | bake n => exact other rfl (hs.update (by simp) n).after
  | addMarker world parent => exact (addMarker_adds s world parent).after.acyclic_iff hs
  | remove n => exact other rfl (hs.remove n).after

/-- No change closes a loop when its turn comes. -/
def NeverLoops (s : Scene α) : List (Change α) → Prop
  | [] => True
  | c :: cs => ¬ c.Loops s ∧ NeverLoops (c.apply s) cs

/-- Without a loop in the beginning, there is none later just if no change closes one when its turn comes. -/
lemma Acyclic.applyAll_iff (hs : s.Acyclic) (cs : List (Change α)) :
    NeverLoops s cs ↔ ∀ past, past <+: cs → (s.applyAll past).Acyclic := by
  induction cs generalizing s with
  | nil =>
    refine iff_of_true trivial fun past h => ?_
    rw [List.prefix_nil.mp h]
    exact hs
  | cons c cs ih =>
    constructor
    · rintro ⟨hc, hcs⟩ past h
      cases past with
      | nil => exact hs
      | cons d past =>
        obtain ⟨rfl, hp⟩ := List.cons_prefix_cons.mp h
        exact (ih ((hs.apply_iff d).mpr hc)).mp hcs past hp
    · intro h
      have hc := h [c] (List.prefix_append [c] cs)
      refine ⟨(hs.apply_iff c).mp hc, (ih hc).mpr fun past hp => ?_⟩
      exact h (c :: past) (List.cons_prefix_cons.mpr ⟨rfl, hp⟩)

/-- While a scene is built, the way up ends everywhere just as long as no change adds nodes below a node from
which parents lead to one of their own numbers. -/
theorem applyAll_grounded_iff (cs : List (Change α)) :
    (NeverLoops empty cs ↔ ∀ past, past <+: cs → (applyAll empty past : Scene α).Grounded) ∧
      (NeverLoops empty cs → ∀ past, past <+: cs → let s : Scene α := applyAll empty past
        -- Then it is no longer than the numbers that were given, nodes have a place in the world or lead
        -- to one that is not there, and it is known which nodes are above which.
        (∀ n, ∃ k ≤ s.lastId, s.Climbs k n) ∧ s.Climbable) := by
  have built := Acyclic.applyAll_iff (wellFormed_empty : (empty : Scene α).WellFormed).acyclic cs
  refine ⟨?grounded, fun h past hp => ?climbable⟩
  case grounded =>
    simp only [grounded_iff_acyclic]
    exact built
  case climbable =>
    have acyclic := built.mp h past hp
    refine ⟨fun n => ?_, acyclic.climbable⟩
    obtain ⟨k, hk, climbs⟩ := acyclic.climbs n
    exact ⟨k, hk.trans (rank_le_lastId _ n), climbs⟩

/-- Two buds wait for a stem, which gets another number than theirs and is moved under a trunk. -/
theorem applyAll_grounded_buds :
    let cs : List (Change Float) := [.addNode "bud" (some 3), .duplicate 1, .addNode "stem" none,
      .addNode "trunk" none, .reparent 3 4]
    let s : Scene Float := applyAll empty cs
    NeverLoops empty cs ∧ s.parent? 1 = some 3 ∧ s.parent? 2 = some 3 ∧ s.parent? 3 = some 4 ∧
      (∃ k ≤ 4, s.Climbs k 2) ∧ s.isAncestor 4 2 = true := by
  intro cs s
  have waiting (t : Scene Float) {c : Change Float} (roof : c.roof? t = some 3)
      (top : t.parent? 3 = none) (apart : (c.apply t).lastId < 3) : ¬ c.Loops t :=
    Change.not_loops_of_top roof top apart
  have never : NeverLoops empty cs :=
    ⟨waiting _ rfl rfl (by decide), waiting _ rfl rfl (by decide +kernel), Change.not_loops_of_no_roof rfl,
      Change.not_loops_of_no_roof rfl, Change.not_loops_of_no_roof rfl, trivial⟩
  obtain ⟨climbs, climbable⟩ := (applyAll_grounded_iff cs).2 never cs (List.prefix_refl cs)
  have first : s.ParentOf 2 3 := by decide +kernel
  have second : s.ParentOf 3 4 := by decide +kernel
  have size : s.lastId = 4 := by decide +kernel
  exact ⟨never, by decide +kernel, first, second, size ▸ climbs 2,
    (climbable.isAncestor 4 2).mpr (.head first (.single second))⟩

/-- From a node in a loop, no bound is great enough to find its place. -/
lemma worldWithin_loop (loop : Relation.TransGen s.ParentOf n n) (bound : Nat) :
    ∃ m, s.worldWithin bound n = .error (.cycle m m) := by
  by_contra h
  obtain ⟨k, -, climbs⟩ := worldWithin_climbs.mp (not_exists.mp h)
  exact climbs.not_loop loop

/-- A node that is added under its own number is above itself. So are a node that waits for its parent and
the copy that is made below it. There is no end to the way up from them, and they have no place. -/
theorem applyAll_ungrounded :
    let s : Scene Float := applyAll empty [.addNode "seed" (some 1)]
    let t : Scene Float := applyAll empty [.addNode "seed" (some 3), .addNode "stem" (some 1), .duplicate 2]
    ((∀ k, ¬ s.Climbs k 1) ∧ ∀ bound, ∃ m, s.worldWithin bound 1 = .error (.cycle m m)) ∧
      (∀ k, ¬ t.Climbs k 3) ∧ ∀ bound, ∃ m, t.worldWithin bound 3 = .error (.cycle m m) := by
  intro s t
  have own : s.parent? 1 = some 1 := by decide
  have up : t.parent? 1 = some 3 := by decide
  have back : t.parent? 3 = some 1 := by decide
  have seed : Relation.TransGen s.ParentOf 1 1 := .single own
  have copy : Relation.TransGen t.ParentOf 3 3 := .head back (.single up)
  exact ⟨⟨fun _ h => h.not_loop seed, worldWithin_loop seed⟩, fun _ h => h.not_loop copy,
    worldWithin_loop copy⟩

end Scene

end SceneGrammar
