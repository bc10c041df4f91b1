import SceneGrammar.Proofs.Scene.Growth
import SceneGrammar.Proofs.Scene.Refusal

/-!
# The members of a collection

The members of a collection that have no parent stay the same while a scene grows, as long as what is new
has a parent (`Hung.topLevel?`), and while nodes are removed that have one (`topLevel?_prune`). A copy of
such a member has none at first: it is the one node that may hang nowhere until it was moved under
another node, and nothing is refused before (`Loose.setWorld`, `Loose.moveAll`, `Loose.reparent`).
-/

namespace SceneGrammar.Scene

variable {α : Type} {b s t : Scene α} {n m p root : NodeId} {S S' : NodeId → Prop}
  {collection : String}

/-! ## Members without a parent -/

/-- Whether a node is in a collection and has no parent. -/
def tops (s : Scene α) (collection : String) (n : NodeId) : Bool :=
  match s.node? n with
  | some node => node.parent.isNone && node.container == some collection
  | none => false

/-- A node that is there is a member if it has no parent and is in the collection. -/
lemma tops_eq {node : Node α} (e : s.node? n = some node) :
    s.tops collection n = (node.parent.isNone && node.container == some collection) := by
  unfold tops
  rw [e]

/-- What is not there is no member. -/
lemma tops_none (e : s.node? n = none) : s.tops collection n = false := by
  unfold tops
  rw [e]

/-- What has a parent is no such member. -/
lemma tops_child (e : s.parent? n = some p) : s.tops collection n = false := by
  unfold tops
  unfold parent? at e
  cases hn : s.node? n with
  | none => rfl
  | some node =>
    rw [hn, Option.bind_some] at e
    simp [e]

/-- Whether a node is a member depends on the node alone. -/
lemma tops_congr (e : t.node? n = s.node? n) : t.tops collection n = s.tops collection n := by
  unfold tops
  rw [e]

/-- The children of a node do not matter. -/
lemma tops_unlist (s : Scene α) (n m : NodeId) :
    (s.unlist n).tops collection m = s.tops collection m := by
  unfold unlist
  split
  · next p _ =>
    unfold dropChild tops
    rw [node?_modifyNode]
    by_cases hpm : p = m
    · rw [if_pos hpm]
      cases s.node? m <;> rfl
    · rw [if_neg hpm]
  · rfl

/-- The members among all numbers, in ascending order. -/
lemma topLevel?_eq (s : Scene α) (collection : String) :
    s.topLevel? collection =
      if s.collections.contains collection then
        some (((List.range s.lastId).map (· + 1)).filter (s.tops collection))
      else none := by
  have key : ∀ n, (s.tops collection n && (s.node? n).isSome) = s.tops collection n := by
    intro n
    unfold tops
    cases s.node? n <;> simp
  have ids : s.ids.filter (s.tops collection) =
      ((List.range s.lastId).map (· + 1)).filter (s.tops collection) := by
    unfold Scene.ids
    rw [List.filter_filter]
    simp only [key]
  rw [← ids]
  rfl

/-- Scenes with the same members of a collection, where the second one may have given more numbers. -/
lemma topLevel?_congr (hc : s.collections = b.collections) (hle : b.lastId ≤ s.lastId)
    (h : ∀ n, s.tops collection n = b.tops collection n) :
    s.topLevel? collection = b.topLevel? collection := by
  obtain ⟨k, hk⟩ := Nat.exists_eq_add_of_le hle
  have above : (((List.range k).map (b.lastId + ·)).map (· + 1)).filter (b.tops collection) = [] := by
    refine List.filter_eq_nil_iff.mpr fun n hn => ?_
    simp only [List.map_map, List.mem_map] at hn
    obtain ⟨i, -, rfl⟩ := hn
    rw [tops_none (node?_eq_none_of_lt (by simp only [Function.comp_apply]; lia))]
    exact Bool.false_ne_true
  rw [topLevel?_eq, topLevel?_eq, hc, hk, funext h, List.range_add, List.map_append,
    List.filter_append, above, List.append_nil]

/-- A member is there and has no parent. -/
lemma root_topLevel? {members : List NodeId} (h : s.topLevel? collection = some members)
    (hn : n ∈ members) : s.Live n ∧ s.parent? n = none := by
  rw [topLevel?_eq] at h
  split at h
  · obtain rfl := Option.some.inj h
    have htops := (List.mem_filter.mp hn).2
    cases e : s.node? n with
    | none =>
      rw [tops_none e] at htops
      cases htops
    | some node =>
      rw [tops_eq e, Bool.and_eq_true, Option.isNone_iff_eq_none] at htops
      exact ⟨⟨node, e⟩, (parent?_eq e).trans htops.1⟩
  · cases h

/-- A collection that has been declared has its members in the order of their numbers. -/
lemma topLevel?_declared (h : collection ∈ s.collections) :
    ∃ members, s.topLevel? collection = some members ∧ members.Pairwise (· < ·) ∧
      ∀ n, n ∈ members ↔
        ∃ node, s.node? n = some node ∧ node.parent = none ∧ node.container = some collection := by
  refine ⟨_, by rw [topLevel?_eq, if_pos (List.contains_iff_mem.mpr h)], ?ordered, fun n => ?members⟩
  case ordered =>
    refine List.Pairwise.filter _ (List.Pairwise.map _ ?_ List.pairwise_lt_range)
    exact fun _ _ => Nat.succ_lt_succ
  case members =>
    rw [List.mem_filter]
    constructor
    · rintro ⟨-, top⟩
      cases e : s.node? n with
      | none =>
        rw [tops_none e] at top
        cases top
      | some node =>
        rw [tops_eq e, Bool.and_eq_true, Option.isNone_iff_eq_none, beq_iff_eq] at top
        exact ⟨node, rfl, top⟩
    · rintro ⟨node, e, top⟩
      have live : s.Live n := ⟨node, e⟩
      have number : n ∈ (List.range s.lastId).map (· + 1) := by
        rw [List.mem_map]
        refine ⟨n - 1, List.mem_range.mpr ?_, Nat.sub_add_cancel live.pos⟩
        have hle := live.le_lastId
        have hpos := live.pos
        lia
      refine ⟨number, ?_⟩
      rw [tops_eq e, Bool.and_eq_true, Option.isNone_iff_eq_none, beq_iff_eq]
      exact top

/-! ## Removing -/

/-- Removing a node that has a parent leaves the members without one. -/
lemma topLevel?_prune (hs : s.WellFormed) (e : s.parent? n = some p) (collection : String) :
    (s.prune n).topLevel? collection = s.topLevel? collection := by
  refine topLevel?_congr (collections_prune s n) (Nat.le_of_eq (lastId_prune s n).symm) fun m => ?_
  by_cases hu : s.Under m n
  · -- What is below a node with a parent has a parent.
    have gone : (s.prune n).node? m = none := by rw [hs.node?_prune, if_pos hu]
    rw [tops_none gone]
    cases WellFormed.under_head_iff.mp hu with
    | inl hmn => exact (tops_child (hmn ▸ e)).symm
    | inr hq =>
      obtain ⟨q, eq, -⟩ := hq
      exact (tops_child eq).symm
  · have left : (s.prune n).node? m = (s.unlist n).node? m := by rw [hs.node?_prune, if_neg hu]
    rw [tops_congr left, tops_unlist]

/-! ## Growing -/

/-- A forest that has grown from a scene and whose new nodes have parents, some of them aside. -/
structure Hung (b : Scene α) (S : NodeId → Prop) (s : Scene α) : Prop extends Grown b s where
  hung : ∀ m, s.Live m → b.lastId < m → S m ∨ s.parent? m ≠ none

namespace Hung

/-- A forest has grown from itself. -/
lemma refl (hb : b.WellFormed) : Hung b S b :=
  ⟨.refl hb, fun _ hm hlt => absurd hm.le_lastId (Nat.not_le_of_lt hlt)⟩

/-- More nodes may be aside. -/
lemma mono (h : Hung b S s) (hS : ∀ m, s.Live m → S m → S' m) : Hung b S' s :=
  ⟨h.toGrown, fun m hm hlt => (h.hung m hm hlt).imp_left (hS m hm)⟩

/-- A forest that has grown twice has grown. -/
lemma trans (h : Hung b S s) (k : Hung s S t) : Hung b S t := by
  refine ⟨⟨h.toExtends.trans k.toExtends, k.wellFormed⟩, fun m hm hlt => ?_⟩
  by_cases hle : m ≤ s.lastId
  · have hm := k.live_old hm hle
    rw [k.parent?_old hm]
    exact h.hung m hm hlt
  · exact k.hung m hm (Nat.lt_of_not_le hle)

/-- The members of a collection are those that it had. -/
theorem topLevel? (h : Hung b (fun _ => False) s) (collection : String) :
    s.topLevel? collection = b.topLevel? collection := by
  refine topLevel?_congr h.collections h.lastId fun n => ?_
  cases e : b.node? n with
  | some node =>
    obtain ⟨added, e', -⟩ := h.old n node e
    rw [tops_eq e, tops_eq e']
  | none =>
    rw [tops_none e]
    cases e' : s.node? n with
    | none => exact tops_none e'
    | some node =>
      have hn : ¬ b.Live n := fun ⟨_, k⟩ => by
        rw [e] at k
        cases k
      have hlt := h.fresh n ⟨node, e'⟩ hn
      obtain hf | hp := h.hung n ⟨node, e'⟩ hlt
      · exact hf.elim
      · obtain ⟨p, ep⟩ := Option.ne_none_iff_exists'.mp hp
        exact tops_child ep

/-- A change that leaves the links. -/
lemma links (h : Hung b S s) (ht : Grown b t) (k : SameLinks s t) : Hung b S t := by
  refine ⟨ht, fun m hm hlt => ?_⟩
  rw [k.parent?]
  exact h.hung m ((k.live m).mp hm) hlt

/-- A new node that is put under another one has a parent. -/
lemma relink (h : Hung b S s) (hb : b.WellFormed) (hn : b.lastId < n) (hl : s.Live n) (hp : s.Live p)
    (ha : s.isAncestor n p = false) : Hung b (fun m => S m ∧ m ≠ n) (s.relink n p) := by
  have tends : Tends b (fun _ => True) s (s.relink n p) := .relink h.toGrown hb hn trivial hl hp ha
  refine ⟨tends.grown, fun m hm hlt => ?_⟩
  rw [parent?_relink hl]
  by_cases hmn : m = n
  · rw [if_pos hmn]
    exact .inr (Option.some_ne_none p)
  · rw [if_neg hmn]
    exact (h.hung m ((live_relink s n p m).mp hm) hlt).imp_left fun hS => ⟨hS, hmn⟩

/-- The root of a new tree hangs where the tree was put. -/
lemma sprouts (h : Hung b S s) {parent : Option NodeId} (k : Sprouts s t root parent)
    (hp : ∀ p, parent = some p → s.Live p) :
    Hung b (fun m => S m ∨ m = root ∧ parent = none) (t.attach parent root) := by
  have tends : Tends b (fun _ => True) s (t.attach parent root) :=
    .sprouts h.toGrown k hp (.inl trivial)
  have hroot := k.root_eq
  refine ⟨tends.grown, fun m hm hlt => ?_⟩
  have hm := k.attach_live.mp hm
  rw [k.attach_parent?]
  by_cases hle : m ≤ s.lastId
  · obtain ⟨node, e⟩ := hm
    rw [k.old_parent? hle]
    exact (h.hung m ⟨node, (k.old m hle).symm.trans e⟩ hlt).imp_left .inl
  · by_cases hmr : m = root
    · subst hmr
      rw [k.parent?]
      cases parent with
      | none => exact .inl (.inr ⟨rfl, rfl⟩)
      | some p => exact .inr (Option.some_ne_none p)
    · obtain ⟨q, -, -, e, -⟩ := k.above m (by lia) hm.le_lastId
      exact .inr (e ▸ Option.some_ne_none q)

/-- A copy hangs where the node hangs of which it is a copy. -/
lemma duplicate (h : Hung b S s) (n : NodeId) :
    Ends (Scene.duplicate n) s
      (fun root t => root = s.lastId + 1 ∧ t.Live root ∧ t.parent? root = s.parent? n ∧
        Hung b (fun m => S m ∨ m = root ∧ s.parent? n = none) t)
      (fun _ => Hung b S) := by
  refine (duplicate_ends h.wellFormed n).imp ?_ ?_
  · rintro root _ ⟨-, u, hu, rfl⟩
    refine ⟨hu.root_eq, hu.attach_live.mpr hu.live, ?_, ?_⟩
    · rw [hu.attach_parent?, hu.parent?]
    · exact h.sprouts hu fun p e => h.wellFormed.live_parent e
  · rintro _ _ rfl
    exact h

/-! ### Requests for new nodes -/

variable (h : Hung b S s)
include h

/-- The new nodes still have parents when one is changed that keeps its own. -/
lemma update {f : Node α → Node α} (hn : b.lastId < n) (hp : ∀ node, (f node).parent = node.parent)
    (hc : ∀ node, (f node).children = node.children) :
    Ends (Scene.update n f) s (fun _ => Hung b S) (fun _ => Hung b S) := by
  refine ((h.toGrown.update (S := fun _ => True) hn hp hc).and (update_ends s n f)).imp ?_ ?_
  · rintro _ _ ⟨ht, -, rfl⟩
    exact h.links ht.grown (sameLinks_modifyNode hp hc s n)
  · rintro _ _ ⟨-, rfl⟩
    exact h

variable [Scalar α]

/-- The new nodes still have parents when one is placed. -/
lemma setWorld (hn : b.lastId < n) (w : Matrix4 α) :
    Ends (Scene.setWorld n w) s (fun _ => Hung b S) (fun _ => Hung b S) := by
  refine ((h.toGrown.setWorld (S := fun _ => True) hn w).and (setWorld_ends s n w)).imp ?_ ?_
  · rintro _ _ ⟨ht, frame, rfl⟩
    exact h.links ht.grown (sameLinks_modifyNode (by simp) (by simp) s n)
  · rintro _ _ ⟨-, rfl⟩
    exact h

/-- The new nodes still have parents when one goes to another collection. -/
lemma moveAll (hb : b.WellFormed) (hn : b.lastId < n) (origin target : Option String) :
    Ends (Host.moveAll n origin target) s (fun _ => Hung b S) (fun _ => Hung b S) := by
  refine Host.moveAll_ends (N := (b.lastId < ·)) ?_ ?_ n s hn h
  · exact fun n t hn ht => ht.update hn (fun _ => rfl) (fun _ => rfl)
  · exact fun n t hn ht c hc => ht.fresh_child hb hn (ht.wellFormed.named hc)

/-- The new nodes still have parents when one is hung elsewhere. -/
lemma reparent (hb : b.WellFormed) (hn : b.lastId < n) (p : NodeId) :
    Ends (Scene.reparent n p) s (fun _ => Hung b S) (fun _ => Hung b S) := by
  have moved : s.Live n → s.Live p → s.isAncestor n p = false → Hung b S (s.relink n p) :=
    fun hl hp ha => (h.relink hb hn hl hp ha).mono fun _ _ k => k.1
  refine ((h.toGrown.reparent (S := fun _ => True) hb hn trivial p).and (reparent_ends s n p)).imp ?_ ?_
  · rintro _ _ ⟨ht, hl, hp, ha, frame, rfl⟩
    exact (moved hl hp ha).links ht.grown (sameLinks_modifyNode (by simp) (by simp) _ n)
  · rintro _ _ ⟨ht, rfl | ⟨hl, hp, ha, rfl⟩⟩
    · exact h
    · exact moved hl hp ha

/-- A marker hangs below what it marks. -/
lemma addMarker (w : Matrix4 α) (p : NodeId) :
    Ends (Scene.addMarker w p) s (fun root t => b.lastId < root ∧ Hung b S t) (fun _ => Hung b S) := by
  have added : s.Live p → Hung b S (s.addNode "link" (some p)).2 := by
    intro hl
    obtain ⟨u, hu, e⟩ := addNode_sprouts s "link" (live_some hl)
    rw [e]
    refine (h.sprouts hu (live_some hl)).mono fun m _ k => ?_
    obtain hS | ⟨-, hp⟩ := k
    · exact hS
    · cases hp
  refine ((h.toGrown.addMarker (S := fun _ => True) w (.inl trivial)).and (addMarker_ends s w p)).imp ?_ ?_
  · rintro root _ ⟨⟨hroot, -, ht⟩, hl, -, frame, rfl⟩
    exact ⟨hroot, (added hl).links ht.grown (sameLinks_modifyNode (by simp) (by simp) _ root)⟩
  · rintro _ _ ⟨-, rfl | ⟨hl, rfl⟩⟩
    · exact h
    · exact added hl

/-- Moving a node under another one, which is not below it, makes it hang there, even if the node cannot
keep its place. -/
lemma moveUnder (hb : b.WellFormed) (hn : b.lastId < n) (hl : s.Live n) (hp : s.Live p)
    (hu : ¬ s.Under p n) :
    Ends (Scene.reparent n p) s (fun _ => Hung b fun m => S m ∧ m ≠ n)
      (fun _ => Hung b fun m => S m ∧ m ≠ n) := by
  have ha : s.isAncestor n p = false := Bool.eq_false_iff.mpr (mt h.wellFormed.isAncestor_iff.mp hu)
  exact reparent_placed h.wellFormed hl hp hu fun w _ => (h.relink hb hn hl hp ha).setWorld hn w

end Hung

variable [Scalar α]

/-- A node without a parent can be placed anywhere, since there is an inverse of the unit. -/
lemma setWorld_root (unit : (1 : Matrix4 α).inverse? ≠ none) (hl : s.Live n) (hp : s.parent? n = none)
    (w : Matrix4 α) {E : SceneFault → Scene α → Prop} :
    Ends (setWorld n w) s (fun _ => SameLinks s) E := by
  obtain ⟨inverse, hinverse⟩ := Option.ne_none_iff_exists'.mp unit
  obtain ⟨node, e⟩ := hl
  rw [parent?_eq e] at hp
  have above : ask (·.parentWorldOf node) s = .ok 1 s := by
    simp [ask, parentWorldOf, hp]
  unfold setWorld
  apply Ends.bind
  refine Ends.of_ok (get_eq e) ?_
  apply Ends.bind
  refine Ends.of_ok above ?_
  rw [hinverse]
  refine (update_live _ ⟨node, e⟩).imp ?_ (fun _ _ => id)
  rintro _ _ rfl
  exact sameLinks_modifyNode (by simp) (by simp) s n

/-- A copy without a parent that is on its way to another node; all other new nodes have parents. -/
structure Loose (b : Scene α) (copy p : NodeId) (s : Scene α) : Prop where
  live : s.Live copy
  root : s.parent? copy = none
  target : s.Live p
  apart : ¬ s.Under p copy
  hung : Hung b (· = copy) s

namespace Loose
variable {copy : NodeId}

omit [Scalar α] in
/-- A copy stays on its way when links stay as they are. -/
lemma links (h : Loose b copy p s) (k : SameLinks s t) (ht : Hung b (· = copy) t) :
    Loose b copy p t := by
  have parents : t.parent? = s.parent? := funext k.parent?
  refine ⟨(k.live copy).mpr h.live, parents ▸ h.root, (k.live p).mpr h.target, ?_, ht⟩
  have under : t.Under = s.Under := by
    unfold Under ParentOf
    rw [parents]
  exact under ▸ h.apart

omit [Scalar α] in
/-- A copy of what has no parent. -/
lemma of_root (hb : b.WellFormed) (hp : b.Live p) (e : b.parent? n = none) :
    Ends (duplicate n) b (fun copy t => b.lastId < copy ∧ Loose b copy p t)
      (fun _ => Hung b fun _ => False) := by
  refine ((Hung.refl hb).duplicate n).imp ?_ (fun _ _ => id)
  rintro copy t ⟨hcopy, hl, root, h⟩
  have new : b.lastId < copy := hcopy ▸ Nat.lt_succ_self _
  refine ⟨new, hl, root.trans e, h.toExtends.live hp, fun hu => ?_, h.mono fun m _ k => ?_⟩
  · exact Nat.not_le_of_lt (h.fresh_under hb new hu) hp.le_lastId
  · exact (k.resolve_left id).1

variable (h : Loose b copy p s) (hn : b.lastId < copy)
include h hn

/-- A copy without a parent can be placed, and stays on its way. -/
lemma setWorld (unit : (1 : Matrix4 α).inverse? ≠ none) (w : Matrix4 α) :
    Ends (Scene.setWorld copy w) s (fun _ => Loose b copy p) (fun _ _ => False) :=
  ((setWorld_root unit h.live h.root w).and (h.hung.setWorld hn w)).imp
    (fun _ _ k => h.links k.1 k.2) (fun _ _ k => k.1)

/-- A copy can be moved to another collection, and stays on its way. -/
lemma moveAll (hb : b.WellFormed) (origin target : Option String) :
    Ends (Host.moveAll copy origin target) s (fun _ => Loose b copy p) (fun _ _ => False) :=
  ((moveAll_links h.hung.wellFormed h.live origin target).and (h.hung.moveAll hb hn origin target)).imp
    (fun _ _ k => h.links k.1 k.2) (fun _ _ k => k.1)

/-- At the end of the way all new nodes have parents. -/
lemma reparent (hb : b.WellFormed) :
    Ends (Scene.reparent copy p) s (fun _ => Hung b fun _ => False) (fun _ => Hung b fun _ => False) :=
  (h.hung.moveUnder hb hn h.live h.target h.apart).imp
    (fun _ _ k => k.mono fun _ _ hm => hm.2 hm.1) (fun _ _ k => k.mono fun _ _ hm => hm.2 hm.1)

end Loose

end SceneGrammar.Scene
