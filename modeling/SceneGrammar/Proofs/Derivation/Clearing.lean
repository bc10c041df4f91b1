import SceneGrammar.Derivation.Run
import SceneGrammar.Proofs.Scene.Landing
import SceneGrammar.Proofs.Scene.Pool
import SceneGrammar.Proofs.Scene.Refusal

/-!
# What is left when nodes are removed

A removal that a scene grants takes out a node and all below it, and clearing a node takes out all below
it, child by child. What is left is `Without` what was taken out: no node that is left lists a node that
is gone, and nothing else has changed (`remove_leaves`).
-/

namespace SceneGrammar.Scene

variable {α : Type} {s t u : Scene α} {n m p start : NodeId} {P Q : NodeId → Prop}

open Classical in
/-- A node that lists the children that are left. -/
noncomputable def unlisting (P : NodeId → Prop) (node : Node α) : Node α :=
  { node with children := node.children.filter fun c => ¬ P c }

/-- A node that lists none of the nodes that are gone is as it was. -/
lemma unlisting_eq {node : Node α} (h : ∀ c ∈ node.children, ¬ P c) : unlisting P node = node := by
  have all : (unlisting P node).children = node.children :=
    List.filter_eq_self.mpr fun c hc => by simpa using h c hc
  exact congrArg (fun l => { node with children := l }) all

/-- Striking nodes off twice is striking off all of them. -/
lemma unlisting_unlisting (node : Node α) :
    unlisting Q (unlisting P node) = unlisting (fun c => P c ∨ Q c) node := by
  unfold unlisting
  rw [List.filter_filter]
  congr 2
  funext c
  by_cases hp : P c <;> simp [hp]

/-- The second scene is the first one without some of its nodes. -/
structure Without (P : NodeId → Prop) (s t : Scene α) : Prop where
  lastId : t.lastId = s.lastId
  collections : t.collections = s.collections
  gone : ∀ m, P m → t.node? m = none
  left : ∀ m, ¬ P m → t.node? m = (s.node? m).map (unlisting P)

namespace Without

/-- Nothing is gone from a scene. -/
lemma nothing (s : Scene α) (h : ∀ m, ¬ P m) : Without P s s where
  lastId := rfl
  collections := rfl
  gone m hm := absurd hm (h m)
  left m _ := by
    cases s.node? m with
    | none => rfl
    | some node => rw [Option.map_some, unlisting_eq fun c _ => h c]

/-- What is taken out in two steps. -/
lemma trans (h : Without P s t) (h' : Without Q t u) : Without (fun m => P m ∨ Q m) s u where
  lastId := h'.lastId.trans h.lastId
  collections := h'.collections.trans h.collections
  gone m hm := by
    by_cases hq : Q m
    · exact h'.gone m hq
    · rw [h'.left m hq, h.gone m (hm.resolve_right hq), Option.map_none]
  left m hm := by
    obtain ⟨hp, hq⟩ := not_or.mp hm
    rw [h'.left m hq, h.left m hp, Option.map_map]
    exact congrArg (Option.map · _) (funext unlisting_unlisting)

/-- What is gone may be said in other words. -/
lemma congr (h : Without P s t) (hPQ : ∀ m, P m ↔ Q m) : Without Q s t := by
  obtain rfl : P = Q := funext fun m => propext (hPQ m)
  exact h

/-- A node that is left and lists none of those that are gone is as it was. -/
lemma unchanged (h : Without P s t) (hm : ¬ P m) (hc : ∀ c ∈ s.children m, ¬ P c) :
    t.node? m = s.node? m := by
  rw [h.left m hm]
  cases e : s.node? m with
  | none => rfl
  | some node =>
    rw [children_eq e] at hc
    rw [Option.map_some, unlisting_eq hc]

/-- A node that is left and lists none but those that are gone has no children any more. -/
lemma emptied (h : Without P s t) (hm : ¬ P m) (hc : ∀ c ∈ s.children m, P c) :
    t.node? m = (s.node? m).map ({ · with children := [] }) := by
  rw [h.left m hm]
  cases e : s.node? m with
  | none => rfl
  | some node =>
    have none : (unlisting P node).children = [] :=
      List.filter_eq_nil_iff.mpr fun c hmem => by simpa using hc c (children_eq e ▸ hmem)
    rw [Option.map_some, Option.map_some, ← none]
    rfl

/-- The nodes that are left keep their parents. -/
lemma parent? (h : Without P s t) (hm : ¬ P m) : t.parent? m = s.parent? m := by
  unfold Scene.parent?
  rw [h.left m hm]
  cases s.node? m <;> rfl

/-- What is left is under what it was under. -/
lemma under (h : Without P s t) (hu : t.Under m n) : s.Under m n := by
  refine hu.lift id fun a b e => ?_
  by_cases hp : P a
  · obtain ⟨node, e'⟩ := live_of_parent? e
    exact nomatch (h.gone a hp).symm.trans e'
  · exact (h.parent? hp).symm.trans e

/-- Collections lose no members without a parent, if all that is gone had a parent. -/
lemma topLevel? (h : Without P s t) (hung : ∀ m, P m → ∃ q, s.parent? m = some q) (collection : String) :
    t.topLevel? collection = s.topLevel? collection := by
  refine topLevel?_congr h.collections h.lastId.ge fun m => ?_
  by_cases hm : P m
  · obtain ⟨q, up⟩ := hung m hm
    rw [tops_none (h.gone m hm), tops_child up]
  · have e := h.left m hm
    cases e' : s.node? m with
    | none =>
      rw [e', Option.map_none] at e
      rw [tops_none e, tops_none e']
    | some node =>
      rw [e', Option.map_some] at e
      rw [tops_eq e, tops_eq e']
      rfl

end Without

namespace WellFormed

/-- A child is under a node that its parent is not under only if it is that node. -/
lemma child_under_iff (h : s.WellFormed) (hm : ¬ s.Under m n) {c : NodeId} (hc : c ∈ s.children m) :
    s.Under c n ↔ c = n := by
  constructor
  · intro hu
    refine (under_head_iff.mp hu).resolve_right ?_
    rintro ⟨q, eq, hq⟩
    obtain rfl := Option.some.inj ((h.named hc).symm.trans eq)
    exact hm hq
  · rintro rfl
    exact .refl

/-- A removal leaves a forest without what is below the removed node. -/
lemma without_prune (h : s.WellFormed) (n : NodeId) : Without (s.Under · n) s (s.prune n) where
  lastId := lastId_prune s n
  collections := collections_prune s n
  gone m hm := by rw [h.node?_prune, if_pos hm]
  left m hm := by
    rw [h.node?_prune, if_neg hm, h.node?_unlist]
    cases e : s.node? m with
    | none => rfl
    | some node =>
      have same : node.children.filter (fun c => c ≠ n) = (unlisting (s.Under · n) node).children :=
        List.filter_congr fun c hc => by simp [h.child_under_iff hm (children_eq e ▸ hc)]
      rw [Option.map_some, Option.map_some, same]
      rfl

/-- Where a removed node was not above, all is under what it was under. -/
lemma under_prune_iff (h : s.WellFormed) {c : NodeId} (hm : ¬ s.Under m c) :
    (s.prune c).Under m p ↔ s.Under m p := by
  constructor
  · intro hu
    refine hu.lift id fun a b e => ?_
    have left : ¬ s.Under a c := (h.live_prune.mp (live_of_parent? e)).2
    exact (h.parent?_prune left).symm.trans e
  · intro hu
    induction hu using Relation.ReflTransGen.head_induction_on with
    | refl => exact .refl
    | head e _ ih =>
      refine .head ((h.parent?_prune hm).trans e) (ih fun hq => hm (.head e hq))

end WellFormed

/-- Children that are removed one after the other are gone with all below them. -/
lemma remove_each (l : List NodeId) (hl : l.Nodup) (hs : s.WellFormed)
    (hc : ∀ c ∈ l, s.parent? c = some start) :
    Ends (l.forM remove) s (fun _ t => t.WellFormed ∧ Without (fun m => ∃ c ∈ l, s.Under m c) s t)
      (fun _ _ => False) := by
  induction l generalizing s with
  | nil => exact Ends.pure ⟨hs, .nothing s (by simp)⟩
  | cons c l ih =>
    obtain ⟨hcl, hl⟩ := List.nodup_cons.mp hl
    have ec := hc c List.mem_cons_self
    show Ends (remove c >>= fun _ => l.forM remove) s _ _
    apply Ends.bind
    refine (remove_live hs (live_of_parent? ec)).imp ?_ (fun _ _ => id)
    rintro _ _ rfl
    have rest : ∀ d ∈ l, (s.prune c).parent? d = some start := fun d hd =>
      hs.parent?_prune_sibling ec (hc d (List.mem_cons_of_mem c hd)) fun e => hcl (e ▸ hd)
    refine (ih hl (hs.prune c) rest).imp ?_ (fun _ _ => id)
    rintro _ t ⟨ht, without⟩
    refine ⟨ht, ((hs.without_prune c).trans without).congr fun m => ?_⟩
    rw [List.exists_mem_cons_iff]
    by_cases hm : s.Under m c
    · simp [hm]
    · simp only [hm, false_or, hs.under_prune_iff hm]

end SceneGrammar.Scene

namespace SceneGrammar.Derivation

variable {α : Type} [Scalar α] {s : Scene α} {n start : NodeId}

open Scene

/-- Clearing a forest leaves it without what was below the node. -/
lemma clearChildren_without (hs : s.WellFormed) (start : NodeId) :
    Ends (clearChildren start) s
      (fun _ t => t.WellFormed ∧ Without (Relation.TransGen s.ParentOf · start) s t)
      (fun _ _ => False) := by
  unfold clearChildren
  apply Ends.get
  refine (remove_each _ (hs.nodup start) hs fun c hc => hs.named hc).imp ?_ (fun _ _ => id)
  rintro _ t ⟨ht, without⟩
  refine ⟨ht, without.congr fun m => ?_⟩
  rw [Relation.TransGen.tail'_iff]
  constructor
  · rintro ⟨c, hc, hu⟩
    exact ⟨c, hu, hs.named hc⟩
  · rintro ⟨c, hu, e⟩
    exact ⟨c, hs.listed e, hu⟩

/-- A run begins in a forest without some nodes that were below its start. -/
lemma clearStart_without (settings : Settings) (hs : s.WellFormed) (start : NodeId) :
    ∃ P t, clearStart settings start s = .ok () t ∧ t.WellFormed ∧ Without P s t ∧
      ∀ m, P m → Relation.TransGen s.ParentOf m start := by
  unfold clearStart
  split
  · obtain ⟨_, t, e, ht, without⟩ := (clearChildren_without hs start).exists_ok
    exact ⟨_, t, e, ht, without, fun _ => id⟩
  · exact ⟨fun _ => False, s, rfl, hs, .nothing s fun _ => id, fun _ => False.elim⟩

/-- A node of a forest can be removed with all below it, and cleared of all below it, and in either case
every other node is as it was but for the children of the one that lost some. -/
theorem remove_leaves (hs : s.WellFormed) (hn : s.Live n) :
    (∃ t, remove n s = .ok () t ∧
      t.lastId = s.lastId ∧ t.collections = s.collections ∧
      (∀ m, s.Under m n → t.node? m = none) ∧
      (∀ p node, s.parent? n = some p → s.node? p = some node →
        ∃ before after, node.children = before ++ n :: after ∧ n ∉ before ++ after ∧
          t.node? p = some { node with children := before ++ after }) ∧
      ∀ m, ¬ s.Under m n → s.parent? n ≠ some m → t.node? m = s.node? m) ∧
    ∃ t, clearChildren n s = .ok () t ∧
      t.lastId = s.lastId ∧ t.collections = s.collections ∧
      (∀ m, Relation.TransGen s.ParentOf m n → t.node? m = none) ∧
      t.node? n = (s.node? n).map ({ · with children := [] }) ∧
      ∀ m, ¬ s.Under m n → t.node? m = s.node? m := by
  refine ⟨?removed, ?cleared⟩
  case removed =>
    obtain ⟨_, t, run, rfl⟩ := (remove_live (E := fun _ _ => False) hs hn).exists_ok
    have without := hs.without_prune n
    refine ⟨_, run, without.lastId, without.collections, without.gone, fun p node ep e => ?parent,
      fun m hm hp => without.unchanged hm fun c hc => ?other⟩
    case parent =>
      obtain ⟨before, after, split⟩ := List.append_of_mem (children_eq e ▸ hs.listed ep)
      have nodup := hs.nodup p
      rw [children_eq e, split, List.nodup_middle] at nodup
      have absent := (List.nodup_cons.mp nodup).1
      have kept : (before ++ n :: after).filter (· ≠ n) = before ++ after := by
        rw [List.filter_append, List.filter_cons_of_neg (by simp), ← List.filter_append]
        exact List.filter_eq_self.mpr fun x hx => by simpa using ne_of_mem_of_not_mem hx absent
      refine ⟨before, after, split, absent, ?_⟩
      rw [hs.node?_prune, if_neg (hs.not_under_child ep), hs.node?_unlist, e, Option.map_some, split,
        kept]
    case other =>
      rw [hs.child_under_iff hm hc]
      rintro rfl
      exact hp (hs.named hc)
  case cleared =>
    obtain ⟨_, t, run, -, without⟩ := (clearChildren_without hs n).exists_ok
    refine ⟨t, run, without.lastId, without.collections, without.gone,
      without.emptied (hs.acyclic n) fun c hc => .single (hs.named hc), fun m hm => ?_⟩
    refine without.unchanged (fun h => hm h.to_reflTransGen) fun c hc h => ?_
    -- What is below the node and a child is a child of the node or of something below it.
    obtain ⟨q, eq, hq⟩ := Relation.TransGen.head'_iff.mp h
    obtain rfl := Option.some.inj ((hs.named hc).symm.trans eq)
    exact hm hq

/-- Without the oak the avenue has the bench only, and without its boughs the oak stands there bare. -/
theorem remove_leaves_avenue :
    avenue.WellFormed ∧ avenue.Live 2 ∧
      (∃ t, remove 2 avenue = .ok () t ∧ t.children 1 = [6] ∧ t.node? 4 = none) ∧
      ∃ t, clearChildren 2 avenue = .ok () t ∧ t.children 1 = [2, 6] ∧ t.children 2 = [] ∧
        t.node? 4 = none := by
  have hs := avenue_wellFormed
  have hn : avenue.Live 2 := by decide
  have up : avenue.parent? 2 = some 1 := by decide
  have leaf : Relation.TransGen avenue.ParentOf 4 2 := .head (b := 3) (by decide) (.single (by decide))
  obtain ⟨⟨t, removal, -, -, gone, parent, -⟩, u, clearing, -, -, below, bare, others⟩ :=
    remove_leaves hs hn
  obtain ⟨node, e⟩ : avenue.Live 1 := by decide
  obtain ⟨oak, eoak⟩ := id hn
  refine ⟨hs, hn, ⟨t, removal, ?bench, gone 4 leaf.to_reflTransGen⟩, u, clearing, ?listed, ?boughs,
    below 4 leaf⟩
  case bench =>
    obtain ⟨before, after, split, -, left⟩ := parent 1 node up e
    rw [← children_eq e, show avenue.children 1 = [2, 6] by decide] at split
    rw [children_eq left]
    cases before with
    | nil => exact (List.cons.inj split).2.symm
    | cons b before =>
      have tail : [6] = before ++ 2 :: after := (List.cons.inj split).2
      have among : 2 ∈ [6] := tail ▸ List.mem_append_right before List.mem_cons_self
      exact absurd among (by decide)
  case listed =>
    have same := others 1 (hs.not_under_child up)
    rw [children_eq (same.trans e), ← children_eq e]
    decide
  case boughs =>
    rw [eoak, Option.map_some] at bare
    exact children_eq bare

end SceneGrammar.Derivation
