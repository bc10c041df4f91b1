import SceneGrammar.Proofs.Scene.Refusal

/-!
# Moving to another collection

Moving a node and all below it to another collection changes the collection of exactly these nodes, and
nothing else. `Moved` says so of any nodes; a single node makes one step (`Moved.step`), and a search
through the children leads to all that is under a node (`moveAll_moved`).
-/

namespace SceneGrammar.Scene

variable {α : Type} {s t : Scene α} {n m : NodeId} {S S' : NodeId → Prop} {target : Option String}

/-- Some nodes are in another collection, and nothing else has changed. -/
structure Moved (S : NodeId → Prop) (target : Option String) (s t : Scene α) : Prop where
  lastId : t.lastId = s.lastId
  collections : t.collections = s.collections
  inside : ∀ m, S m → t.node? m = (s.node? m).map fun node => { node with container := target }
  outside : ∀ m, ¬ S m → t.node? m = s.node? m

namespace Moved

/-- Nothing has moved. -/
lemma refl (target : Option String) (s : Scene α) : Moved (fun _ => False) target s s :=
  ⟨rfl, rfl, fun _ => False.elim, fun _ _ => rfl⟩

/-- What has moved may be said in other words. -/
lemma congr (h : Moved S target s t) (hS : ∀ m, S m ↔ S' m) : Moved S' target s t :=
  (funext fun m => propext (hS m) : S = S') ▸ h

/-- One more node. -/
lemma step (h : Moved S target s t) (n : NodeId) :
    Moved (fun m => S m ∨ m = n) target s
      (t.modifyNode n fun node => { node with container := target }) where
  lastId := (lastId_modifyNode t n _).trans h.lastId
  collections := (collections_modifyNode t n _).trans h.collections
  inside m hm := by
    by_cases hS : S m
    · rw [node?_modifyNode, h.inside m hS]
      split
      · rw [Option.map_map]
        rfl
      · rfl
    · obtain rfl := hm.resolve_left hS
      rw [node?_modifyNode, if_pos rfl, h.outside m hS]
  outside m hm := by
    obtain ⟨hS, hmn⟩ := not_or.mp hm
    rw [node?_modifyNode, if_neg (Ne.symm hmn), h.outside m hS]

/-- A node is as it was, in some collection. -/
lemma node? (h : Moved S target s t) {node : Node α} (e : s.node? m = some node) :
    ∃ container, t.node? m = some { node with container } := by
  by_cases hS : S m
  · exact ⟨target, by rw [h.inside m hS, e, Option.map_some]⟩
  · exact ⟨node.container, by rw [h.outside m hS, e]⟩

/-- No node is added by a move. -/
lemma node?_none (h : Moved S target s t) (e : s.node? m = none) : t.node? m = none := by
  by_cases hS : S m
  · rw [h.inside m hS, e, Option.map_none]
  · rw [h.outside m hS, e]

/-- A move to another collection leaves all links. -/
lemma links (h : Moved S target s t) : SameLinks s t := by
  refine ⟨h.lastId, fun m => ?live, fun m => ?parent, fun m => ?children⟩
  all_goals
    cases e : s.node? m with
    | none =>
      have e' := h.node?_none e
      simp [live_iff, Scene.parent?, Scene.children, e, e']
    | some node =>
      obtain ⟨container, e'⟩ := h.node? e
      simp [live_iff, Scene.parent?, Scene.children, e, e']

/-- A move to another collection leaves what places depend on. -/
lemma pose? (h : Moved S target s t) (m : NodeId) : t.pose? m = s.pose? m := by
  unfold Scene.pose?
  cases e : s.node? m with
  | none => rw [h.node?_none e]
  | some node =>
    obtain ⟨container, e'⟩ := h.node? e
    rw [e']
    rfl

end Moved

variable [Scalar α]

/-- All nodes are where they were. -/
lemma Moved.worldOf_ok (h : Moved S target s t) {w : Matrix4 α} (e : s.worldOf n = .ok w) :
    t.worldOf n = .ok w :=
  worldWithin_pose (Nat.succ_le_succ (Nat.le_of_eq h.lastId.symm)) (fun m _ _ => h.pose? m) e

/-- Moving a node and all below it, after other nodes have been moved. -/
lemma WellFormed.moveAllWithin_moved (hs : s.WellFormed) {origin : Option String} (bound : Nat)
    (hn : s.Live n) (hb : s.weight n ≤ bound) (ht : Moved S target s t) :
    Ends (Host.moveAllWithin bound n origin target) t
      (fun _ => Moved (fun m => S m ∨ s.Under m n) target s) (fun _ _ => False) := by
  induction bound generalizing n S t with
  | zero => exact absurd (weight_pos hn) (by omega)
  | succ bound ih =>
    apply Ends.bind
    refine (update_live _ ((ht.links.live n).mpr hn)).imp ?_ (fun _ _ => id)
    rintro _ _ rfl
    have first := ht.step n
    apply Ends.get
    have children : Host.children (t.modifyNode n fun node => { node with container := target }) n =
        s.children n := first.links.children n
    rw [children]
    refine (Ends.forM_prefix (I := fun done => Moved
      (fun m => (S m ∨ m = n) ∨ ∃ c ∈ done, s.Under m c) target s) ?start ?round).imp ?all
      (fun _ _ => id)
    case start => exact first.congr fun m => by simp
    case round =>
      intro done c rest hc u hu
      have hmem : c ∈ s.children n := hc ▸ by simp
      have light := hs.weight_child_lt hmem
      refine (ih (hs.live_child hmem) (by omega) hu).imp ?_ (fun _ _ => id)
      exact fun _ v hv => hv.congr fun m => by simp [or_assoc]
    case all =>
      exact fun _ u hu => hu.congr fun m => by rw [or_assoc, ← hs.under_iff]

/-- All nodes under a node are moved, and only these. -/
theorem WellFormed.moveAll_moved {E : SceneFault → Scene α → Prop} (hs : s.WellFormed)
    (hn : s.Live n) (origin target : Option String) :
    Ends (Host.moveAll n origin target) s (fun _ => Moved (s.Under · n) target s) E := by
  unfold Host.moveAll
  apply Ends.get
  refine (hs.moveAllWithin_moved _ hn (Nat.le_succ_of_le (s.weight_le_lastId n))
    (.refl target s)).imp ?_ (fun _ _ => False.elim)
  exact fun _ t ht => ht.congr fun m => by simp

end SceneGrammar.Scene
