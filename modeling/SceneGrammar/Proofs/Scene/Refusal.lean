import SceneGrammar.Proofs.Scene.Growth
import SceneGrammar.Proofs.Scene.Walks

/-!
# What a forest refuses

A forest `Grants` a request for nodes that there are, except that a node cannot be placed under a parent
whose frame has no inverse. In particular no search through a forest runs into a node that is not there,
and a node can be moved wherever it does not lead below itself. The children of a node can be removed
one after the other (`remove_children`).
-/

namespace SceneGrammar

/-- The refusal to place a node under a parent whose frame has no inverse. -/
def SceneFault.Singular (f : SceneFault) : Prop := ∃ n, f = .singularParent n

namespace Scene

variable {α : Type} {s : Scene α} {n p : NodeId} {β γ : Type}

/-- A request that is refused over a parent without an inverse at most. -/
def Grants (s : Scene α) (act : Edit (Scene α) β) : Prop :=
  Ends act s (fun _ _ => True) (fun f _ => f.Singular)

/-- Changing a node that there is. -/
lemma update_granted (hn : s.Live n) (f : Node α → Node α) : s.Grants (update n f) :=
  (update_live f hn).imp (fun _ _ _ => trivial) (fun _ _ => id)

/-- A node that is there can be copied. -/
lemma duplicate_granted (hs : s.WellFormed) (hn : s.Live n) : s.Grants (duplicate n) :=
  (duplicate_live hs hn).imp (fun _ _ _ => trivial) (fun _ _ => id)

/-! ## Places in the world -/

/-- What the place of a node in the world depends on: its parent and its frame. -/
def pose? (s : Scene α) (n : NodeId) : Option (Option NodeId × Matrix4 α) :=
  (s.node? n).map fun node => (node.parent, node.frame)

/-- A change of a node that leaves its pose alone. -/
lemma pose?_modifyNode {f : Node α → Node α} (hp : ∀ node, (f node).parent = node.parent)
    (hf : ∀ node, (f node).frame = node.frame) (s : Scene α) (n m : NodeId) :
    (s.modifyNode n f).pose? m = s.pose? m := by
  unfold pose?
  rw [node?_modifyNode]
  split
  · rw [Option.map_map]
    exact congrArg (Option.map · _) (funext fun node => Prod.ext (hp node) (hf node))
  · rfl

/-- Nodes that are not moved keep their poses. -/
lemma pose?_relink (s : Scene α) (n p : NodeId) {m : NodeId} (hm : m ≠ n) :
    (s.relink n p).pose? m = s.pose? m := by
  have unlisted : (s.unlist n).pose? m = s.pose? m := by
    unfold unlist
    split
    · unfold dropChild
      rw [pose?_modifyNode (by simp) (by simp)]
    · rfl
  unfold relink appendChild
  rw [pose?_modifyNode (by simp) (by simp), ← unlisted]
  unfold pose?
  rw [node?_modifyNode, if_neg (Ne.symm hm)]

/-- New nodes leave the poses of old ones alone. -/
lemma Extends.pose?_old {b t : Scene α} (h : Extends b t) (hn : b.Live n) : t.pose? n = b.pose? n := by
  obtain ⟨node, e⟩ := hn
  obtain ⟨added, e', -⟩ := h.old n node e
  unfold pose?
  rw [e, e']
  rfl

variable [Scalar α]

/-- Where there was a way to the root, it is the same if the poses on it are, and so is the place. -/
lemma worldWithin_pose {t : Scene α} {w : Matrix4 α} {bound bound' : Nat} (hle : bound ≤ bound')
    (same : ∀ m, s.Live m → s.Under n m → t.pose? m = s.pose? m)
    (e : s.worldWithin bound n = .ok w) : t.worldWithin bound' n = .ok w := by
  induction bound generalizing n w bound' with
  | zero => cases e
  | succ bound ih =>
    obtain ⟨bound', rfl⟩ := Nat.exists_eq_add_of_le' (Nat.lt_of_lt_of_le (Nat.succ_pos _) hle)
    unfold worldWithin at e ⊢
    cases hn : s.node? n with
    | none =>
      rw [hn] at e
      cases e
    | some node =>
      have pose := same n ⟨node, hn⟩ .refl
      unfold pose? at pose
      rw [hn] at pose
      obtain ⟨node', hn', pose⟩ := Option.map_eq_some_iff.mp pose
      obtain ⟨hparent, hframe⟩ := Prod.mk.inj pose
      rw [hn] at e
      rw [hn']
      dsimp only at e ⊢
      rw [hparent, hframe]
      cases hp : node.parent with
      | none =>
        rw [hp] at e
        exact e
      | some p =>
        rw [hp] at e
        dsimp only at e ⊢
        cases hw : s.worldWithin bound p with
        | error f =>
          rw [hw] at e
          cases e
        | ok v =>
          have up : s.parent? n = some p := (parent?_eq hn).trans hp
          have hw' := ih (Nat.le_of_succ_le_succ hle) (fun m hm hu => same m hm (.head up hu)) hw
          rw [hw] at e
          rw [hw']
          exact e

/-- What is not under a node keeps its place while that node moves. -/
lemma worldOf_apart {t : Scene α} {w : Matrix4 α} (hle : s.lastId ≤ t.lastId)
    (same : ∀ m, m ≠ n → t.pose? m = s.pose? m) (apart : ¬ s.Under p n) (e : s.worldOf p = .ok w) :
    t.worldOf p = .ok w := by
  refine worldWithin_pose (Nat.succ_le_succ hle) (fun m _ hm => same m ?_) e
  rintro rfl
  exact apart hm

/-- Nodes keep their places while a scene grows. -/
lemma Extends.worldOf_ok {b t : Scene α} {w : Matrix4 α} (h : Extends b t)
    (e : b.worldOf n = .ok w) : t.worldOf n = .ok w :=
  worldWithin_pose (Nat.succ_le_succ h.lastId) (fun _ hm _ => h.pose?_old hm) e

/-- Where a node is can be read without changing the scene. -/
lemma world_eq {w : Matrix4 α} (h : s.worldOf n = .ok w) : world n s = .ok w s := by
  simp [world, ask, h]

namespace WellFormed

/-- Parents lead from a node that there is to a root. -/
lemma worldWithin_ok (h : s.WellFormed) {bound : Nat} (hn : s.Live n) (hb : s.rank n < bound) :
    ∃ w, s.worldWithin bound n = .ok w := by
  induction bound generalizing n with
  | zero => exact absurd hb (Nat.not_lt_zero _)
  | succ bound ih =>
    obtain ⟨node, e⟩ := hn
    unfold worldWithin
    rw [e]
    dsimp only
    cases hp : node.parent with
    | none => exact ⟨_, rfl⟩
    | some p =>
      have e' : s.parent? n = some p := (parent?_eq e).trans hp
      have hr := h.rank_parent_lt e'
      obtain ⟨w, hw⟩ := ih (h.live_parent e') (by omega)
      exact ⟨w * node.frame, by simp [hw, Except.map]⟩

/-- A node of a forest has a place in the world. -/
lemma worldOf_ok (h : s.WellFormed) (hn : s.Live n) : ∃ w, s.worldOf n = .ok w :=
  h.worldWithin_ok hn (Nat.lt_succ_of_le (s.rank_le_lastId n))

/-- The place of a node of a forest is given when it is asked for. -/
lemma world_ok (h : s.WellFormed) (hn : s.Live n) :
    ∃ w, s.worldOf n = .ok w ∧ world n s = .ok w s := by
  obtain ⟨w, hw⟩ := h.worldOf_ok hn
  exact ⟨w, hw, world_eq hw⟩

/-- The parent of a node of a forest has a place in the world. -/
lemma parentWorldOf_ok (h : s.WellFormed) {node : Node α} (e : s.node? n = some node) :
    ∃ w, s.parentWorldOf node = .ok w := by
  unfold parentWorldOf
  cases hp : node.parent with
  | none => exact ⟨1, rfl⟩
  | some p => exact h.worldOf_ok (h.live_parent ((parent?_eq e).trans hp))

end WellFormed

/-- What has a place in the world is there. -/
lemma live_of_worldOf {w : Matrix4 α} (e : s.worldOf n = .ok w) : s.Live n := by
  unfold worldOf worldWithin at e
  cases hn : s.node? n with
  | none =>
    rw [hn] at e
    cases e
  | some node => exact ⟨node, hn⟩

/-- What is not there has no place. -/
lemma worldOf_unknown (hn : ¬ s.Live n) : s.worldOf n = .error (.unknownNode n) := by
  unfold worldOf worldWithin
  cases e : s.node? n with
  | none => rfl
  | some node => exact absurd ⟨node, e⟩ hn

/-- The place of a node that is there may be asked for. -/
lemma world_granted (hs : s.WellFormed) (hn : s.Live n) : s.Grants (world n) := by
  obtain ⟨w, -, e⟩ := hs.world_ok hn
  exact Ends.of_ok e trivial

/-- A node that is there can be placed, unless its parent has no inverse. -/
lemma setWorld_granted (hs : s.WellFormed) (hn : s.Live n) (w : Matrix4 α) :
    s.Grants (setWorld n w) := by
  obtain ⟨node, e⟩ := hn
  obtain ⟨parentWorld, ew⟩ := hs.parentWorldOf_ok e
  have hask : ask (·.parentWorldOf node) s = .ok parentWorld s := by simp [ask, ew]
  unfold setWorld
  apply Ends.bind
  refine Ends.of_ok (get_eq e) ?_
  apply Ends.bind
  refine Ends.of_ok hask ?_
  cases parentWorld.inverse? with
  | none => exact Ends.throw ⟨n, rfl⟩
  | some inverse => exact update_granted ⟨node, e⟩ _

/-- Moving a node to where it does not lead below itself ends as placing it there does. -/
lemma reparent_placed (hs : s.WellFormed) (hn : s.Live n) (hp : s.Live p) (hu : ¬ s.Under p n)
    {Q : Unit → Scene α → Prop} {E : SceneFault → Scene α → Prop}
    (h : ∀ w, s.worldOf n = .ok w → Ends (setWorld n w) (s.relink n p) Q E) :
    Ends (reparent n p) s Q E := by
  obtain ⟨pnode, ep⟩ := id hp
  obtain ⟨node, e⟩ := id hn
  obtain ⟨w, hw, ew⟩ := hs.world_ok hn
  unfold reparent
  apply Ends.bind
  refine Ends.of_ok (get_eq ep) ?_
  apply Ends.get
  rw [if_neg (mt hs.isAncestor_iff.mp hu)]
  apply Ends.bind
  refine Ends.of_ok ew ?_
  apply Ends.bind
  refine Ends.of_ok (get_eq e) ?_
  cases e' : node.parent with
  | none => exact relink_ends (by simp [unlist, parent?_eq e, e']) hn hp (h w hw)
  | some old =>
    have hold := hs.live_parent ((parent?_eq e).trans e')
    apply Ends.bind
    refine (update_live _ hold).imp ?_ (fun _ _ => id)
    rintro _ _ rfl
    exact relink_ends (by simp [unlist, parent?_eq e, e', dropChild]) hn hp (h w hw)

/-- A node can be hung under one that is not below it, unless that one has no inverse. -/
lemma reparent_granted (hs : s.WellFormed) (hn : s.Live n) (hp : s.Live p) (hu : ¬ s.Under p n) :
    s.Grants (reparent n p) :=
  reparent_placed hs hn hp hu fun w _ =>
    setWorld_granted (hs.relink hn hp hu) ((live_relink s n p n).mpr hn) w

/-- Adding a node below one that there is. -/
lemma addMarker_granted (hs : s.WellFormed) (hp : s.Live p) (w : Matrix4 α) :
    s.Grants (addMarker w p) := by
  obtain ⟨pnode, ep⟩ := id hp
  obtain ⟨u, hu, e⟩ := addNode_sprouts s "link" (live_some hp)
  have added : (s.addNode "link" (some p)).2.WellFormed := hs.addNode "link" (live_some hp)
  have live : (s.addNode "link" (some p)).2.Live (s.lastId + 1) := by
    rw [e]
    exact hu.attach_live.mpr hu.live
  unfold addMarker
  apply Ends.bind
  refine Ends.of_ok (get_eq ep) ?_
  apply Ends.bind
  refine Ends.modifyGet ?_
  apply Ends.bind
  rw [addNode_fst]
  exact (setWorld_granted added live w).imp (fun _ _ _ => Ends.pure trivial) (fun _ _ => id)

/-- Moving a node and all below it to another collection leaves the links. -/
lemma moveAll_links {E : SceneFault → Scene α → Prop} (hs : s.WellFormed) (hn : s.Live n)
    (origin target : Option String) :
    Ends (Host.moveAll n origin target) s (fun _ => SameLinks s) E := by
  refine Host.moveAll_ends (N := s.Live) ?_ ?_ n s hn ⟨rfl, fun _ => .rfl, fun _ => rfl, fun _ => rfl⟩
  · intro n t hn ht
    refine (update_live _ ((ht.live n).mpr hn)).imp ?_ (fun _ _ => id)
    rintro _ _ rfl
    exact ht.trans (sameLinks_modifyNode (by simp) (by simp) t n)
  · intro n t hn ht c hc
    have hc : c ∈ t.children n := hc
    exact hs.live_child (ht.children n ▸ hc)

/-- A node that is there can be moved to another collection with all below it. -/
lemma moveAll_granted (hs : s.WellFormed) (hn : s.Live n) (origin target : Option String) :
    s.Grants (Host.moveAll n origin target) :=
  (moveAll_links hs hn origin target).imp (fun _ _ _ => trivial) (fun _ _ => id)

/-! ## Clearing -/

omit [Scalar α] in
/-- A child has its parent when another child of the parent was removed. -/
lemma WellFormed.parent?_prune_sibling (h : s.WellFormed) {c d : NodeId} (ec : s.parent? c = some p)
    (ed : s.parent? d = some p) (hne : d ≠ c) : (s.prune c).parent? d = some p := by
  rw [h.parent?_prune, ed]
  intro hu
  obtain rfl | ⟨q, eq, hq⟩ := under_head_iff.mp hu
  · exact hne rfl
  · obtain rfl := Option.some.inj (ed.symm.trans eq)
    exact h.not_under_child ec hq

omit [Scalar α] in
/-- Children that are removed one after the other, and what each removal keeps. -/
lemma remove_children {P : Scene α → Prop} {start : NodeId} (l : List NodeId) (hl : l.Nodup)
    (hs : s.WellFormed) (hc : ∀ c ∈ l, s.parent? c = some start) (hP : P s)
    (step : ∀ {t c}, t.WellFormed → t.parent? c = some start → P t → P (t.prune c)) :
    Ends (l.forM remove) s (fun _ t => t.WellFormed ∧ P t) (fun _ _ => False) := by
  induction l generalizing s with
  | nil => exact Ends.pure ⟨hs, hP⟩
  | cons c l ih =>
    obtain ⟨hcl, hl⟩ := List.nodup_cons.mp hl
    have ec := hc c List.mem_cons_self
    show Ends (remove c >>= fun _ => l.forM remove) s _ _
    apply Ends.bind
    refine (remove_live hs (live_of_parent? ec)).imp ?_ (fun _ _ => id)
    rintro _ _ rfl
    refine ih hl (hs.prune c) (fun d hd => ?_) (step hs ec hP)
    exact hs.parent?_prune_sibling ec (hc d (List.mem_cons_of_mem c hd)) fun e => hcl (e ▸ hd)

end Scene

end SceneGrammar
