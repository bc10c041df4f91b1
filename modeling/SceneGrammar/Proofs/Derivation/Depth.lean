import SceneGrammar.Proofs.Derivation.Clearing
import SceneGrammar.Proofs.Derivation.Request
import SceneGrammar.Proofs.Derivation.Whole
import SceneGrammar.Proofs.Scene.Planting
import SceneGrammar.Random.Scripted

/-!
# How deep instances nest

A `Vine` is a scene with a collection of a single template, in which a single leaf has a directive, and that
names the collection again. A run that places the name plants a copy, then one at the leaf of that copy, and
so on, one level further down each time, until the instances nest as deep as the settings allow
(`placeWithin_chained`). So the depth limit alone decides how many copies there are (`generate_chain`).
-/

namespace SceneGrammar

/-- Of a single weight, that is picked. -/
lemma Selection.firstExceeding_single {α : Type} [Add α] [Zero α] [LT α] [DecidableLT α]
    (w threshold : α) : firstExceeding [w] threshold = some 0 := by
  unfold firstExceeding pick firstHit
  split <;> rfl

namespace Derivation

variable {ρ α β : Type} [Scalar α] {s : State (Scene α) ρ α} {n p leaf : NodeId} {place : LinkPlace α}

open Scene

/-! ## Planting a template -/

/-- Putting a node into the collection of a link and under the link. -/
lemma adopt_ends (hs : s.scene.WellFormed) (hn : s.scene.Live n) (p : NodeId) :
    Ends (adopt n p) s
      (fun _ t => ∃ u frame, Moved (s.scene.Under · n) (s.scene.container? p) s.scene u ∧
        t = { s with scene := (u.relink n p).setFrame n frame } ∧ t.scene.WellFormed)
      (fun f _ => ∃ g, f = .scene g) := by
  unfold adopt
  apply Ends.get
  apply Ends.bind
  refine request_ends ((hs.moveAll_moved (E := fun _ _ => False) hn _ _).imp ?_ (fun _ _ => False.elim))
  intro _ u moved
  have hu := moved.links.wellFormed hs
  refine request_ends ((reparent_ends u n p).imp ?_ (fun g _ _ => ⟨g, rfl⟩))
  rintro _ _ ⟨hl, hp, ha, frame, rfl⟩
  have apart : ¬ u.Under p n := by
    rw [← hu.isAncestor_iff, ha]
    exact Bool.false_ne_true
  exact ⟨u, frame, moved, rfl, (hu.relink hl hp apart).setFrame n frame⟩

/-- A copy that is brought to a link is planted there, unless the scene refuses. -/
lemma planting {Q : β → State (Scene α) ρ α → Prop} {E : Fault → State (Scene α) ρ α → Prop}
    {k : NodeId → Action (Scene α) ρ α β} (hs : s.scene.WellFormed) (hp : s.scene.Live place.node)
    (hn : s.scene.Live n) (refused : ∀ g t, E (.scene g) t)
    (hk : ∀ scene, Planted s.scene scene n place.node →
      Ends (k (s.scene.lastId + 1)) { s with scene } Q E) :
    Ends (do
      let copy ← request (Host.duplicate n)
      request (Host.setWorld copy place.composed)
      adopt copy place.node
      k copy) s Q E := by
  apply Ends.bind
  refine request_ends ((hs.duplicate_duplicated (E := fun _ _ => False) hn).imp ?_ (fun _ _ => False.elim))
  rintro _ t ⟨rfl, made⟩
  have live : t.Live (s.scene.lastId + 1) := by
    obtain ⟨node, e⟩ := hn
    exact ⟨_, s.scene.spot_self n _ ▸ made.copies n node .refl e⟩
  apply Ends.bind
  refine request_ends ((setWorld_ends t _ _).imp ?_ (fun g _ _ => refused g _))
  rintro _ _ ⟨frame, rfl⟩
  have links := sameLinks_setFrame t (s.scene.lastId + 1) frame
  have grown : Extends s.scene (t.setFrame (s.scene.lastId + 1) frame) :=
    made.toExtends.modify_fresh (Nat.lt_succ_self _) _
  apply Ends.bind
  refine (adopt_ends (links.wellFormed made.wellFormed) ((links.live _).mpr live) _).imp ?_ ?_
  · rintro _ _ ⟨u, frame', moved, rfl, wellFormed⟩
    dsimp only at moved wellFormed
    rw [grown.container?_old hp] at moved
    exact hk _ (hs.planted hp made (moved.congr fun m => links.under) wellFormed)
  · rintro _ t ⟨g, rfl⟩
    exact refused g t

variable [RandomSource ρ]

/-- The only template of a collection is planted, and the cursor is at its copy. -/
lemma placeTemplate_only (hs : s.scene.WellFormed) (hp : s.scene.Live place.node) (hn : s.scene.Live n)
    (hcursor : s.cursor = .link place) (settings : Settings) (collection : String) :
    Ends (placeTemplate settings collection [n]) s
      (fun _ t => ∃ scene random, Planted s.scene scene n place.node ∧
        t = State.addPlaced { s with scene, random, cursor := .object (s.scene.lastId + 1) }
          (s.scene.lastId + 1))
      (fun f _ => f.category = .adapter) := by
  unfold placeTemplate
  apply Ends.bind
  refine Ends.of_ok (requireLink_eq "instance" hcursor) ?_
  apply Ends.get
  refine Ends.bind (Ends.modify (Ends.bind (Ends.modifyGet ?_)))
  dsimp only
  rw [List.map_singleton, Selection.firstExceeding_single]
  refine planting (s := { s with random := (RandomSource.uniform s.random).2 }) hs hp hn (fun _ _ => rfl)
    fun scene planted => ?_
  refine Ends.bind (Ends.modify (Ends.get (Ends.bind (Ends.modify (Ends.modify ?_)))))
  exact ⟨scene, _, planted, rfl⟩

/-! ## Leaves of copies -/

omit [RandomSource ρ]

/-- The directives below a replica are those of what it is a copy of. -/
lemma directives_replica {scene t : Scene α} {first : NodeId} {mirrored : Bool}
    (h : Replica scene t n first p mirrored) (hs : scene.WellFormed) (ht : t.WellFormed)
    (hn : scene.Live n) (settings : Settings) :
    directives settings t first =
      (directives settings scene n).map fun (leaf, text) => (scene.spot n first leaf, text) := by
  have tree := h.tree hs ht hn .refl
  rw [spot_self, Scene.tree, Scene.tree, List.map_cons] at tree
  have below : t.descendants first = (scene.descendants n).map (scene.spot n first) :=
    (List.cons.inj tree).2
  show (t.descendants first).filterMap _ = ((scene.descendants n).filterMap _).map _
  rw [below, List.filterMap_map, List.map_filterMap]
  refine List.filterMap_congr fun m hm => ?_
  have under : scene.Under m n := hs.mem_tree_iff.mp (.tail n hm)
  have childless : (Host.children t (scene.spot n first m)).isEmpty = (Host.children scene m).isEmpty := by
    show (t.children _).isEmpty = (scene.children m).isEmpty
    rw [h.children hs hn under, List.isEmpty_map]
  have key : Host.property? t (scene.spot n first m) settings.directiveKey =
      Host.property? scene m settings.directiveKey := h.property? hs hn under _
  simp only [Function.comp_apply, childless, key]
  split
  · simp [Option.map_bind, Function.comp_def]
  · rfl

/-- The directives below a node are the same in scenes with the same nodes there. -/
lemma directives_congr {scene t : Scene α} {q : NodeId} (hs : scene.WellFormed) (ht : t.WellFormed)
    (same : ∀ m, scene.Under m q → t.node? m = scene.node? m) (settings : Settings) :
    directives settings t q = directives settings scene q := by
  have tree : t.tree q = scene.tree q := hs.tree_congr ht fun m hm => by
    unfold Scene.children
    rw [same m hm]
  have below : t.descendants q = scene.descendants q := (List.cons.inj tree).2
  show (t.descendants q).filterMap _ = (scene.descendants q).filterMap _
  rw [below]
  refine List.filterMap_congr fun m hm => ?_
  show (if (t.children m).isEmpty then (t.property? m _).bind _ else none) =
    if (scene.children m).isEmpty then (scene.property? m _).bind _ else none
  unfold Scene.children Scene.property?
  rw [same m (hs.mem_tree_iff.mp (.tail q hm))]

/-- The directive of a node, with the node. -/
lemma leafDirective_iff {scene : Scene α} {settings : Settings} {m : NodeId} {found : NodeId × String} :
    (if (Host.children scene m).isEmpty then
      (Host.property? scene m settings.directiveKey).bind fun v => v.text?.map (m, ·) else none) =
        some found ↔
      found.1 = m ∧ scene.children m = [] ∧
        scene.property? m settings.directiveKey = some (.str found.2) := by
  have children : Host.children scene m = scene.children m := rfl
  have property :
    Host.property? scene m settings.directiveKey = scene.property? m settings.directiveKey := rfl
  rw [children, property]
  constructor
  · intro e
    split at e
    case isTrue childless =>
      obtain ⟨v, hv, e⟩ := Option.bind_eq_some_iff.mp e
      obtain ⟨d, hd, rfl⟩ := Option.map_eq_some_iff.mp e
      cases v <;> cases hd
      exact ⟨rfl, List.isEmpty_iff.mp childless, hv⟩
    case isFalse => cases e
  · rintro ⟨rfl, childless, e⟩
    rw [childless, e]
    rfl

/-- What the directives below a node are. -/
lemma mem_directives_iff {scene : Scene α} {m : NodeId} {d : String} {settings : Settings}
    (hs : scene.WellFormed) :
    (m, d) ∈ directives settings scene n ↔ Relation.TransGen scene.ParentOf m n ∧
      scene.children m = [] ∧ scene.property? m settings.directiveKey = some (.str d) := by
  have below : m ∈ scene.descendants n ↔ Relation.TransGen scene.ParentOf m n := by
    rw [hs.mem_descendants_iff, Relation.TransGen.tail'_iff]
    exact exists_congr fun c => ⟨fun h => ⟨h.2, hs.named h.1⟩, fun h => ⟨hs.listed h.2, h.1⟩⟩
  rw [← below, directives, List.mem_filterMap]
  simp only [leafDirective_iff]
  constructor
  · rintro ⟨_, hm, rfl, found⟩
    exact ⟨hm, found⟩
  · rintro ⟨hm, found⟩
    exact ⟨m, hm, rfl, found⟩

/-- No leaf below a node of a forest is found twice. -/
lemma nodup_directives {scene : Scene α} (hs : scene.WellFormed) (settings : Settings) (n : NodeId) :
    (directives settings scene n).Nodup := by
  refine List.Nodup.filterMap (fun a a' found h h' => ?_) (List.nodup_cons.mp (hs.nodup_tree n)).2
  exact (leafDirective_iff.mp h).1.symm.trans (leafDirective_iff.mp h').1

/-- The directives below a node are those of its only leaf that has one. -/
lemma directives_only {scene : Scene α} {settings : Settings} {text : String} (hs : scene.WellFormed)
    (only : ∀ m d, (Relation.TransGen scene.ParentOf m n ∧ scene.children m = [] ∧
      scene.property? m settings.directiveKey = some (.str d)) ↔ m = leaf ∧ d = text) :
    directives settings scene n = [(leaf, text)] := by
  refine List.perm_singleton.mp ((List.perm_ext_iff_of_nodup (nodup_directives hs settings n)
    (List.nodup_singleton _)).mpr fun (m, d) => ?_)
  rw [List.mem_singleton, Prod.mk.injEq, ← only m d, mem_directives_iff hs]

/-! ## Vines -/

/-- A collection of one template, below which one leaf has a directive. -/
structure Vine (settings : Settings) (collection text : String) (n leaf : NodeId) (scene : Scene α) :
    Prop where
  wellFormed : scene.WellFormed
  members : scene.topLevel? collection = some [n]
  leaves : directives settings scene n = [(leaf, text)]

namespace Vine
variable {settings : Settings} {collection text : String} {scene t : Scene α}
  (v : Vine settings collection text n leaf scene)
include v

/-- The template of a vine is there. -/
lemma live : scene.Live n := (root_topLevel? v.members List.mem_cons_self).1

/-- The leaf of a vine is below its template. -/
lemma leaf_under : scene.Under leaf n := by
  have found : (leaf, text) ∈ directives settings scene n := v.leaves ▸ List.mem_cons_self
  exact ((mem_directives_iff v.wellFormed).mp found).1.to_reflTransGen

/-- The template and its leaf stay what they are while copies are planted elsewhere. -/
lemma planted (h : Planted scene t n p) (outside : ¬ scene.Under p n) :
    Vine settings collection text n leaf t where
  wellFormed := h.wellFormed
  members := (h.topLevel? v.wellFormed v.live collection).trans v.members
  leaves := (directives_congr v.wellFormed h.wellFormed (fun _ hm => h.node?_apart v.live outside hm)
    settings).trans v.leaves

/-- They also stay what they are where nodes are taken out that have parents and are not in the template. -/
lemma without {P : NodeId → Prop} (ht : t.WellFormed) (h : Without P scene t)
    (hung : ∀ m, P m → ∃ q, scene.parent? m = some q) (outside : ∀ m, scene.Under m n → ¬ P m) :
    Vine settings collection text n leaf t ∧ t.stage n = scene.stage n ∧
      t.spot n = scene.spot n := by
  have same : ∀ m, scene.Under m n → t.node? m = scene.node? m := fun m hm =>
    h.unchanged (outside m hm) fun c hc => outside c (.head (v.wellFormed.named hc) hm)
  have tree : t.tree n = scene.tree n := v.wellFormed.tree_congr ht fun m hm => by
    unfold Scene.children
    rw [same m hm]
  refine ⟨⟨ht, (h.topLevel? hung _).trans v.members,
    (directives_congr v.wellFormed ht same settings).trans v.leaves⟩, ?_, ?_⟩
  · funext k
    rw [stage, stage, h.lastId, tree]
  · funext first m
    rw [spot, spot, tree]

/-- So clearing a start that is not in the template leaves the template and its leaf what they are. -/
lemma clearStart {start : NodeId} (outside : ¬ scene.Under start n) :
    ∃ t, Derivation.clearStart settings start scene = .ok () t ∧
      Vine settings collection text n leaf t ∧ t.stage n = scene.stage n ∧ t.spot n = scene.spot n ∧
        ¬ t.Under start n := by
  obtain ⟨P, t, cleared, ht, without, below⟩ := clearStart_without settings v.wellFormed start
  have top := (root_topLevel? v.members List.mem_cons_self).2
  -- The template has no parent, so the start can be above it only if it is the template.
  have apart : ∀ m, scene.Under m n → ¬ P m := by
    intro m hm gone
    cases under_total hm (below m gone).to_reflTransGen with
    | inr above => exact outside above
    | inl above =>
      cases WellFormed.under_head_iff.mp above with
      | inl same => exact outside (same ▸ .refl)
      | inr above =>
        obtain ⟨q, up, -⟩ := above
        exact nomatch top.symm.trans up
  have hung : ∀ m, P m → ∃ q, scene.parent? m = some q := fun m gone => by
    obtain ⟨q, up, -⟩ := Relation.TransGen.head'_iff.mp (below m gone)
    exact ⟨q, up⟩
  obtain ⟨vine, stages, spots⟩ := v.without ht without hung apart
  exact ⟨t, cleared, vine, stages, spots, fun h => outside (without.under h)⟩

/-- The copy of the leaf is there. -/
lemma live_copy (h : Planted scene t n p) : t.Live (scene.spot n (scene.lastId + 1) leaf) := by
  obtain ⟨node, e⟩ := live_of_under v.live v.leaf_under
  obtain ⟨copy, e', -⟩ := h.replica.copy v.wellFormed v.leaf_under e
  exact ⟨copy, e'⟩

/-- The leaf's copy is not in the template. -/
lemma outside_copy (h : Planted scene t n p) (hp : scene.Live p) (outside : ¬ scene.Under p n) :
    ¬ t.Under (scene.spot n (scene.lastId + 1) leaf) n := by
  have below := h.replica.under v.wellFormed h.wellFormed v.live v.leaf_under
  exact h.apart v.wellFormed v.live hp v.live outside below

/-- The copy has the leaf's copy for its only leaf with a directive. -/
lemma copy_leaves (h : Planted scene t n p) :
    directives settings t (scene.lastId + 1) = [(scene.spot n (scene.lastId + 1) leaf, text)] := by
  rw [directives_replica h.replica v.wellFormed h.wellFormed v.live, v.leaves]
  rfl

end Vine

/-! ## Copies at the leaves of copies -/

section
variable [RandomSource ρ] {env : Surroundings (Scene α) ρ α} {text : String}
  {Q : Unit → State (Scene α) ρ α → Prop} {E : Fault → State (Scene α) ρ α → Prop}

/-- A leaf that was not expanded before is entered, and its directive is carried out there. -/
lemma expandLeaf_ends (hs : s.scene.WellFormed) (hleaf : s.scene.Live leaf) (unmarked : leaf ∉ s.expanded)
    (h : ∀ world, Ends (runDirective env leaf text)
      { s.pushScope with expanded := leaf :: s.expanded, cursor := .link (.enter leaf world) }
      (fun b t => Q b t.popScope) (fun f t => E f t.popScope)) :
    Ends (expandLeaf env leaf text) s Q E := by
  obtain ⟨world, -, e⟩ := hs.world_ok hleaf
  unfold expandLeaf
  apply Ends.get
  rw [if_neg (by simpa using unmarked)]
  refine Ends.bind (Ends.modify ?_)
  apply inScope_ends
  unfold enterLink
  refine Ends.bind (Ends.bind (request_ends (Ends.of_ok e (Ends.modify ?_))))
  exact h world

/-- A directive that is no grammar is a name to be placed. -/
lemma runDirective_name (unread : Grammar.parse? text = none)
    (h : Ends (env.place (Text.trim text)) s Q E) : Ends (runDirective env leaf text) s Q E := by
  unfold runDirective
  refine Ends.bind (Ends.modify ?_)
  rw [unread]
  exact h

/-- A run at a link where a vine may grow: the name stands for no definition, and nothing new has been
expanded. -/
structure Rooted (settings : Settings) (collection text : String) (n leaf : NodeId) (place : LinkPlace α)
    (s : State (Scene α) ρ α) : Prop where
  vine : Vine settings collection text n leaf s.scene
  cursor : s.cursor = .link place
  live : s.scene.Live place.node
  outside : ¬ s.scene.Under place.node n
  undefined : s.definitions.get? collection = none
  marks : ∀ m ∈ s.expanded, m ≤ s.scene.lastId

/-- A run that has planted a copy at a place and has gone to the copy of the leaf, one instance further
down. -/
structure Climbed (s t : State (Scene α) ρ α) (n leaf : NodeId) (place place' : LinkPlace α) : Prop where
  planted : Planted s.scene t.scene n place.node
  leaf : place'.node = s.scene.spot n (s.scene.lastId + 1) leaf
  depth : t.depth = s.depth + 1
  errors : t.errors = s.errors
  generated : t.generated = s.generated.push (s.scene.lastId + 1)

variable {settings : Settings} {collection : String}

/-- Where a vine may grow it does, and it may grow again at the leaf of the copy. -/
lemma Rooted.step {Q : Scene α → Array Fault → Array NodeId → Prop}
    {inner : String → Action (Scene α) ρ α Unit}
    (h : Rooted settings collection text n leaf place s) (enough : s.depth ≤ settings.maxDepth.toNat)
    (trimmed : Text.trim text = collection) (unread : Grammar.parse? text = none)
    (inside : ∀ place' t, Rooted settings collection text n leaf place' t →
      Climbed s t n leaf place place' → Ends (inner collection) t (fun _ u => Q u.scene u.errors u.generated)
        (fun f _ => f.category = .adapter)) :
    Ends (placeInstance settings inner collection) s (fun _ t => Q t.scene t.errors t.generated)
      (fun f _ => f.category = .adapter) := by
  have v := h.vine
  unfold placeInstance
  apply Ends.get
  rw [if_neg (Nat.not_lt_of_le enough)]
  apply nested_ends
  unfold placeName
  apply Ends.get
  have undefined : s.descend.atLevel.definitions.get? collection = none := h.undefined
  have members : Host.topLevel? s.descend.atLevel.scene collection = some [n] := v.members
  rw [undefined]
  dsimp only
  rw [members]
  apply Ends.bind
  refine (placeTemplate_only (s := s.descend.atLevel) v.wellFormed h.live v.live h.cursor settings
    collection).imp ?_ (fun _ _ => id)
  rintro _ _ ⟨scene, random, (planted : Planted s.scene scene n place.node), rfl⟩
  have fresh : s.scene.lastId < s.scene.spot n (s.scene.lastId + 1) leaf :=
    Nat.lt_of_lt_of_le (Nat.lt_succ_self _) (Nat.le_add_right _ _)
  have live := v.live_copy planted
  unfold expandLeaves
  apply Ends.get
  show Ends (List.forM (directives settings scene (s.scene.lastId + 1)) _) _ _ _
  rw [v.copy_leaves planted]
  show Ends (expandLeaf _ _ text >>= fun _ => pure PUnit.unit) _ _ _
  apply Ends.bind
  refine expandLeaf_ends planted.wellFormed live (fun marked => ?_) fun world => ?_
  · exact absurd (h.marks _ marked) (Nat.not_le_of_lt fresh)
  refine runDirective_name unread ?_
  rw [trimmed]
  have marks : ∀ m ∈ s.scene.spot n (s.scene.lastId + 1) leaf :: s.expanded, m ≤ scene.lastId := by
    refine List.forall_mem_cons.mpr ⟨live.le_lastId, fun m hm => ?_⟩
    exact (h.marks m hm).trans planted.lastId
  have outside := v.outside_copy planted h.live h.outside
  refine Ends.imp (inside (.enter _ world) _
    ⟨v.planted planted h.outside, rfl, live, outside, h.undefined, marks⟩
    ⟨planted, rfl, rfl, rfl, rfl⟩) ?_ (fun _ _ => id)
  intro _ t hQ
  obtain ⟨cursor, scopes, popped⟩ := t.popScope_eq
  rw [popped]
  exact Ends.pure hQ

/-- Placing the name of a vine makes as many copies as levels are left, each at the leaf of the one before
it, and records nothing. -/
lemma placeWithin_chained (levels : Nat) (trimmed : Text.trim text = collection)
    (unread : Grammar.parse? text = none) (h : Rooted settings collection text n leaf place s)
    (depth : s.depth + levels = settings.maxDepth.toNat + 1) :
    Ends (placeWithin settings levels collection) s
      (fun _ t => Chained s.scene t.scene n leaf place.node levels ∧ t.errors = s.errors ∧
        t.generated.toList = s.generated.toList ++ (List.range levels).map (s.scene.stage n))
      (fun f _ => f.category = .adapter) := by
  induction levels generalizing s place with
  | zero => exact Ends.pure ⟨.none h.vine.wellFormed n leaf place.node, rfl, by simp⟩
  | succ levels ih =>
    unfold placeWithin
    refine h.step (Q := fun scene errors generated => Chained s.scene scene n leaf place.node (levels + 1) ∧
      errors = s.errors ∧ generated.toList = s.generated.toList ++
        (List.range (levels + 1)).map (s.scene.stage n)) (by lia) trimmed unread
      fun place' t rooted climbed => ?_
    refine (ih rooted (climbed.depth ▸ by lia)).imp ?_ (fun _ _ => id)
    rintro _ u ⟨chained, errors, generated⟩
    have v := h.vine
    have planted := climbed.planted
    rw [climbed.leaf] at chained
    refine ⟨chained.step planted v.wellFormed v.live h.outside, errors.trans climbed.errors, ?_⟩
    rw [generated, climbed.generated, Array.toList_push, List.append_assoc, List.singleton_append,
      List.range_succ_eq_map, List.map_cons, List.map_map, stage_zero]
    congr 2
    exact List.map_congr_left fun k _ => planted.stage_succ v.wellFormed v.live h.outside k

end

/-! ## Runs that place a name -/

section
variable [RandomSource ρ] {settings : Settings} {collection text : String}

/-- A literal name needs no preparation. -/
lemma prepareEach_name (settings : Settings) (name : String) (s : State (Scene α) ρ α) :
    prepareEach settings [.place (.literal (.str name))] s = s := by
  unfold prepareEach prepare prepareArgument
  rfl

/-- A rule that places a name does what its surroundings do with the name. -/
lemma executeAll_name (env : Surroundings (Scene α) ρ α) {name : String}
    {Q : Unit → State (Scene α) ρ α → Prop} {E : Fault → State (Scene α) ρ α → Prop}
    (hcursor : s.cursor = .link place)
    (h : Ends (env.place name) s Q (fun f t => f.fatal = true ∧ E f t)) :
    Ends (executeAll env [.place (.literal (.str name))]) s Q E := by
  unfold executeAll
  apply Ends.get
  refine Ends.bind (Ends.modify (Ends.bind (tolerate_ends ?_)))
  unfold execute
  refine Ends.bind (Ends.of_ok (requireLink_eq "instance" hcursor) (Ends.bind (Ends.of_ok rfl ?_)))
  refine Ends.imp h ?_ ?_
  · intro _ t hQ
    unfold executeAll
    exact Ends.pure hQ
  · rintro f t ⟨fatal, hE⟩
    exact ⟨fun _ => hE, fun mild => nomatch fatal.symm.trans mild⟩

/-- A run that places the name of a vine plants one copy more than instances may nest deep, unless the scene
refuses something. -/
lemma derive_chained {scene : Scene α} {start : NodeId} (trimmed : Text.trim text = collection)
    (unread : Grammar.parse? text = none) (v : Vine settings collection text n leaf scene)
    (hstart : scene.Live start) (outside : ¬ scene.Under start n) (random : ρ) (world : Matrix4 α) :
    let t := derive (outermost settings) [.place (.literal (.str collection))]
      (State.started random 0 start world scene)
    (∀ f ∈ t.errors.toList, f.category ≠ .adapter) →
      Chained scene t.scene n leaf start (settings.maxDepth.toNat + 1) ∧ t.errors = #[] ∧
        t.generated.toList = (List.range (settings.maxDepth.toNat + 1)).map (scene.stage n) := by
  intro t calm
  let s : State (Scene α) ρ α := State.started random 0 start world scene
  have fatal : ∀ f : Fault, f.category = .adapter → f.fatal = true := fun f e => by
    rw [Fault.fatal, e]
    rfl
  have entered : s.cursor = .link (.enter start world) := rfl
  have rooted : Rooted settings collection text n leaf (.enter start world) s :=
    ⟨v, entered, hstart, outside, rfl, fun _ h => absurd h List.not_mem_nil⟩
  have chained := executeAll_name (outermost settings) entered
    ((placeWithin_chained (settings.maxDepth.toNat + 1) trimmed unread rooted (Nat.zero_add _)).imp
      (fun _ _ => id) fun f _ e => ⟨fatal f e, e⟩)
  have prepared := prepareEach_name settings collection s
  have derived : t = executeToEnd (outermost settings) [.place (.literal (.str collection))] s := by
    have env : (outermost settings : Surroundings (Scene α) ρ α).settings = settings := rfl
    have empty := congrArg State.errors prepared
    rw [← env] at empty
    exact (derive_eq_executeToEnd empty).trans (congrArg _ prepared)
  rw [derived] at calm ⊢
  unfold executeToEnd at calm ⊢
  cases run : executeAll (outermost settings) [.place (.literal (.str collection))] s with
  | ok _ u =>
    exact chained.ok run
  | error f u =>
    have e := chained.error run
    rw [run] at calm
    refine absurd e (calm f ?_)
    simp [State.record, fatal f e]

end

/-- A template with a leaf whose directive places its collection again is copied once more than instances may
nest deep, each copy at the copy of the leaf in the one before. -/
theorem generate_chain [RandomSource ρ] (settings : Settings) (collection text : String)
    (start n leaf : NodeId) (scene : Scene α) (random : ρ) (hs : scene.WellFormed)
    -- The collection has one template, and one of its leaves has a directive, which names it.
    (members : scene.topLevel? collection = some [n])
    (only : ∀ m d, (Relation.TransGen scene.ParentOf m n ∧ scene.children m = [] ∧
      scene.property? m settings.directiveKey = some (.str d)) ↔ m = leaf ∧ d = text)
    (trimmed : Text.trim text = collection) (unread : Grammar.parse? text = none)
    (outside : ¬ scene.Under start n) :
    let run := generate settings [.place (.literal (.str collection))] start scene random
    -- Unless the scene refuses something.
    (∀ f ∈ run.1.errors, f.category ≠ .adapter) →
      run.1.errors = [] ∧
      run.1.generated = (List.range (settings.maxDepth.toNat + 1)).map (scene.stage n) ∧
      run.1.generated.Nodup ∧
      run.2.1.parent? (scene.stage n 0) = some start ∧
      (∀ k < settings.maxDepth.toNat + 1,
        (run.2.1.node? (scene.stage n k)).bind (·.source) = some n) ∧
      ∀ k < settings.maxDepth.toNat,
        let copy := scene.spot n (scene.stage n k) leaf
        run.2.1.parent? (scene.stage n (k + 1)) = some copy ∧
          (run.2.1.node? copy).bind (·.source) = some leaf ∧ run.2.1.Under copy (scene.stage n k) := by
  intro run calm
  have v : Vine settings collection text n leaf scene := ⟨hs, members, directives_only hs only⟩
  obtain ⟨base, cleared, vine, stages, spots, beside⟩ := v.clearStart outside
  have begun := generateIn_cases (outermost settings) [.place (.literal (.str collection))] start scene
    random |>.ok cleared
  cases entered : (Host.world start base : EStateM.Result SceneFault (Scene α) (Matrix4 α)) with
  | error f t =>
    have refused : run = ({ errors := [.scene f] }, t, random) := begun.error entered
    exact absurd rfl (calm (.scene f) (by simp [refused]))
  | ok world t =>
    obtain ⟨rfl, place⟩ := (ask_ends base (·.worldOf start)).ok entered
    obtain ⟨s, derived, ran⟩ := begun.ok entered
    have errors : run.1.errors = s.errors.toList := congrArg (·.1.errors) ran
    have generated : run.1.generated = s.generated.toList := congrArg (·.1.generated) ran
    have left : run.2.1 = s.scene := congrArg (·.2.1) ran
    obtain ⟨chained, none, copies⟩ : Chained t s.scene n leaf start (settings.maxDepth.toNat + 1) ∧
        s.errors = #[] ∧
        s.generated.toList = (List.range (settings.maxDepth.toNat + 1)).map (t.stage n) := by
      rw [derived]
      rw [errors, derived] at calm
      exact derive_chained trimmed unread vine (live_of_worldOf place) beside random world calm
    rw [errors, generated, left, none, copies, ← stages, ← spots]
    refine ⟨rfl, rfl, List.nodup_range.map (t.stage_injective n), chained.base (Nat.succ_pos _), ?_, ?_⟩
    · intro k hk
      have := (chained.copies k hk n .refl).1
      rwa [spot_self] at this
    · intro k hk
      exact ⟨chained.link k (Nat.succ_lt_succ hk),
        chained.copies k (Nat.lt_succ_of_lt hk) leaf vine.leaf_under⟩

/-- A vine whose shoot has a tip that is a vine again, and a site. -/
def trellis : Scene ℚ :=
  Scene.empty.applyAll [.addTemplate "vines" "shoot", .addNode "tip" (some 1),
    .tag 2 "gen_instance" (.str " vines "), .addNode "site" none]

/-- The trellis is a forest. -/
lemma trellis_wellFormed : trellis.WellFormed := wellFormed_empty.applyAll _ (by decide)

/-- With two instances inside each other at most, three shoots grow at the site. -/
theorem generate_chain_trellis :
    let settings : Settings := { maxDepth := 2 }
    let run := generate settings [.place (.literal (.str "vines"))] 3 trellis
      ({ uniforms := #[] } : Random.Scripted)
    trellis.WellFormed ∧ run.1.errors = [] ∧ run.1.generated = [4, 6, 8] ∧
      run.2.1.parent? 4 = some 3 ∧ run.2.1.parent? 6 = some 5 ∧ run.2.1.parent? 8 = some 7 := by
  intro settings run
  have members : trellis.topLevel? "vines" = some [1] := by decide
  have only : ∀ m d, (Relation.TransGen trellis.ParentOf m 1 ∧ trellis.children m = [] ∧
      trellis.property? m settings.directiveKey = some (.str d)) ↔ m = 2 ∧ d = " vines " := by
    intro m d
    rw [← mem_directives_iff trellis_wellFormed,
      show directives settings trellis 1 = [(2, " vines ")] by decide, List.mem_singleton, Prod.mk.injEq]
  have calm : run.1.errors = [] := by decide +kernel
  have outside : ¬ trellis.Under 3 1 := mt trellis_wellFormed.mem_tree_iff.mpr (by decide)
  obtain ⟨-, generated, -, first, -, next⟩ := generate_chain settings "vines" " vines " 3 1 2 trellis
    ({ uniforms := #[] } : Random.Scripted) trellis_wellFormed members only (by decide +kernel)
    (by decide +kernel) outside (calm ▸ fun _ h => absurd h List.not_mem_nil)
  exact ⟨trellis_wellFormed, calm, generated, first, (next 0 (by decide)).1, (next 1 (by decide)).1⟩

end Derivation

end SceneGrammar
