import SceneGrammar.Proofs.Derivation.Capture
import SceneGrammar.Proofs.Derivation.Pool
import SceneGrammar.Proofs.Derivation.Upright

/-!
# Placing templates

A name that no definition has stands for a collection, and one uniform number and the weights of its
members decide which of them is copied. The copy, with all below it, lands under the link and in the
link's collection before the directives of its leaves run, which draw from what is left. Whatever these
do, it stays at its place, the cursor comes back to it, and it stands before all that they generate
(`place_lands`).
-/

namespace SceneGrammar

/-- The weight that a property gives to a template: one if it is missing or no finite number, and none
below zero. -/
inductive Literal.Weighs : Option Literal → Float → Prop where
  | missing : Weighs none 1
  | other {v : Literal} : v.number? = none → Weighs (some v) 1
  | infinite {v : Literal} {w : Float} : v.number? = some w → w.isFinite = false → Weighs (some v) 1
  | negative {v : Literal} {w : Float} : v.number? = some w → w.isFinite = true → ¬ 0 ≤ w →
    Weighs (some v) 0
  | number {v : Literal} {w : Float} : v.number? = some w → w.isFinite = true → 0 ≤ w →
    Weighs (some v) w

namespace Derivation

section
variable {σ ρ α : Type}

/-- The weight of a template is what its property weighs. -/
lemma templateWeight_weighs [Host σ α] (settings : Settings) (scene : σ) (n : NodeId) :
    Literal.Weighs (Host.property? scene n settings.weightKey) (templateWeight settings scene n) := by
  unfold templateWeight
  cases Host.property? scene n settings.weightKey with
  | none => exact .missing
  | some v =>
    rw [Option.bind_some]
    cases hw : v.number? with
    | none => exact .other hw
    | some w =>
      dsimp only
      split
      · next finite =>
        split
        · next positive => exact .number hw finite positive
        · next negative => exact .negative hw finite negative
      · next infinite => exact .infinite hw (by simpa using infinite)

/-! ## What leaves do -/

/-- More nodes have been generated since. -/
def Lists (s t : State σ ρ α) : Prop := s.generated.toList <+: t.generated.toList

lemma Lists.of_eq {s t : State σ ρ α} (h : t.generated = s.generated) : Lists s t := by
  unfold Lists
  rw [h]

lemma Lists.addGenerated (s : State σ ρ α) (n : NodeId) : Lists s (s.addGenerated n) :=
  ⟨[n], by simp [State.addGenerated]⟩

/-- Requests leave what is listed as generated. -/
lemma request_lists {β : Type} (act : Edit σ β) :
    Quiet Lists (request act : Action σ ρ α β) := by
  intro s
  apply request_ends
  unfold Ends
  split
  · exact .of_eq rfl
  · exact .of_eq rfl

variable [Host σ α]

/-- Only placing lists a node as generated. -/
lemma lists_serves : Serves (Lists : State σ ρ α → State σ ρ α → Prop) where
  refl _ := .of_eq rfl
  trans h k := h.trans k
  note _ := .of_eq rfl
  book _ _ _ _ _ _ _ := .of_eq rfl
  offer _ := request_lists _
  moveAll _ _ _ := request_lists _
  addGenerated := .addGenerated

variable [Scalar α] [RandomSource ρ]

/-- What a run has generated stays the beginning of what it generates. -/
lemma lists_conduct (settings : Settings) :
    Conduct settings (fun _ => (Lists : State σ ρ α → State σ ρ α → Prop)) := by
  refine lists_serves.conduct (fun _ _ => .of_eq rfl) (fun s n => .addGenerated s n) ?publish ?scope
    ?descend ?expand
  case publish =>
    intro s name link
    obtain ⟨captures, e⟩ := s.publish_eq name link
    rw [e]
    exact .of_eq rfl
  case scope =>
    intro s t h
    obtain ⟨cursor, scopes, e⟩ := t.popScope_eq
    rw [e]
    exact h
  case descend => exact fun _ h => h
  case expand =>
    intro s t u v _ h k l
    obtain ⟨cursor, captures, e⟩ := u.closeCapture_eq
    rw [e] at l
    exact (h.trans k).trans l

/-! ## Placing a template -/

/-- A name that stands for a collection has a template placed, and then the directives of the leaves of
the copy are carried out. -/
lemma placeWithin_collection {settings : Settings} {levels : Nat} {s : State σ ρ α} {name : String}
    {members : List NodeId} (hdepth : s.depth ≤ settings.maxDepth.toNat)
    (hname : s.definitions.get? name = none)
    (hmembers : Host.topLevel? s.descend.atLevel.scene name = some members) :
    Ends (placeWithin settings (levels + 1) name) s
      (fun _ t => ∃ u v, placeTemplate settings name members s.descend.atLevel = .ok () u ∧
        expandLeaves ⟨settings, placeWithin settings levels⟩ u = .ok () v ∧ t = v.ascend.atLevel)
      (fun _ _ => True) := by
  have hname' : s.descend.atLevel.definitions.get? name = none := hname
  unfold placeWithin placeInstance
  apply Ends.get
  rw [if_neg (Nat.not_lt.mpr hdepth)]
  apply nested_ends
  unfold placeName
  apply Ends.get
  rw [hname']
  dsimp only
  rw [hmembers]
  apply Ends.bind
  refine Ends.itself.imp ?_ (fun _ _ _ => trivial)
  intro _ u hu
  refine Ends.itself.imp ?_ (fun _ _ _ => trivial)
  exact fun _ v hv => ⟨u, v, hu, hv, rfl⟩

end

variable {ρ α : Type} [ExactScalar α] [RandomSource ρ]

/-- Whatever the directives of leaves do, on a forest without rounding, what there was stays there, the
cursor comes back, and what was generated stays the beginning of what is generated. -/
lemma expandLeaves_grows (settings : Settings) (levels : Nat) {s t : State (Scene α) ρ α}
    (hs : Current s)
    (run : expandLeaves ⟨settings, placeWithin settings levels⟩ s = .ok () t) :
    s.scene.Grown t.scene ∧ t.cursor = s.cursor ∧ Lists s t := by
  have hung := (current_regime (ρ := ρ) settings).upholding
    (hung_upholds Matrix4.inverse?_one_ne_none settings s.scene)
  have lists := (lists_conduct (σ := Scene α) (ρ := ρ) settings).regime
  refine ⟨?grown, ?cursor, ?lists⟩
  case grown =>
    exact ((hung.expandLeaves (hung.placeWithin levels) ⟨hs, .refl hs.wellFormed⟩).ok run).2.toGrown
  case cursor => exact ((expandLeaves_returned settings levels s).ok run).cursor
  case lists => exact (lists.expandLeaves (lists.placeWithin levels) trivial).ok run

/-- All members are weighed. -/
lemma members_weighed (settings : Settings) (scene : Scene α) (members : List NodeId) :
    members.Forall₂ (fun n w => Literal.Weighs (scene.property? n settings.weightKey) w)
      (members.map (templateWeight settings scene)) :=
  List.forall₂_map_right_iff.mpr (List.forall₂_same.mpr fun n _ => templateWeight_weighs settings scene n)

/-- One of the members is picked, and it lands. -/
lemma placeTemplate_picks {settings : Settings} {s r : State (Scene α) ρ α} {place : LinkPlace α}
    {name : String} {members : List NodeId} (up : Upright s) (hcursor : s.cursor = .link place)
    (some_member : members ≠ []) (run : placeTemplate settings name members s = .ok () r) :
    let draw := RandomSource.uniform s.random
    let weights := members.map (templateWeight settings s.scene)
    let copy := s.scene.lastId + 1
    ∃ i template landed,
      Selection.firstExceeding weights (draw.1 * Selection.total weights) = some i ∧
      members[i]? = some template ∧ s.scene.Landed landed template place.node false place.composed ∧
      r = State.addPlaced { s with scene := landed, random := draw.2, cursor := .object copy } copy := by
  intro draw weights copy
  have landing := (placingTemplate up.straight (Scene.live_of_worldOf (up.world hcursor))
    (up.affine_composed hcursor) hcursor settings name members).ok run
  have unfailing : Selection.firstExceeding weights (draw.1 * Selection.total weights) ≠ none := by
    rw [Selection.firstExceeding, ne_eq, Selection.pick_eq_none_iff, List.map_eq_nil_iff]
    exact some_member
  obtain ⟨i, pick⟩ := Option.ne_none_iff_exists'.mp unfailing
  have hi : i < members.length := by simpa [weights] using Selection.pick_lt_length pick
  have member : members[i]? = some members[i] := List.getElem?_eq_getElem hi
  have chosen : (Selection.firstExceeding weights (draw.1 * Selection.total weights)).bind
      (members[·]?) = some members[i] := by
    rw [pick, Option.bind_some, member]
  rw [chosen] at landing
  obtain ⟨landed, rfl, h⟩ := landing
  exact ⟨i, members[i], landed, pick, member, h, rfl⟩

/-- On a forest of affine frames a run is upright at every rule, and wherever it is upright and at a link,
placing the name of a collection copies the member that is drawn to the cursor, and the copy stays there. -/
theorem place_lands (settings : Settings) (grammar : Grammar) (start : NodeId) (scene : Scene α)
    (random : ρ) (hs : scene.WellFormed) (affine : scene.Affine) (hstart : scene.Live start) :
    Diary.Attests (Upright : State (Scene α) ρ α → Prop)
      (generate settings grammar start ({ host := scene } : Diary (Scene α) α) random).2.1 ∧
    ∀ (levels : Nat) (name : String) (s t : State (Scene α) ρ α) (place : LinkPlace α), Upright s →
      s.cursor = .link place → s.depth ≤ settings.maxDepth.toNat →
      s.definitions.get? name = none → name ∈ s.scene.collections →
      (∃ n node, s.scene.node? n = some node ∧ node.parent = none ∧ node.container = some name) →
      execute ⟨settings, placeWithin settings (levels + 1)⟩ (.place (.literal (.str name))) s =
        .ok () t →
      let draw := RandomSource.uniform s.random
      let copy := s.scene.lastId + 1
      ∃ (members : List NodeId) (weights : List Float) (i : Nat) (template : NodeId) (landed : Scene α)
        (v : State (Scene α) ρ α),
        -- The members of the collection, by number, and their weights decide with the first draw.
        members.Pairwise (· < ·) ∧
        (∀ n, n ∈ members ↔ ∃ node, s.scene.node? n = some node ∧ node.parent = none ∧
          node.container = some name) ∧
        members.Forall₂ (fun n w => Literal.Weighs (s.scene.property? n settings.weightKey) w) weights ∧
        Selection.firstExceeding weights (draw.1 * Selection.total weights) = some i ∧
        members[i]? = some template ∧
        -- The copy lands, and from there on the directives of its leaves are carried out.
        s.scene.Replica landed template copy place.node false ∧
        expandLeaves ⟨settings, placeWithin settings levels⟩
            (State.addPlaced
              { s.descend with scene := landed, random := draw.2, cursor := .object copy } copy) =
          .ok () v ∧
        t = v.ascend ∧
        -- In the end it is where it was put, as the first of all nodes that were generated.
        landed.Extends t.scene ∧ s.scene.Extends t.scene ∧
        t.scene.parent? copy = some place.node ∧ copy ∈ t.scene.children place.node ∧
        (∀ n, s.scene.Under n template → t.scene.container? (s.scene.spot template copy n) =
          s.scene.container? place.node) ∧
        t.scene.worldOf copy = .ok (place.world * Matrix4.shift place.offset.location *
          Matrix4.rotation place.offset.rotation * Matrix4.scaling place.offset.scale) ∧
        t.cursor = .object copy ∧
        ∃ later, t.generated.toList = s.generated.toList ++ copy :: later := by
  refine ⟨generate_upright settings grammar start scene random ⟨hs, affine⟩ hstart, ?_⟩
  intro levels name s t place up hcursor hdepth hname declared ⟨n, hn⟩ run draw copy
  obtain ⟨members, hmembers, ordered, mem⟩ := Scene.topLevel?_declared declared
  have regime := upright_regime (ρ := ρ) (α := α) settings
  have down : Upright s.descend := regime.descend up hdepth
  have some_member : members ≠ [] := List.ne_nil_of_mem ((mem n).mpr hn)
  obtain ⟨r, v, hr, hv, rfl⟩ := (placeWithin_collection hdepth hname hmembers).ok
    (execute_place hcursor rfl run)
  have current := (regime.placeTemplate down hname hmembers).ok hr
  obtain ⟨i, template, landed, pick, chosen, h, rfl⟩ := placeTemplate_picks down hcursor some_member hr
  obtain ⟨grown, back, later⟩ := expandLeaves_grows settings levels current.1 hv
  obtain ⟨node, e, -, -⟩ := (mem _).mp (List.mem_of_getElem? chosen)
  obtain ⟨frame, root⟩ := h.replica.root node e
  have above : v.scene.parent? copy = some place.node :=
    (grown.parent?_old ⟨_, root⟩).trans (Scene.parent?_eq root)
  refine ⟨members, _, i, template, landed, v, ordered, mem, members_weighed settings s.scene members, pick,
    chosen, h.replica, hv, rfl, grown.toExtends, h.trans grown.toExtends, above, grown.wellFormed.listed above,
    fun n under => ?collection, ?world, back, ?generated⟩
  case collection =>
    obtain ⟨live, collection⟩ := h.replica.container? down.straight.wellFormed ⟨node, e⟩ under
    exact (grown.container?_old live).trans collection
  case world =>
    have composed : place.composed = place.world * Matrix4.shift place.offset.location *
        Matrix4.rotation place.offset.rotation * Matrix4.scaling place.offset.scale := by
      rw [LinkPlace.composed, Offset.matrix, ← mul_assoc, ← mul_assoc]
    exact composed ▸ grown.worldOf_ok h.place
  case generated =>
    obtain ⟨rest, later⟩ := later
    refine ⟨rest, ?_⟩
    show v.generated.toList = _
    simpa [State.addPlaced, State.addGenerated, State.descend] using later.symm

end Derivation

/-- A glade with a site on a stage, and an oak with a bough as a template, where every distance is
rational. -/
def Scene.glade : Scene ℚ :=
  empty.applyAll [.addTemplate "trees" "oak", .addNode "bough" (some 1), .addNode "glade" none,
    .addNode "site" (some 3), .setFrame 2 (Matrix4.shift ⟨0, 1, 0⟩), .setFrame 3 (Matrix4.shift ⟨0, 0, 5⟩),
    .setFrame 4 (Matrix4.shift Vec3.ones), .moveTo 4 none (some "stage")]

/-- The glade is a forest. -/
lemma Scene.glade_wellFormed : glade.WellFormed := wellFormed_empty.applyAll _ (by decide)

/-- The frames of the glade are affine. -/
lemma Scene.glade_affine : glade.Affine := by decide +kernel

namespace Derivation

/-- An oak is placed two steps beside the site, twice as large, and its bough is on the stage as well. -/
theorem place_lands_glade :
    let scene := Scene.glade
    let site : Matrix4 ℚ := Matrix4.shift ⟨1, 1, 6⟩
    let aside : Offset ℚ := ⟨⟨2, 0, 0⟩, 0, ⟨2, 2, 2⟩⟩
    let s : State (Scene ℚ) Random.Scripted ℚ :=
      { State.started { uniforms := #[] } 0 4 site scene with cursor := .link ⟨4, site, aside⟩ }
    scene.WellFormed ∧ scene.Affine ∧ scene.Live 4 ∧ Upright s ∧ scene.Under 2 1 ∧
      ∃ t, execute ⟨{}, placeWithin {} 11⟩ (.place (.literal (.str "trees"))) s = .ok () t ∧
        t.cursor = .object 5 ∧ t.generated.toList = [5] ∧ t.scene.parent? 5 = some 4 ∧
        t.scene.container? 6 = some "stage" ∧
        t.scene.worldOf 5 =
          .ok { (1 : Matrix4 ℚ) with xx := 2, yy := 2, zz := 2, xw := 3, yw := 1, zw := 6 } := by
  intro scene site aside s
  have hs : scene.WellFormed := Scene.glade_wellFormed
  have affine : scene.Affine := Scene.glade_affine
  have hstart : scene.Live 4 := ⟨_, rfl⟩
  have hworld : scene.worldOf 4 = .ok site := by decide +kernel
  have entered := started_current hs hstart hworld ({ uniforms := #[] } : Random.Scripted) 0
  have up : Upright s := ⟨entered.adjust rfl _, affine⟩
  have bough : scene.Under 2 1 := .single rfl
  have runs : Ends (execute ⟨{}, placeWithin {} 11⟩ (.place (.literal (.str "trees")))) s
      (fun _ t => t.generated.toList = [5]) (fun _ _ => False) := by decide +kernel
  obtain ⟨_, t, ht, generated⟩ := runs.exists_ok
  obtain ⟨-, placed⟩ := place_lands {} [] 4 scene ({ uniforms := #[] } : Random.Scripted) hs affine
    hstart
  obtain ⟨members, _, i, template, _, _, -, mem, -, -, chosen, -, -, -, -, -, above, -, collection, place,
    cursor, -⟩ := placed 10 "trees" s t _ up rfl (Nat.zero_le _) rfl (by decide) ⟨1, _, rfl, rfl, rfl⟩ ht
  refine ⟨hs, affine, hstart, up, bough, t, ht, cursor, generated, above, ?stage, ?place⟩
  case stage =>
    -- The oak is the only member, so the bough of its copy is the next node.
    obtain ⟨oaks, declared, -, among⟩ := Scene.topLevel?_declared (s := scene) (by decide : "trees" ∈ _)
    obtain rfl : oaks = [1] := Option.some.inj (declared.symm.trans (by decide +kernel))
    obtain rfl := List.mem_singleton.mp
      ((among template).mpr ((mem template).mp (List.mem_of_getElem? chosen)))
    have next : scene.spot 1 5 2 = 6 := by decide +kernel
    exact (next ▸ collection 2 bough).trans (by decide +kernel)
  case place =>
    rw [show t.scene.worldOf 5 = _ from place]
    decide +kernel

end Derivation

end SceneGrammar
