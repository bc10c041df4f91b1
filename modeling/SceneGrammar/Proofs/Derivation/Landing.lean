import SceneGrammar.Proofs.Geometry.Exact
import SceneGrammar.Proofs.Derivation.Request
import SceneGrammar.Proofs.Scene.Landing

/-!
# Bringing copies to links

On a forest of affine frames a copy that is brought to an affine place under a link lands there
(`landing`), and is reflected along an axis of the link (`mirroring`), unless a request is refused; then
the frames are affine all the same. The children of a neighbouring link land one after the other
(`copyingSiblings`), and a template that is placed lands with the cursor at it (`placingTemplate`).
-/

namespace SceneGrammar.Derivation

variable {ρ α β : Type} [ExactScalar α]

section
variable {s t : State (Scene α) ρ α} {b : Scene α} {n : NodeId} {place : LinkPlace α}
  {Q : β → State (Scene α) ρ α → Prop}

open Scene (Extends Landed Moved Transplanted)

/-- Putting a node into the collection of a link and under the link, where it stays in its place. -/
lemma adopting (hs : s.scene.Straight) (hn : s.scene.Live n) (p : NodeId) :
    Ends (adopt n p) s
      (fun _ t => ∃ u frame world back,
        Moved (s.scene.Under · n) (s.scene.container? p) s.scene u ∧
        t = { s with scene := (u.relink n p).setFrame n frame } ∧ t.scene.Straight ∧
        s.scene.worldOf p = .ok world ∧ world.inverse? = some back ∧
        ∀ m w, s.scene.worldOf m = .ok w → t.scene.worldOf m = .ok w)
      (fun _ t => t.scene.Straight) := by
  unfold adopt
  apply Ends.get
  apply Ends.bind
  refine request_ends ((hs.wellFormed.moveAll_moved hn _ _).imp ?_ (fun _ _ => id))
  intro _ u moved
  have hu : u.Straight := ⟨moved.links.wellFormed hs.wellFormed, moved.affine hs.affine⟩
  refine request_ends ((hu.reparent n p).imp ?_ (fun _ _ => id))
  rintro _ _ ⟨-, hp, ⟨world, back, hworld, inverse⟩, ⟨frame, rfl⟩, straight, places⟩
  obtain ⟨old, hold⟩ := hs.wellFormed.worldOf_ok ((moved.links.live p).mp hp)
  obtain rfl := Except.ok.inj ((moved.worldOf_ok hold).symm.trans hworld)
  exact ⟨u, frame, _, back, moved, rfl, straight, hold, inverse, fun m w e =>
    (places m).trans (moved.worldOf_ok e)⟩

/-- Making a copy of a node and bringing it to a link. -/
lemma landing {k : NodeId → Action (Scene α) ρ α β} (hs : s.scene.Straight)
    (hp : s.scene.Live place.node) (hw : place.composed.Affine)
    (hk : ∀ scene world back, s.scene.worldOf place.node = .ok world → world.inverse? = some back →
      Landed s.scene scene n place.node false place.composed →
      Ends (k (s.scene.lastId + 1)) { s with scene } Q (fun _ t => t.scene.Straight)) :
    Ends (do
      let copy ← request (Host.duplicate n)
      request (Host.setWorld copy place.composed)
      adopt copy place.node
      k copy) s Q (fun _ t => t.scene.Straight) := by
  apply Ends.bind
  refine request_ends ((hs.duplicate n).imp ?_ (fun _ _ => id))
  rintro _ t ⟨hn, rfl, made, ht⟩
  have live : t.Live (s.scene.lastId + 1) := by
    obtain ⟨node, e⟩ := hn
    exact ⟨_, s.scene.spot_self n _ ▸ made.copies n node .refl e⟩
  apply Ends.bind
  refine request_ends ((ht.setWorld hw _).imp ?_ (fun _ _ => id))
  rintro _ _ ⟨frame, rfl, placed, put⟩
  have links := Scene.sameLinks_setFrame t (s.scene.lastId + 1) frame
  have grown : Extends s.scene (t.setFrame (s.scene.lastId + 1) frame) :=
    made.toExtends.modify_fresh (Nat.lt_succ_self _) _
  apply Ends.bind
  refine (adopting placed ((links.live _).mpr live) _).imp ?_ (fun _ _ => id)
  rintro _ _ ⟨u, frame', world, back, moved, rfl, straight, hworld, inverse, places⟩
  dsimp only at moved hworld places straight
  rw [grown.container?_old hp] at moved
  have landed := hs.landed hp made (moved.congr fun m => links.under) straight (places _ _ put)
  obtain ⟨old, hold⟩ := hs.wellFormed.worldOf_ok hp
  obtain rfl := Except.ok.inj ((grown.worldOf_ok hold).symm.trans hworld)
  exact hk _ _ back hold inverse landed

/-- A copy that has landed under a link is reflected along an axis of the link. -/
lemma mirroring {w world back : Matrix4 α} {p : NodeId} (h : Landed b s.scene n p false w)
    (hb : b.Straight) (hworld : b.worldOf p = .ok world) (inverse : world.inverse? = some back)
    (axis : Axis) :
    Ends (mirrorAt p axis (b.lastId + 1)) s
      (fun _ t => ∃ scene, t = { s with scene } ∧
        Landed b scene n p true (world * Matrix4.scaling axis.reflection * back * w))
      (fun _ t => t.scene.Straight) := by
  have affine : (world * Matrix4.scaling axis.reflection * back * w).Affine := by
    have place := h.straight.wellFormed.affine_worldOf h.straight.affine h.place
    have outer := hb.wellFormed.affine_worldOf hb.affine hworld
    exact ((outer.mul (Matrix4.affine_scaling _)).mul (Matrix4.affine_inverse? inverse)).mul place
  unfold mirrorAt
  apply Ends.bind
  refine request_ends (Ends.of_ok (Scene.world_eq (h.worldOf_ok hworld)) ?_)
  apply Ends.bind
  refine request_ends (Ends.of_ok (Scene.world_eq h.place) ?_)
  dsimp only
  rw [inverse]
  apply Ends.bind
  refine request_ends ((h.straight.setWorld affine _).imp ?_ (fun _ _ => id))
  rintro _ _ ⟨frame, rfl, straight, place⟩
  have live := Scene.live_of_worldOf place
  apply Ends.bind
  refine request_ends ((Scene.update_live _ live).imp ?_ (fun _ _ => id))
  rintro _ _ rfl
  refine request_ends ((Scene.update_live _ ((Scene.live_modifyNode _ _ _ _).mpr live)).imp ?_
    (fun _ _ => id))
  rintro _ _ rfl
  exact ⟨_, rfl, h.mirror hb.wellFormed straight place⟩

/-! ## The children of a neighbouring link -/

/-- Where something is that was put to a place under a link: there, or at the image of that under the
reflection along an axis of the link, which turns one coordinate over. -/
def Reflected (world place : Matrix4 α) : Option Axis → Matrix4 α → Prop
  | none, w => w = place
  | some .x, w => ∃ back, world * back = 1 ∧ w = world * { (1 : Matrix4 α) with xx := -1 } * back * place
  | some .y, w => ∃ back, world * back = 1 ∧ w = world * { (1 : Matrix4 α) with yy := -1 } * back * place
  | some .z, w => ∃ back, world * back = 1 ∧ w = world * { (1 : Matrix4 α) with zz := -1 } * back * place

/-- The factors of an axis turn its coordinate over. -/
lemma reflected_some {world place back w : Matrix4 α} {axis : Axis} (inverse : world * back = 1)
    (h : w = world * Matrix4.scaling axis.reflection * back * place) :
    Reflected world place (some axis) w := by
  cases axis with
  | x => exact ⟨back, inverse, h⟩
  | y => exact ⟨back, inverse, h⟩
  | z => exact ⟨back, inverse, h⟩

section
variable {world : Matrix4 α} (hs : s.scene.Straight) (hworld : s.scene.worldOf place.node = .ok world)
  (hw : place.composed.Affine)
include hs hworld hw

lemma copyingChild (mirror : Option Axis) (child : NodeId) :
    Ends (copyChild place mirror child) s
      (fun _ t => ∃ scene w, t = State.addGenerated { s with scene } (s.scene.lastId + 1) ∧
        Landed s.scene scene child place.node mirror.isSome w ∧
        Reflected world place.composed mirror w)
      (fun _ t => t.scene.Straight) := by
  unfold copyChild
  refine landing hs (Scene.live_of_worldOf hworld) hw fun scene world' back hworld' inverse landed => ?_
  obtain rfl := Except.ok.inj (hworld'.symm.trans hworld)
  cases mirror with
  | none => exact Ends.bind (Ends.pure (Ends.modify ⟨scene, _, rfl, landed, rfl⟩))
  | some axis =>
    apply Ends.bind
    refine (mirroring (s := { s with scene }) landed hs hworld inverse axis).imp ?_ (fun _ _ => id)
    rintro _ _ ⟨scene', rfl, mirrored⟩
    have outer := hs.wellFormed.affine_worldOf hs.affine hworld
    exact Ends.modify ⟨scene', _, rfl, mirrored, reflected_some (outer.mul_inverse inverse) rfl⟩

/-- The children of a neighbouring link land one after the other. -/
lemma copyingSiblings {settings : Settings} {name : String} (mirror : Option Axis)
    {parent sibling : NodeId} (hparent : s.scene.parent? place.node = some parent)
    (hsibling : childLink? settings s.scene parent name = some sibling) :
    Ends (copySiblingChildren settings place name mirror) s
      (fun _ t => t = { s with scene := t.scene, generated := t.generated } ∧
        ∃ copies, t.generated.toList = s.generated.toList ++ copies ∧
          Transplanted s.scene t.scene place.node mirror.isSome (Reflected world place.composed mirror)
            (s.scene.children sibling) copies)
      (fun _ t => t.scene.Straight) := by
  have hs' := hs.wellFormed
  have beside : sibling ∈ s.scene.children parent := List.mem_of_find?_eq_some hsibling
  unfold copySiblingChildren
  apply Ends.get
  have up : Host.parent? s.scene place.node = some parent := hparent
  simp only [up, hsibling]
  refine Ends.forM_prefix (I := fun done (t : State (Scene α) ρ α) =>
    t = { s with scene := t.scene, generated := t.generated } ∧
      ∃ copies, t.generated.toList = s.generated.toList ++ copies ∧
        Transplanted s.scene t.scene place.node mirror.isSome (Reflected world place.composed mirror)
          done copies) ?start ?round
  case start => exact ⟨rfl, [], by simp, .refl hs _ _ _⟩
  case round =>
    rintro done child rest hc t ⟨frame, copies, listed, h⟩
    have hchild : child ∈ s.scene.children sibling := by
      rw [show s.scene.children sibling = done ++ child :: rest from hc]
      simp
    -- The link is neither the neighbour's child nor below it, so that the copies do not change these.
    have apart : ¬ s.scene.Under place.node child := by
      intro hu
      by_cases hne : place.node = sibling
      · exact hs'.not_under_child (hs'.named hchild) (hne ▸ hu)
      · exact hs'.not_under_sibling (hs'.listed hparent) beside hne (hu.tail (hs'.named hchild))
    refine (copyingChild h.straight (h.worldOf_ok hworld) hw mirror child).imp ?_ (fun _ _ => id)
    rintro _ _ ⟨scene, w, rfl, landed, reflected⟩
    refine ⟨?_, copies ++ [t.scene.lastId + 1], ?_, ?_⟩
    · rw [frame]
      rfl
    · simp [State.addGenerated, listed]
    · exact h.step hs' (Scene.live_of_worldOf hworld) (hs'.live_child hchild) apart landed reflected

end

/-- Without a neighbouring link of the name nothing is copied. -/
lemma copySiblings_none {settings : Settings} {name : String} (mirror : Option Axis)
    (h : ∀ parent, s.scene.parent? place.node = some parent →
      childLink? settings s.scene parent name = none) :
    copySiblingChildren settings place name mirror s = .ok () s := by
  apply Ends.eq
  unfold copySiblingChildren
  apply Ends.get
  dsimp only
  split
  · exact Ends.pure rfl
  · next parent e =>
    rw [h parent e]
    exact Ends.pure rfl

/-! ## Templates -/

variable [RandomSource ρ]

/-- A template that is placed lands, and the cursor is at it. -/
lemma placingTemplate (hs : s.scene.Straight) (hp : s.scene.Live place.node)
    (hw : place.composed.Affine) (hcursor : s.cursor = .link place) (settings : Settings)
    (collection : String) (members : List NodeId) :
    let weights := members.map (templateWeight settings s.scene)
    let draw := RandomSource.uniform s.random
    Ends (placeTemplate settings collection members) s
      (fun _ t =>
        match (Selection.firstExceeding weights (draw.1 * Selection.total weights)).bind
            (members[·]?) with
        | none => t = { s with random := draw.2 }
        | some template => ∃ scene,
          t = State.addPlaced
            { s with scene, random := draw.2, cursor := .object (s.scene.lastId + 1) }
            (s.scene.lastId + 1) ∧
          Landed s.scene scene template place.node false place.composed)
      (fun _ t => t.scene.Straight) := by
  intro weights draw
  unfold placeTemplate
  apply Ends.bind
  refine Ends.of_ok (requireLink_eq "instance" hcursor) ?_
  apply Ends.get
  refine Ends.bind (Ends.modify (Ends.bind (Ends.modifyGet ?_)))
  dsimp only
  split
  · next e =>
    apply Ends.pure
    have none_chosen : (Selection.firstExceeding weights (draw.1 * Selection.total weights)).bind
        (members[·]?) = none := e
    rw [none_chosen]
    rfl
  · next template e =>
    have chosen : (Selection.firstExceeding weights (draw.1 * Selection.total weights)).bind
        (members[·]?) = some template := e
    rw [chosen]
    refine landing (s := { s with random := draw.2 }) hs hp hw fun scene _ _ _ _ landed => ?_
    refine Ends.bind (Ends.modify (Ends.get (Ends.bind (Ends.modify (Ends.modify ?_)))))
    exact ⟨scene, rfl, landed⟩

end

end SceneGrammar.Derivation
