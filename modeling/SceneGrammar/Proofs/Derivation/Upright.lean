import SceneGrammar.Proofs.Derivation.Current
import SceneGrammar.Proofs.Derivation.Landing
import SceneGrammar.Proofs.Derivation.Upholding

/-!
# Runs on forests of affine frames

A run puts nodes to affine places only: where a link was when it was entered, followed by an offset. So
on a forest of affine frames a run is `Upright` at every rule (`generate_upright`): it is current, and all
frames are affine still.
-/

namespace SceneGrammar.Derivation

open Scene (Straight)

variable {ρ α : Type} [ExactScalar α]

section
variable {s : State (Scene α) ρ α} {place : LinkPlace α}

/-- A run that is current, on a forest of affine frames. -/
def Upright (s : State (Scene α) ρ α) : Prop := Current s ∧ s.scene.Affine

/-- The scene of an upright run is a forest of affine frames. -/
lemma Upright.straight (h : Upright s) : s.scene.Straight := ⟨h.1.wellFormed, h.2⟩

/-- The link at the cursor is where it was entered. -/
lemma Upright.world (h : Upright s) (hcursor : s.cursor = .link place) :
    s.scene.worldOf place.node = .ok place.world :=
  h.1.world place (hcursor ▸ List.mem_cons_self)

/-- The place at which something is put is affine. -/
lemma Upright.affine_composed (h : Upright s) (hcursor : s.cursor = .link place) :
    place.composed.Affine :=
  (h.1.wellFormed.affine_worldOf h.2 (h.world hcursor)).mul place.offset.affine_matrix

end

/-! ## What rules keep -/

variable {s : State (Scene α) ρ α}

/-- Copying the children of a sibling leaves the frames affine. -/
lemma copySiblings_straight (hs : Upright s) {place : LinkPlace α} (hcursor : s.cursor = .link place)
    (settings : Settings) (name : String) (mirror : Option Axis) :
    Ends (copySiblingChildren settings place name mirror) s (fun _ t => t.scene.Straight)
      (fun _ t => t.scene.Straight) := by
  by_cases h : ∀ parent, s.scene.parent? place.node = some parent →
      childLink? settings s.scene parent name = none
  · exact Ends.of_ok (copySiblings_none mirror h) hs.straight
  · push Not at h
    obtain ⟨parent, hparent, h⟩ := h
    obtain ⟨sibling, hsibling⟩ := Option.ne_none_iff_exists'.mp h
    refine (copyingSiblings hs.straight (hs.world hcursor) (hs.affine_composed hcursor) mirror hparent
      hsibling).imp ?_ (fun _ _ => id)
    rintro _ t ⟨-, copies, -, landed⟩
    exact landed.straight

/-- Creating a link leaves the frames affine. -/
lemma addLink_straight (hs : s.scene.Straight) (settings : Settings) (object : NodeId)
    (name : String) : Ends (addLinkTo settings object name) s (fun _ t => t.scene.Straight)
      (fun _ t => t.scene.Straight) := by
  unfold addLinkTo
  apply Ends.bind
  refine request_ends ((Scene.ask_ends s.scene _).imp ?_ (fun _ _ e => e ▸ hs))
  rintro world _ ⟨rfl, e⟩
  apply Ends.bind
  refine request_ends ((hs.addMarker (hs.wellFormed.affine_worldOf hs.affine e) object).imp ?_
    (fun _ _ => id))
  intro marker _ ht
  exact request_ends ((ht.update (by simp) (by simp) (by simp) marker).imp (fun _ _ k => k.2)
    (fun _ _ => id))

variable [RandomSource ρ]

/-- Placing a template leaves the frames affine. -/
lemma placeTemplate_straight (hs : Upright s) (settings : Settings) (collection : String)
    (members : List NodeId) :
    Ends (placeTemplate settings collection members) s (fun _ t => t.scene.Straight)
      (fun _ t => t.scene.Straight) := by
  cases hcursor : s.cursor with
  | link place =>
    refine (placingTemplate hs.straight (Scene.live_of_worldOf (hs.world hcursor))
      (hs.affine_composed hcursor) hcursor settings collection members).imp ?_ (fun _ _ => id)
    intro _ t ht
    split at ht
    · exact ht ▸ hs.straight
    · obtain ⟨scene, rfl, landed⟩ := ht
      exact landed.straight
  | _ =>
    unfold placeTemplate
    apply Ends.bind
    refine (requireLink_ends "instance" s).imp ?_ ?_
    · rintro place _ ⟨-, e⟩
      rw [hcursor] at e
      cases e
    · rintro f _ ⟨rfl, -⟩
      exact hs.straight

/-- All that a run asks of a scene leaves the frames affine. -/
lemma affine_upholds (settings : Settings) :
    Upholds settings (Current : State (Scene α) ρ α → Prop) fun scene _ => scene.Affine where
  observe _ h := h
  world n s _ h := (Scene.world_ends s n).imp (fun _ _ e => e ▸ h) (fun _ _ e => e ▸ h)
  copySiblings name mirror hs h e := (copySiblings_straight ⟨hs, h⟩ e settings name mirror).imp
    (fun _ _ k => k.affine) (fun _ _ k => k.affine)
  addLink {_ n} name hs h _ := (addLink_straight ⟨hs.wellFormed, h⟩ settings n name).imp
    (fun _ _ k => k.affine) (fun _ _ k => k.affine)
  placeTemplate {_ collection members} hs h _ :=
    (placeTemplate_straight ⟨hs, h⟩ settings collection members).imp (fun _ _ k => k.affine)
      (fun _ _ k => k.affine)
  mark _ _ _ _ h := h
  directive _ h := h

/-- Every rule leaves a run upright, whether it fails or not. -/
theorem upright_regime (settings : Settings) :
    Regime settings (fun _ _ => True) Upright
      (fun _ _ t => Upright t : Option Fault → State (Scene α) ρ α → State (Scene α) ρ α → Prop) :=
  (current_regime settings).upholding (affine_upholds settings)

/-! ## Whole runs -/

/-- Clearing a forest of affine frames leaves one. -/
lemma clearStart_straight (settings : Settings) {start : NodeId} {scene : Scene α}
    (hs : scene.Straight) (hstart : scene.Live start) :
    ∃ base, clearStart settings start scene = .ok () base ∧ base.Straight ∧ base.Live start := by
  obtain ⟨base, e, hbase, affine, live⟩ := clearStart_reaches
    (P := fun t => t.Affine ∧ t.Live start) settings hs.wellFormed ⟨hs.affine, hstart⟩
    fun {t c} ht ec h => ⟨(Straight.prune ⟨ht, h.1⟩ c).affine,
      ht.live_prune.mpr ⟨h.2, ht.not_under_child ec⟩⟩
  exact ⟨base, e, ⟨hbase, affine⟩, live⟩

/-- At every rule of a run on a forest of affine frames, as a diary of the run has it, the run is
upright. -/
theorem generate_upright (settings : Settings) (grammar : Grammar) (start : NodeId) (scene : Scene α)
    (random : ρ) (hs : scene.Straight) (hstart : scene.Live start) :
    Diary.Attests (Upright : State (Scene α) ρ α → Prop)
      (generate settings grammar start ({ host := scene } : Diary (Scene α) α) random).2.1 := by
  obtain ⟨base, ebase, hbase, live⟩ := clearStart_straight settings hs hstart
  refine (upright_regime settings).generate_diary (fun s f h => ?record) fun base' world t e e' => ?begins
  case record => exact ⟨current_record settings s f h.1, s.scene_record settings f ▸ h.2⟩
  case begins =>
    obtain ⟨-, rfl⟩ := EStateM.Result.ok.inj (ebase.symm.trans e)
    obtain ⟨world', hworld, eworld⟩ := hbase.wellFormed.world_ok live
    obtain ⟨rfl, rfl⟩ := EStateM.Result.ok.inj (eworld.symm.trans e')
    have started := started_current hbase.wellFormed live hworld random (Rule.numberAll grammar 0).2
    have kept := (affine_upholds (ρ := ρ) (α := α) settings).preparing.prepareEach
      (fun s f h => s.scene_record settings f ▸ h) (Rule.numberAll grammar 0).1
      (State.started random (Rule.numberAll grammar 0).2 start world' base) hbase.affine
    exact ⟨⟨prepareEach_current settings _ started, kept⟩, fun _ _ _ => trivial⟩

end SceneGrammar.Derivation
