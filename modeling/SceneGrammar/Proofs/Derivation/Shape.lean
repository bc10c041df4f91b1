import SceneGrammar.Proofs.Derivation.Twin.Run
import SceneGrammar.Proofs.Scene.Keep
import SceneGrammar.Proofs.Scene.Shape
import SceneGrammar.Random.Scripted

/-!
# Runs on scenes of the same shape

A grammar does not see where nodes are, what they are called, where they come from or how they are
marked: unless a scene refuses something, runs on scenes of the same shape do the same
(`generate_sameShape`).
-/

namespace SceneGrammar.Derivation

variable {ρ α : Type} [Scalar α]

lemma shape_fits (settings : Settings) :
    (Scene.shape settings.keys : Likeness (Scene α) (Scene α) α).Fits settings settings where
  toLasts := Scene.shape_lasts settings.keys
  linkKey := rfl
  weightKey := rfl
  directiveKey := rfl
  maxDepth := rfl
  record f h := by
    unfold State.record
    split
    · exact h
    · have errors : _ = _ := h.faults
      exact { h with faults := congrArg (Array.push · f) errors }

omit [Scalar α] in
/-- A run that is refused something records it. -/
lemma not_excused {g : Generation} (hg : ∀ f ∈ g.errors, f.category ≠ .adapter) {keys : List String} :
    ¬ g.Excused (Scene.shape keys : Likeness (Scene α) (Scene α) α) := by
  rintro ⟨f, -, hf⟩
  exact hg _ hf rfl

variable [RandomSource ρ]

/-- On scenes of the same shape, runs with the same settings, grammar, start and randomness do the same,
unless a scene refuses something. -/
theorem generate_sameShape (settings : Settings) (grammar : Grammar) (start : NodeId) (random : ρ)
    {scene scene' : Scene α} (h : scene.SameShape settings.keys scene') :
    let run := generate settings grammar start scene random
    let run' := generate settings grammar start scene' random
    (∀ f ∈ run.1.errors, f.category ≠ .adapter) → (∀ f ∈ run'.1.errors, f.category ≠ .adapter) →
      run'.1 = run.1 ∧ run'.2.2 = run.2.2 ∧ run.2.1.SameShape settings.keys run'.2.1 := by
  intro run run' hrun hrun'
  have alike := generate_alike (shape_fits settings) (fun _ _ => .rfl) rfl grammar start h random
  obtain hx | hx | ⟨hresult, hscene, hrandom⟩ := alike
  · exact absurd hx (not_excused hrun)
  · exact absurd hx (not_excused hrun')
  · exact ⟨hresult, hrandom, hscene⟩

/-- Runs that place a tree in the orchard, whose root is stretched to different sides. -/
theorem generate_sameShape_orchard :
    let settings : Settings := {}
    let grammar : Grammar := [.place (.literal (.str "trees"))]
    let scene : Scene Float := Scene.orchard.setFrame 2 (Matrix4.scaling ⟨2, 1, 1⟩)
    let scene' : Scene Float := Scene.orchard.setFrame 2 (Matrix4.scaling ⟨1, 1, 3⟩)
    let random : Random.Scripted := { uniforms := #[] }
    let run := generate settings grammar 2 scene random
    let run' := generate settings grammar 2 scene' random
    scene.SameShape settings.keys scene' ∧ run.1.generated = [3] ∧ run'.1 = run.1 ∧
      run'.2.2 = run.2.2 ∧ run.2.1.SameShape settings.keys run'.2.1 := by
  intro settings grammar scene scene' random run run'
  have h : scene.SameShape settings.keys scene' := (Scene.SameShape.refl _).modifyNode 2 fun _ _ hab =>
    ⟨hab.parent, hab.children, hab.container, hab.property⟩
  have errors : run.1.errors = [] := by decide +kernel
  have errors' : run'.1.errors = [] := by decide +kernel
  refine ⟨h, by decide +kernel, generate_sameShape settings grammar 2 random h ?_ ?_⟩
  · intro f hf
    cases errors ▸ hf
  · intro f hf
    cases errors' ▸ hf

end SceneGrammar.Derivation
