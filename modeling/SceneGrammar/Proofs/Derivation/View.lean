import SceneGrammar.Proofs.Derivation.Twin.Run
import SceneGrammar.Proofs.Scene.View

/-!
# Runs on views

A run goes the same way on a view of its host (`generate_view`): what is alike up to a view differs in
nothing but the host, and nothing excuses a difference.
-/

namespace SceneGrammar.Derivation

variable {σ τ ρ α β : Type}

/-- A state seen on another host. -/
def State.map (view : σ → τ) (s : State σ ρ α) : State τ ρ α :=
  { s with scene := view s.scene }

/-- States that are alike up to a view differ by it. -/
lemma State.alike_view_iff {view : σ → τ} {d : Nat} {s : State σ ρ α} {s' : State τ ρ α} :
    s.Alike (.view view) d s' ↔ s' = s.map view ∧ s.depth = d := by
  constructor
  · rintro ⟨hscene, hrandom, hcursor, hscopes, hdefinitions, hcaptures, hd, hd', hsettled, hfresh,
      hexpanded, hgenerated, herrors⟩
    have hcursor : s.cursor = s'.cursor := Cursor.alike_eq ▸ hcursor
    have hscopes : s.scopes = s'.scopes := by
      simpa [Likeness.view, Cursor.alike_eq] using hscopes
    have hcaptures : s.captures = s'.captures := by
      simpa [Likeness.view, Capture.alike_eq] using hcaptures
    refine ⟨?_, hd⟩
    cases s'
    simp only [State.map, State.mk.injEq]
    exact ⟨hscene, hrandom, hcursor.symm, hscopes.symm, hdefinitions, hcaptures.symm, hd'.trans hd.symm,
      hsettled, hfresh, hexpanded, hgenerated, herrors⟩
  · rintro ⟨rfl, rfl⟩
    have hscopes : List.Forall₂ (Cursor.Alike Eq) s.scopes s.scopes := by simp [Cursor.alike_eq]
    have hcaptures : List.Forall₂ (Capture.Alike Eq) s.captures s.captures := by
      simp [Capture.alike_eq]
    have hcursor : s.cursor.Alike Eq s.cursor := by rw [Cursor.alike_eq]
    exact ⟨rfl, rfl, hcursor, hscopes, rfl, hcaptures, rfl, rfl, rfl, rfl, rfl, rfl, rfl⟩

/-- An action ends on a view as its twin does. -/
lemma Twin.view_ends {view : σ → τ} {d : Nat} {act : Action σ ρ α β} {act' : Action τ ρ α β}
    {s : State σ ρ α} (h : Twin (.view view) d Eq act act' s (s.map view)) :
    Ends act s (fun b t => t.depth = d ∧ act' (s.map view) = .ok b (t.map view))
      (fun f t => t.depth = d ∧ act' (s.map view) = .error f (t.map view)) := by
  refine h.elim ?_ ?_ ?_ ?_
  · rintro b _ t t' e e' rfl ht
    obtain ⟨rfl, hd⟩ := State.alike_view_iff.mp ht
    exact Ends.of_ok e ⟨hd, e'⟩
  · intro f t t' e e' ht
    obtain ⟨rfl, hd⟩ := State.alike_view_iff.mp ht
    exact Ends.of_error e ⟨hd, e'⟩
  · rintro _ _ _ ⟨_, _, hf⟩
    exact hf.elim
  · rintro _ _ _ ⟨_, _, hf⟩
    exact hf.elim

variable [Host σ α] [Host τ α] {view : σ → τ} {settings : Settings}

/-- A view goes through the same settings the same way. -/
lemma view_fits (hview : (Likeness.view view : Likeness σ τ α).Lasts settings.keys) :
    (Likeness.view view : Likeness σ τ α).Fits settings settings where
  toLasts := hview
  linkKey := rfl
  weightKey := rfl
  directiveKey := rfl
  maxDepth := rfl
  record f h := by
    obtain ⟨rfl, hd⟩ := State.alike_view_iff.mp h
    refine State.alike_view_iff.mpr ?_
    unfold State.record
    split
    · exact ⟨rfl, hd⟩
    · exact ⟨rfl, hd⟩

variable [Scalar α] [RandomSource ρ] {place : String → Action σ ρ α Unit}
  {place' : String → Action τ ρ α Unit}

/-- A run goes the same way on a view of its host if what it places does so outside of instances. -/
theorem generateIn_view (hview : (Likeness.view view : Likeness σ τ α).Lasts settings.keys)
    (hplace : ∀ name t, t.depth = 0 → Twin (.view view) 0 Eq (place name) (place' name) t (t.map view))
    (grammar : Grammar) (start : NodeId) (scene : σ) (random : ρ) :
    generateIn ⟨settings, place'⟩ grammar start (view scene) random =
      let run := generateIn ⟨settings, place⟩ grammar start scene random
      (run.1, view run.2.1, run.2.2) := by
  have placed : ∀ name t t', t.Alike (.view view) 0 t' →
      Twin (.view view) 0 Eq (place name) (place' name) t t' := by
    intro name t t' ht
    obtain ⟨rfl, hd⟩ := State.alike_view_iff.mp ht
    exact hplace name t hd
  have same : (Likeness.view view : Likeness σ τ α).host scene (view scene) := rfl
  have alike := generateIn_alike (view_fits hview) (fun _ _ => .rfl) rfl placed grammar start same random
  obtain ⟨f, hf, -⟩ | ⟨f, hf, -⟩ | ⟨hresult, hscene, hrandom⟩ := alike
  · exact hf.elim
  · exact hf.elim
  · exact Prod.ext hresult (Prod.ext hscene hrandom)

/-- What a host makes of the events of a run does not change the run. -/
theorem generate_view (hview : ∀ {keys}, (Likeness.view view : Likeness σ τ α).Lasts keys)
    (settings : Settings) (grammar : Grammar) (start : NodeId) (scene : σ) (random : ρ) :
    generate settings grammar start (view scene) random =
      let run := generate settings grammar start scene random
      (run.1, view run.2.1, run.2.2) := by
  refine generateIn_view hview (fun name t ht => ?_) grammar start scene random
  exact Twin.placeWithin (view_fits hview) _ name 0 t _ (State.alike_view_iff.mpr ⟨rfl, ht⟩)

end SceneGrammar.Derivation
