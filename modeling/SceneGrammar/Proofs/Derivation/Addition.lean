import SceneGrammar.Proofs.Derivation.Tidy
import SceneGrammar.Proofs.Derivation.Whole
import SceneGrammar.Proofs.Geometry.Exact
import SceneGrammar.Proofs.Scene.Cleanup
import SceneGrammar.Random.Scripted

/-!
# Runs only add

However a run ends, the scene has grown from what it was after the clearing. What was generated is
there, new and in ascending order, and unless the scene refused something, removing it takes the run
back.
-/

namespace SceneGrammar.Derivation

open Scene (Grown)

variable {ρ α : Type} [Scalar α]

/-- Clearing keeps a forest. -/
lemma clearStart_wellFormed (settings : Settings) (start : NodeId) {scene : Scene α}
    (h : scene.WellFormed) : (after (clearStart settings start) scene).WellFormed :=
  Ends.after (clearStart_keeps (fun n _ hs => Scene.wellFormed_remove hs n) settings start h)

/-- A run begins tidy and complete. -/
lemma started_tidy {b : Scene α} (h : b.WellFormed) (random : ρ) (fresh : Nat) (start : NodeId)
    (world : Matrix4 α) : Tidy b (State.started random fresh start world b) ∧
      Complete b (State.started random fresh start world b) := by
  refine ⟨⟨.refl h, .nil, ?_, ?_, ?_, ?_, ?_, ?_⟩, .refl b _⟩
  · intro g hg
    cases hg
  · intro g hg
    cases hg
  · intro n hn
    cases hn
  · intro c hc
    cases hc
  · intro c hc
    cases hc
  · intro c hc
    cases hc

variable [RandomSource ρ]

/-- A run leaves the scene grown, whatever its settings and however it ends. -/
theorem generate_grown (settings : Settings) (grammar : Grammar) (start : NodeId) (scene : Scene α)
    (random : ρ) (h : scene.WellFormed) :
    Grown (after (clearStart settings start) scene)
      (generate settings grammar start scene random).2.1 := by
  have hb := clearStart_wellFormed settings start h
  have hc := tidies_conduct (ρ := ρ) hb settings
  cases hc.generateIn (hc.placeWithin _) grammar start scene random with
  | inl h =>
    obtain ⟨f, e⟩ := h
    rw [generate, outermost, e]
    exact .refl hb
  | inr h =>
    obtain ⟨world, fresh, o, t, ht, e⟩ := h
    rw [generate, outermost, e]
    exact (ht (started_tidy hb random fresh start world).1).1.grown

/-- A run that places a tree in the orchard. -/
theorem generate_grown_orchard :
    (Scene.orchard : Scene Float).WellFormed ∧
      Grown (after (clearStart {} 2) (Scene.orchard : Scene Float))
        (generate {} [.place (.literal (.str "trees"))] 2 Scene.orchard
          (Random.Stream.ofSeed 0)).2.1 :=
  ⟨Scene.orchard_wellFormed, generate_grown {} _ 2 Scene.orchard _ Scene.orchard_wellFormed⟩

/-- What a run generates is new, there and listed in ascending order; unless the scene refused something,
all that is new is below it, and to remove it leads back to the scene after the clearing. -/
theorem generate_complete (settings : Settings) (grammar : Grammar) (start : NodeId)
    (scene : Scene α) (random : ρ) (h : scene.WellFormed) :
    let base := after (clearStart settings start) scene
    let run := generate settings grammar start scene random
    run.1.generated.Pairwise (· < ·) ∧
      (∀ g ∈ run.1.generated, base.lastId < g ∧ run.2.1.Live g) ∧
      ((∀ f, run.1.errors.getLast? ≠ some (.scene f)) →
        (∀ m, run.2.1.Live m → base.lastId < m → ∃ g ∈ run.1.generated, run.2.1.Under m g) ∧
        ∀ order, order.Perm run.1.generated →
          ∃ t, Scene.cleanUp order run.2.1 = .ok () t ∧ (∀ n, t.node? n = base.node? n) ∧
            t.collections = base.collections) := by
  have hb := clearStart_wellFormed settings start h
  have hc := tidies_conduct (ρ := ρ) hb settings
  intro base run
  cases hc.generateIn (hc.placeWithin _) grammar start scene random with
  | inl h =>
    -- The clearing or the start was refused.
    obtain ⟨f, e⟩ := h
    have e : run = _ := e
    rw [e]
    refine ⟨.nil, fun g hg => (nomatch hg), fun hf => absurd rfl (hf f)⟩
  | inr h =>
    obtain ⟨world, fresh, o, t, ht, e⟩ := h
    have e : run = _ := e
    obtain ⟨errors, ee⟩ := ended_eq settings t o
    have hgen : (t.ended settings o).generation.generated = t.generated.toList := by
      rw [ee]
      rfl
    obtain ⟨tidy, hcomplete⟩ := ht (started_tidy hb random fresh start world).1
    rw [e]
    dsimp only
    rw [hgen]
    refine ⟨tidy.sorted, fun g hg => ⟨tidy.fresh g hg, tidy.live g hg⟩, fun hf => ?_⟩
    have hrooted := hcomplete ?_ (started_tidy hb random fresh start world).2
    · refine ⟨?_, fun order hp => ?_⟩
      · intro m hm hlt
        exact tidy.grown.exists_root hrooted hm hlt
      · have hclean := Scene.cleanUp_ends hb order (fun n hn => tidy.fresh n (hp.mem_iff.mp hn))
          tidy.grown (hrooted.mono fun _ => hp.mem_iff.mpr)
        obtain ⟨_, v, ev, hv⟩ := hclean.exists_ok
        exact ⟨v, ev, hv⟩
    · rintro f rfl
      exact hf f (ended_refused settings t f)

/-- A weed is cleared away, a tree is placed, and another one hangs from a link that was added to the first.
The link is new but not generated. Whichever tree is removed first, the cleared orchard is left. -/
theorem generate_complete_orchard :
    let settings : Settings := { clearChildren := true }
    let tree : Rule Unit := .place (.literal (.str "trees"))
    let branch : Expr Unit := .literal (.str "branch")
    let scene : Scene ℚ := (Scene.orchard.addNode "weed" (some 2)).2
    let base := after (clearStart settings 2) scene
    let run := generate settings [tree, .addLink branch, .goTo branch, tree] 2 scene
      ({ uniforms := #[] } : Random.Scripted)
    scene.WellFormed ∧ scene.children 2 = [3] ∧ base.children 2 = [] ∧
      run.1.generated = [4, 6] ∧ (∀ f, run.1.errors.getLast? ≠ some (.scene f)) ∧
      run.2.1.children 4 = [5] ∧ run.2.1.children 5 = [6] ∧
      (∃ g ∈ run.1.generated, run.2.1.Under 5 g) ∧
      ∀ order ∈ [[4, 6], [6, 4]],
        ∃ t, Scene.cleanUp order run.2.1 = .ok () t ∧ ∀ n, t.node? n = base.node? n := by
  intro settings tree branch scene base run
  have hs : scene.WellFormed :=
    Scene.orchard_wellFormed.addNode "weed" fun p e => Option.some.inj e ▸ ⟨_, rfl⟩
  obtain ⟨weed, cleared, new⟩ : scene.children 2 = [3] ∧ base.children 2 = [] ∧ base.lastId < 5 := by
    decide +kernel
  obtain ⟨generated, errors, link, hung, tip⟩ : run.1.generated = [4, 6] ∧ run.1.errors = [] ∧
      (run.2.1.node? 5).isSome ∧ run.2.1.children 4 = [5] ∧ run.2.1.children 5 = [6] := by
    decide +kernel
  have granted : ∀ f, run.1.errors.getLast? ≠ some (.scene f) := by simp [errors]
  obtain ⟨-, -, complete⟩ := generate_complete settings [tree, .addLink branch, .goTo branch, tree] 2 scene
    ({ uniforms := #[] } : Random.Scripted) hs
  obtain ⟨below, cleaned⟩ := complete granted
  refine ⟨hs, weed, cleared, generated, granted, hung, tip, below 5 (Scene.live_iff.mpr link) new,
    fun order mem => ?_⟩
  have perm : order.Perm run.1.generated := by
    rw [generated]
    cases List.mem_pair.mp mem with
    | inl e => exact .of_eq e
    | inr e => exact e ▸ .swap 4 6 []
  obtain ⟨t, e, same, -⟩ := cleaned order perm
  exact ⟨t, e, same⟩

end SceneGrammar.Derivation
