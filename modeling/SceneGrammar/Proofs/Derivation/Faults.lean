import SceneGrammar.Proofs.Derivation.Addition
import SceneGrammar.Proofs.Derivation.Atomic
import SceneGrammar.Proofs.Derivation.Rejection

/-!
# What can go wrong in a run

A run on a forest that begins at a node that is there asks for no node that is not there, puts no node
below itself, and always finds its source of randomness in order. If its rules have no defects, a single
thing ends it early: a node would have to be placed under a parent whose frame has no inverse. Whatever
is wrong with a grammar apart from that is wrong with a directive (`generate_faults`).
-/

namespace SceneGrammar.Derivation

variable {ρ α : Type} [Scalar α] {start : NodeId} {scene : Scene α}

/-! ## The beginning of a run -/

/-- Clearing a forest does not fail, and keeps what the removal of each child keeps. -/
lemma clearStart_reaches {P : Scene α → Prop} (settings : Settings) (hs : scene.WellFormed)
    (hP : P scene)
    (step : ∀ {t c}, t.WellFormed → t.parent? c = some start → P t → P (t.prune c)) :
    ∃ base, clearStart settings start scene = .ok () base ∧ base.WellFormed ∧ P base := by
  unfold clearStart
  split
  · have cleared : Ends (clearChildren start) scene (fun _ t => t.WellFormed ∧ P t)
        (fun _ _ => False) := by
      unfold clearChildren
      apply Ends.get
      exact Scene.remove_children _ (hs.nodup start) hs (fun _ hc => hs.named hc) hP step
    obtain ⟨_, base, e, hb, hP⟩ := cleared.exists_ok
    exact ⟨base, e, hb, hP⟩
  · exact ⟨scene, rfl, hs, hP⟩

/-- A run on a forest begins at its start, if that is there. -/
lemma clearStart_ok (settings : Settings) (hs : scene.WellFormed) (hstart : scene.Live start) :
    ∃ base, clearStart settings start scene = .ok () base ∧ base.WellFormed ∧ base.Live start :=
  clearStart_reaches settings hs hstart fun ht ec hl => ht.live_prune.mpr ⟨hl, ht.not_under_child ec⟩

/-- A run begins on a forest at a node that is there. -/
lemma started_anchored (hs : scene.WellFormed) (hstart : scene.Live start) (random : ρ)
    (fresh : Nat) (world : Matrix4 α) :
    Anchored (State.started random fresh start world scene) where
  wellFormed := hs
  live n hn := by
    obtain rfl : n = start := by
      simpa [State.nodes, State.started, Cursor.nodes, LinkPlace.enter] using hn
    exact hstart
  sound _ _ e := nomatch e

variable [RandomSource ρ]

/-- Preparing a grammar keeps a run anchored. -/
lemma prepareEach_anchored (settings : Settings) (rules : List (Rule Nat))
    {s : State (Scene α) ρ α} (hs : Anchored s) : Anchored (prepareEach settings rules s) := by
  refine hs.idle (idle_preparing.prepareEach (fun s f => ?_) rules s)
  obtain ⟨errors, e⟩ := record_eq settings s f
  rw [e]
  exact ⟨rfl, rfl, id⟩

/-! ## Carrying out rules without defects -/

/-- Rules without defects end early over a parent without an inverse only, and record what they should.
The directives are those that a host hears of that is watched meanwhile. -/
lemma executeAll_faults (settings : Settings) {rules : List (Rule Nat)} {s : State (Scene α) ρ α}
    (hs : Anchored s) (hrules : ∀ r ∈ rules, r.defect? = none) (herrors : s.errors.toList = []) :
    let during := (after (executeAll (outermost settings) rules) s.watched).scene.told.reverse
    Ends (executeAll (outermost settings) rules) s
      (fun _ t => Recorded during t.errors.toList)
      (fun f t => (∃ n, f = .scene (.singularParent n)) ∧ Recorded during t.errors.toList) := by
  let levels := settings.maxDepth.toNat + 1
  have anchors := anchors_regime (ρ := ρ) (α := α) settings
  have rejects := rejects_regime (σ := Scene α) (ρ := ρ) settings
  have anchored := anchors.executeAll (anchors.placeWithin levels) rules s hrules hs
  have rejected := rejects.executeAll (rejects.placeWithin levels) rules s.watched hrules hs.sound
  have fatal := executeAll_fatally (outermost settings) rules s
  -- The faults of the watched run are those of the run.
  have recorded : ∀ (o : Option Fault) (t : State (Scene α) ρ α) (w : State (Watched (Scene α) α) ρ α),
      t = w.map Watched.host → Rejects o s.watched w →
        Recorded w.scene.told.reverse t.errors.toList := by
    rintro o _ w rfl h
    obtain ⟨during, faults, told, errors, hr⟩ := h.recorded
    have hduring : w.scene.told.reverse = during := by simp [told, State.watched]
    have hfaults : w.errors.toList = faults := by
      rw [errors]
      exact congrArg (· ++ faults) herrors
    rw [hduring]
    exact hfaults ▸ hr
  refine (((executeAll_unwatched rejected).and anchored).and fatal).imp ?_ ?_
  · rintro _ t ⟨⟨⟨-, ht, h⟩, -⟩, -⟩
    exact recorded _ t _ ht h
  · rintro f t ⟨⟨⟨-, ht, h⟩, ha⟩, hf⟩
    refine ⟨?_, recorded _ t _ ht h⟩
    -- A fault that ends a run is fatal, and the only tame one of these is that of a singular parent.
    cases ha.tame f rfl with
    | inl hnot => exact absurd (hf f rfl) (by simp [hnot])
    | inr hs =>
      obtain ⟨g, rfl, n, rfl⟩ := hs
      exact ⟨n, rfl⟩

/-- What carries out a grammar without defects ends with the last fault of its rules, if there is one. -/
lemma derive_faults (settings : Settings) {rules : List (Rule Nat)} {s : State (Scene α) ρ α}
    (hs : Anchored s) (herrors : s.errors = #[])
    (hprepared : (prepareEach settings rules s).errors = #[]) :
    let prepared := prepareEach settings rules s
    let during := (after (executeAll (outermost settings) rules) prepared.watched).scene.told.reverse
    let errors := (derive (outermost settings) rules s).generation.errors
    Ends (executeAll (outermost settings) rules) prepared
      (fun _ t => errors = t.errors.toList ∧ Recorded during t.errors.toList)
      (fun f t => (∃ n, f = .scene (.singularParent n)) ∧ errors = t.errors.toList ++ [f] ∧
        Recorded during t.errors.toList) := by
  have hrules : ∀ r ∈ rules, r.defect? = none := prepareEach_sound herrors hprepared
  have ends := executeAll_faults settings (prepareEach_anchored settings rules hs) hrules
    (by simp [hprepared])
  intro prepared during errors
  have hderive : derive (outermost settings) rules s
      = executeToEnd (outermost settings) rules prepared := derive_eq_executeToEnd hprepared
  have herrs : errors = (executeToEnd (outermost settings) rules prepared).errors.toList :=
    congrArg (·.generation.errors) hderive
  rw [herrs]
  unfold executeToEnd
  unfold Ends at ends ⊢
  cases e : executeAll (outermost settings) rules prepared with
  | ok _ t =>
    rw [e] at ends
    exact ⟨rfl, ends⟩
  | error f t =>
    rw [e] at ends
    obtain ⟨⟨n, rfl⟩, hr⟩ := ends
    have hf : (Fault.scene (.singularParent n)).fatal = true := rfl
    exact ⟨⟨n, rfl⟩, by simp [State.record, hf], hr⟩

omit [Scalar α] [RandomSource ρ] in
/-- Faults of a grammar and faults that are not fatal are none of those that a run never meets. -/
lemma harmless {f : Fault} (h : f.category = .structural ∨ f.category = .precondition) :
    (∀ n, f ≠ .scene (.unknownNode n)) ∧ (∀ child parent, f ≠ .scene (.cycle child parent)) ∧
      ∀ message, f ≠ .randomState message := by
  refine ⟨?_, ?_, ?_⟩
  · rintro n rfl
    simp [Fault.category] at h
  · rintro child parent rfl
    simp [Fault.category] at h
  · rintro message rfl
    simp [Fault.category] at h

/-- A run on a forest meets no node that is not there, no cycle and no foreign position. -/
lemma derive_harmless (settings : Settings) (rules : List (Rule Nat)) {s : State (Scene α) ρ α}
    (hs : Anchored s) (herrors : s.errors = #[]) :
    ∀ f ∈ (derive (outermost settings) rules s).generation.errors,
      (∀ n, f ≠ .scene (.unknownNode n)) ∧ (∀ child parent, f ≠ .scene (.cycle child parent)) ∧
        ∀ message, f ≠ .randomState message := by
  intro f hf
  by_cases hprepared : (prepareEach settings rules s).errors = #[]
  · have ends := derive_faults settings hs herrors hprepared
    unfold Ends at ends
    dsimp only at ends
    split at ends
    · obtain ⟨he, hr⟩ := ends
      exact harmless (hr.categories f (he ▸ hf))
    · obtain ⟨⟨n, rfl⟩, he, hr⟩ := ends
      cases List.mem_append.mp (he ▸ hf) with
      | inl hf => exact harmless (hr.categories f hf)
      | inr hf =>
        obtain rfl := List.mem_singleton.mp hf
        simp [SceneFault.singularParent]
  · -- The defects that were found end the run.
    have e : derive (outermost settings) rules s = prepareEach settings rules s :=
      derive_eq_prepareEach hprepared
    have hf : f ∈ (prepareEach settings rules s).errors.toList := e ▸ hf
    simp only [prepareEach_errors, herrors, Array.toList_empty, List.nil_append] at hf
    obtain ⟨r, -, hr⟩ := List.mem_filterMap.mp hf
    obtain ⟨d, -, rfl⟩ := Option.map_eq_some_iff.mp hr
    exact harmless (.inl (by cases d <;> rfl))

/-- A run on a forest never meets a node that is not there, a cycle or a foreign random position, and once
nothing is wrong with its rules, only a parent without an inverse ends it early. -/
theorem generate_faults (settings : Settings) (grammar : Grammar) (random : ρ) (hs : scene.WellFormed)
    (hstart : scene.Live start) :
    let run := generate settings grammar start scene random
    let rules := (Rule.numberAll grammar 0).1
    (∀ f ∈ run.1.errors, (∀ n, f ≠ .scene (.unknownNode n)) ∧
      (∀ child parent, f ≠ .scene (.cycle child parent)) ∧ ∀ message, f ≠ .randomState message) ∧
    ∃ base world, clearStart settings start scene = .ok () base ∧ base.worldOf start = .ok world ∧
      let prepared := prepareEach settings rules
        (State.started random (Rule.numberAll grammar 0).2 start world base)
      let during := (after (executeAll (outermost settings) rules) prepared.watched).scene.told.reverse
      prepared.errors = #[] →
        -- What is recorded then are faults that are not fatal and defects of directives, in order; what
        -- ends the run early is its last fault.
        Ends (executeAll (outermost settings) rules) prepared
          (fun _ t => run.1.errors = t.errors.toList ∧ Recorded during t.errors.toList)
          (fun f t => (∃ n, f = .scene (.singularParent n)) ∧
            run.1.errors = t.errors.toList ++ [f] ∧ Recorded during t.errors.toList) := by
  obtain ⟨base, ebase, hbase, hlive⟩ := clearStart_ok settings hs hstart
  obtain ⟨world, hworld, eworld⟩ := hbase.world_ok hlive
  intro run rules
  have hrun : run = _ := generate_eq settings grammar random ebase eworld
  have anchored := started_anchored hbase hlive random (Rule.numberAll grammar 0).2 world
  rw [hrun]
  exact ⟨derive_harmless settings rules anchored rfl, base, world, ebase, hworld,
    derive_faults settings anchored rfl⟩

/-- A run in the orchard whose start has no extent, so that nothing can be placed there. -/
theorem generate_faults_orchard :
    let scene : Scene Float := Scene.orchard.setFrame 2 (Matrix4.scaling ⟨0, 0, 0⟩)
    let run := generate {} [.place (.literal (.str "trees"))] 2 scene
      ({ uniforms := #[] } : Random.Scripted)
    scene.WellFormed ∧ scene.Live 2 ∧ ∃ recorded n,
      run.1.errors = recorded ++ [.scene (.singularParent n)] ∧
        ∀ f ∈ recorded, f.category = .structural ∨ f.category = .precondition := by
  intro scene run
  have hs : scene.WellFormed := Scene.orchard_wellFormed.setFrame 2 _
  have hstart : scene.Live 2 := ⟨_, rfl⟩
  have errors : run.1.errors = [.scene (.singularParent 3)] := by decide +kernel
  obtain ⟨-, base, world, -, -, ends⟩ := generate_faults {} [.place (.literal (.str "trees"))]
    ({ uniforms := #[] } : Random.Scripted) hs hstart
  have ends := ends rfl
  unfold Ends at ends
  dsimp only at ends
  split at ends
  · -- A run that comes to its end has recorded no refusal.
    obtain ⟨he, hr⟩ := ends
    have hmem := hr.categories (.scene (.singularParent 3)) (he ▸ errors ▸ List.mem_singleton_self _)
    cases hmem with
    | inl h => cases h
    | inr h => cases h
  · obtain ⟨⟨n, rfl⟩, he, hr⟩ := ends
    exact ⟨hs, hstart, _, n, he, hr.categories⟩

end SceneGrammar.Derivation
