import SceneGrammar.Proofs.Derivation.Faults
import SceneGrammar.Proofs.Grammar.Preorder

/-!
# The gate before a run

All rules of a grammar are prepared before the first is carried out. What is wrong with a rule is found
whatever was prepared before it, and preparing leaves the scene alone. If something is wrong with a rule,
nothing is carried out, and the faults are the first defects of the rules (`generate_gate`).
-/

namespace SceneGrammar.Derivation

variable {σ ρ α : Type}

/-- Two states between which rules were prepared: values were drawn and settled, sequences got names, and
faults were recorded. -/
def Readied (s t : State σ ρ α) : Prop :=
  t = { s with
    random := t.random, definitions := t.definitions, settled := t.settled, errors := t.errors }

/-- The first defect of each rule that has one, as a fault. -/
def firstFaults {ι : Type} (rules : List (Rule ι)) : List Fault :=
  rules.filterMap fun r => r.defects.head?.map Defect.fault

/-- The first faults of rules are those of their first defects. -/
lemma firstFaults_eq {ι : Type} (rules : List (Rule ι)) :
    firstFaults rules = (rules.filterMap Rule.defect?).map Defect.fault := by
  simp only [firstFaults, Rule.head?_defects, List.map_filterMap]

/-- Labels do not matter for what is wrong with a grammar. -/
lemma firstFaults_numberAll {ι : Type} (rules : List (Rule ι)) (next : Nat) :
    firstFaults (Rule.numberAll rules next).1 = firstFaults rules := by
  rw [firstFaults_eq, firstFaults_eq, Rule.filterMap_numberAll]

/-- There are no first faults just if nothing is wrong with any rule. -/
lemma firstFaults_eq_nil_iff {ι : Type} {rules : List (Rule ι)} :
    firstFaults rules = [] ↔ ∀ r ∈ rules, r.defects = [] := by
  simp [firstFaults]

/-- What is wrong with a rule is a fault of its structure. -/
lemma category_firstFaults {ι : Type} {rules : List (Rule ι)} {f : Fault}
    (hf : f ∈ firstFaults rules) : f.category = .structural := by
  rw [firstFaults_eq] at hf
  obtain ⟨d, -, rfl⟩ := List.mem_map.mp hf
  cases d <;> rfl

variable [Host σ α] [RandomSource ρ]

/-- Preparing does nothing else on a host that does not listen. -/
lemma readied_preparing (deaf : Host.Deaf σ) :
    Preparing (Readied : State σ ρ α → State σ ρ α → Prop) where
  refl _ := rfl
  trans {s t u} h k := by
    unfold Readied at h k ⊢
    rw [k, h]
  uniform _ := rfl
  intRange _ _ _ := rfl
  settle {s t} label v _ h := by
    unfold Readied at h ⊢
    rw [h]
  reuse s label v := by
    unfold Readied State.noted
    rw [deaf]
  fix s label v := by
    unfold Readied State.noted
    rw [deaf]
  define _ _ _ _ := rfl

/-- Preparing a rule comes to the first thing that is wrong with it, in any state. -/
lemma prepare_first (r : Rule Unit) (next : Nat) (s : State σ ρ α) :
    Ends (prepare (r.number next).1) s (fun _ _ => r.defects = [])
      (fun f _ => r.defects.head?.map Defect.fault = some f) := by
  refine Ends.imp (preparing_any.prepare (r.number next).1 s) ?_ ?_
  · rintro _ _ ⟨-, hd⟩
    rw [Rule.defect?_number] at hd
    exact Rule.defect?_eq_none_iff.mp hd
  · rintro _ _ ⟨-, d, hd, rfl⟩
    rw [Rule.defect?_number] at hd
    rw [Rule.head?_defects, hd]
    rfl

/-- Preparing a grammar from a state without faults records the first defect of each rule and nothing
else, and leaves all but the source, the fixed values and the definitions as it was. -/
lemma prepareEach_first (deaf : Host.Deaf σ) (settings : Settings) (rules : List (Rule Nat))
    {s : State σ ρ α} (hs : s.errors = #[]) :
    Readied s (prepareEach settings rules s) ∧
      (prepareEach settings rules s).errors.toList = firstFaults rules := by
  constructor
  · refine (readied_preparing deaf).prepareEach (fun s f => ?_) rules s
    obtain ⟨errors, e⟩ := record_eq settings s f
    rw [e]
    rfl
  · rw [prepareEach_errors, hs, firstFaults_eq, List.map_filterMap]
    rfl

variable [Scalar α]

/-- A grammar is carried out if nothing is wrong with it, and only prepared otherwise. -/
lemma derive_gate (deaf : Host.Deaf σ) (env : Surroundings σ ρ α) (rules : List (Rule Nat))
    {s : State σ ρ α} (hs : s.errors = #[]) :
    (firstFaults rules ≠ [] → derive env rules s = prepareEach env.settings rules s) ∧
    (firstFaults rules = [] → (prepareEach env.settings rules s).errors = #[] ∧
      derive env rules s = executeToEnd env rules (prepareEach env.settings rules s)) := by
  obtain ⟨-, errors⟩ := prepareEach_first deaf env.settings rules hs
  constructor
  · intro hne
    refine derive_eq_prepareEach fun hempty => ?_
    exact hne (by rw [← errors, hempty])
  · intro hnil
    have empty : (prepareEach env.settings rules s).errors = #[] := by
      apply Array.ext'
      rw [errors, hnil]
    exact ⟨empty, derive_eq_executeToEnd empty⟩

/-- A run on a scene carries out its grammar if nothing is wrong with any rule, and else generates nothing
and records the first defect of each rule. -/
theorem generate_gate (settings : Settings) (grammar : Grammar) (start : NodeId) (scene : Scene α)
    (random : ρ) :
    let run := generate settings grammar start scene random
    let rules := (Rule.numberAll grammar 0).1
    -- In every state, preparing a rule fails with the first thing that is wrong with it.
    (∀ (r : Rule Unit) (next : Nat) (s : State (Scene α) ρ α),
      Ends (prepare (r.number next).1) s (fun _ _ => r.defects = [])
        (fun f _ => r.defects.head?.map Defect.fault = some f)) ∧
    -- A forest is cleared, if asked, and entered at a start that is there.
    (scene.WellFormed → scene.Live start →
      ∃ base world, clearStart settings start scene = .ok () base ∧ base.worldOf start = .ok world) ∧
    ∀ base world, clearStart settings start scene = .ok () base → base.worldOf start = .ok world →
      let prepared := prepareEach settings rules
        (State.started random (Rule.numberAll grammar 0).2 start world base)
      ((∃ r ∈ grammar, r.defects ≠ []) →
        run.1.generated = [] ∧ run.2.1 = base ∧
          run.1.errors = grammar.filterMap (fun r => r.defects.head?.map Defect.fault) ∧
          ∀ f ∈ run.1.errors, f.category = .structural) ∧
      -- No fault is recorded when the grammar begins to be carried out.
      ((∀ r ∈ grammar, r.defects = []) →
        prepared.errors = #[] ∧ prepared.scene = base ∧
          let ended := executeToEnd (outermost settings) rules prepared
          run = (ended.generation, ended.scene, ended.random)) := by
  intro run rules
  refine ⟨prepare_first, ?_, ?_⟩
  · intro hs hstart
    obtain ⟨base, eclear, hbase, hlive⟩ := clearStart_ok settings hs hstart
    obtain ⟨world, hworld, -⟩ := hbase.world_ok hlive
    exact ⟨base, world, eclear, hworld⟩
  · intro base world eclear hworld prepared
    have eworld : Host.world start base = .ok world base := Scene.world_eq hworld
    have hrun : run = _ := generate_eq settings grammar random eclear eworld
    let started : State (Scene α) ρ α :=
      State.started random (Rule.numberAll grammar 0).2 start world base
    have empty : started.errors = #[] := rfl
    obtain ⟨readied, errors⟩ := prepareEach_first Scene.deaf settings rules empty
    obtain ⟨stopped, carried⟩ := derive_gate Scene.deaf (outermost settings) rules empty
    have faults : firstFaults rules = firstFaults grammar := firstFaults_numberAll grammar 0
    have still : prepared.scene = base := congrArg State.scene readied
    constructor
    · rintro ⟨r, hr, hd⟩
      have hne : firstFaults grammar ≠ [] := fun h => hd (firstFaults_eq_nil_iff.mp h r hr)
      have generated : prepared.generated = #[] := congrArg State.generated readied
      have herrors : prepared.errors.toList = firstFaults grammar := errors.trans faults
      have hd : derive (outermost settings) rules started = prepared := stopped (faults ▸ hne)
      rw [hrun, hd]
      refine ⟨congrArg Array.toList generated, still, herrors, fun f hf => ?_⟩
      have hf : f ∈ prepared.errors.toList := hf
      exact category_firstFaults (herrors ▸ hf)
    · intro hnone
      have hnil := firstFaults_eq_nil_iff.mpr hnone
      obtain ⟨hempty, hd⟩ := carried (faults.trans hnil)
      exact ⟨hempty, still, by rw [hrun, hd]; rfl⟩

/-- A run in the orchard with an empty range in the second rule and a number for a name in the third. -/
theorem generate_gate_orchard :
    let scene : Scene Float := Scene.orchard
    let run := generate {} [.place (.literal (.str "trees")),
      .times (.range (.int 5) (.int 1)) [.place (.literal (.str ""))], .place (.literal (.int 3))] 2
      scene ({ uniforms := #[] } : Random.Scripted)
    scene.WellFormed ∧ scene.Live 2 ∧ run.1.generated = [] ∧ run.2.1 = scene ∧
      run.1.errors = [.structural "range" "max_value is less than min_value",
        .structural "instance" "expected a string, got int 3"] := by
  intro scene run
  have hstart : scene.Live 2 := ⟨_, rfl⟩
  obtain ⟨-, begins, gate⟩ := generate_gate {} [.place (.literal (.str "trees")),
    .times (.range (.int 5) (.int 1)) [.place (.literal (.str ""))], .place (.literal (.int 3))] 2
    scene ({ uniforms := #[] } : Random.Scripted)
  obtain ⟨base, world, eclear, eworld⟩ := begins Scene.orchard_wellFormed hstart
  obtain rfl : scene = base := by cases eclear; rfl
  obtain ⟨stopped, -⟩ := gate scene world eclear eworld
  have wrong : (.place (.literal (.int 3)) : Rule Unit).defects ≠ [] := nofun
  obtain ⟨generated, still, errors, -⟩ := stopped ⟨_, by simp, wrong⟩
  exact ⟨Scene.orchard_wellFormed, hstart, generated, still, errors.trans (by decide +kernel)⟩

end SceneGrammar.Derivation
