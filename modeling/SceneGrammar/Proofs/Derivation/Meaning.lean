import SceneGrammar.Proofs.Derivation.Congruence
import SceneGrammar.Proofs.Derivation.Foliage
import SceneGrammar.Proofs.Derivation.Resolve

/-!
# What runs place

A grammar defines names before it is carried out and while it is. `generate_resolves` says what a name is
when a run comes to place it: the definition of that name that was carried out last in this run, or else the
last one that stands in the grammar, or else a collection. It says so of what is entered in the diary of the
run, and that the table which the run keeps is not needed to find it.
-/

namespace SceneGrammar.Derivation

open Scene (Foliage)

variable {σ ρ α : Type} [Scalar α] [RandomSource ρ]

/-- A directive that is no grammar, or one without definitions. -/
def Plain (v : Literal) : Prop :=
  ∀ text grammar, v = .str text → Grammar.parse? text = some grammar → Rule.definitionsOf grammar = []

/-! ## Prepared grammars -/

section
variable [Host σ α]

omit [Scalar α] in
/-- Preparing a grammar gives names to what is registered in each of its rules. -/
lemma prepareEach_registers (settings : Settings) (rules : List (Rule Nat)) (s : State σ ρ α) :
    (prepareEach settings rules s).definitions =
      s.definitions.insertAll (rules.flatMap Rule.registered) := by
  induction rules generalizing s with
  | nil => rfl
  | cons r rules ih =>
    have registers := prepare_registers r s
    rw [List.flatMap_cons, Bindings.insertAll_append]
    unfold prepareEach
    cases e : prepare r s with
    | ok _ t =>
      rw [← registers.ok e]
      exact ih t
    | error f t =>
      obtain ⟨errors, er⟩ := record_eq settings t f
      have same : (t.record settings f).definitions = t.definitions := by rw [er]
      rw [← registers.error e, ← same]
      exact ih _

omit [Scalar α] in
/-- Preparing a grammar carries out no definition. -/
lemma prepareEach_unfolds (settings : Settings) (rules : List (Rule Nat)) (s : State (Diary σ α) ρ α) :
    Unfolds rules s.scene.entries (prepareEach settings rules s).scene.entries := by
  have recorded (s : State (Diary σ α) ρ α) (f : Fault) :
      Unfolds rules s.scene.entries (s.record settings f).scene.entries := (Mute.record settings s f).unfolds
  exact (unfolds_preparing rules).prepareEach recorded rules s

omit [Scalar α] in
/-- A grammar without defects gives names to all that it defines. -/
lemma prepareEach_resolved (settings : Settings) (rules : List (Rule Nat))
    {s : State (Diary σ α) ρ α} (definitions : s.definitions = ∅) (entries : s.scene.entries = [])
    (errors : s.errors = #[]) (sound : (prepareEach settings rules s).errors = #[]) :
    Resolved rules (prepareEach settings rules s) := by
  have unfolds := prepareEach_unfolds settings rules s
  rw [entries] at unfolds
  have registered : rules.flatMap Rule.registered = Rule.definitionsOf rules := by
    rw [Rule.definitionsOf_eq_flatMap]
    exact List.flatMap_congr fun r hr =>
      Rule.registered_eq_definitions (prepareEach_sound errors sound r hr)
  refine ⟨fun name => ?_, unfolds.resolves trivial⟩
  rw [prepareEach_registers, definitions, registered, Bindings.get?_insertAll, meaning?, unfolds.defined]
  exact Option.or_none

end

/-! ## Runs on scenes -/

/-- A forest in which no directive of a leaf defines anything. -/
abbrev PlainLeaves (settings : Settings) (scene : Scene α) : Prop :=
  Foliage settings.directiveKey Plain (fun _ => False) scene

/-- A state with a diary in which no directive of a leaf defines anything and the definitions are
resolved. -/
def Meant (settings : Settings) (rules : List (Rule Nat)) (s : State (Diary (Scene α) α) ρ α) : Prop :=
  Attested (fun s : State (Scene α) ρ α => PlainLeaves settings s.scene) (fun _ _ => True) s ∧
    Resolved rules s

/-- Runs keep it so. -/
lemma exists_meant_regime (settings : Settings) (rules : List (Rule Nat)) :
    ∃ R, Regime settings (fun _ _ => True)
      (Meant settings rules : State (Diary (Scene α) α) ρ α → Prop) R := by
  have conduct := keeps_conduct (ρ := ρ) (Scene.wellFormed_keeps (α := α)) settings
  have regime := conduct.regime.upholding (foliage_upholds settings Plain _)
  simp only [true_and] at regime
  have admits : Diary.Admits settings (fun s : State (Scene α) ρ α => PlainLeaves settings s.scene)
      (fun _ _ => True) :=
    ⟨fun _ _ => trivial, fun _ _ => trivial, fun _ _ _ => trivial⟩
  refine ⟨_, (regime.diary admits).resolving rules ?_⟩
  -- A directive that is carried out was found at a leaf.
  rintro s leaf text grammar ⟨⟨t, object, ht, found⟩, -⟩ read
  have foliage : PlainLeaves settings t.scene.host := ht.now
  have found : (leaf, text) ∈ directives settings t.scene.host object := found
  obtain ⟨-, childless, held⟩ := (mem_directives_iff foliage.wellFormed).mp found
  exact foliage.leaf leaf (.str text) (by simp [childless]) held text grammar rfl read

/-- Preparing leaves the scene alone. -/
lemma host_preparing :
    Preparing fun s t : State (Diary (Scene α) α) ρ α => t.scene.host = s.scene.host where
  refl _ := rfl
  trans h k := k.trans h
  uniform _ := rfl
  intRange _ _ _ := rfl
  settle _ _ _ h := h
  reuse _ _ _ := rfl
  fix _ _ _ := rfl
  define _ _ _ _ := rfl

section
variable {settings : Settings} {rules : List (Rule Nat)} {d : Diary (Scene α) α}
  (entries : d.entries = []) (random : ρ) (fresh : Nat) (start : NodeId) (world : Matrix4 α)
  (foliage : PlainLeaves settings d.host)
include entries foliage

/-- A run is so once its grammar has been prepared, if nothing is wrong with it. -/
lemma prepareEach_meant
    (sound : (prepareEach settings rules (State.started random fresh start world d)).errors = #[]) :
    Meant settings rules (prepareEach settings rules (State.started random fresh start world d)) := by
  have host : (prepareEach settings rules (State.started random fresh start world d)).scene.host =
      d.host := host_preparing.prepareEach (fun s f => congrArg Diary.host (s.scene_record settings f)) _ _
  rw [← host] at foliage
  exact ⟨⟨foliage, fun _ _ _ => trivial⟩, prepareEach_resolved settings rules rfl entries rfl sound⟩

/-- Carrying out a grammar, names may be looked up in the diary. -/
lemma derive_meant :
    let s := State.started random fresh start world d
    derive (outermost settings) rules s =
      derive ⟨settings, placeWithinBy (fun s name => meaning? rules s.scene.entries name) settings
        (settings.maxDepth.toNat + 1)⟩ rules s := by
  intro s
  obtain ⟨R, regime⟩ := exists_meant_regime (ρ := ρ) (α := α) settings rules
  by_cases sound : (prepareEach settings rules s).errors = #[]
  · have meant := prepareEach_meant entries random fresh start world foliage sound
    rw [derive_eq_executeToEnd sound, derive_eq_executeToEnd sound]
    unfold executeToEnd outermost
    dsimp only
    rw [regime.executeAll_congr (regime.placeWithin _)
      (regime.placeWithin_congr (fun t ht name => (ht.2.1 name).symm) _) rules _ (fun _ _ => trivial) meant]
  · rw [derive_eq_prepareEach sound, derive_eq_prepareEach sound]
    rfl

/-- What is entered in the diary then resolves names. -/
lemma derive_resolves :
    Diary.Resolves rules
      (derive (outermost settings) rules (State.started random fresh start world d)).scene.entries := by
  obtain ⟨R, regime⟩ := exists_meant_regime (ρ := ρ) (α := α) settings rules
  by_cases sound : (prepareEach settings rules (State.started random fresh start world d)).errors = #[]
  · have meant := prepareEach_meant entries random fresh start world foliage sound
    have recorded (s : State (Diary (Scene α) α) ρ α) (f : Fault) (hs : Meant settings rules s) :
        Meant settings rules (s.record settings f) := by
      obtain ⟨errors, e⟩ := record_eq settings s f
      rw [e]
      exact ⟨⟨hs.1.now, hs.1.past⟩, hs.2⟩
    exact (regime.derive recorded (regime.placeWithin _) meant fun _ _ _ => trivial).2.2
  · rw [derive_eq_prepareEach sound]
    refine (prepareEach_unfolds settings rules _).resolves ?_
    rw [show (State.started random fresh start world d).scene.entries = [] from entries]
    trivial

end

/-- A run on a forest expands a name to the definition that was carried out last, or else to the last one in
the grammar, and chooses a template only where there is neither. -/
theorem generate_resolves (settings : Settings) (grammar : Grammar) (start : NodeId) (scene : Scene α)
    (random : ρ) (hs : scene.WellFormed)
    -- No directive in the scene defines anything when the rules are about to be carried out.
    (plain : let base := after (clearStart settings start) scene
      ∀ leaf text directive, base.children leaf = [] →
        base.property? leaf settings.directiveKey = some (.str text) →
          Grammar.parse? text = some directive → Rule.definitionsOf directive = []) :
    let rules := (Rule.numberAll grammar 0).1
    let run := generate settings grammar start scene random
    let diary := generate settings grammar start ({ host := scene } : Diary (Scene α) α) random
    run = (diary.1, diary.2.1.host, diary.2.2) ∧
      -- Definitions that are never carried out count, and those in a body come before its own.
      (∀ name body form past, (.expanded name body, form) :: past <:+ diary.2.1.entries →
        meaning? rules past name = some body) ∧
      (∀ name members weights form past,
        (.choice name members weights, form) :: past <:+ diary.2.1.entries →
          meaning? rules past name = none ∧ ∀ body, (name, body) ∉ Rule.definitionsOf rules) ∧
      -- Nothing else decides: the run is the one that looks names up in its diary.
      diary = generateIn
        ⟨settings, placeWithinBy (fun s name => meaning? rules s.scene.entries name) settings
          (settings.maxDepth.toNat + 1)⟩ grammar start { host := scene } random := by
  intro rules run diary
  -- Once the start is cleared, no leaf defines anything.
  have foliage : ∀ {base : Scene α} {world} {d : Diary (Scene α) α},
      clearStart settings start scene = .ok () base → Host.world start base = .ok world d.host →
        PlainLeaves settings d.host := by
    intro base world d eclear eworld
    have hbase := clearStart_wellFormed settings start hs
    have same : d.host = after (clearStart settings start) scene := by
      rw [after, eclear]
      exact (Scene.world_ends base start).ok eworld
    rw [same]
    refine ⟨hbase, ?_⟩
    rintro leaf v childless hv text directive rfl
    exact plain leaf text directive (List.eq_nil_iff_forall_not_mem.mpr childless) hv
  have resolves : Diary.Resolves rules diary.2.1.entries :=
    generateIn_entries trivial fun base world d eclear eworld entries =>
      derive_resolves entries random _ start world (foliage eclear eworld)
  refine ⟨generate_view Diary.view settings grammar start { host := scene } random, ?expanded, ?choice, ?run⟩
  case expanded => exact fun name body form past entry => resolves.of_suffix entry
  case choice =>
    intro name members weights form past entry
    have none : meaning? rules past name = none := resolves.of_suffix entry
    exact ⟨none, meaning?_eq_none none⟩
  case run =>
    refine generateIn_congr fun base world d eclear eworld => ?_
    obtain ⟨eclear, hbase⟩ := (clearStart_diary settings start scene).ok eclear
    obtain ⟨eworld, entries⟩ := (world_diary start hbase).ok eworld
    exact derive_meant entries random _ start world (foliage eclear eworld)

/-- A template with a leaf that has a directive, which is a name, and a site. -/
def nursery : Scene Float :=
  Scene.empty.applyAll [.addTemplate "trees" "oak", .addNode "bud" (some 1),
    .tag 2 "gen_instance" (.str "fruit"), .addNode "site" none]

/-- Shrubs are two trees before they are defined, since the last definition in the grammar counts although
it is passed over, and one tree after the first has been carried out. -/
theorem generate_resolves_nursery :
    let tree : Rule Unit := .block [.place (.literal (.str "trees"))]
    let shrub : Rule Unit := .block [.place (.literal (.str "shrub"))]
    let grammar : Grammar := [shrub, .define "shrub" [tree], shrub,
      .times (.literal (.int 0)) [.define "shrub" [tree, tree]], shrub]
    let random : Random.Scripted := { uniforms := #[] }
    let rules := (Rule.numberAll grammar 0).1
    let diary := generate {} grammar 3 ({ host := nursery } : Diary (Scene Float) Float) random
    nursery.WellFormed ∧ diary.1 = { generated := [4, 6, 8, 10] } ∧
      (Rule.lastDefinition? rules "shrub").map List.length = some 2 ∧
      (Diary.defined diary.2.1.entries).map (fun entry => (entry.1, entry.2.length)) = [("shrub", 1)] ∧
      (∀ body form past, (.expanded "shrub" body, form) :: past <:+ diary.2.1.entries →
        meaning? rules past "shrub" = some body) ∧
      diary = generateIn
        ⟨{}, placeWithinBy (fun s name => meaning? rules s.scene.entries name) {} 11⟩ grammar 3
          { host := nursery } random := by
  intro tree shrub grammar random rules diary
  have wellFormed : nursery.WellFormed := Scene.wellFormed_empty.applyAll _ (by decide)
  have plain : ∀ leaf text directive, nursery.property? leaf "gen_instance" = some (.str text) →
      Grammar.parse? text = some directive → Rule.definitionsOf directive = [] := by
    intro leaf text directive e read
    have hle : leaf ≤ 3 := (Scene.live_of_property? e).le_lastId
    obtain rfl | rfl | rfl | rfl : leaf = 0 ∨ leaf = 1 ∨ leaf = 2 ∨ leaf = 3 := by lia
    · cases e
    · cases e
    · cases e
      have unread : Grammar.parse? "fruit" = none := by decide +kernel
      exact nomatch unread.symm.trans read
    · cases e
  obtain ⟨-, expanded, -, run⟩ := generate_resolves {} grammar 3 nursery random wellFormed
    fun leaf text directive _ => plain leaf text directive
  exact ⟨wellFormed, by decide +kernel, by decide +kernel, by decide +kernel, expanded "shrub", run⟩

end SceneGrammar.Derivation
