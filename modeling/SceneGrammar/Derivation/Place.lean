import SceneGrammar.Derivation.Execute
import SceneGrammar.Grammar.Interchange
import SceneGrammar.Text.CharSet

/-!
# Placing names

A name stands for a definition, or else for a collection of templates, one of which is copied. The
leaves of what was placed may hold directives: grammars, or names to be placed in their turn. Each
placing takes place one instance further down, and a name that would nest too deep is passed over.
-/

namespace SceneGrammar.Derivation
variable {σ ρ α : Type} [Scalar α] [Host σ α] [RandomSource ρ]

/-- The weight of a template: one if it has no finite number for a weight, and none below zero. -/
def templateWeight (settings : Settings) (scene : σ) (n : NodeId) : Float :=
  match (Host.property? scene n settings.weightKey).bind (·.number?) with
  | some w => if w.isFinite then (if 0 ≤ w then w else 0) else 1
  | none => 1

/-- Copies one of the members of a collection to the current link. -/
def placeTemplate (settings : Settings) (collection : String) (members : List NodeId) :
    Action σ ρ α Unit := do
  let place ← requireLink "instance"
  let scene := (← get).scene
  let weights := members.map (templateWeight settings scene)
  note (.choice collection members weights)
  let threshold := (← uniform) * Selection.total weights
  match (Selection.firstExceeding weights threshold).bind (members[·]?) with
  | none => pure ()
  | some template =>
    let copy ← request (Host.duplicate template)
    request (Host.setWorld copy place.composed)
    adopt copy place.node
    goToObject copy
    note (.placed copy (← get).captures.length)
    modify (·.addPlaced copy)

/-- The childless nodes below a node that hold a directive, with their directives. -/
def directives (settings : Settings) (scene : σ) (root : NodeId) : List (NodeId × String) :=
  (Host.descendants scene root).filterMap fun n =>
    if (Host.children scene n).isEmpty then
      (Host.property? scene n settings.directiveKey).bind fun v => v.text?.map (n, ·)
    else none

/-- Carries out the directive of a leaf at the cursor: a grammar if it can be read as one, else a
name. The labels of a grammar are new; if it has a defect, the defect is recorded and that is all. -/
def runDirective (env : Surroundings σ ρ α) (leaf : NodeId) (text : String) : Action σ ρ α Unit := do
  note (.directive leaf text)
  match Grammar.parse? text with
  | none => env.place (Text.trim text)
  | some grammar =>
    let (rules, fresh) := Rule.numberAll grammar (← get).freshLabel
    modify fun s => { s with freshLabel := fresh }
    fun s =>
      match prepareAll rules s with
      | .ok _ s => executeAll env rules s
      | .error f s => .ok () (s.record env.settings f)

/-- Carries out the directive of a leaf at the leaf, unless it has been carried out before. -/
def expandLeaf (env : Surroundings σ ρ α) (leaf : NodeId) (text : String) : Action σ ρ α Unit := do
  if (← get).expanded.contains leaf then pure ()
  else
    modify fun s => { s with expanded := leaf :: s.expanded }
    inScope do
      enterLink leaf
      runDirective env leaf text

/-- Carries out the directives of the leaves below the object at the cursor. -/
def expandLeaves (env : Surroundings σ ρ α) : Action σ ρ α Unit := do
  let s ← get
  match s.cursor.object? with
  | none => pure ()
  | some object =>
    (directives env.settings s.scene object).forM fun (leaf, text) => expandLeaf env leaf text

/-- Places what a name stands for. A name that stands for nothing is passed over. -/
def placeName (env : Surroundings σ ρ α) (name : String) : Action σ ρ α Unit := do
  let s ← get
  match s.definitions.get? name with
  | some body =>
    note (.expanded name body)
    captured (executeAll env body)
    expandLeaves env
  | none =>
    match Host.topLevel? s.scene name with
    | some members =>
      placeTemplate env.settings name members
      expandLeaves env
    | none => pure ()

/-- Places what a name stands for one instance further down, unless instances nest too deep there. What
the instance places in its turn is left to `inner`. -/
def placeInstance (settings : Settings) (inner : String → Action σ ρ α Unit) (name : String) :
    Action σ ρ α Unit := do
  if settings.maxDepth.toNat < (← get).depth then pure ()
  else nested (placeName ⟨settings, inner⟩ name)

/-- Places what a name stands for, with at most `levels` instances inside each other. -/
def placeWithin (settings : Settings) : Nat → String → Action σ ρ α Unit
  | 0, _ => pure ()
  | levels + 1, name => placeInstance settings (placeWithin settings levels) name

/-- The surroundings of a grammar that is not part of an instance. There, one more level than the
settings allow is never used up. -/
def outermost (settings : Settings) : Surroundings σ ρ α :=
  ⟨settings, placeWithin settings (settings.maxDepth.toNat + 1)⟩

end SceneGrammar.Derivation
