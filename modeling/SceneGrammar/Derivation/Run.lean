import SceneGrammar.Derivation.Place
import SceneGrammar.Random.Interchange

/-!
# Runs

A run prepares all rules of a grammar, and if none has a defect, carries them out from a start link
on. What it generated and what went wrong is its result, whether it came to its end or not. A run
on a random stream returns the position of the stream, at which the next run may go on.
-/

namespace SceneGrammar.Derivation
variable {σ ρ α : Type} [Scalar α] [Host σ α] [RandomSource ρ]

/-- The nodes that were placed or copied, in this order, and what went wrong. -/
structure Generation where
  generated : List NodeId := []
  errors : List Fault := []
deriving Repr, DecidableEq

/-- Whether nothing went wrong. -/
def Generation.success (g : Generation) : Bool := g.errors.isEmpty

/-- The result of a run so far. -/
def State.generation (s : State σ ρ α) : Generation := ⟨s.generated.toList, s.errors.toList⟩

/-- A state at a start link; labels from `fresh` on are not taken. -/
def State.begin (random : ρ) (fresh : Nat) (start : NodeId) : Edit σ (State σ ρ α) := do
  let world ← Host.world start
  pure
    { scene := ← get
      random
      cursor := .link (.enter start world)
      freshLabel := fresh }

/-- Removes all that is below a node. -/
def clearChildren (n : NodeId) : Edit σ Unit := do
  (Host.children (← get) n).forM Host.remove

/-- Prepares rules one by one and records the first defect of each. -/
def prepareEach (settings : Settings) : List (Rule Nat) → State σ ρ α → State σ ρ α
  | [], s => s
  | r :: rs, s =>
    match prepare r s with
    | .ok _ s => prepareEach settings rs s
    | .error f s => prepareEach settings rs (s.record settings f)

/-- Carries out rules and records the fault that ends them. -/
def executeToEnd (env : Surroundings σ ρ α) (rules : List (Rule Nat)) (s : State σ ρ α) :
    State σ ρ α :=
  match executeAll env rules s with
  | .ok _ s => s
  | .error f s => s.record env.settings f

/-- Prepares rules and carries them out if none has a defect. -/
def derive (env : Surroundings σ ρ α) (rules : List (Rule Nat)) (s : State σ ρ α) : State σ ρ α :=
  let s := prepareEach env.settings rules s
  if s.errors.isEmpty then executeToEnd env rules s else s

/-- Removes what is below the start link if the settings ask for it. -/
def clearStart (settings : Settings) (start : NodeId) : Edit σ Unit :=
  if settings.clearChildren then clearChildren start else pure ()

/-- Runs a grammar from a start link on, in given surroundings. -/
def generateIn (env : Surroundings σ ρ α) (grammar : Grammar) (start : NodeId) (scene : σ)
    (random : ρ) : Generation × σ × ρ :=
  match clearStart env.settings start scene with
  | .error f scene => ({ errors := [.scene f] }, scene, random)
  | .ok _ scene =>
    let (rules, fresh) := Rule.numberAll grammar 0
    match State.begin random fresh start scene with
    | .error f scene => ({ errors := [.scene f] }, scene, random)
    | .ok s _ =>
      let s := derive env rules s
      (s.generation, s.scene, s.random)

/-- Runs a grammar from a start link on. -/
def generate (settings : Settings) (grammar : Grammar) (start : NodeId) (scene : σ) (random : ρ) :
    Generation × σ × ρ :=
  generateIn (outermost settings) grammar start scene random

/-- The result of a run on a random stream, and where the stream stands after it. -/
structure Outcome where
  generation : Generation
  random : Random.Snapshot

/-- Runs a grammar on a random stream: that of the seed, or the one at a stored position. A stored
position of a foreign format is refused before anything is changed. -/
def run (settings : Settings) (grammar : Grammar) (start : NodeId) (prior : Option Random.Snapshot)
    (scene : σ) : Except Fault Outcome × σ :=
  let stream : Except Fault Random.Stream := match prior with
    | none => .ok (.ofSeed settings.seed)
    | some p =>
      match Random.Stream.restore? p with
      | some stream => .ok stream
      | none => .error (.foreignSnapshot p.format)
  match stream with
  | .error f => (.error f, scene)
  | .ok stream =>
    let (generation, scene, stream) := generate settings grammar start scene stream
    (.ok ⟨generation, stream.snapshot⟩, scene)

/-- Runs a grammar with the default settings and a seed. -/
def interpret (grammar : Grammar) (start : NodeId) (seed : UInt64) (prior : Option Random.Snapshot)
    (scene : σ) : Except Fault Outcome × σ :=
  run { seed } grammar start prior scene

end SceneGrammar.Derivation
