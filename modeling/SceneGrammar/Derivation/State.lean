import SceneGrammar.Random.Source
import SceneGrammar.Scene.Host
import SceneGrammar.Settings

/-!
# The state of a run

The scene, the source of randomness and the cursor, together with what a run remembers: the cursors
to go back to, the definitions, the fixed values, and what has been generated and has gone wrong so
far. An action may fail and keeps what it changed before.
-/

namespace SceneGrammar.Derivation

/-- The state of a run on a host `σ` with a source `ρ` and coordinates `α`. -/
structure State (σ ρ α : Type) where
  scene : σ
  random : ρ
  cursor : Cursor α
  /-- The cursors of the open scopes, the innermost first. -/
  scopes : List (Cursor α) := []
  definitions : Bindings String (List (Rule Nat)) := ∅
  /-- The definitions that are being expanded, the innermost first. -/
  captures : List (Capture α) := []
  /-- The number of instances around what is carried out. -/
  depth : Nat := 0
  /-- The fixed values by their labels. -/
  settled : Bindings Nat Literal := ∅
  /-- The first label that no grammar of the run has. -/
  freshLabel : Nat := 0
  /-- The leaves whose directives have run, the last first. -/
  expanded : List NodeId := []
  /-- The nodes that were placed or copied. -/
  generated : Array NodeId := #[]
  errors : Array Fault := #[]

/-- A part of a run. -/
abbrev Action (σ ρ α β : Type) := EStateM Fault (State σ ρ α) β

namespace State
variable {σ ρ α : Type}

/-- Opens a scope at the cursor. -/
def pushScope (s : State σ ρ α) : State σ ρ α := { s with scopes := s.cursor :: s.scopes }

/-- Closes the innermost scope and goes back to where it was opened. -/
def popScope (s : State σ ρ α) : State σ ρ α :=
  match s.scopes with
  | cursor :: scopes => { s with cursor, scopes }
  | [] => s

/-- Begins to expand a definition. -/
def openCapture (s : State σ ρ α) : State σ ρ α :=
  { s with captures := { entry := s.cursor } :: s.captures }

/-- Ends the expansion of a definition: the cursor goes to the first object that was placed, with
the published links, or back to where it was if there is none. -/
def closeCapture (s : State σ ρ α) : State σ ρ α :=
  match s.captures with
  | capture :: captures =>
    match capture.object with
    | some n => { s with cursor := .aliased n capture.aliases, captures }
    | none => { s with cursor := capture.entry, captures }
  | [] => s

/-- Goes one instance further down. -/
def descend (s : State σ ρ α) : State σ ρ α := { s with depth := s.depth + 1 }

/-- Comes back from an instance. -/
def ascend (s : State σ ρ α) : State σ ρ α := { s with depth := s.depth - 1 }

/-- Publishes a link in the innermost definition, if there is one. -/
def publish (s : State σ ρ α) (name : String) (link : NodeId) : State σ ρ α :=
  match s.captures with
  | capture :: captures =>
    { s with captures := { capture with aliases := capture.aliases.insert name link } :: captures }
  | [] => s

/-- Lists a node among the generated ones. -/
def addGenerated (s : State σ ρ α) (n : NodeId) : State σ ρ α :=
  { s with generated := s.generated.push n }

/-- Lists a node among the generated ones and offers it to the open definitions. -/
def addPlaced (s : State σ ρ α) (n : NodeId) : State σ ρ α :=
  { s.addGenerated n with
    captures := s.captures.map fun c => { c with object := c.object <|> some n } }

/-- Records a fault; one that is not fatal is recorded only if the settings are strict. -/
def record (settings : Settings) (s : State σ ρ α) (f : Fault) : State σ ρ α :=
  if !settings.strict && !f.fatal then s else { s with errors := s.errors.push f }

/-- Tells the host about a point of the run. -/
def noted [Host σ α] (event : Event α) (s : State σ ρ α) : State σ ρ α :=
  { s with scene := Host.observe event s.scene }

/-- Tells the host how deep the run is. -/
def atLevel [Host σ α] (s : State σ ρ α) : State σ ρ α :=
  s.noted (.level s.depth s.captures.length)

end State

variable {σ ρ α β : Type}

/-- Lets the host do something. -/
def request (act : Edit σ β) : Action σ ρ α β := fun s =>
  match act s.scene with
  | .ok b scene => .ok b { s with scene }
  | .error f scene => .error (.scene f) { s with scene }

/-- Tells the host about a point of the run. -/
def note [Host σ α] (event : Event α) : Action σ ρ α Unit := modify (·.noted event)

/-- Draws a uniform number. -/
def uniform [RandomSource ρ] : Action σ ρ α Float :=
  modifyGet fun s =>
    let (x, random) := RandomSource.uniform s.random
    (x, { s with random })

/-- Draws an integer between two bounds. -/
def intRange [RandomSource ρ] (min max : Int64) : Action σ ρ α Int64 :=
  modifyGet fun s =>
    let (n, random) := RandomSource.intRange min max s.random
    (n, { s with random })

/-- Goes back to the cursor after an action, whether it fails or not. -/
def inScope (act : Action σ ρ α β) : Action σ ρ α β := fun s =>
  match act s.pushScope with
  | .ok b s => .ok b s.popScope
  | .error f s => .error f s.popScope

/-- Expands a definition by an action, whether it fails or not. -/
def captured [Host σ α] (act : Action σ ρ α β) : Action σ ρ α β := fun s =>
  match act s.openCapture.atLevel with
  | .ok b s => .ok b s.closeCapture.atLevel
  | .error f s => .error f s.closeCapture.atLevel

/-- Carries out an action one instance further down, whether it fails or not. -/
def nested [Host σ α] (act : Action σ ρ α β) : Action σ ρ α β := fun s =>
  match act s.descend.atLevel with
  | .ok b s => .ok b s.ascend.atLevel
  | .error f s => .error f s.ascend.atLevel

/-- Records a fault of an action that is not fatal and goes on after it. -/
def tolerate (settings : Settings) (act : Action σ ρ α Unit) : Action σ ρ α Unit := fun s =>
  match act s with
  | .ok _ s => .ok () s
  | .error f s => if f.fatal then .error f s else .ok () (s.record settings f)

/-- Repeats an action. -/
def iterate : Nat → Action σ ρ α Unit → Action σ ρ α Unit
  | 0, _ => pure ()
  | n + 1, act => do
    act
    iterate n act

/-- The link at the cursor, which a rule with the given word needs. -/
def requireLink (subject : String) : Action σ ρ α (LinkPlace α) := do
  match (← get).cursor with
  | .link place => pure place
  | cursor => throw (.precondition subject .link cursor.kind)

/-- The object at the cursor, which a rule with the given word needs. -/
def requireObject (subject : String) : Action σ ρ α NodeId := do
  let cursor := (← get).cursor
  match cursor.object? with
  | some n => pure n
  | none => throw (.precondition subject .object cursor.kind)

/-- Moves the cursor to an object. -/
def goToObject (n : NodeId) : Action σ ρ α Unit := modify fun s => { s with cursor := .object n }

/-- Moves the cursor to a link, where no offset has accumulated. -/
def enterLink [Scalar α] [Host σ α] (n : NodeId) : Action σ ρ α Unit := do
  let world ← request (Host.world n)
  modify fun s => { s with cursor := .link (.enter n world) }

end SceneGrammar.Derivation
