import SceneGrammar.Grammar.Rule
import SceneGrammar.Scene.Cursor

/-!
# Events

What a run tells its host as it goes. A host may keep a record of it; nothing that a run does
depends on whether it does.
-/

namespace SceneGrammar

/-- A point of a run. -/
inductive Event (α : Type) where
  /-- A rule is about to be carried out inside `depth` instances. -/
  | rule (depth : Nat) (rule : Rule Nat) (cursor : Cursor α) (scopes : List (Cursor α))
      (captures : List (Capture α))
  /-- A sequence was given a name. -/
  | defined (name : String) (body : List (Rule Nat))
  /-- A name was found to stand for a sequence. -/
  | expanded (name : String) (body : List (Rule Nat))
  /-- One of the members of a collection is about to be chosen. -/
  | choice (collection : String) (members : List NodeId) (weights : List Float)
  /-- An object was placed inside `frames` definitions. -/
  | placed (node : NodeId) (frames : Nat)
  /-- A link was published inside `frames` definitions. -/
  | exported (name : String) (link : NodeId) (frames : Nat)
  /-- The number of instances around the run, or of the definitions being expanded, has changed. -/
  | level (depth frames : Nat)
  /-- The directive of a leaf is about to run. -/
  | directive (leaf : NodeId) (text : String)
  /-- A fixed value was settled before the run. -/
  | settled (label : Nat) (value : Literal)
  /-- A fixed value was used. -/
  | recalled (label : Nat) (value : Literal)

end SceneGrammar
