import SceneGrammar.Grammar.Literal

/-!
# Faults

What can go wrong in a run, by cause. A rule that meets the wrong cursor or the wrong kind of value
is skipped; every other fault is fatal and ends the run.
-/

namespace SceneGrammar

/-- The number of a node of a scene. -/
abbrev NodeId := Nat

/-- A node as messages name it. -/
def NodeId.display (n : NodeId) : String := "#" ++ String.ofList (Decimal.digits n)

/-- The kinds of places a cursor can stand at. -/
inductive CursorKind where
  | object
  | aliasedObject
  | link
deriving Repr, DecidableEq, Inhabited

/-- A kind of place as messages name it. -/
def CursorKind.display : CursorKind → String
  | .object => "object"
  | .aliasedObject => "aliased object"
  | .link => "link"

/-- Why a scene refuses a request. -/
inductive SceneFault where
  | unknownNode (node : NodeId)
  | cycle (child parent : NodeId)
  | host (message : String)
deriving Repr, DecidableEq, Inhabited

namespace SceneFault

/-- The fault of a node whose parent's frame cannot be inverted. -/
def singularParent (node : NodeId) : SceneFault :=
  .host ("parent of " ++ NodeId.display node ++ " has a singular transform")

/-- The message of a scene fault. -/
def message : SceneFault → String
  | .unknownNode n => "unknown node " ++ NodeId.display n
  | .cycle child parent =>
    "cannot parent " ++ NodeId.display child ++ " under its own descendant " ++ NodeId.display parent
  | .host text => text

end SceneFault

/-- How far a fault reaches, by the part of the program that it comes from. -/
inductive FaultCategory where
  | structural
  | precondition
  | adapter
  | configuration
deriving Repr, DecidableEq, Inhabited

/-- A category as messages name it. -/
def FaultCategory.display : FaultCategory → String
  | .structural => "structural"
  | .precondition => "precondition"
  | .adapter => "adapter"
  | .configuration => "configuration"

/-- A fault of a run. The subject is the word of the rule or value it belongs to. -/
inductive Fault where
  /-- The grammar is malformed. -/
  | structural (subject message : String)
  /-- The cursor stands at the wrong kind of place. -/
  | precondition (subject : String) (expected found : CursorKind)
  /-- A drawn argument has the wrong form. -/
  | argument (subject expected found : String)
  /-- The scene refused a request. -/
  | scene (fault : SceneFault)
  /-- A stored random position could not be restored. -/
  | randomState (message : String)
deriving Repr, DecidableEq, Inhabited

namespace Fault

/-- The category of a fault. -/
def category : Fault → FaultCategory
  | .structural _ _ => .structural
  | .precondition _ _ _ => .precondition
  | .argument _ _ _ => .precondition
  | .scene _ => .adapter
  | .randomState _ => .configuration

/-- Whether a fault ends the run and not only the rule that raised it. -/
def fatal (f : Fault) : Bool := f.category != .precondition

/-- The message of a fault. -/
def message : Fault → String
  | .structural subject message => subject ++ ": " ++ message
  | .precondition subject expected found =>
    subject ++ ": requires a " ++ expected.display ++ " cursor, found " ++ found.display
  | .argument subject expected found => subject ++ ": expected " ++ expected ++ ", got " ++ found
  | .scene fault => "scene adapter: " ++ fault.message
  | .randomState message => "random state: " ++ message

/-- The fault of a stored position with a foreign format. -/
def foreignSnapshot (format : String) : Fault :=
  .randomState ("unsupported snapshot format '" ++ format ++ "'")

end Fault

/-- The form an argument must have. -/
inductive Shape where
  | text
  | count
  | number
  | vector
deriving Repr, DecidableEq, Inhabited

namespace Shape

/-- A form as messages name it. -/
def display : Shape → String
  | .text => "a string"
  | .count => "a non-negative integer"
  | .number => "a number"
  | .vector => "a list of three numbers"

/-- What a literal of the form holds. -/
abbrev Value : Shape → Type
  | .text => String
  | .count => Nat
  | .number => Float
  | .vector => Vec3 Float

/-- What a literal holds if it has the form. -/
def read? : (s : Shape) → Literal → Option s.Value
  | .text, v => v.text?
  | .count, v => v.int?.bind fun n => if 0 ≤ n then some n.toInt.toNat else none
  | .number, v => v.number?
  | .vector, v => v.vector?

/-- Whether a literal has the form. -/
def accepts (s : Shape) (v : Literal) : Bool := (s.read? v).isSome

/-- The fault of a drawn argument that does not have the form. -/
def fault (s : Shape) (subject : String) (found : Literal) : Fault :=
  .argument subject s.display found.described

end Shape

/-- What can be wrong with a grammar before it runs. -/
inductive Defect where
  | unnamedDefinition
  | literalShape (subject : String) (expected : Shape) (found : Literal)
  | leastNotInteger
  | mostNotInteger
  | emptyRange
  | noEntries
  | badWeight (weight : Literal)
  | badPattern (pattern : String)
deriving Inhabited

namespace Defect

/-- A defect as a fault. Of a bad pattern the message does not say why it cannot be read. -/
def fault : Defect → Fault
  | .unnamedDefinition => .structural "define" "name of definition must be a non-empty string"
  | .literalShape subject expected found =>
    .structural subject ("expected " ++ expected.display ++ ", got " ++ found.described)
  | .leastNotInteger => .structural "range" "min_value not an integer"
  | .mostNotInteger => .structural "range" "max_value not an integer"
  | .emptyRange => .structural "range" "max_value is less than min_value"
  | .noEntries =>
    .structural "weighted" "weights must contain at least one (weight, value) pair"
  | .badWeight w =>
    .structural "weighted" ("weight " ++ w.display ++ " is not a non-negative number")
  | .badPattern pattern => .structural "each_link" ("invalid pattern " ++ Text.quoted pattern)

theorem fatal_fault (d : Defect) : d.fault.fatal = true := by cases d <;> rfl

end Defect

end SceneGrammar
