import SceneGrammar.Grammar.Rule
import SceneGrammar.Json.Reader
import SceneGrammar.Json.Record

/-!
# Grammars as interchange trees

Every rule and every drawn value is a record with a tag. What can be read as a literal is one, so a
list of numbers is never taken for a drawn value in array form.
-/

namespace SceneGrammar

namespace Literal

mutual
/-- The tree of a literal. -/
def toJson : Literal → Json
  | .bool b => .bool b
  | .int n => .int n.toInt
  | .float x => .float x
  | .str s => .str s
  | .list items => .arr (itemsToJson items)
/-- The trees of the items of a list. -/
def itemsToJson : List Literal → List Json
  | [] => []
  | item :: rest => item.toJson :: itemsToJson rest
end

mutual
/-- The literal of a tree: null and objects are none, an integer beyond 64 bits is a float. -/
def ofJson? : Json → Option Literal
  | .bool b => some (.bool b)
  | .int n =>
    if Int64.minValue.toInt ≤ n && n ≤ Int64.maxValue.toInt then some (.int (Int64.ofInt n))
    else some (.float (Float.ofInt n))
  | .float x => some (.float x)
  | .str s => some (.str s)
  | .arr items => (itemsOfJson? items).map .list
  | _ => none
/-- The items of a list. -/
def itemsOfJson? : List Json → Option (List Literal)
  | [] => some []
  | item :: rest => do pure ((← ofJson? item) :: (← itemsOfJson? rest))
end

end Literal

namespace Expr
variable {ι : Type}

mutual
/-- The tree of an argument. -/
def toJson : Expr ι → Json
  | .literal v => v.toJson
  | .range least most => .obj [("value", .str "range"), ("min", least.toJson), ("max", most.toJson)]
  | .weighted entries => .obj [("value", .str "weighted"), ("entries", .arr (entriesToJson entries))]
  | .fixed _ e => .obj [("value", .str "static"), ("of", e.toJson)]
/-- The trees of entries, each a weight and an argument. -/
def entriesToJson : List (Literal × Expr ι) → List Json
  | [] => []
  | (w, e) :: rest => .arr [w.toJson, e.toJson] :: entriesToJson rest
end

/-- The tags of drawn values. -/
def words : List String := ["range", "weighted", "static"]

/-- The drawn value of a record, whose arguments `read` reads. -/
def drawOfRecord? (read : Json → Option (Expr Unit)) (word : String) (record : Json) :
    Option (Expr Unit) := do
  if word = "range" then
    match ← record.parts? ["min", "max"] with
    | [some least, some most] => pure (.range (← Literal.ofJson? least) (← Literal.ofJson? most))
    | _ => none
  else if word = "weighted" then
    match ← record.parts? ["entries"] with
    | [some entries] =>
      let entry? (j : Json) : Option (Literal × Expr Unit) := do
        match ← j.items? with
        | [w, e] => pure (← Literal.ofJson? w, ← read e)
        | _ => none
      pure (.weighted (← (← entries.items?).mapM entry?))
    | _ => none
  else
    match ← record.parts? ["of"] with
    | [some e] => pure (.fixed () (← read e))
    | _ => none

/-- The argument of a tree, in which drawn values are nested less than `bound` deep. -/
def ofJson? : Nat → Json → Option (Expr Unit)
  | 0, _ => none
  | bound + 1, j =>
    match Literal.ofJson? j with
    | some v => some (.literal v)
    | none => do
      let (tag, record) ← j.untag? "value"
      drawOfRecord? (ofJson? bound) (← Json.word? true words tag) record

/-- The drawn value of a tree that stands alone, whose tag is a word. -/
def drawOfJson? (j : Json) : Option (Expr Unit) := do
  let (tag, record) ← j.untag? "value"
  drawOfRecord? (ofJson? (j.depth + 1)) (← Json.word? false words tag) record

end Expr

namespace Axis

/-- The word for an axis. -/
def word : Axis → String
  | .x => "x"
  | .y => "y"
  | .z => "z"

/-- The axis of a word. -/
def ofWord? (s : String) : Option Axis := [Axis.x, .y, .z].find? (·.word == s)

/-- The axis of a tree. -/
def ofJson? (inside : Bool) (j : Json) : Option Axis := do
  ofWord? (← j.unitWord? inside ["x", "y", "z"])

end Axis

namespace Rule
variable {ι : Type}

/-- The tree of an axis that may be missing. -/
def mirrorToJson : Option Axis → Json
  | none => .null
  | some axis => .str axis.word

/-- The axis of a part that may be missing or null. -/
def mirrorOfJson? : Option Json → Option (Option Axis)
  | none => some none
  | some .null => some none
  | some j => (Axis.ofJson? true j).map some

/-- The field that holds the vector of a channel. -/
def vectorField : Channel → String
  | .location => "vector"
  | .rotation => "euler"
  | .scale => "vector"

mutual
/-- The tree of a rule. -/
def toJson : Rule ι → Json
  | .define name body => .obj [("op", .str "define"), ("name", .str name), ("body", .arr (allToJson body))]
  | .exportLink e => .obj [("op", .str "export_link"), ("alias", e.toJson)]
  | .block body => .obj [("op", .str "scope"), ("body", .arr (allToJson body))]
  | .times e body => .obj [("op", .str "repeat"), ("count", e.toJson), ("body", .arr (allToJson body))]
  | .place e => .obj [("op", .str "instance"), ("name", e.toJson)]
  | .copySibling e mirror =>
    .obj [("op", .str "copy_parent_link_children"), ("link", e.toJson), ("mirror", mirrorToJson mirror)]
  | .addLink e => .obj [("op", .str "create_link"), ("name", e.toJson)]
  | .goTo e => .obj [("op", .str "move_to_link"), ("name", e.toJson)]
  | .forLinks pattern body =>
    .obj [("op", .str "each_link"), ("pattern", .str pattern), ("body", .arr (allToJson body))]
  | .maybe e body => .obj [("op", .str "maybe"), ("ratio", e.toJson), ("body", .arr (allToJson body))]
  | .adjust channel e absolute =>
    .obj [("op", .str (Rule.word (.adjust channel e absolute))), (vectorField channel, e.toJson),
      ("absolute", .bool absolute)]
/-- The trees of a sequence. -/
def allToJson : List (Rule ι) → List Json
  | [] => []
  | r :: rs => r.toJson :: allToJson rs
end

/-- The tags of rules. -/
def words : List String :=
  ["define", "export_link", "scope", "repeat", "instance", "copy_parent_link_children",
   "create_link", "move_to_link", "each_link", "maybe", "move", "rotate", "scale"]

/-- The rule of a record, whose sequences `read` reads. -/
def ofRecord? (read : Json → Option (List (Rule Unit))) (word : String) (record : Json) :
    Option (Rule Unit) := do
  let arg (j : Json) : Option (Expr Unit) := Expr.ofJson? (j.depth + 1) j
  let absolute? : Option Json → Option Bool
    | none => some false
    | some j => j.truth?
  let one (name : String) (make : Expr Unit → Rule Unit) : Option (Rule Unit) := do
    match ← record.parts? [name] with
    | [some e] => pure (make (← arg e))
    | _ => none
  let adjusted (channel : Channel) : Option (Rule Unit) := do
    match ← record.parts? [vectorField channel, "absolute"] with
    | [some e, absolute] => pure (.adjust channel (← arg e) (← absolute? absolute))
    | _ => none
  if word = "define" then
    match ← record.parts? ["name", "body"] with
    | [some name, some body] => pure (.define (← name.text?) (← read body))
    | _ => none
  else if word = "export_link" then one "alias" .exportLink
  else if word = "scope" then
    match ← record.parts? ["body"] with
    | [some body] => pure (.block (← read body))
    | _ => none
  else if word = "repeat" then
    match ← record.parts? ["count", "body"] with
    | [some e, some body] => pure (.times (← arg e) (← read body))
    | _ => none
  else if word = "instance" then one "name" .place
  else if word = "copy_parent_link_children" then
    match ← record.parts? ["link", "mirror"] with
    | [some e, mirror] => pure (.copySibling (← arg e) (← mirrorOfJson? mirror))
    | _ => none
  else if word = "create_link" then one "name" .addLink
  else if word = "move_to_link" then one "name" .goTo
  else if word = "each_link" then
    match ← record.parts? ["pattern", "body"] with
    | [some pattern, some body] => pure (.forLinks (← pattern.text?) (← read body))
    | _ => none
  else if word = "maybe" then
    match ← record.parts? ["ratio", "body"] with
    | [some e, some body] => pure (.maybe (← arg e) (← read body))
    | _ => none
  else if word = "move" then adjusted .location
  else if word = "rotate" then adjusted .rotation
  else adjusted .scale

/-- The rule of a tree, in which sequences are nested less than `bound` deep. A rule inside another
one may have the place of its tag for a tag. -/
def ofJson? : Nat → Bool → Json → Option (Rule Unit)
  | 0, _, _ => none
  | bound + 1, inside, j => do
    let (tag, record) ← j.untag? "op"
    let body? (j : Json) : Option (List (Rule Unit)) := do (← j.items?).mapM (ofJson? bound true)
    ofRecord? body? (← Json.word? inside words tag) record

end Rule

namespace Grammar

/-- The tree of a sequence of rules. -/
def toJson {ι : Type} (rules : List (Rule ι)) : Json := .arr (Rule.allToJson rules)

/-- The grammar of a tree. -/
def ofJson? (j : Json) : Option Grammar := do
  if j.holdable 0 then (← j.items?).mapM (Rule.ofJson? (j.depth + 1) false) else none

/-- The grammar of a text. -/
def parse? (text : String) : Option Grammar := do ofJson? (← Json.parse? text)

end Grammar

end SceneGrammar
