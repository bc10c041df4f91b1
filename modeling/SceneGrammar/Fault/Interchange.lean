import SceneGrammar.Fault
import SceneGrammar.Json.Record

/-!
# Faults as interchange trees

A fault is a tag with a detail, in this order when written and in any order when read. A scene
fault is an object with one key. A detail in front of its tag has to be held until the tag is known,
so all of it must be readable.
-/

namespace SceneGrammar

namespace CursorKind

/-- The word for a kind of place. -/
def word : CursorKind → String
  | .object => "object"
  | .aliasedObject => "object_with_aliases"
  | .link => "link"

/-- The kind of place of a tree. -/
def ofJson? (inside : Bool) (j : Json) : Option CursorKind := do
  let all := [CursorKind.object, .aliasedObject, .link]
  let s ← j.unitWord? inside (all.map word)
  all.find? (·.word == s)

end CursorKind

namespace FaultCategory

/-- The category of a tree. -/
def ofJson? (j : Json) : Option FaultCategory := do
  let all := [FaultCategory.structural, .precondition, .adapter, .configuration]
  let s ← j.unitWord? false (all.map display)
  all.find? (·.display == s)

end FaultCategory

/-- The node of a tree. -/
def NodeId.ofJson? (j : Json) : Option NodeId := j.nat? 64

namespace SceneFault

/-- The tree of a scene fault. -/
def toJson : SceneFault → Json
  | .unknownNode n => .obj [("UnknownNode", .ofNat n)]
  | .cycle child parent => .obj [("Cycle", .obj [("child", .ofNat child), ("parent", .ofNat parent)])]
  | .host text => .obj [("Host", .str text)]

/-- The scene fault of a tree. -/
def ofJson? : Json → Option SceneFault
  | .obj [(key, value)] =>
    if key = "UnknownNode" then (NodeId.ofJson? value).map .unknownNode
    else if key = "Cycle" then do
      match ← value.parts? ["child", "parent"] with
      | [some child, some parent] => pure (.cycle (← NodeId.ofJson? child) (← NodeId.ofJson? parent))
      | _ => none
    else if key = "Host" then value.text?.map .host
    else none
  | _ => none

end SceneFault

namespace Fault

/-- The tag of a fault. -/
def word : Fault → String
  | .structural _ _ => "structural"
  | .precondition _ _ _ => "precondition"
  | .argument _ _ _ => "argument_type"
  | .scene _ => "adapter"
  | .randomState _ => "random_state"

/-- The detail of a fault. -/
def detail : Fault → Json
  | .structural subject message => .obj [("op", .str subject), ("message", .str message)]
  | .precondition subject expected found =>
    .obj [("op", .str subject), ("expected", .str expected.word), ("found", .str found.word)]
  | .argument subject expected found =>
    .obj [("op", .str subject), ("expected", .str expected), ("found", .str found)]
  | .scene fault => fault.toJson
  | .randomState message => .str message

/-- The tree of a fault. -/
def toJson (f : Fault) : Json := .obj [("kind", .str f.word), ("detail", f.detail)]

/-- The tags of faults. -/
def words : List String := ["structural", "precondition", "argument_type", "adapter", "random_state"]

/-- The fields of a detail, which has to be an object. -/
def detailParts? (names : List String) : Json → Option (List (Option Json))
  | .obj fields => Json.parts? names (.obj fields)
  | _ => none

/-- The fault with a tag and a detail; `held` says whether the detail came first. -/
def ofDetail? (held : Bool) (word : String) (detail : Json) : Option Fault := do
  if word = "structural" then
    match ← detailParts? ["op", "message"] detail with
    | [some op, some message] => pure (.structural (← op.text?) (← message.text?))
    | _ => none
  else if word = "precondition" then
    match ← detailParts? ["op", "expected", "found"] detail with
    | [some op, some expected, some found] =>
      pure (.precondition (← op.text?) (← CursorKind.ofJson? held expected)
        (← CursorKind.ofJson? held found))
    | _ => none
  else if word = "argument_type" then
    match ← detailParts? ["op", "expected", "found"] detail with
    | [some op, some expected, some found] =>
      pure (.argument (← op.text?) (← expected.text?) (← found.text?))
    | _ => none
  else if word = "adapter" then (SceneFault.ofJson? detail).map .scene
  else detail.text?.map .randomState

/-- The fault of a tree. -/
def ofJson? : Json → Option Fault
  | .arr [tag, detail] => do ofDetail? false (← tag.unitWord? false words) detail
  | .obj fields =>
    match fields.filter fun (name, _) => name == "kind" || name == "detail" with
    | [("kind", tag), ("detail", detail)] => do
      ofDetail? false (← tag.unitWord? false words) detail
    | [("detail", detail), ("kind", tag)] => do
      if detail.holdable 1 then ofDetail? true (← tag.unitWord? false words) detail else none
    | _ => none
  | _ => none

end Fault

end SceneGrammar
