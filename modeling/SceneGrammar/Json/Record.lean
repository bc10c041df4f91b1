import SceneGrammar.Json.Basic

/-!
# Records

How a value of the program is found in a tree. A record stands as an object, whose other fields do
not matter, or as an array of its parts in order, whose last parts may be missing if they have a
default. A known field must not repeat.
-/

namespace SceneGrammar.Json

/-- The value of a field, the inner none if there is no such field, and none if it repeats. -/
def fieldOf? (fields : List (String × Json)) (name : String) : Option (Option Json) :=
  match fields.filter (·.1 == name) with
  | [] => some none
  | [(_, value)] => some (some value)
  | _ => none

/-- The parts of a record with the given fields, a missing part as none. -/
def parts? (names : List String) : Json → Option (List (Option Json))
  | .obj fields => names.mapM (fieldOf? fields)
  | .arr items =>
    if items.length ≤ names.length then
      some (items.map some ++ List.replicate (names.length - items.length) none)
    else none
  | _ => none

/-- The tag of a tagged record, and the record without it. -/
def untag? (name : String) : Json → Option (Json × Json)
  | .obj fields =>
    match fields.filter (·.1 == name) with
    | [(_, tag)] => some (tag, .obj (fields.filter (·.1 != name)))
    | _ => none
  | .arr (tag :: rest) => some (tag, .arr rest)
  | _ => none

/-- The word that a tag means. Inside another value a tag may also be the place of the word. -/
def word? (inside : Bool) (words : List String) : Json → Option String
  | .str s => if words.contains s then some s else none
  | .int n => if inside && 0 ≤ n then words[n.toNat]? else none
  | _ => none

/-- A word of an enumeration, alone or as the only key of an object that holds nothing. `inside`
says whether an empty object is nothing too. -/
def unitWord? (inside : Bool) (words : List String) : Json → Option String
  | .str s => if words.contains s then some s else none
  | .obj [(s, .null)] => if words.contains s then some s else none
  | .obj [(s, .obj [])] => if inside && words.contains s then some s else none
  | _ => none

/-- A text. -/
def text? : Json → Option String
  | .str s => some s
  | _ => none

/-- A truth value. -/
def truth? : Json → Option Bool
  | .bool b => some b
  | _ => none

/-- A number, whole or not. -/
def number? : Json → Option Float
  | .int n => some (Float.ofInt n)
  | .float x => some x
  | _ => none

/-- A whole number from zero on and below `2 ^ width`. -/
def nat? (width : Nat) : Json → Option Nat
  | .int n => if 0 ≤ n && n < Nat.pow 2 width then some n.toNat else none
  | _ => none

/-- The items of an array. -/
def items? : Json → Option (List Json)
  | .arr items => some items
  | _ => none

/-- The tree of a natural number. -/
def ofNat (n : Nat) : Json := .int n

end SceneGrammar.Json
