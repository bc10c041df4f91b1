/-!
# Interchange trees

The tree of an interchange text. Objects keep their fields as written, in order and with
repetitions; whether a repetition matters is for the reader of a record to decide. Whole numbers
keep their exact value.
-/

namespace SceneGrammar

/-- An interchange value. `valueless` stands for text that is well formed but has no value: a
number beyond binary64, a text with half a surrogate pair, an object with such a key. It may be
skipped and not read. -/
inductive Json where
  | null
  | bool (value : Bool)
  | int (value : Int)
  | float (value : Float)
  | str (value : String)
  | arr (items : List Json)
  | obj (fields : List (String × Json))
  | valueless
deriving Inhabited

namespace Json

mutual
/-- Whether every part of the tree has a value. -/
def readable : Json → Bool
  | .valueless => false
  | .arr items => itemsReadable items
  | .obj fields => fieldsReadable fields
  | _ => true
/-- Whether every item has a value. -/
def itemsReadable : List Json → Bool
  | [] => true
  | item :: rest => item.readable && itemsReadable rest
/-- Whether every field has a value. -/
def fieldsReadable : List (String × Json) → Bool
  | [] => true
  | (_, value) :: rest => value.readable && fieldsReadable rest
end

mutual
/-- The greatest number of arrays and objects around a part of the tree. -/
def depth : Json → Nat
  | .arr items => itemsDepth items + 1
  | .obj fields => fieldsDepth fields + 1
  | _ => 0
/-- The greatest depth of an item. -/
def itemsDepth : List Json → Nat
  | [] => 0
  | item :: rest => max item.depth (itemsDepth rest)
/-- The greatest depth of a field. -/
def fieldsDepth : List (String × Json) → Nat
  | [] => 0
  | (_, value) :: rest => max value.depth (fieldsDepth rest)
end

/-- The most arrays and objects that may stand around a value. -/
def maxDepth : Nat := 127

/-- Whether a tree may be held as a whole: it is readable and not too deep, `outer` arrays and
objects around it counted in. -/
def holdable (outer : Nat) (j : Json) : Bool := j.readable && outer + j.depth ≤ maxDepth

end Json

end SceneGrammar
