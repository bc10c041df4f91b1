import SceneGrammar.Decimal.Layout
import SceneGrammar.Geometry.Vec3
import SceneGrammar.Text.Quoted

/-!
# Literals

The values that a grammar writes out and that a scene stores as properties. A literal is seen as a
text, an integer, a number or a vector where it has that form; integers count as numbers, and a
list of three numbers counts as a vector.
-/

namespace SceneGrammar

/-- A written value. -/
inductive Literal where
  | bool (value : Bool)
  | int (value : Int64)
  | float (value : Float)
  | str (value : String)
  | list (items : List Literal)
deriving Inhabited

namespace Literal

mutual
/-- Whether two literals are of one kind and equal as values, floats as numbers. -/
def same : Literal → Literal → Bool
  | .bool a, .bool b => a == b
  | .int a, .int b => a == b
  | .float a, .float b => a == b
  | .str a, .str b => a == b
  | .list as, .list bs => allSame as bs
  | _, _ => false
/-- Whether two lists agree item by item. -/
def allSame : List Literal → List Literal → Bool
  | [], [] => true
  | a :: as, b :: bs => same a b && allSame as bs
  | _, _ => false
end

instance : BEq Literal := ⟨same⟩

/-- The word for the kind of a literal. -/
def typeName : Literal → String
  | .bool _ => "bool"
  | .int _ => "int"
  | .float _ => "float"
  | .str _ => "string"
  | .list _ => "list"

/-- The text, of a text. -/
def text? : Literal → Option String
  | .str s => some s
  | _ => none

/-- The integer, of an integer. -/
def int? : Literal → Option Int64
  | .int n => some n
  | _ => none

/-- The number, of an integer or a float. -/
def number? : Literal → Option Float
  | .int n => some (Float.ofInt n.toInt)
  | .float x => some x
  | _ => none

/-- The truth value, of a truth value. -/
def bool? : Literal → Option Bool
  | .bool b => some b
  | _ => none

/-- The vector, of a list of three numbers. -/
def vector? : Literal → Option (Vec3 Float)
  | .list [a, b, c] => do pure ⟨← a.number?, ← b.number?, ← c.number?⟩
  | _ => none

/-- The list of a vector's coordinates. -/
def ofVector (v : Vec3 Float) : Literal := .list [.float v.x, .float v.y, .float v.z]

@[simp] theorem vector?_ofVector (v : Vec3 Float) : (ofVector v).vector? = some v := rfl

mutual
/-- The characters that messages show for a literal. -/
def displayChars : Literal → List Char
  | .bool b => (toString b).toList
  | .int n => if n < 0 then '-' :: Decimal.digits n.toInt.natAbs else Decimal.digits n.toInt.natAbs
  | .float x => Decimal.displayText x
  | .str s => (Text.quoted s).toList
  | .list items => '[' :: itemsDisplay items ++ [']']
/-- The characters of the items of a list, with commas between them. -/
def itemsDisplay : List Literal → List Char
  | [] => []
  | [item] => item.displayChars
  | item :: rest => item.displayChars ++ ',' :: ' ' :: itemsDisplay rest
end

/-- The text that messages show for a literal. -/
def display (v : Literal) : String := String.ofList v.displayChars

/-- The kind and the text of a literal, as messages name it. -/
def described (v : Literal) : String := v.typeName ++ " " ++ v.display

end Literal

end SceneGrammar
