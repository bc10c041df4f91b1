import SceneGrammar.Json.Basic
import SceneGrammar.Decimal.Layout

/-!
# Writing interchange text

The compact text of a tree: no blanks, fields in their order, numbers by their shortest digits.
-/

namespace SceneGrammar.Json

/-- The lower-case hexadecimal digit of a number below sixteen. -/
def hexDigit (n : Nat) : Char := Nat.digitChar n

/-- How one character of a text is written: quotes, backslashes and controls are escaped. -/
def escape (c : Char) : List Char :=
  if c = '"' then ['\\', '"']
  else if c = '\\' then ['\\', '\\']
  else if c = '\n' then ['\\', 'n']
  else if c = '\r' then ['\\', 'r']
  else if c = '\t' then ['\\', 't']
  else if c = '\x08' then ['\\', 'b']
  else if c = '\x0c' then ['\\', 'f']
  else if c.toNat < 0x20 then
    ['\\', 'u', '0', '0', hexDigit (c.toNat / 16), hexDigit (c.toNat % 16)]
  else [c]

/-- A text in quotes. -/
def quote (cs : List Char) : List Char := '"' :: cs.flatMap escape ++ ['"']

/-- The text of a whole number. -/
def intText (n : Int) : List Char :=
  if n < 0 then '-' :: Decimal.digits n.natAbs else Decimal.digits n.natAbs

/-- The text of a float; what is no number is written as null. -/
def floatText (x : Float) : List Char :=
  match Decimal.magnitude x with
  | .finite b => Decimal.interchange.shortestText (Decimal.isNegative x) b
  | _ => "null".toList

mutual
/-- The characters of a tree. -/
def chars : Json → List Char
  | .null => "null".toList
  | .bool true => "true".toList
  | .bool false => "false".toList
  | .int n => intText n
  | .float x => floatText x
  | .str s => quote s.toList
  | .arr items => '[' :: itemChars items ++ [']']
  | .obj fields => '{' :: fieldChars fields ++ ['}']
  | .valueless => "null".toList
/-- The characters of items, with commas between them. -/
def itemChars : List Json → List Char
  | [] => []
  | [item] => item.chars
  | item :: rest => item.chars ++ ',' :: itemChars rest
/-- The characters of fields, with commas between them. -/
def fieldChars : List (String × Json) → List Char
  | [] => []
  | [(key, value)] => quote key.toList ++ ':' :: value.chars
  | (key, value) :: rest => quote key.toList ++ ':' :: value.chars ++ ',' :: fieldChars rest
end

/-- The compact text of a tree. -/
def print (j : Json) : String := String.ofList j.chars

end SceneGrammar.Json
