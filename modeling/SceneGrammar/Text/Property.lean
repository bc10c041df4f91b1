import SceneGrammar.Text.Property.Age
import SceneGrammar.Text.Property.Derived
import SceneGrammar.Text.Property.Segment

/-!
# Properties of characters

Sets of characters by the names that Unicode gives them: a property that holds or does not hold, or
the value of one. In a name, case, blanks, dashes and underscores do not count, and neither does an
"is" that it begins with.
-/

namespace SceneGrammar.Text

/-- Whether a character counts in the name of a property. -/
def isNamePart (c : Char) : Bool := c ≠ ' ' && c ≠ '_' && c ≠ '-' && c.toNat < 0x80

/-- The characters of a name that count, in lower case. -/
def nameParts (name : List Char) : String :=
  String.ofList ((name.filter isNamePart).map Char.toLower)

/-- The plain form of a name. What goes by "isc" is a comment and no character is one, so the "is"
stays there. -/
def plainName (name : List Char) : String :=
  match name with
  | i :: s :: rest =>
    if i.toLower = 'i' && s.toLower = 's' then
      if nameParts rest = "c" then "isc" else nameParts rest
    else nameParts name
  | _ => nameParts name

/-- The characters of a property, of a general category or of a script. -/
def property? (name : List Char) : Option CharSet :=
  let name := plainName name
  (Property.named? name <|> Category.named? name) <|> Script.named? name

/-- The characters for which a property has a value. -/
def propertyValue? (name value : List Char) : Option CharSet :=
  let name := plainName name
  let value := plainName value
  if name = "gc" || name = "generalcategory" then Category.named? value
  else if name = "sc" || name = "script" then Script.named? value
  else if name = "scx" || name = "scriptextensions" then Script.extension? value
  else if name = "age" then Age.named? value
  else if name = "gcb" || name = "graphemeclusterbreak" then Property.cluster? value
  else if name = "wb" || name = "wordbreak" then Property.wordPart? value
  else if name = "sb" || name = "sentencebreak" then Property.sentencePart? value
  else none

end SceneGrammar.Text
