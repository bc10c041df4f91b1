import SceneGrammar.Text.CharSet
import SceneGrammar.Text.Digit

/-!
# Tables of properties

A standard lists the characters of its properties, and a table is such a list as text. Its entries
ascend and are numbers in base sixteen: a code point, a range with a dash between its ends, or every
second code point, with a slash between the first and the last.
-/

namespace SceneGrammar.Text

/-- The ranges of every second code point of a range. -/
def everySecond (first last : Nat) : List (Nat × Nat) :=
  (List.range ((last - first) / 2 + 1)).map fun k => (first + 2 * k, first + 2 * k)

/-- The ranges of one entry, whose last number is given if it has begun, and before it the first
number and the sign after it if there was one. -/
def entryRanges : Option (Nat × Char) → Option Nat → List (Nat × Nat)
  | _, none => []
  | none, some n => [(n, n)]
  | some (first, sign), some last => if sign = '/' then everySecond first last else [(first, last)]

/-- The ranges of a table from a character on, with what has been read of the current entry. -/
def tableRanges (first : Option (Nat × Char)) (number : Option Nat) :
    List Char → List (Nat × Nat)
  | [] => entryRanges first number
  | c :: cs =>
    match hexDigit? c, number with
    | some digit, n => tableRanges first (some (n.getD 0 * 16 + digit)) cs
    | none, some n =>
      if c = '-' || c = '/' then tableRanges (some (n, c)) none cs
      else entryRanges first (some n) ++ tableRanges none none cs
    | none, none => tableRanges none none cs

/-- The characters that a table lists. -/
def CharSet.ofTable (table : String) : CharSet := .ofSorted (tableRanges none none table.toList)

/-- A property that a table lists, with the names that it goes by: in lower case and without blanks,
dashes and underscores. -/
structure Listed where
  names : List String
  table : String

/-- The property with a name. -/
def Listed.find? (properties : List Listed) (name : String) : Option Listed :=
  properties.find? (·.names.contains name)

/-- The characters of a property. -/
def Listed.set (p : Listed) : CharSet := .ofTable p.table

end SceneGrammar.Text
