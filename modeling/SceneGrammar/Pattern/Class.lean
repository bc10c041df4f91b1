import SceneGrammar.Text.CharSet
import SceneGrammar.Text.Digit
import SceneGrammar.Text.Word

/-!
# Classes of characters

The sets of characters that have a short name in a pattern: the seven-bit classes, which are named
between brackets and colons, and the classes that a backslash and a letter stand for.
-/

namespace SceneGrammar.Pattern

/-- The characters that fit in seven bits. -/
def sevenBit : Text.CharSet := .range '\x00' '\x7f'

/-- The characters from each first to its last. -/
def rangesOf (ends : List (Char × Char)) : Text.CharSet :=
  .unionAll (ends.map fun (first, last) => .range first last)

/-- The seven-bit classes by their names. -/
def namedClasses : List (String × List (Char × Char)) :=
  [("alnum", [('0', '9'), ('A', 'Z'), ('a', 'z')]),
    ("alpha", [('A', 'Z'), ('a', 'z')]),
    ("ascii", [('\x00', '\x7f')]),
    ("blank", [('\t', '\t'), (' ', ' ')]),
    ("cntrl", [('\x00', '\x1f'), ('\x7f', '\x7f')]),
    ("digit", [('0', '9')]),
    ("graph", [('!', '~')]),
    ("lower", [('a', 'z')]),
    ("print", [(' ', '~')]),
    ("punct", [('!', '/'), (':', '@'), ('[', '\x60'), ('\x7b', '~')]),
    ("space", [('\t', '\r'), (' ', ' ')]),
    ("upper", [('A', 'Z')]),
    ("word", [('0', '9'), ('A', 'Z'), ('_', '_'), ('a', 'z')]),
    ("xdigit", [('0', '9'), ('A', 'F'), ('a', 'f')])]

/-- The seven-bit class with a name. -/
def namedClass? (name : List Char) : Option Text.CharSet :=
  (namedClasses.lookup (String.ofList name)).map rangesOf

/-- The class of a letter after a backslash. -/
def letterClass? (letter : Char) : Option Text.CharSet :=
  if letter = 'd' then some Text.digit
  else if letter = 's' then some Text.blank
  else if letter = 'w' then some Text.word
  else none

end SceneGrammar.Pattern
