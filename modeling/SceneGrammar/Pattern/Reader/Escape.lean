import SceneGrammar.Pattern.Reader.Switches
import SceneGrammar.Text.Digit
import SceneGrammar.Text.Property

/-!
# Escapes

What a backslash introduces. A reader takes the characters that are left and returns what it read
with the rest; none means that the notation is not valid.
-/

namespace SceneGrammar.Pattern

/-- What a backslash introduces: a character, a class or a condition. -/
inductive Escape where
  /-- A character; one that is written as two digits is a byte without the wide alphabet. -/
  | char (c : Char) (twoDigits : Bool)
  | set (s : Text.CharSet)
  | assert (a : Assertion)
deriving Repr

/-! ## Code points -/

/-- The character with a code point. -/
def charOf? (code : Nat) : Option Char :=
  if h : code.isValidChar then some (Char.ofNatAux code h) else none

/-- Hexadecimal digits up to a closing brace. -/
def readHexBrace (sw : Switches) : Nat → List Char → List Char → Option (Char × List Char)
  | 0, _, _ => none
  | _ + 1, _, [] => none
  | bound + 1, ds, c :: cs =>
    if c = '\x7d' then
      if ds.isEmpty then none
      else do pure (← charOf? (← Text.hexValue? ds.reverse), sw.next cs)
    else readHexBrace sw bound (c :: ds) (sw.next cs)

/-- A set number of hexadecimal digits. -/
def readHexDigits (sw : Switches) : Nat → List Char → List Char → Option (Char × List Char)
  | 0, ds, cs => do pure (← charOf? (← Text.hexValue? ds.reverse), cs)
  | _ + 1, _, [] => none
  | count + 1, ds, c :: cs => readHexDigits sw count (c :: ds) (sw.next cs)

/-- A code point, in braces or with a set number of digits. -/
def readHex (sw : Switches) (count : Nat) (cs : List Char) : Option (Escape × List Char) :=
  match sw.next cs with
  | '\x7b' :: rest => do
    let (c, rest) ← readHexBrace sw (rest.length + 1) [] (sw.next rest)
    pure (.char c false, rest)
  | cs => do
    let (c, rest) ← readHexDigits sw count [] cs
    pure (.char c (count = 2), rest)

/-! ## Classes -/

/-- Splits a text where another one first stands in it, none if it does not. -/
def splitAt? (mark : List Char) : List Char → Option (List Char × List Char)
  | [] => none
  | c :: cs =>
    if mark.isPrefixOf (c :: cs) then some ([], (c :: cs).drop mark.length)
    else (splitAt? mark cs).map fun (before, after) => (c :: before, after)

/-- The characters of a property by what stands between the braces: its name, or a name and a value
with a sign between them. -/
def propertySet? (name : List Char) : Option Text.CharSet :=
  match (splitAt? ['!', '='] name <|> splitAt? [':'] name) <|> splitAt? ['='] name with
  | some (name, value) => Text.propertyValue? name value
  | none => Text.property? name

/-- The name of a property in braces. -/
def readPropertyName (sw : Switches) : Nat → List Char → List Char → Option (List Char × List Char)
  | 0, _, _ => none
  | _ + 1, _, [] => none
  | bound + 1, name, c :: cs =>
    if c = '\x7d' then some (name.reverse, cs)
    else readPropertyName sw bound (c :: name) (sw.next cs)

/-- A property, by one letter or by a name in braces. It needs the wide alphabet. -/
def readProperty (sw : Switches) (negated : Bool) (cs : List Char) :
    Option (Escape × List Char) := do
  let (s, rest) ← match sw.next cs with
    | [] => none
    | '\x7b' :: rest => do
      let (name, rest) ← readPropertyName sw (rest.length + 1) [] (sw.next rest)
      pure (← propertySet? name, rest)
    | c :: rest => do pure (← Text.property? [c], sw.next rest)
  if sw.wide then pure (.set (← sw.complIf? negated (sw.fold s)), rest) else none

/-! ## Conditions -/

/-- The characters of a word condition between braces, none if there is no closing brace. -/
def readConditionName (sw : Switches) :
    Nat → List Char → List Char → Option (List Char × List Char)
  | 0, _, _ => none
  | _ + 1, _, [] => none
  | bound + 1, name, c :: cs =>
    if c = '\x7d' then some (name.reverse, cs)
    else if c.isAlpha || c = '-' then readConditionName sw bound (c :: name) (sw.next cs)
    else none

/-- A word condition by its name. -/
def wordCondition? (wide : Bool) (name : List Char) : Option Assertion :=
  if name = "start".toList then some (.wordStart wide)
  else if name = "end".toList then some (.wordEnd wide)
  else if name = "start-half".toList then some (.wordStartHalf wide)
  else if name = "end-half".toList then some (.wordEndHalf wide)
  else none

/-- A word boundary, which a name in braces may narrow. Braces that hold no name are left alone. -/
def readBoundary (sw : Switches) (cs : List Char) : Option (Escape × List Char) :=
  match cs with
  | '\x7b' :: rest =>
    match sw.next rest with
    | [] => none
    | c :: rest =>
      if c.isAlpha || c = '-' then do
        let (name, rest) ← readConditionName sw (rest.length + 2) [] (c :: rest)
        pure (.assert (← wordCondition? sw.wide name), rest)
      else some (.assert (.wordBoundary sw.wide), cs)
  | _ => some (.assert (.wordBoundary sw.wide), cs)

/-! ## Escapes -/

/-- The characters that letters stand for. -/
def controls : List (Char × Char) :=
  [('a', '\x07'), ('f', '\x0c'), ('t', '\t'), ('n', '\n'), ('r', '\r'), ('v', '\x0b')]

/-- The conditions that letters and signs stand for. -/
def conditions (wide : Bool) : List (Char × Assertion) :=
  [('A', .textStart), ('z', .textEnd), ('B', .noWordBoundary wide), ('<', .wordStart wide),
    ('>', .wordEnd wide)]

/-- What one character after a backslash stands for: a class, in upper case its complement, a
control character or a condition. Punctuation stands for itself; a letter or a digit needs a
meaning. -/
def escape? (sw : Switches) (c : Char) : Option Escape :=
  match letterClass? c.toLower, controls.lookup c, (conditions sw.wide).lookup c with
  | some s, _, _ => (sw.complIf? c.isUpper (sw.narrow s)).map .set
  | none, some x, _ => some (.char x false)
  | none, none, some a => some (.assert a)
  | none, none, none => if c.isAlphanum || !sevenBit.contains c then none else some (.char c false)

/-- What follows a backslash. -/
def readEscape (sw : Switches) : List Char → Option (Escape × List Char)
  | [] => none
  | c :: cs =>
    if c = 'x' then readHex sw 2 cs
    else if c = 'u' then readHex sw 4 cs
    else if c = 'U' then readHex sw 8 cs
    else if c = 'p' || c = 'P' then readProperty sw (c = 'P') cs
    else if c = 'b' then readBoundary sw cs
    else (escape? sw c).map fun e => (e, cs)

end SceneGrammar.Pattern
