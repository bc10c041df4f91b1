import SceneGrammar.Decimal.Basic
import SceneGrammar.Json.Basic
import SceneGrammar.Text.Digit

/-!
# Reading interchange text

The strict grammar of interchange text: no comments, no trailing commas, no leading zeros, no raw
controls in texts, nothing but blanks after the value. Each reader takes the remaining characters
and returns what it read with the rest, or none where the text is malformed.
-/

namespace SceneGrammar.Json

/-- The characters that may stand between tokens. -/
def isBlank (c : Char) : Bool := c = ' ' || c = '\n' || c = '\t' || c = '\r'

/-- Drops blanks. -/
def skipBlanks (cs : List Char) : List Char := cs.dropWhile isBlank

/-! ## Texts -/

/-- One element of a quoted text: a character, or a 16-bit unit written by its number. -/
inductive Piece where
  | char (c : Char)
  | unit (code : Nat)
deriving Repr, DecidableEq

/-- The value of four digits in base sixteen. -/
def unitValue? (a b c d : Char) : Option Nat := Text.hexValue? [a, b, c, d]

/-- What a backslash and a letter stand for. -/
def escapeValue? (c : Char) : Option Char :=
  if c = '"' || c = '\\' || c = '/' then some c
  else if c = 'b' then some '\x08'
  else if c = 'f' then some '\x0c'
  else if c = 'n' then some '\n'
  else if c = 'r' then some '\r'
  else if c = 't' then some '\t'
  else none

/-- The pieces of a text up to its closing quote. -/
def readPieces : List Char → Option (List Piece × List Char)
  | [] => none
  | c :: cs =>
    if c = '"' then some ([], cs)
    else if c = '\\' then
      match cs with
      | 'u' :: h₁ :: h₂ :: h₃ :: h₄ :: rest =>
        match unitValue? h₁ h₂ h₃ h₄ with
        | some code => (readPieces rest).map fun (ps, r) => (.unit code :: ps, r)
        | none => none
      | e :: rest =>
        match escapeValue? e with
        | some x => (readPieces rest).map fun (ps, r) => (.char x :: ps, r)
        | none => none
      | [] => none
    else if c.toNat < 0x20 then none
    else (readPieces cs).map fun (ps, r) => (.char c :: ps, r)

/-- The characters that pieces spell: two units may form a surrogate pair, and half a pair spells
nothing. -/
def spell? : List Piece → Option (List Char)
  | [] => some []
  | .char c :: ps => (spell? ps).map (c :: ·)
  | .unit code :: ps =>
    if 0xDC00 ≤ code && code ≤ 0xDFFF then none
    else if 0xD800 ≤ code && code ≤ 0xDBFF then
      match ps with
      | .unit low :: rest =>
        if 0xDC00 ≤ low && low ≤ 0xDFFF then
          (spell? rest).map
            (Char.ofNat (0x10000 + (code - 0xD800) * 0x400 + (low - 0xDC00)) :: ·)
        else none
      | _ => none
    else (spell? ps).map (Char.ofNat code :: ·)

/-- A quoted text whose opening quote has been read; the inner none is text without a value. -/
def readText (cs : List Char) : Option (Option String × List Char) :=
  (readPieces cs).map fun (ps, rest) => ((spell? ps).map String.ofList, rest)

/-! ## Numbers -/

/-- The digits at the front, and the rest. -/
def readDigits (cs : List Char) : List Char × List Char :=
  (cs.takeWhile Char.isDigit, cs.dropWhile Char.isDigit)

/-- The digits after a point, none if there is no point, and a failure if no digit follows it. -/
def readFraction : List Char → Option (Option (List Char) × List Char)
  | '.' :: cs =>
    let (ds, rest) := readDigits cs
    if ds.isEmpty then none else some (some ds, rest)
  | cs => some (none, cs)

/-- The exponent after its letter, none if there is no letter. -/
def readExponent (cs : List Char) : Option (Option Int × List Char) :=
  match cs with
  | [] => some (none, [])
  | c :: cs' =>
    if c = 'e' || c = 'E' then
      let (negative, body) := match cs' with
        | '-' :: r => (true, r)
        | '+' :: r => (false, r)
        | r => (false, r)
      let (ds, rest) := readDigits body
      if ds.isEmpty then none
      else
        let n : Int := Text.decimalValue ds
        some (some (if negative then -n else n), rest)
    else some (none, cs)

/-- The value of a number that is written with a point or an exponent. -/
def floatValue (negative : Bool) (d : Decimal) : Json :=
  let x := d.toFloat
  if x.isInf then .valueless else .float (if negative then -x else x)

/-- The value of a number that is written with digits alone. Negative zero is a float. -/
def wholeValue (negative : Bool) (n : Nat) : Json :=
  if n = 0 && negative then .float (-0.0)
  else if (Decimal.mk n 0).toFloat.isInf then .valueless
  else .int (if negative then -(n : Int) else n)

/-- A number without its sign. -/
def readMagnitude (negative : Bool) (cs : List Char) : Option (Json × List Char) := do
  let (whole, afterWhole) := readDigits cs
  if whole.isEmpty || (whole.head? == some '0' && whole.length ≠ 1) then none
  let (fraction, afterFraction) ← readFraction afterWhole
  let (exponent, rest) ← readExponent afterFraction
  if fraction.isNone && exponent.isNone then
    some (wholeValue negative (Text.decimalValue whole), rest)
  else
    let places := fraction.getD []
    some (floatValue negative
      ⟨Text.decimalValue (whole ++ places), exponent.getD 0 - places.length⟩, rest)

/-- A number. -/
def readNumber : List Char → Option (Json × List Char)
  | '-' :: cs => readMagnitude true cs
  | cs => readMagnitude false cs

/-! ## Values -/

/-- Drops a word from the front. -/
def dropWord (word : List Char) (cs : List Char) : Option (List Char) :=
  if word.isPrefixOf cs then some (cs.drop word.length) else none

/-- An object with a field in front, without a value if the key has none. -/
def consField (key : Option String) (value : Json) : Json → Json
  | .obj fields =>
    match key with
    | some k => .obj ((k, value) :: fields)
    | none => .valueless
  | other => other

mutual
/-- One value; each call of a reader uses up one unit of the bound. -/
def readValue : Nat → List Char → Option (Json × List Char)
  | 0, _ => none
  | _ + 1, [] => none
  | bound + 1, c :: cs =>
    if c = 'n' then (dropWord "ull".toList cs).map fun rest => (.null, rest)
    else if c = 't' then (dropWord "rue".toList cs).map fun rest => (.bool true, rest)
    else if c = 'f' then (dropWord "alse".toList cs).map fun rest => (.bool false, rest)
    else if c = '"' then
      (readText cs).map fun (text, rest) =>
        (match text with | some s => .str s | none => .valueless, rest)
    else if c = '[' then
      match skipBlanks cs with
      | ']' :: rest => some (.arr [], rest)
      | rest => (readItems bound rest).map fun (items, rest) => (.arr items, rest)
    else if c = '{' then
      match skipBlanks cs with
      | '}' :: rest => some (.obj [], rest)
      | rest => readFields bound rest
    else readNumber (c :: cs)
/-- The items of an array from the first on, to the closing bracket. -/
def readItems : Nat → List Char → Option (List Json × List Char)
  | 0, _ => none
  | bound + 1, cs => do
    let (item, rest) ← readValue bound cs
    match skipBlanks rest with
    | ']' :: rest => pure ([item], rest)
    | ',' :: rest =>
      let (items, rest) ← readItems bound (skipBlanks rest)
      pure (item :: items, rest)
    | _ => none
/-- The fields of an object from the first on, to the closing brace. -/
def readFields : Nat → List Char → Option (Json × List Char)
  | 0, _ => none
  | bound + 1, cs =>
    match cs with
    | '"' :: cs => do
      let (key, rest) ← readText cs
      match skipBlanks rest with
      | ':' :: rest =>
        let (value, rest) ← readValue bound (skipBlanks rest)
        match skipBlanks rest with
        | '}' :: rest => pure (consField key value (.obj []), rest)
        | ',' :: rest =>
          let (fields, rest) ← readFields bound (skipBlanks rest)
          pure (consField key value fields, rest)
        | _ => none
      | _ => none
    | _ => none
end

/-- Two readers per character are enough: a value and the list it stands in. -/
def readBound (cs : List Char) : Nat := 2 * cs.length + 2

/-- The tree of characters that hold one value and blanks around it. -/
def ofChars? (cs : List Char) : Option Json := do
  let (value, rest) ← readValue (readBound cs) (skipBlanks cs)
  if skipBlanks rest = [] then pure value else none

/-- The tree of a text. -/
def parse? (text : String) : Option Json := ofChars? text.toList

end SceneGrammar.Json
