import SceneGrammar.Pattern.Reader.Switches
import SceneGrammar.Text.Alphabetic
import SceneGrammar.Text.Numeric

/-!
# Openings of groups

What stands after an opening parenthesis: nothing, a name, or switches, for the group or for the
rest of the group around it. Look-around does not exist.
-/

namespace SceneGrammar.Pattern

/-- The switches with the one of a letter set or cleared. -/
def Switches.set? (sw : Switches) (letter : Char) (value : Bool) : Option Switches :=
  if letter = 'i' then some { sw with ignoreCase := value }
  else if letter = 'm' then some { sw with multiLine := value }
  else if letter = 's' then some { sw with dotAll := value }
  else if letter = 'R' then some { sw with pairedLines := value }
  else if letter = 'U' then some { sw with lazyFirst := value }
  else if letter = 'x' then some { sw with spaced := value }
  else if letter = 'u' then some { sw with wide := value }
  else none

/-- The switches that letters set or, after a dash, clear, up to a colon or a closing parenthesis;
`seen` holds the letters so far, which may not repeat. -/
def readSwitches : List Char → List Char → Switches → Option (Switches × List Char)
  | _, [], _ => none
  | seen, c :: cs, sw =>
    if c = ':' || c = ')' then
      if seen.head? = some '-' then none else some (sw, c :: cs)
    else if seen.contains c then none
    else if c = '-' then readSwitches ('-' :: seen) cs sw
    else
      match sw.set? c (!seen.contains '-') with
      | some sw => readSwitches (c :: seen) cs sw
      | none => none

/-- Whether a character may stand in the name of a group, at its front or later. -/
def isNameChar (first : Bool) (c : Char) : Bool :=
  c = '_' || Text.alphabetic.contains c ||
    (!first && (c = '.' || c = '[' || c = ']' || Text.numeric.contains c))

/-- The name of a group, up to its closing angle bracket. -/
def readGroupName (cs : List Char) : Option (String × List Char) :=
  let name := cs.takeWhile (· ≠ '>')
  match name, cs.dropWhile (· ≠ '>') with
  | first :: others, _ :: rest =>
    if isNameChar true first && others.all (isNameChar false) then
      some (String.ofList name, rest)
    else none
  | _, _ => none

/-- What stands after an opening parenthesis. -/
inductive Opening where
  /-- Switches for the rest of the enclosing group. -/
  | switches (sw : Switches)
  /-- A group with the switches inside it. -/
  | plain (sw : Switches)
  /-- A group that counts, which may have a name. -/
  | counted (name : Option String)

/-- The opening of a group whose parenthesis has been read. -/
def readOpening (sw : Switches) (cs : List Char) : Option (Opening × List Char) :=
  match sw.next cs with
  | '?' :: '=' :: _ => none
  | '?' :: '!' :: _ => none
  | '?' :: '<' :: '=' :: _ => none
  | '?' :: '<' :: '!' :: _ => none
  | '?' :: 'P' :: '<' :: rest =>
    (readGroupName rest).map fun (name, rest) => (.counted name, rest)
  | '?' :: '<' :: rest =>
    (readGroupName rest).map fun (name, rest) => (.counted name, rest)
  | '?' :: rest =>
    match readSwitches [] rest sw with
    | some (inner, ':' :: after) => some (.plain inner, after)
    | some (inner, ')' :: after) =>
      if rest.head? = some ')' then none else some (.switches inner, after)
    | _ => none
  | rest => some (.counted none, rest)

end SceneGrammar.Pattern
