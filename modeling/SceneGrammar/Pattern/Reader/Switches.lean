import SceneGrammar.Pattern.Basic
import SceneGrammar.Pattern.Class
import SceneGrammar.Text.Case

/-!
# Switches

What a pattern can switch on and off for what follows: how its blanks are read, and what its
characters and classes stand for. Without the wide alphabet a class holds characters of seven bits
only, so that a complement, which goes beyond them, does not exist.
-/

namespace SceneGrammar.Pattern

/-- The switches that a pattern can set for what follows. -/
structure Switches where
  ignoreCase : Bool := false
  multiLine : Bool := false
  dotAll : Bool := false
  pairedLines : Bool := false
  /-- Repetitions are lazy, and greedy if they are marked. -/
  lazyFirst : Bool := false
  /-- Blanks and comments between tokens are skipped. -/
  spaced : Bool := false
  /-- Classes and words go beyond seven bits. -/
  wide : Bool := true
deriving Repr, DecidableEq

/-! ## Blanks -/

/-- Drops blanks and comments, which run from a number sign to the end of the line; the Boolean says
whether a comment is open. -/
def dropSpace : Bool → List Char → List Char
  | _, [] => []
  | true, c :: cs => dropSpace (c ≠ '\n') cs
  | false, c :: cs =>
    if Text.blank.contains c then dropSpace false cs
    else if c = '#' then dropSpace true cs
    else c :: cs

/-- Drops blanks. -/
def dropBlanks (cs : List Char) : List Char := cs.dropWhile Text.blank.contains

namespace Switches

/-- Drops blanks and comments where they do not count. -/
def next (sw : Switches) (cs : List Char) : List Char :=
  if sw.spaced then dropSpace false cs else cs

/-- The character ahead. Where blanks do not count, they and the sign of a comment are passed over,
but not what the comment says. -/
def ahead? (sw : Switches) (cs : List Char) : Option Char :=
  if sw.spaced then
    match dropBlanks cs with
    | '#' :: rest => (dropBlanks rest).head?
    | rest => rest.head?
  else cs.head?

/-! ## Characters -/

/-- The characters that the switches let stand for one: itself, and those that differ from it in
case only if case is ignored. -/
def variants (sw : Switches) (c : Char) : List Char :=
  if !sw.ignoreCase then [c]
  else if sw.wide then Text.caseVariants c
  else if sevenBit.contains c then (Text.caseVariants c).filter sevenBit.contains
  else [c]

/-- One character, as the switches have it. -/
def literal (sw : Switches) (c : Char) : Pattern :=
  ofSet (.ofCodes ((sw.variants c).map Char.toNat))

/-- A class in the alphabet of the switches. -/
def narrow (sw : Switches) (s : Text.CharSet) : Text.CharSet :=
  if sw.wide then s else s.inter sevenBit

/-- A class with the characters that differ in case only, if case is ignored. -/
def fold (sw : Switches) (s : Text.CharSet) : Text.CharSet :=
  if sw.ignoreCase then sw.narrow s.anyCase else s

/-- A class or its complement. -/
def complIf? (sw : Switches) (negated : Bool) (s : Text.CharSet) : Option Text.CharSet :=
  if !negated then some s else if sw.wide then some s.compl else none

/-- Any character that does not end a line. -/
def anyChar? (sw : Switches) : Option Pattern :=
  let ends := if sw.dotAll then [] else if sw.pairedLines then ['\n', '\r'] else ['\n']
  if sw.wide then some (ofSet (Text.CharSet.ofCodes (ends.map Char.toNat)).compl) else none

/-! ## Places -/

/-- The condition of a caret. -/
def caret (sw : Switches) : Assertion :=
  if !sw.multiLine then .textStart else if sw.pairedLines then .pairedLineStart else .lineStart

/-- The condition of a dollar sign. -/
def dollar (sw : Switches) : Assertion :=
  if !sw.multiLine then .textEnd else if sw.pairedLines then .pairedLineEnd else .lineEnd

end Switches

/-! ## Nesting -/

/-- How deep the parts of a pattern may nest. -/
def nestLimit : Nat := 250

/-- How deep several parts nest that stand beside each other, by how deep the deepest of them nests:
only more than one part makes a level. -/
def nesting (count deepest : Nat) : Nat := if count ≤ 1 then deepest else deepest + 1

end SceneGrammar.Pattern
