import SceneGrammar.Pattern.Basic
import SceneGrammar.Text.Word

/-!
# Marked patterns

A pattern that is carried along a text. A mark on a set of characters says that what has been read
so far can end with a character matched there. `shift` reads one more character: it moves every mark
on, and a mark that comes in from outside. The work for a character is in proportion to the marked
part of the pattern, whatever its repetitions. Whether a pattern matches some part of a text is read off
the marks; only the existence of a match is asked for, so the order in which alternatives are tried plays
no part.
-/

namespace SceneGrammar

/-- A place in a text by its neighbours. -/
structure Place where
  before : Option Char
  after : Option Char
deriving Repr, DecidableEq

/-- Whether a character is part of a word. -/
def isWordChar (wide : Bool) (c : Char) : Bool :=
  (wide || c.toNat ≤ 0x7F) && Text.word.contains c

/-- Whether a condition holds at a place. -/
def Assertion.holds (a : Assertion) (place : Place) : Bool :=
  let before := place.before
  let after := place.after
  let isWord (wide : Bool) (c : Option Char) : Bool := c.any (isWordChar wide)
  match a with
  | .textStart => before.isNone
  | .textEnd => after.isNone
  | .lineStart => before.isNone || before == some '\n'
  | .lineEnd => after.isNone || after == some '\n'
  | .pairedLineStart =>
    before.isNone || before == some '\n' || (before == some '\r' && after != some '\n')
  | .pairedLineEnd =>
    after.isNone || after == some '\r' || (after == some '\n' && before != some '\r')
  | .wordBoundary wide => isWord wide before != isWord wide after
  | .noWordBoundary wide => isWord wide before == isWord wide after
  | .wordStart wide => !isWord wide before && isWord wide after
  | .wordEnd wide => isWord wide before && !isWord wide after
  | .wordStartHalf wide => !isWord wide before
  | .wordEndHalf wide => !isWord wide after

/-- What is known of a marked pattern at the current place. -/
structure Marks where
  /-- The pattern matches no characters here. -/
  passes : Bool
  /-- A mark can end the pattern here. -/
  ends : Bool
  /-- There is a mark. -/
  any : Bool
  /-- No condition in it depends on the place. -/
  steady : Bool
deriving Repr, DecidableEq

/-- A pattern with marks, and with what is known of its parts. -/
inductive Marked where
  | empty
  | set (s : Text.CharSet) (marked : Bool)
  | assert (a : Assertion) (holds : Bool)
  | seq (m : Marks) (p q : Marked)
  | alt (m : Marks) (p q : Marked)
  | star (m : Marks) (p : Marked)
deriving Repr, Inhabited

namespace Marked

/-- What is known of a marked pattern. -/
def marks : Marked → Marks
  | .empty => ⟨true, false, false, true⟩
  | .set _ marked => ⟨false, marked, marked, true⟩
  | .assert _ holds => ⟨holds, false, false, false⟩
  | .seq m _ _ => m
  | .alt m _ _ => m
  | .star m _ => m

/-- One pattern after the other. -/
def andThen (p q : Marked) : Marked :=
  let m := p.marks
  let n := q.marks
  .seq ⟨m.passes && n.passes, n.ends || (m.ends && n.passes), m.any || n.any, m.steady && n.steady⟩
    p q

/-- One pattern or the other. -/
def orElse (p q : Marked) : Marked :=
  let m := p.marks
  let n := q.marks
  .alt ⟨m.passes || n.passes, m.ends || n.ends, m.any || n.any, m.steady && n.steady⟩ p q

/-- A pattern any number of times. -/
def anyTimes (p : Marked) : Marked := .star { p.marks with passes := true } p

/-- A pattern exactly `n` times, where equal halves are one value. -/
def copies (p : Marked) (n : Nat) : Marked :=
  if h : n ≤ 1 then if n = 0 then .empty else p
  else
    let half := copies p (n / 2)
    if n % 2 = 0 then half.andThen half else p.andThen (half.andThen half)
termination_by n
decreasing_by omega

/-- Reads a character: `start` says whether the pattern may begin before it, `next` is the place
after it. A part that no mark is in or comes to stays as it is. -/
def shift (start : Bool) (c : Char) (next : Place) : Marked → Marked
  | .empty => .empty
  | .set s _ => .set s (start && s.contains c)
  | .assert a _ => .assert a (a.holds next)
  | .seq m p q =>
    if start || m.any || !m.steady then
      let inner := p.marks
      andThen (shift start c next p) (shift (inner.ends || (start && inner.passes)) c next q)
    else .seq m p q
  | .alt m p q =>
    if start || m.any || !m.steady then orElse (shift start c next p) (shift start c next q)
    else .alt m p q
  | .star m p =>
    if start || m.any || !m.steady then anyTimes (shift (start || m.ends) c next p)
    else .star m p

/-- Characters one after the other, without marks. -/
def ofChars : List Char → Marked
  | [] => .empty
  | [c] => .set (.single c) false
  | c :: cs => (Marked.set (.single c) false).andThen (ofChars cs)

/-- A pattern without marks at the place where a text begins. Among as many copies as the text has
places one matches no character, so no count above that matters. -/
def ofPattern (start : Place) (places : Nat) : Pattern → Marked
  | .empty => .empty
  | .text cs => ofChars cs
  | .set s => .set s false
  | .assert a => .assert a (a.holds start)
  | .seq p q => (ofPattern start places p).andThen (ofPattern start places q)
  | .alt p q => (ofPattern start places p).orElse (ofPattern start places q)
  | .repeated p least most _ =>
    let p := ofPattern start places p
    let more :=
      match most with
      | some m => (p.orElse .empty).copies (min (m - least) places)
      | none => p.anyTimes
    (p.copies (min least places)).andThen more
  | .group p => ofPattern start places p

/-! ## Matching -/

/-- Whether a match ends at the current place, where one may also begin. -/
def isFound (p : Marked) : Bool := p.marks.ends || p.marks.passes

/-- Whether a match ends in the rest of a text, at the current place or later. -/
def search (p : Marked) : List Char → Bool
  | [] => p.isFound
  | c :: cs => p.isFound || search (p.shift true c ⟨some c, cs.head?⟩) cs

end Marked

/-- Whether a pattern matches some part of a text. -/
def Pattern.isMatch (p : Pattern) (s : String) : Bool :=
  let cs := s.toList
  (Marked.ofPattern ⟨none, cs.head?⟩ (cs.length + 1) p).search cs

end SceneGrammar
