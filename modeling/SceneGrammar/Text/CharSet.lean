/-!
# Sets of characters

A set of characters as ascending, disjoint ranges of code points, searched by bisection. A property
of characters that a standard defines is a value of this type, and so is what the operations on sets
make of such values. White space is one; a text is trimmed of it.
-/

namespace SceneGrammar.Text

/-- Ranges of code points, ends included. -/
structure CharSet where
  ranges : Array (Nat × Nat)
deriving Repr, DecidableEq, Inhabited

namespace CharSet

/-- The set of the characters in some ranges, which have to ascend. -/
def ofRanges (ranges : Array (Nat × Nat)) : CharSet := ⟨ranges⟩

/-- The set without a character. -/
def empty : CharSet := ofRanges #[]

/-- The characters from one to another. -/
def range (first last : Char) : CharSet :=
  if first ≤ last then ofRanges #[(first.toNat, last.toNat)] else empty

/-- The set of one character. -/
def single (c : Char) : CharSet := ofRanges #[(c.toNat, c.toNat)]

/-- Looks for a code point among the ranges from `low` on and below `high`. -/
def search (ranges : Array (Nat × Nat)) (code : Nat) : Nat → Nat → Nat → Bool
  | 0, _, _ => false
  | bound + 1, low, high =>
    if low < high then
      let middle := (low + high) / 2
      match ranges[middle]? with
      | none => false
      | some (first, last) =>
        if code < first then search ranges code bound low middle
        else if last < code then search ranges code bound (middle + 1) high
        else true
    else false

/-- Whether the set has a code point. -/
def containsCode (s : CharSet) (code : Nat) : Bool :=
  search s.ranges code (s.ranges.size.log2 + 2) 0 s.ranges.size

/-- Whether the set has a character. -/
def contains (s : CharSet) (c : Char) : Bool := s.containsCode c.toNat

/-! ## Operations -/

/-- The greatest code point. -/
def lastCode : Nat := 0x10FFFF

/-- The last code point before the surrogates, which no character has. -/
def beforeSurrogates : Nat := 0xD7FF

/-- The first code point after the surrogates. -/
def afterSurrogates : Nat := 0xE000

/-- The code point of the next character. -/
def codeAfter (code : Nat) : Nat := if code = beforeSurrogates then afterSurrogates else code + 1

/-- The code point of the character before. -/
def codeBefore (code : Nat) : Nat := if code = afterSurrogates then beforeSurrogates else code - 1

/-- A range and the ones after it, which ascend by their first code points, with those made one that
meet. -/
def joinRanges (first last : Nat) : List (Nat × Nat) → List (Nat × Nat)
  | [] => [(first, last)]
  | (first', last') :: rest =>
    if first' ≤ last + 1 then joinRanges first (max last last') rest
    else (first, last) :: joinRanges first' last' rest

/-- The set of ranges that ascend by their first code points and may meet or overlap. -/
def ofSorted : List (Nat × Nat) → CharSet
  | [] => empty
  | (first, last) :: rest => ofRanges (joinRanges first last rest).toArray

/-- The set of some code points, in any order. -/
def ofCodes (codes : List Nat) : CharSet :=
  ofSorted ((codes.mergeSort (· ≤ ·)).map fun code => (code, code))

/-- The characters that one of two sets has. -/
def union (s t : CharSet) : CharSet :=
  ofSorted (s.ranges.toList.merge t.ranges.toList fun r r' => r.1 ≤ r'.1)

/-- The characters that one of several sets has. -/
def unionAll (sets : List CharSet) : CharSet :=
  ofSorted ((sets.flatMap (·.ranges.toList)).mergeSort fun r r' => r.1 ≤ r'.1)

/-- What two lists of ascending ranges have in common. -/
def commonRanges : List (Nat × Nat) → List (Nat × Nat) → List (Nat × Nat)
  | [], _ => []
  | _, [] => []
  | (first, last) :: rest, (first', last') :: rest' =>
    let later :=
      if last < last' then commonRanges rest ((first', last') :: rest')
      else commonRanges ((first, last) :: rest) rest'
    if max first first' ≤ min last last' then (max first first', min last last') :: later else later
termination_by rs rs' => rs.length + rs'.length

/-- What the first list of ascending ranges has and the second has not. -/
def otherRanges : List (Nat × Nat) → List (Nat × Nat) → List (Nat × Nat)
  | [], _ => []
  | rs, [] => rs
  | (first, last) :: rest, (first', last') :: rest' =>
    if last' < first then otherRanges ((first, last) :: rest) rest'
    else if last < first' then (first, last) :: otherRanges rest ((first', last') :: rest')
    else
      let front := if first < first' then [(first, codeBefore first')] else []
      if last' < last then front ++ otherRanges ((codeAfter last', last) :: rest) rest'
      else front ++ otherRanges rest ((first', last') :: rest')
termination_by rs rs' => rs.length + rs'.length

/-- The characters that both of two sets have. -/
def inter (s t : CharSet) : CharSet :=
  ofRanges (commonRanges s.ranges.toList t.ranges.toList).toArray

/-- The characters of the first set that the second does not have. -/
def diff (s t : CharSet) : CharSet :=
  ofRanges (otherRanges s.ranges.toList t.ranges.toList).toArray

/-- The characters that exactly one of two sets has. -/
def symmDiff (s t : CharSet) : CharSet := (s.union t).diff (s.inter t)

/-- All characters. -/
def all : CharSet := ofRanges #[(0, lastCode)]

/-- Whether a range ends before the surrogates and another one begins after them. -/
def meetsAtSurrogates (s : CharSet) : Bool :=
  s.ranges.any (·.2 = beforeSurrogates) && s.ranges.any (·.1 = afterSurrogates)

/-- The characters that a set does not have: what lies between the end of each range and the start
of the next. Between two ranges that meet at the surrogates lies no character, and there the two
that they meet with are taken. -/
def compl (s : CharSet) : CharSet :=
  if s.meetsAtSurrogates then (all.diff s).union (ofRanges #[(beforeSurrogates, afterSurrogates)])
  else all.diff s

/-- The only character of a set, none if there is not exactly one. -/
def only? (s : CharSet) : Option Char :=
  match s.ranges.toList with
  | [(first, last)] => if first = last then some (Char.ofNat first) else none
  | _ => none

/-- Whether all characters of a set fit in seven bits. -/
def isSevenBit (s : CharSet) : Bool := s.ranges.back?.all fun (_, last) => last ≤ 0x7F

end CharSet

/-! ## White space -/

/-- White space. -/
def blank : CharSet := CharSet.ofRanges #[
  (0x9, 0xD), (0x20, 0x20), (0x85, 0x85), (0xA0, 0xA0), (0x1680, 0x1680), (0x2000, 0x200A),
  (0x2028, 0x2029), (0x202F, 0x202F), (0x205F, 0x205F), (0x3000, 0x3000)]

/-- The text without the blanks at its ends. -/
def trim (s : String) : String :=
  let drop (cs : List Char) : List Char := cs.dropWhile blank.contains
  String.ofList (drop (drop s.toList).reverse).reverse

end SceneGrammar.Text
