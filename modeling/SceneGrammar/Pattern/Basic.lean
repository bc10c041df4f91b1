import SceneGrammar.Text.CharSet

/-!
# Patterns

Regular expressions over characters, with conditions on the place between two characters, in a
normal form that `sequence`, `choice` and `repeatedly` keep: neighbouring characters are one text,
alternatives that are single characters are one set, what all alternatives begin with stands before
them, and nothing is repeated that cannot match a character. What a pattern matches is in
`Pattern.Matching`, how it is written in `Pattern.Reader`, and how much room it takes in
`Pattern.Machine`.
-/

namespace SceneGrammar

/-- A condition on a place in a text. The word conditions look at the characters before and after
it, in the wide alphabet or in seven bits. -/
inductive Assertion where
  | textStart
  | textEnd
  | lineStart
  | lineEnd
  /-- A line start where a return and a line feed count as one end of a line. -/
  | pairedLineStart
  | pairedLineEnd
  | wordBoundary (wide : Bool)
  | noWordBoundary (wide : Bool)
  | wordStart (wide : Bool)
  | wordEnd (wide : Bool)
  | wordStartHalf (wide : Bool)
  | wordEndHalf (wide : Bool)
deriving Repr, DecidableEq

/-- A regular expression. -/
inductive Pattern where
  | empty
  /-- One character after the other. -/
  | text (cs : List Char)
  /-- One character out of a set. -/
  | set (s : Text.CharSet)
  | assert (a : Assertion)
  | seq (p q : Pattern)
  | alt (p q : Pattern)
  /-- At least `least` and at most `most` times, without an upper bound if there is no `most`; a
  lazy repetition tries fewer times first. -/
  | repeated (p : Pattern) (least : Nat) (most : Option Nat) (lazy : Bool)
  /-- A group that counts among the groups of a match. -/
  | group (p : Pattern)
deriving Repr, DecidableEq, Inhabited

namespace Pattern

/-- One character out of a set, which may be a single one. -/
def ofSet (s : Text.CharSet) : Pattern :=
  match s.only? with
  | some c => .text [c]
  | none => .set s

/-! ## Sequences -/

/-- The parts that stand one after the other. -/
def parts : Pattern → List Pattern
  | .empty => []
  | .seq p q => p :: q.parts
  | p => [p]

/-- The pattern with some parts. -/
def ofParts : List Pattern → Pattern
  | [] => .empty
  | [p] => p
  | p :: ps => .seq p (ofParts ps)

/-- Parts with neighbouring texts made one. -/
def joinTexts : List Pattern → List Pattern
  | [] => []
  | .text cs :: ps =>
    match joinTexts ps with
    | .text ds :: ps => .text (cs ++ ds) :: ps
    | ps => .text cs :: ps
  | p :: ps => p :: joinTexts ps

/-- Patterns one after the other. -/
def sequence (ps : List Pattern) : Pattern := ofParts (joinTexts (ps.flatMap parts))

/-! ## Alternatives -/

/-- The alternatives of a pattern. -/
def ways : Pattern → List Pattern
  | .alt p q => p :: q.ways
  | p => [p]

/-- The pattern with some alternatives; with none it matches nothing. -/
def ofWays : List Pattern → Pattern
  | [] => .set .empty
  | [p] => p
  | p :: ps => .alt p (ofWays ps)

/-- The character of a text of one. -/
def char? : Pattern → Option Char
  | .text [c] => some c
  | _ => none

/-- The set of a pattern that is one. -/
def set? : Pattern → Option Text.CharSet
  | .set s => some s
  | _ => none

/-- The parts of a pattern that has more than one. -/
def seqParts? : Pattern → Option (List Pattern)
  | .seq p q => some (p :: q.parts)
  | _ => none

/-- Alternatives of which all are characters, or all are sets, are one set. -/
def joinWays (ps : List Pattern) : Pattern :=
  match ps.mapM char?, ps.mapM set? with
  | some cs, _ => ofSet (.unionAll (cs.map .single))
  | none, some sets => ofSet (.unionAll sets)
  | none, none => ofWays ps

/-- Whether a pattern has a group that counts. -/
def hasGroup : Pattern → Bool
  | .group _ => true
  | .seq p q => p.hasGroup || q.hasGroup
  | .alt p q => p.hasGroup || q.hasGroup
  | .repeated p _ _ _ => p.hasGroup
  | _ => false

/-- What two sequences have in common at their front. Groups that count are never the same. -/
def commonFront : List Pattern → List Pattern → List Pattern
  | p :: ps, q :: qs => if p = q && !p.hasGroup then p :: commonFront ps qs else []
  | _, _ => []

/-- One of several patterns. -/
def choice (ps : List Pattern) : Pattern :=
  let ps := ps.flatMap ways
  match ps.mapM seqParts? with
  | some (first :: second :: rest) =>
    let front := (second :: rest).foldl commonFront first
    if front.isEmpty then ofWays ps
    else
      let rests := (first :: second :: rest).map fun parts => sequence (parts.drop front.length)
      sequence (front ++ [joinWays (rests.flatMap ways)])
  | _ => joinWays ps

/-! ## Repetition -/

/-- Whether a pattern matches between characters only. -/
def isPlaceOnly : Pattern → Bool
  | .empty => true
  | .text _ => false
  | .set _ => false
  | .assert _ => true
  | .seq p q => p.isPlaceOnly && q.isPlaceOnly
  | .alt p q => p.isPlaceOnly && q.isPlaceOnly
  | .repeated p _ _ _ => p.isPlaceOnly
  | .group p => p.isPlaceOnly

/-- A pattern a number of times. To match no character more than once is to match none once. -/
def repeatedly (p : Pattern) (least : Nat) (most : Option Nat) (lazy : Bool) : Pattern :=
  let least := if p.isPlaceOnly then min least 1 else least
  let most := if p.isPlaceOnly then some ((most.map (min · 1)).getD 1) else most
  match least, most with
  | 0, some 0 => .empty
  | 1, some 1 => p
  | _, _ => .repeated p least most lazy

end Pattern

end SceneGrammar
