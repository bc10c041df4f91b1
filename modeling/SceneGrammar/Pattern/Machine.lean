import SceneGrammar.Pattern.Basic
import SceneGrammar.Pattern.Machine.Encoding
import SceneGrammar.Pattern.Machine.Texts

/-!
# Machines of patterns

A pattern is carried out over the bytes of a text by two machines, one that reads them forward and
one that reads them backward, and it is refused if either goes beyond the limit. A counted
repetition has its states as often as it counts, so the limit bounds the work that a short pattern
can ask for.
-/

namespace SceneGrammar

namespace Pattern

/-- The fewest bytes of a match, none if nothing can match. -/
def leastBytes : Pattern → Option Nat
  | .empty => some 0
  | .text cs => some (cs.map Char.utf8Size).sum
  | .set s => s.ranges[0]?.map fun (first, _) => (Char.ofNat first).utf8Size
  | .assert _ => some 0
  | .seq p q => return (← p.leastBytes) + (← q.leastBytes)
  | .alt p q => return min (← p.leastBytes) (← q.leastBytes)
  | .repeated p least _ _ => p.leastBytes.map (least * ·)
  | .group p => p.leastBytes

/-- Whether every match begins where the text begins. -/
def isOpening : Pattern → Bool
  | .assert a => a = .textStart
  | .seq p q => p.isOpening || (p.isPlaceOnly && q.isOpening)
  | .alt p q => p.isOpening && q.isOpening
  | .repeated p least _ _ => 0 < least && p.isOpening
  | .group p => p.isOpening
  | _ => false

/-- Whether every match ends where the text ends. -/
def isClosing : Pattern → Bool
  | .assert a => a = .textEnd
  | .seq p q => q.isClosing || (q.isPlaceOnly && p.isClosing)
  | .alt p q => p.isClosing && q.isClosing
  | .repeated p least _ _ => 0 < least && p.isClosing
  | .group p => p.isClosing
  | _ => false

/-- The text of a pattern that is one. -/
def text? : Pattern → Option (List Char)
  | .text cs => some cs
  | _ => none

end Pattern

namespace Machine

/-- The directions in which a machine can read. -/
inductive Direction where
  | forward
  | backward
deriving Repr, DecidableEq

/-- Where an alternative stands among others: the first of them or none beside it, the second, or
after the second. -/
inductive Turn where
  | first
  | second
  | later
deriving Repr, DecidableEq

/-- The bytes of a text in the order in which a machine reads them. -/
def Direction.bytes (d : Direction) (cs : List Char) : List UInt8 :=
  let bytes := cs.flatMap String.utf8EncodeChar
  match d with
  | .forward => bytes
  | .backward => bytes.reverse

/-- The part for one character out of a set. -/
def ofSet (d : Direction) (s : Text.CharSet) : Part :=
  if s.isSevenBit then .state ++ .ranges s.ranges.size
  else
    let seqs := Text.Utf8.ofSet s
    match d with
    | .forward => forwardSet seqs
    | .backward => backwardSet seqs

/-- The part for a repetition of something. What may match nothing needs a way around it to be
repeated without bound. -/
def repeated (p : Part) (mayBeEmpty : Bool) : Nat → Option Nat → Part
  | 0, some 1 => .branch 2 ++ p ++ .state
  | 0, none => if mayBeEmpty then p ++ .branch 2 ++ .branch 2 ++ .state else .branch 2 ++ p
  | least + 1, none => .times least p ++ p ++ .branch 2
  | least, some most =>
    if least = most then .times least p
    else
      (if least = 0 then .state else .times least p) ++ .state
        ++ .times (most - least) (.branch 2 ++ p)

/-- The part that an alternative adds after it: once there are two, a state that leads to both and
one where they end. -/
def Turn.joint : Turn → Part
  | .first => .nothing
  | .second => .branch 2 ++ .state
  | .later => .way

/-- The part for a pattern. -/
def ofPattern (d : Direction) : Pattern → Turn → Part
  | .alt p q, .first =>
    match (p :: q.ways).mapM (·.text?) with
    | some texts => tree (texts.map d.bytes)
    | none => ofPattern d p .first ++ ofPattern d q .second
  | .alt p q, turn => ofPattern d p .first ++ turn.joint ++ ofPattern d q .later
  | .empty, turn => .state ++ turn.joint
  | .text cs, turn => .times (cs.map Char.utf8Size).sum .state ++ turn.joint
  | .set s, turn => ofSet d s ++ turn.joint
  | .assert _, turn => .state ++ turn.joint
  | .seq p q, turn =>
    let p := ofPattern d p .first
    let q := ofPattern d q .first
    (match d with
    | .forward => p ++ q
    | .backward => q ++ p) ++ turn.joint
  | .repeated p least most _, turn =>
    repeated (ofPattern d p .first) (p.leastBytes.all (· = 0)) least most ++ turn.joint
  | .group p, turn =>
    let p := ofPattern d p .first
    (match d with
    | .forward => .state ++ p ++ .state
    | .backward => p) ++ turn.joint

/-- The part that skips bytes before a match, unless a match can only be at the end that is read
first. -/
def skip (isFixed : Bool) : Part :=
  if isFixed then .state else .branch 2 ++ .state ++ .ranges 1

/-- The machine of a pattern. The forward one notes the whole match as a group. -/
def whole (p : Pattern) : Direction → Part
  | .forward => skip p.isOpening ++ ofPattern .forward (.group p) .first ++ .state
  | .backward => skip p.isClosing ++ ofPattern .backward p .first ++ .state

end Machine

/-- Whether the machines of a pattern stay within the limit. -/
def Pattern.fits (p : Pattern) : Bool :=
  ((Machine.whole p .forward).addTo? ⟨0, 0⟩).isSome
    && ((Machine.whole p .backward).addTo? ⟨0, 0⟩).isSome

end SceneGrammar
