import SceneGrammar.Pattern.Reader.Escape

/-!
# Bracketed classes

Classes that list their members between brackets: characters, ranges, other classes, and what the
operators between them make of all that stands on their two sides. A class comes with how deep its
parts nest.
-/

namespace SceneGrammar.Pattern

/-- The operators between the parts of a bracketed class. -/
inductive SetOp where
  | inter
  | diff
  | symmDiff
deriving Repr, DecidableEq

/-- What an operator makes of two sets. -/
def SetOp.apply : SetOp → Text.CharSet → Text.CharSet → Text.CharSet
  | .inter, s, t => s.inter t
  | .diff, s, t => s.diff t
  | .symmDiff, s, t => s.symmDiff t

/-- The members of a class so far, from the last to the first, and how deep the deepest of them
nests. -/
structure Members where
  sets : List Text.CharSet := []
  depth : Nat := 0
deriving Repr

/-- The members with one more. -/
def Members.push (m : Members) (s : Text.CharSet) (depth : Nat) : Members :=
  ⟨s :: m.sets, max m.depth depth⟩

/-- Part of a class with how deep it nests. -/
structure ClassPart where
  set : Text.CharSet
  depth : Nat
deriving Repr

/-- All members as one part. -/
def Members.toPart (m : Members) : ClassPart := ⟨.unionAll m.sets, nesting m.sets.length m.depth⟩

/-- Joins what stands before an operator with the members after it. -/
def joinSets (sw : Switches) (before : Option (SetOp × ClassPart)) (after : Members) : ClassPart :=
  match before with
  | none => after.toPart
  | some (op, left) =>
    let right := after.toPart
    ⟨op.apply (sw.fold left.set) (sw.fold right.set), max left.depth right.depth + 1⟩

/-! ## Members -/

/-- One end of a range, or a class. -/
def readMember (sw : Switches) : List Char → Option (Escape × List Char)
  | [] => none
  | c :: cs => if c = '\\' then readEscape sw cs else some (.char c false, cs)

/-- The characters from one to another in the alphabet of the switches, none if they descend. -/
def charRange? (sw : Switches) (first last : Char) : Option Text.CharSet :=
  if first ≤ last && (sw.wide || sevenBit.contains last) then some (.range first last) else none

/-- The characters of a member that is not the end of a range. -/
def Escape.toSet? (sw : Switches) : Escape → Option Text.CharSet
  | .char c _ => charRange? sw c c
  | .set s => some s
  | .assert _ => none

/-- A member of a class, or a range of characters. A dash before a closing bracket or another dash
makes no range. -/
def readRange (sw : Switches) (cs : List Char) : Option (Text.CharSet × List Char) := do
  let (first, rest) ← readMember sw cs
  match sw.next rest with
  | [] => none
  | c :: after =>
    let ahead := sw.ahead? after
    if c ≠ '-' || ahead = some ']' || ahead = some '-' then pure (← first.toSet? sw, c :: after)
    else
      let (last, rest) ← readMember sw (sw.next after)
      match first, last with
      | .char x _, .char y _ => pure (← charRange? sw x y, rest)
      | _, _ => none

/-- A seven-bit class by its name between colons, after the opening bracket, and whether its
complement is meant. -/
def readNamedClass (cs : List Char) : Option ((Text.CharSet × Bool) × List Char) :=
  match cs with
  | ':' :: cs =>
    let (negated, cs) := match cs with
      | '^' :: rest => (true, rest)
      | _ => (false, cs)
    match cs.dropWhile (· ≠ ':') with
    | ':' :: ']' :: rest =>
      (namedClass? (cs.takeWhile (· ≠ ':'))).map fun s => ((s, negated), rest)
    | _ => none
  | _ => none

/-! ## Classes -/

/-- Dashes at the front of a class stand for themselves. -/
def readDashes (sw : Switches) : Nat → Members → List Char → Members × List Char
  | 0, m, cs => (m, cs)
  | bound + 1, m, cs =>
    match cs with
    | '-' :: rest => readDashes sw bound (m.push (.single '-') 0) (sw.next rest)
    | _ => (m, cs)

/-- The opening of a class: whether it is negated, and the members that only its front can have. -/
def openClass (sw : Switches) (cs : List Char) : Bool × Members × List Char :=
  let cs := sw.next cs
  let (negated, cs) := match cs with
    | '^' :: rest => (true, sw.next rest)
    | _ => (false, cs)
  let (m, cs) := readDashes sw cs.length {} cs
  match m.sets, cs with
  | [], ']' :: rest => (negated, m.push (.single ']') 0, sw.next rest)
  | _, _ => (negated, m, cs)

/-- A class as it stands, case ignored and complement taken as its switches and its sign say. Its
brackets are a level of their own. -/
def closeClass? (sw : Switches) (negated : Bool) (part : ClassPart) : Option ClassPart :=
  (sw.complIf? negated (sw.fold part.set)).map fun s => ⟨s, part.depth + 1⟩

/-- The members of a class up to its closing bracket. -/
def readMembers (sw : Switches) :
    Nat → Option (SetOp × ClassPart) → Members → List Char → Option (ClassPart × List Char)
  | 0, _, _, _ => none
  | bound + 1, before, m, cs =>
    match sw.next cs with
    | [] => none
    | '[' :: rest =>
      match readNamedClass rest with
      | some ((s, negated), rest) => do
        let s ← sw.complIf? negated (sw.fold s)
        readMembers sw bound before (m.push s 0) rest
      | none => do
        let (negated, inner, rest) := openClass sw rest
        let (part, rest) ← readMembers sw bound none inner rest
        let part ← closeClass? sw negated part
        readMembers sw bound before (m.push part.set part.depth) rest
    | ']' :: rest => some (joinSets sw before m, rest)
    | '&' :: '&' :: rest => readMembers sw bound (some (.inter, joinSets sw before m)) {} rest
    | '-' :: '-' :: rest => readMembers sw bound (some (.diff, joinSets sw before m)) {} rest
    | '~' :: '~' :: rest => readMembers sw bound (some (.symmDiff, joinSets sw before m)) {} rest
    | cs => do
      let (s, rest) ← readRange sw cs
      readMembers sw bound before (m.push s 0) rest

/-- A bracketed class whose opening bracket has been read. -/
def readClass (sw : Switches) (cs : List Char) : Option (ClassPart × List Char) := do
  let (negated, m, rest) := openClass sw cs
  let (part, rest) ← readMembers sw (cs.length + 1) none m rest
  pure (← closeClass? sw negated part, rest)

end SceneGrammar.Pattern
