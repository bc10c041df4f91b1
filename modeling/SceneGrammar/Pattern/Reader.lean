import SceneGrammar.Pattern.Machine
import SceneGrammar.Pattern.Reader.Bracket
import SceneGrammar.Pattern.Reader.Opening

/-!
# Reading patterns

The notation of patterns, character by character. A reader takes the characters that are left and
returns what it read with the rest; none means that the notation is not valid. Back-references do
not exist. Parts may nest up to a limit, and what is read has to fit.
-/

namespace SceneGrammar.Pattern

/-! ## Repetition -/

/-- How often something is repeated. -/
structure Bounds where
  least : Nat
  most : Option Nat

/-- The bounds of a sign. -/
def signBounds? (sign : Char) : Option Bounds :=
  if sign = '?' then some ⟨0, some 1⟩
  else if sign = '*' then some ⟨0, none⟩
  else if sign = '+' then some ⟨1, none⟩
  else none

/-- Decimal digits, between which blanks may stand where they do not count. -/
def readCountDigits (sw : Switches) : Nat → List Char → List Char × List Char
  | 0, cs => ([], cs)
  | _ + 1, [] => ([], [])
  | bound + 1, c :: cs =>
    if c.isDigit then
      let (ds, rest) := readCountDigits sw bound (sw.next cs)
      (c :: ds, rest)
    else ([], c :: cs)

/-- A count with blanks around it, below `2 ^ 32`. -/
def readCount (sw : Switches) (cs : List Char) : Option (Nat × List Char) :=
  let cs := dropBlanks cs
  let (ds, rest) := readCountDigits sw (cs.length + 1) cs
  let n := Text.decimalValue ds
  if ds.isEmpty || Nat.pow 2 32 ≤ n then none else some (n, dropBlanks rest)

/-- The bounds of a counted repetition whose opening brace has been read. -/
def readBounds (sw : Switches) (cs : List Char) : Option (Bounds × List Char) := do
  let (least, rest) ← readCount sw (sw.next cs)
  let (most, rest) ← match rest with
    | ',' :: rest =>
      match sw.next rest with
      | '\x7d' :: rest => pure (none, '\x7d' :: rest)
      | rest => do
        let (most, rest) ← readCount sw rest
        pure (some most, rest)
    | rest => pure (some least, rest)
  match rest with
  | '\x7d' :: rest => if most.any (· < least) then none else pure (⟨least, most⟩, sw.next rest)
  | _ => none

/-- Whether a question mark makes a repetition lazy, or greedy if laziness comes first. -/
def readLazy (sw : Switches) : List Char → Bool × List Char
  | '?' :: cs => (!sw.lazyFirst, cs)
  | cs => (sw.lazyFirst, cs)

/-! ## Groups -/

/-- Part of a pattern with how deep it nests; one without a pattern stands for switches. -/
structure Item where
  pattern : Option Pattern
  depth : Nat

/-- How deep several items nest beside each other. -/
def Item.nesting (items : List Item) : Nat :=
  Pattern.nesting items.length (items.foldl (fun depth item => max depth item.depth) 0)

/-- The patterns of items from the last to the first. -/
def Item.patterns (items : List Item) : List Pattern := items.reverse.filterMap (·.pattern)

/-- A group that is still open: the branches before the current one and the items of the current
branch, both from the last to the first. -/
structure OpenGroup where
  branches : List Item
  items : List Item
  switches : Switches
  counted : Bool

namespace OpenGroup

/-- A group without a branch or an item. -/
def start (sw : Switches) (counted : Bool) : OpenGroup := ⟨[], [], sw, counted⟩

/-- The current branch of a group. -/
def branch (g : OpenGroup) : Item := ⟨some (sequence (Item.patterns g.items)), Item.nesting g.items⟩

/-- All branches of a group that is complete. -/
def close (g : OpenGroup) : Item :=
  let branches := g.branch :: g.branches
  ⟨some (choice (Item.patterns branches)), Item.nesting branches⟩

/-- The group with one more branch. -/
def split (g : OpenGroup) : OpenGroup := { g with branches := g.branch :: g.branches, items := [] }

/-- The group with one more item. -/
def push (g : OpenGroup) (p : Pattern) (depth : Nat) : OpenGroup :=
  { g with items := ⟨some p, depth⟩ :: g.items }

/-- The group with one more item that is a group of its own. -/
def pushGroup (g inner : OpenGroup) : OpenGroup :=
  let closed := inner.close
  let pattern := if inner.counted then closed.pattern.map .group else closed.pattern
  { g with items := ⟨pattern, closed.depth + 1⟩ :: g.items }

/-- The group with other switches for what follows. -/
def switch (g : OpenGroup) (sw : Switches) : OpenGroup :=
  { g with items := ⟨none, 0⟩ :: g.items, switches := sw }

/-- The group with its last item repeated, none if there is nothing to repeat. -/
def repeatLast? (g : OpenGroup) (bounds : Bounds) (isLazy : Bool) : Option OpenGroup :=
  match g.items with
  | ⟨some p, depth⟩ :: items =>
    some { g with
      items := ⟨some (repeatedly p bounds.least bounds.most isLazy), depth + 1⟩ :: items }
  | _ => none

/-- The group with what a backslash introduced. Two digits are one byte without the wide alphabet,
and a byte beyond seven bits is no character. -/
def pushEscape? (g : OpenGroup) : Escape → Option OpenGroup
  | .char c twoDigits =>
    if twoDigits && !g.switches.wide && !sevenBit.contains c then none
    else some (g.push (g.switches.literal c) 0)
  | .set s => some (g.push (ofSet s) 0)
  | .assert a => some (g.push (.assert a) 0)

end OpenGroup

/-! ## Patterns -/

/-- Reads a pattern to its end: `outer` are the groups around the current one, `names` the names of
groups so far, which may not repeat. -/
def readPattern :
    Nat → List OpenGroup → OpenGroup → List String → List Char → Option Item
  | 0, _, _, _, _ => none
  | bound + 1, outer, g, names, cs =>
    let sw := g.switches
    match sw.next cs with
    | [] => if outer.isEmpty then some g.close else none
    | c :: cs =>
      if c = '(' then
        match readOpening sw cs with
        | some (.switches inner, rest) => readPattern bound outer (g.switch inner) names rest
        | some (.plain inner, rest) =>
          readPattern bound (g :: outer) (.start inner false) names rest
        | some (.counted name, rest) =>
          if name.any names.contains then none
          else readPattern bound (g :: outer) (.start sw true) (name.toList ++ names) rest
        | none => none
      else if c = ')' then
        match outer with
        | enclosing :: outer => readPattern bound outer (enclosing.pushGroup g) names cs
        | [] => none
      else if c = '|' then readPattern bound outer g.split names cs
      else if c = '[' then
        match readClass sw cs with
        | some (part, rest) =>
          readPattern bound outer (g.push (ofSet part.set) part.depth) names rest
        | none => none
      else if c = '?' || c = '*' || c = '+' then
        let (isLazy, rest) := readLazy sw cs
        match (signBounds? c).bind (g.repeatLast? · isLazy) with
        | some g => readPattern bound outer g names rest
        | none => none
      else if c = '\x7b' then
        match readBounds sw cs with
        | some (bounds, rest) =>
          let (isLazy, rest) := readLazy sw rest
          match g.repeatLast? bounds isLazy with
          | some g => readPattern bound outer g names rest
          | none => none
        | none => none
      else if c = '\\' then
        match readEscape sw cs with
        | some (e, rest) =>
          match g.pushEscape? e with
          | some g => readPattern bound outer g names rest
          | none => none
        | none => none
      else if c = '.' then
        match sw.anyChar? with
        | some p => readPattern bound outer (g.push p 0) names cs
        | none => none
      else if c = '^' then readPattern bound outer (g.push (.assert sw.caret) 0) names cs
      else if c = '$' then readPattern bound outer (g.push (.assert sw.dollar) 0) names cs
      else readPattern bound outer (g.push (sw.literal c) 0) names cs

/-- The pattern that a text writes, if it neither nests too deep nor takes too much room. -/
def parse? (source : String) : Option Pattern := do
  let item ← readPattern (source.length + 1) [] (.start {} false) [] source.toList
  let p ← item.pattern
  if item.depth ≤ nestLimit && p.fits then some p else none

/-- The pattern of a text that is put into a group after the start of the name it is matched
against. -/
def anchored? (source : String) : Option Pattern := parse? ("^(?:" ++ source ++ ")")

end SceneGrammar.Pattern
