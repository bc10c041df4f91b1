import SceneGrammar.Pattern.Machine.Basic

/-!
# Alternative texts in machines

Alternatives that are all texts are one tree in a machine: texts that begin alike share the states
for their common front. Which text comes first counts, so where one of them ends, the texts before
it and those after it do not share.
-/

namespace SceneGrammar.Machine

/-- The texts between those that are at their end, in order. -/
def chunks : List (List UInt8) → List (List (List UInt8))
  | [] => [[]]
  | [] :: texts => [] :: chunks texts
  | text :: texts =>
    match chunks texts with
    | chunk :: rest => (text :: chunk) :: rest
    | [] => [[text]]

/-- The rests of texts by their first bytes, which are in `firsts`. -/
def restsBy (firsts : List UInt8) (texts : List (List UInt8)) : List (List (List UInt8)) :=
  firsts.map fun b => texts.filterMap fun
    | c :: rest => if c = b then some rest else none
    | [] => none

/-- The part for what is left of texts after a common front: for the texts of every chunk one state
that tells their first bytes apart, and a state that leads to these and to the end of the tree. No
text is longer than the bound. -/
def treeNode : Nat → List (List UInt8) → Part
  | 0, _ => .nothing
  | bound + 1, texts =>
    let groups := (chunks texts).filter (!·.isEmpty)
    let firsts := groups.map fun texts => (texts.filterMap List.head?).eraseDups
    let rests := ((firsts.zip groups).flatMap fun (bs, texts) => restsBy bs texts)
    let inner := (rests.filter (·.any (!·.isEmpty))).map (treeNode bound)
    let tests := firsts.map fun bs => if bs.length = 1 then Part.state else .ranges bs.length
    let early := (texts.takeWhile (·.isEmpty)).length
    let endings := (texts.filter (·.isEmpty)).length - (early - 1)
    (inner ++ tests).foldl (· ++ ·) .nothing ++ .branch (tests.length + endings)

/-- The part for alternative texts. -/
def tree (texts : List (List UInt8)) : Part :=
  .state ++ treeNode (texts.foldl (fun n text => max n text.length) 0) texts

end SceneGrammar.Machine
