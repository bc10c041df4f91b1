import Mathlib.Data.List.Infix
import SceneGrammar.Proofs.Pattern.Enclosure

/-!
# Anchored patterns

The anchor of a pattern is put around its text, as the opening of a group and its end. If no parenthesis of
the text closes the group and no comment of it takes up the end, then the anchored text is a pattern exactly
if the text is one by itself, and stands for that pattern behind the condition that the text begins there.
Patterns at the limit of what there is room for are left out, since the anchor takes some room too.
-/

namespace SceneGrammar.Pattern

/-- The item of a text that stands alone. -/
def alone? (cs : List Char) : Option Item := read? [] (.start {} false) [] cs

/-- A pattern is an item that is not too deep and whose automaton is not too large. -/
lemma parse?_eq (source : String) : parse? source = (alone? source.toList).bind fun item =>
    item.pattern.bind fun p => if item.depth ≤ nestLimit && p.fits then some p else none := by
  unfold parse? alone? read?
  rw [String.length_toList]
  rfl

/-- What stands around an anchored pattern: the condition that the text begins. -/
def anchorGroup : OpenGroup := (OpenGroup.start {} false).push (.assert .textStart) 0

/-- The condition that the text begins in front of an item. -/
def Item.anchored (item : Item) : Item :=
  ⟨item.pattern.map fun p => sequence [.assert .textStart, p], item.depth + 2⟩

/-- Behind the anchor a text is read inside the group that the anchor opens. -/
lemma read?_opening (cs : List Char) : alone? ('^' :: '(' :: '?' :: ':' :: cs) =
    read? [anchorGroup] (.start {} false) [] cs := by
  have caret : nextToken (.start {} false) [] ('^' :: '(' :: '?' :: ':' :: cs) =
      some (.within [] anchorGroup, '(' :: '?' :: ':' :: cs) := rfl
  have opening : nextToken anchorGroup [] ('(' :: '?' :: ':' :: cs) =
      some (.opens anchorGroup (.start {} false) [], cs) := rfl
  rw [alone?, read?_token caret]
  exact read?_token opening

/-- A single alternative that begins with a condition is no choice. -/
lemma choice_sequence_assert (a : Assertion) (p : Pattern) :
    choice [sequence [.assert a, p]] = sequence [.assert a, p] := by
  have front : sequence [.assert a, p] = ofParts (.assert a :: joinTexts p.parts) := by
    simp [sequence, parts, joinTexts]
  rw [front]
  cases joinTexts p.parts with
  | nil => rfl
  | cons q qs => rfl

/-- Closing the anchor's group gives the anchored pattern. -/
lemma close_pushGroup {inner : OpenGroup} (h : inner.counted = false) :
    (anchorGroup.pushGroup inner).close = inner.close.anchored := by
  obtain ⟨p, depth, e⟩ : ∃ p depth, inner.close = ⟨some p, depth⟩ := ⟨_, _, rfl⟩
  have branch : (anchorGroup.pushGroup inner).branch =
      ⟨some (sequence [.assert .textStart, p]), depth + 2⟩ := by
    simp [OpenGroup.branch, OpenGroup.pushGroup, h, e, anchorGroup, OpenGroup.push, OpenGroup.start,
      Item.patterns, Item.nesting, Pattern.nesting]
  show (⟨some (choice (Item.patterns [_])), Item.nesting [_]⟩ : Item) = _
  rw [branch, e]
  simp [Item.patterns, Item.nesting, Pattern.nesting, choice_sequence_assert, Item.anchored]

/-- Whether a text is a pattern by itself, however much room it takes. -/
def isWritten (cs : List Char) : Bool := (alone? cs).isSome

/-- A text stays inside a group around it, and there is room for the group. -/
structure Contained (source : String) : Prop where
  /-- A closing parenthesis behind a pattern is part of a comment. -/
  inside : ∀ front, front ++ [')'] <+: source.toList → isWritten front → isWritten (front ++ [')'])
  /-- One at the end is not. -/
  ends : isWritten source.toList → ¬ isWritten (source.toList ++ [')'])
  /-- An anchor in front leaves the text within the limits, or it is beyond them without one. -/
  room : ∀ item ∈ alone? source.toList, ∀ p ∈ item.pattern,
    (item.anchored.depth ≤ nestLimit ∧ (sequence [.assert .textStart, p]).fits) ↔
      item.depth ≤ nestLimit ∧ p.fits

instance (source : String) : Decidable (Contained source) :=
  decidable_of_iff
    ((∀ front ∈ source.toList.inits, front ++ [')'] <+: source.toList →
        isWritten front → isWritten (front ++ [')'])) ∧
      (isWritten source.toList → ¬ isWritten (source.toList ++ [')'])) ∧
      ∀ item ∈ alone? source.toList, ∀ p ∈ item.pattern,
        (item.anchored.depth ≤ nestLimit ∧ (sequence [.assert .textStart, p]).fits) ↔
          item.depth ≤ nestLimit ∧ p.fits)
    ⟨fun h => ⟨fun front hf => h.1 front ((List.mem_inits _ _).mpr ((List.prefix_append ..).trans hf)) hf,
      h.2.1, h.2.2⟩, fun h => ⟨fun front _ => h.inside front, h.ends, h.room⟩⟩

/-- What closes the group is the parenthesis at the end, and nothing before it. -/
theorem read?_anchored {source : String} (h : Contained source) :
    read? [anchorGroup] (.start {} false) [] (source.toList ++ [')']) =
      (alone? source.toList).map Item.anchored := by
  cases alone : alone? source.toList with
  | some item =>
    have ends : alone? (source.toList ++ [')']) = none := by
      simpa [isWritten, alone] using h.ends
    obtain ⟨inner, counts, rfl, e⟩ | comment := read?_inside anchorGroup alone
    · exact e.trans (congrArg some (close_pushGroup counts))
    · cases ends.symm.trans comment
  | none =>
    refine Option.eq_none_iff_forall_ne_some.mpr fun item e => ?_
    have e : read? ([] ++ [anchorGroup]) (.start {} false) [] (source.toList ++ [')']) = some item := e
    obtain ⟨front, rest, inner, names, split, -, before, unopened, -⟩ := read?_closes e
    have before : alone? front = some inner.close := before
    obtain rfl | ⟨rest, c, rfl⟩ := List.eq_nil_or_concat rest
    · obtain ⟨whole, -⟩ := List.append_inj' split rfl
      rw [← whole, alone] at before
      cases before
    · have whole : source.toList = front ++ ')' :: rest := by
        rw [List.concat_eq_append, ← List.cons_append, ← List.append_assoc] at split
        exact (List.append_inj' split rfl).1
      have opened := h.inside front ⟨rest, by simp [whole]⟩ (by rw [isWritten, before]; rfl)
      rw [isWritten, alone?, unopened] at opened
      cases opened

/-- The anchored text of a contained pattern is the pattern with the condition that the text begins there. -/
theorem anchored?_eq {source : String} (h : Contained source) :
    anchored? source = (parse? source).map fun p => sequence [.assert .textStart, p] := by
  have whole : ("^(?:" ++ source ++ ")").toList = '^' :: '(' :: '?' :: ':' :: (source.toList ++ [')']) := by
    simp
  rw [anchored?, parse?_eq, parse?_eq, whole, read?_opening, read?_anchored h]
  cases alone : alone? source.toList with
  | none => rfl
  | some item =>
    obtain ⟨_ | p, depth⟩ := item
    · rfl
    have room : (depth + 2 ≤ nestLimit ∧ (sequence [.assert .textStart, p]).fits) ↔
        depth ≤ nestLimit ∧ p.fits := h.room _ alone p rfl
    simp only [Option.map_some, Option.bind_some, Item.anchored, Bool.and_eq_true, decide_eq_true_eq, room]
    split <;> rfl

end SceneGrammar.Pattern
