import Mathlib.Tactic.Lemma
import SceneGrammar.Pattern.Marked

/-!
# What patterns match

A match of a pattern is a pair of spots in a text, where it begins and where it ends. This is said for
each kind of pattern by itself, without a machine. A spot knows the character before it and all the text
behind it, which is what the conditions of a pattern look at. A sequence in normal form matches what its
patterns match one after the other (`Pattern.matches_sequence`).
-/

namespace SceneGrammar

/-- A place between two characters of a text, with the text behind it. -/
structure Spot where
  before : Option Char
  rest : List Char

namespace Spot

/-- The place of a spot by its neighbours. -/
def place (s : Spot) : Place := ⟨s.before, s.rest.head?⟩

/-- The spot where a text begins. -/
def start (cs : List Char) : Spot := ⟨none, cs⟩

/-- Some characters stand between two spots. -/
inductive Reads : List Char → Spot → Spot → Prop where
  | nil {s} : Reads [] s s
  | cons {c cs b rest t} : Reads cs ⟨some c, rest⟩ t → Reads (c :: cs) ⟨b, c :: rest⟩ t

variable {s t : Spot}

/-- Reading takes its characters off the text. -/
lemma Reads.length {cs : List Char} (h : Reads cs s t) :
    s.rest.length = cs.length + t.rest.length := by
  induction h with
  | nil => simp
  | cons _ ih =>
    simp only [List.length_cons] at ih ⊢
    omega

/-- Reading nothing stays where it is. -/
lemma Reads.eq_of_nil (h : Reads [] s t) : t = s := by
  cases h
  rfl

/-- Reading begins with the first character. -/
lemma reads_cons_iff {c : Char} {cs : List Char} :
    Reads (c :: cs) s t ↔ ∃ rest, s.rest = c :: rest ∧ Reads cs ⟨some c, rest⟩ t := by
  constructor
  · rintro (_ | h)
    exact ⟨_, rfl, h⟩
  · obtain ⟨b, rest⟩ := s
    rintro ⟨rest, rfl, h⟩
    exact .cons h

/-- Two texts in a row are read one after the other. -/
lemma reads_append_iff {cs ds : List Char} :
    Reads (cs ++ ds) s t ↔ ∃ u, Reads cs s u ∧ Reads ds u t := by
  constructor
  · intro h
    induction cs generalizing s with
    | nil => exact ⟨s, .nil, h⟩
    | cons c cs ih =>
      obtain ⟨rest, e, h⟩ := reads_cons_iff.mp h
      obtain ⟨u, hu, hd⟩ := ih h
      exact ⟨u, reads_cons_iff.mpr ⟨rest, e, hu⟩, hd⟩
  · rintro ⟨u, hu, hd⟩
    induction hu with
    | nil => exact hd
    | cons _ ih => exact .cons (ih hd)

/-- Only at its start a text has no character before a spot. -/
lemma Reads.eq_start {cs text : List Char} (h : Reads cs (start text) t) (first : t.before = none) :
    t = start text := by
  have later : ∀ {s : Spot} {c cs}, Reads (c :: cs) s t → t.before ≠ none := by
    intro s c cs h
    induction cs generalizing s c with
    | nil =>
      obtain ⟨rest, -, h⟩ := reads_cons_iff.mp h
      rw [h.eq_of_nil]
      simp
    | cons d cs ih =>
      obtain ⟨rest, -, h⟩ := reads_cons_iff.mp h
      exact ih h
  cases cs with
  | nil => exact h.eq_of_nil
  | cons c cs => exact absurd first (later h)

end Spot

namespace Pattern

/-- Something that leads from spots to spots, carried out a number of times. -/
def Times (R : Spot → Spot → Prop) : Nat → Spot → Spot → Prop
  | 0, s, t => s = t
  | n + 1, s, t => ∃ u, R s u ∧ Times R n u t

/-- A pattern matches what stands between two spots. A repetition that allows for less than it asks for
is carried out as often as it asks for. -/
def Matches : Pattern → Spot → Spot → Prop
  | .empty, s, t => s = t
  | .text cs, s, t => Spot.Reads cs s t
  | .set S, s, t => ∃ c, S.contains c ∧ Spot.Reads [c] s t
  | .assert a, s, t => a.holds s.place ∧ s = t
  | .seq p q, s, t => ∃ u, p.Matches s u ∧ q.Matches u t
  | .alt p q, s, t => p.Matches s t ∨ q.Matches s t
  | .repeated p least most _, s, t =>
    ∃ n, least ≤ n ∧ (∀ m ∈ most, n ≤ max least m) ∧ Times p.Matches n s t
  | .group p, s, t => p.Matches s t

/-- A match of the pattern begins at the first character of a text. -/
def Begins (p : Pattern) (text : String) : Prop := ∃ t, p.Matches (.start text.toList) t

/-! ## Sequences -/

/-- Patterns match one after the other. -/
def AllMatch : List Pattern → Spot → Spot → Prop
  | [], s, t => s = t
  | p :: ps, s, t => ∃ u, p.Matches s u ∧ AllMatch ps u t

variable {s t : Spot}

/-- Patterns in two rows match one row after the other. -/
lemma allMatch_append {ps qs : List Pattern} :
    AllMatch (ps ++ qs) s t ↔ ∃ u, AllMatch ps s u ∧ AllMatch qs u t := by
  induction ps generalizing s with
  | nil => simp [AllMatch]
  | cons p ps ih =>
    simp only [List.cons_append, AllMatch, ih]
    exact ⟨fun ⟨u, hp, v, h⟩ => ⟨v, ⟨u, hp, h.1⟩, h.2⟩, fun ⟨v, ⟨u, hp, h⟩, h'⟩ => ⟨u, hp, v, h, h'⟩⟩

/-- A single pattern in a row matches by itself. -/
lemma allMatch_one {p : Pattern} : AllMatch [p] s t ↔ p.Matches s t := by
  simp [AllMatch]

/-- A pattern matches as its parts do in a row. -/
lemma allMatch_parts {p : Pattern} : AllMatch p.parts s t ↔ p.Matches s t := by
  induction p generalizing s t with
  | empty => exact Iff.rfl
  | seq p q _ ih =>
    show (∃ u, p.Matches s u ∧ AllMatch q.parts u t) ↔ ∃ u, p.Matches s u ∧ q.Matches u t
    simp only [ih]
  | _ => exact allMatch_one

/-- The sequence of some patterns matches as they do in a row. -/
lemma matches_ofParts {ps : List Pattern} : (ofParts ps).Matches s t ↔ AllMatch ps s t := by
  induction ps generalizing s with
  | nil => exact Iff.rfl
  | cons p ps ih =>
    cases ps with
    | nil => exact allMatch_one.symm
    | cons q ps =>
      show (∃ u, p.Matches s u ∧ (ofParts (q :: ps)).Matches u t) ↔
        ∃ u, p.Matches s u ∧ AllMatch (q :: ps) u t
      simp only [ih]

/-- Neighbouring texts match what their characters match as one text. -/
lemma allMatch_joinTexts {ps : List Pattern} : AllMatch (joinTexts ps) s t ↔ AllMatch ps s t := by
  induction ps generalizing s with
  | nil => exact Iff.rfl
  | cons p ps ih =>
    have tail : AllMatch (p :: joinTexts ps) s t ↔ AllMatch (p :: ps) s t := by
      simp only [AllMatch, ih]
    cases p with
    | text cs =>
      simp only [joinTexts]
      split
      · next ds qs e =>
        rw [← tail, e]
        simp only [AllMatch, Matches, Spot.reads_append_iff]
        exact ⟨fun ⟨v, ⟨u, hc, hd⟩, h⟩ => ⟨u, hc, v, hd, h⟩,
          fun ⟨u, hc, v, hd, h⟩ => ⟨v, ⟨u, hc, hd⟩, h⟩⟩
      · exact tail
    | _ => exact tail

/-- A sequence matches what its patterns match one after the other. -/
theorem matches_sequence {ps : List Pattern} : (sequence ps).Matches s t ↔ AllMatch ps s t := by
  show (ofParts (joinTexts (ps.flatMap parts))).Matches s t ↔ _
  rw [matches_ofParts, allMatch_joinTexts]
  induction ps generalizing s with
  | nil => exact Iff.rfl
  | cons p ps ih =>
    simp only [List.flatMap_cons, allMatch_append, allMatch_parts, ih]
    exact Iff.rfl

end Pattern

end SceneGrammar
