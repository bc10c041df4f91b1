import Mathlib.Data.Nat.Basic
import Mathlib.Logic.Relation
import Mathlib.Order.Basic
import Mathlib.Tactic.Tauto
import SceneGrammar.Proofs.Pattern.Match

/-!
# The search for matches

A pattern is carried along a text with marks on its sets. What marks stand for is said by two relations:
a marked pattern spans what it could match afresh (`Marked.Spans`), and it is ongoing up to where a match
can end that has come to one of its marks (`Marked.Ongoing`). Reading a character moves the marks on by
exactly that character (`Marked.ongoing_shift`), if all that is noted of the parts is right
(`Marked.Sound`), and it stays right. So the search finds a match exactly if there is one
(`Pattern.isMatch_iff`).
-/

namespace SceneGrammar

namespace Pattern

/-! ## Repetitions -/

section Times
variable {R S : Spot → Spot → Prop} {s t u : Spot} {k m n : Nat}

/-- Once is the relation itself. -/
lemma times_one : Times R 1 s t ↔ R s t := by simp [Times]

/-- A sum of times is one number of times and then the other. -/
lemma times_add : Times R (m + n) s t ↔ ∃ u, Times R m s u ∧ Times R n u t := by
  induction m generalizing s with
  | zero => simp [Times]
  | succ m ih =>
    rw [Nat.succ_add]
    simp only [Times, ih]
    exact ⟨fun ⟨u, hr, v, h⟩ => ⟨v, ⟨u, hr, h.1⟩, h.2⟩, fun ⟨v, ⟨u, hr, h⟩, h'⟩ => ⟨u, hr, v, h, h'⟩⟩

/-- Some number of times is the closure of the relation. -/
lemma times_star : (∃ n, Times R n s t) ↔ Relation.ReflTransGen R s t := by
  constructor
  · rintro ⟨n, h⟩
    induction n generalizing s with
    | zero => exact h ▸ .refl
    | succ n ih =>
      obtain ⟨u, hu, h⟩ := h
      exact .head hu (ih h)
  · intro h
    induction h using Relation.ReflTransGen.head_induction_on with
    | refl => exact ⟨0, rfl⟩
    | head hu _ ih =>
      obtain ⟨n, h⟩ := ih
      exact ⟨n + 1, _, hu, h⟩

/-- To do something or nothing a number of times is to do it at most that often. -/
lemma times_or_idle :
    Times (fun s t => R s t ∨ s = t) k s t ↔ ∃ n ≤ k, Times R n s t := by
  induction k generalizing s with
  | zero => simp [Times]
  | succ k ih =>
    constructor
    · rintro ⟨u, hu | rfl, h⟩
      · obtain ⟨n, hn, h⟩ := ih.mp h
        exact ⟨n + 1, Nat.succ_le_succ hn, u, hu, h⟩
      · obtain ⟨n, hn, h⟩ := ih.mp h
        exact ⟨n, hn.trans k.le_succ, h⟩
    · rintro ⟨n | n, hn, h⟩
      · exact ⟨s, .inr rfl, ih.mpr ⟨0, k.zero_le, h⟩⟩
      · obtain ⟨u, hu, h⟩ := h
        exact ⟨u, .inl hu, ih.mpr ⟨n, Nat.le_of_succ_le_succ hn, h⟩⟩

/-- A relation leads on in a text: it either stays where it is or leaves less of the text. -/
def LeadsOn (R : Spot → Spot → Prop) : Prop :=
  ∀ ⦃s t⦄, R s t → s = t ∨ t.rest.length < s.rest.length

/-- One relation after the other leads on if both do. -/
lemma LeadsOn.comp (hr : LeadsOn R) (hs : LeadsOn S) : LeadsOn fun s t => ∃ u, R s u ∧ S u t := by
  rintro s t ⟨u, h, k⟩
  obtain rfl | lt := hr h
  · exact hs k
  · obtain rfl | lt' := hs k
    · exact .inr lt
    · exact .inr (lt'.trans lt)

/-- A relation that leads on does so any number of times. -/
lemma LeadsOn.times (h : LeadsOn R) : LeadsOn (Times R n) := by
  induction n with
  | zero => exact fun _ _ => .inl
  | succ n ih => exact h.comp ih

/-- The closure of a relation that leads on does so too. -/
lemma LeadsOn.star (h : LeadsOn R) : LeadsOn (Relation.ReflTransGen R) := by
  intro s t hst
  obtain ⟨n, hn⟩ := times_star.mpr hst
  exact h.times hn

/-- What is done again and again and leads on begins with a step that does. -/
lemma LeadsOn.exists_step (h : LeadsOn R) (hst : Relation.ReflTransGen R s t)
    (lt : t.rest.length < s.rest.length) :
    ∃ u, u.rest.length < s.rest.length ∧ R s u ∧ Relation.ReflTransGen R u t := by
  induction hst using Relation.ReflTransGen.head_induction_on with
  | refl => exact absurd lt (lt_irrefl _)
  | head hu hst ih =>
    obtain rfl | less := h hu
    · exact ih lt
    · exact ⟨_, less, hu, hst⟩

/-- No more of the text is left where a relation leads on. -/
lemma LeadsOn.length_le (h : LeadsOn R) (hst : R s t) : t.rest.length ≤ s.rest.length := by
  obtain rfl | lt := h hst
  · exact le_rfl
  · exact lt.le

/-- Relations that agree on short texts agree when they are repeated there. -/
lemma LeadsOn.times_congr (h : LeadsOn R) (same : ∀ {s t}, s.rest.length < k → (R s t ↔ S s t))
    (hs : s.rest.length < k) : Times R n s t ↔ Times S n s t := by
  induction n generalizing s with
  | zero => exact Iff.rfl
  | succ n ih =>
    constructor
    · rintro ⟨u, hu, hst⟩
      exact ⟨u, (same hs).mp hu, (ih ((h.length_le hu).trans_lt hs)).mp hst⟩
    · rintro ⟨u, hu, hst⟩
      have hu := (same hs).mpr hu
      exact ⟨u, hu, (ih ((h.length_le hu).trans_lt hs)).mpr hst⟩

/-- With more repetitions than there are characters, one of them stays where it is: it can be left out,
and another one can be put beside it. -/
lemma LeadsOn.exists_idle (h : LeadsOn R) (hn : s.rest.length ≤ n) (hst : Times R (n + 1) s t) :
    Times R n s t ∧ Times R (n + 2) s t := by
  induction n generalizing s with
  | zero =>
    obtain ⟨u, hu, rfl⟩ := hst
    obtain rfl | lt := h hu
    · exact ⟨rfl, s, hu, s, hu, rfl⟩
    · exact absurd lt (by omega)
  | succ n ih =>
    obtain ⟨u, hu, hst⟩ := hst
    obtain rfl | lt := h hu
    · exact ⟨hst, s, hu, s, hu, hst⟩
    · obtain ⟨less, more⟩ := ih (by omega) hst
      exact ⟨⟨u, hu, less⟩, u, hu, more⟩

/-- Beyond the number of characters it does not matter how often something is repeated. -/
lemma LeadsOn.times_stable (h : LeadsOn R) (hk : s.rest.length < k) (hkn : k ≤ n) :
    Times R n s t ↔ Times R k s t := by
  induction hkn with
  | refl => exact Iff.rfl
  | @step n hn ih =>
    have hn : k ≤ n := hn
    obtain ⟨n, rfl⟩ : ∃ m, n = m + 1 := ⟨n - 1, by omega⟩
    rw [← ih]
    exact ⟨fun hst => (h.exists_idle (by omega) hst).1, fun hst => (h.exists_idle (by omega) hst).2⟩

/-- More times than characters are left come to as many as are left and one. -/
lemma LeadsOn.times_min (h : LeadsOn R) (hk : s.rest.length < k) :
    Times R (min n k) s t ↔ Times R n s t := by
  obtain le | le := Nat.le_total n k
  · rw [Nat.min_eq_left le]
  · rw [Nat.min_eq_right le]
    exact (h.times_stable hk le).symm

/-- So does a bound beyond the number of characters. -/
lemma LeadsOn.exists_times_min (h : LeadsOn R) (hk : s.rest.length < k) :
    (∃ j ≤ min n k, Times R j s t) ↔ ∃ j ≤ n, Times R j s t := by
  constructor
  · rintro ⟨j, hj, hst⟩
    exact ⟨j, hj.trans (Nat.min_le_left ..), hst⟩
  · rintro ⟨j, hj, hst⟩
    exact ⟨min j k, by omega, (h.times_min hk).mpr hst⟩

end Times

/-- Where a match of a pattern ends is not before where it begins. -/
lemma leadsOn_matches {p : Pattern} : LeadsOn p.Matches := by
  induction p with
  | empty => exact fun _ _ => .inl
  | text cs =>
    intro s t h
    cases cs with
    | nil => exact .inl h.eq_of_nil.symm
    | cons c cs =>
      have length := h.length
      simp only [List.length_cons] at length
      exact .inr (by omega)
  | set S =>
    rintro s t ⟨c, -, h⟩
    have length := h.length
    simp only [List.length_singleton] at length
    exact .inr (by omega)
  | assert a => exact fun _ _ h => .inl h.2
  | seq p q hp hq => exact hp.comp hq
  | alt p q hp hq => exact fun _ _ h => h.elim (hp ·) (hq ·)
  | repeated p least most lazy hp =>
    rintro s t ⟨n, -, -, h⟩
    exact hp.times h
  | group p hp => exact hp

end Pattern

open Pattern

namespace Marked

/-- What a marked pattern can match, marks aside. -/
def Spans : Marked → Spot → Spot → Prop
  | .empty, s, t => s = t
  | .set S _, s, t => ∃ c, S.contains c ∧ Spot.Reads [c] s t
  | .assert a _, s, t => a.holds s.place ∧ s = t
  | .seq _ p q, s, t => ∃ u, p.Spans s u ∧ q.Spans u t
  | .alt _ p q, s, t => p.Spans s t ∨ q.Spans s t
  | .star _ p, s, t => Relation.ReflTransGen p.Spans s t

/-- A match that has come to a mark at one spot can end at another one. -/
def Ongoing : Marked → Spot → Spot → Prop
  | .set _ marked, s, t => marked ∧ s = t
  | .seq _ p q, s, t => (∃ u, p.Ongoing s u ∧ q.Spans u t) ∨ q.Ongoing s t
  | .alt _ p q, s, t => p.Ongoing s t ∨ q.Ongoing s t
  | .star _ p, s, t => ∃ u, p.Ongoing s u ∧ Relation.ReflTransGen p.Spans u t
  | _, _, _ => False

/-- What is noted of the parts is right at a place. -/
def Sound (place : Place) : Marked → Prop
  | .assert a holds => holds = a.holds place
  | .seq m p q => p.Sound place ∧ q.Sound place ∧ m = (p.andThen q).marks
  | .alt m p q => p.Sound place ∧ q.Sound place ∧ m = (p.orElse q).marks
  | .star m p => p.Sound place ∧ m = p.anyTimes.marks
  | _ => True

variable {p q : Marked} {place : Place} {s t : Spot}

/-! ## What is noted -/

/-- Matches lead on in the text. -/
lemma leadsOn_spans : LeadsOn p.Spans := by
  induction p with
  | empty => exact fun _ _ => .inl
  | set S =>
    rintro s t ⟨c, -, h⟩
    have := h.length
    simp only [List.length_singleton] at this
    exact .inr (by omega)
  | assert a => exact fun _ _ h => .inl h.2
  | seq _ p q hp hq => exact hp.comp hq
  | alt _ p q hp hq => exact fun _ _ h => h.elim (hp ·) (hq ·)
  | star _ p hp => exact hp.star

/-- Matches that have come to a mark lead on in the text. -/
lemma leadsOn_ongoing : LeadsOn p.Ongoing := by
  induction p with
  | empty => exact fun _ _ => False.elim
  | set S => exact fun _ _ h => .inl h.2
  | assert a => exact fun _ _ => False.elim
  | seq _ p q hp hq => exact fun _ _ h => h.elim (hp.comp leadsOn_spans ·) (hq ·)
  | alt _ p q hp hq => exact fun _ _ h => h.elim (hp ·) (hq ·)
  | star _ p hp => exact hp.comp leadsOn_spans.star

/-- Something that leads on and comes back has stayed. -/
lemma comp_self_iff {R S : Spot → Spot → Prop} (hr : LeadsOn R) (hs : LeadsOn S) :
    (∃ u, R s u ∧ S u s) ↔ R s s ∧ S s s := by
  constructor
  · rintro ⟨u, h, k⟩
    obtain rfl | lt := hr h
    · exact ⟨h, k⟩
    · exact absurd (hs.length_le k) (by omega)
  · exact fun h => ⟨s, h⟩

/-- A pattern passes a spot if it can match no characters there. -/
lemma passes_iff (h : p.Sound s.place) : p.marks.passes ↔ p.Spans s s := by
  induction p with
  | empty => simp [marks, Spans]
  | set S marked =>
    simp only [marks, Spans, Bool.false_eq_true, false_iff]
    rintro ⟨c, -, h⟩
    have := h.length
    simp at this
  | assert a holds =>
    obtain rfl : holds = a.holds s.place := h
    simp [marks, Spans]
  | seq m p q hp hq =>
    obtain ⟨soundp, soundq, rfl⟩ := h
    show (p.marks.passes && q.marks.passes) = true ↔ ∃ u, p.Spans s u ∧ q.Spans u s
    rw [comp_self_iff leadsOn_spans leadsOn_spans, Bool.and_eq_true, hp soundp, hq soundq]
  | alt m p q hp hq =>
    obtain ⟨soundp, soundq, rfl⟩ := h
    show (p.marks.passes || q.marks.passes) = true ↔ p.Spans s s ∨ q.Spans s s
    rw [Bool.or_eq_true, hp soundp, hq soundq]
  | star m p =>
    obtain ⟨-, rfl⟩ := h
    exact iff_of_true rfl .refl

/-- A mark can end a pattern if a match that has come to it can end at once. -/
lemma ends_iff (h : p.Sound s.place) : p.marks.ends ↔ p.Ongoing s s := by
  induction p with
  | empty => simp [marks, Ongoing]
  | set S marked => simp [marks, Ongoing]
  | assert a holds => simp [marks, Ongoing]
  | seq m p q hp hq =>
    obtain ⟨soundp, soundq, rfl⟩ := h
    show (q.marks.ends || (p.marks.ends && q.marks.passes)) = true ↔
      (∃ u, p.Ongoing s u ∧ q.Spans u s) ∨ q.Ongoing s s
    rw [comp_self_iff leadsOn_ongoing leadsOn_spans, Bool.or_eq_true, Bool.and_eq_true, hp soundp,
      hq soundq, passes_iff soundq, or_comm]
  | alt m p q hp hq =>
    obtain ⟨soundp, soundq, rfl⟩ := h
    show (p.marks.ends || q.marks.ends) = true ↔ p.Ongoing s s ∨ q.Ongoing s s
    rw [Bool.or_eq_true, hp soundp, hq soundq]
  | star m p hp =>
    obtain ⟨sound, rfl⟩ := h
    show p.marks.ends = true ↔ ∃ u, p.Ongoing s u ∧ Relation.ReflTransGen p.Spans u s
    rw [comp_self_iff leadsOn_ongoing leadsOn_spans.star, hp sound]
    exact ⟨fun h => ⟨h, .refl⟩, And.left⟩

/-- Nothing is ongoing without a mark. -/
lemma not_ongoing (h : p.Sound place) (bare : p.marks.any = false) : ¬ p.Ongoing s t := by
  induction p generalizing s t with
  | empty => exact id
  | set S marked =>
    obtain rfl : marked = false := bare
    exact fun h => by cases h.1
  | assert a => exact id
  | seq m p q hp hq =>
    obtain ⟨soundp, soundq, rfl⟩ := h
    have none : (p.marks.any || q.marks.any) = false := bare
    rw [Bool.or_eq_false_iff] at none
    rintro (⟨u, h, -⟩ | h)
    · exact hp soundp none.1 h
    · exact hq soundq none.2 h
  | alt m p q hp hq =>
    obtain ⟨soundp, soundq, rfl⟩ := h
    have none : (p.marks.any || q.marks.any) = false := bare
    rw [Bool.or_eq_false_iff] at none
    exact fun h => h.elim (hp soundp none.1) (hq soundq none.2)
  | star m p hp =>
    obtain ⟨sound, rfl⟩ := h
    rintro ⟨u, h, -⟩
    exact hp sound bare h

/-- What is noted of a pattern without conditions is right everywhere. -/
lemma Sound.move {place' : Place} (h : p.Sound place) (steady : p.marks.steady) : p.Sound place' := by
  induction p with
  | empty => trivial
  | set S => trivial
  | assert a => cases steady
  | seq m p q hp hq =>
    obtain ⟨soundp, soundq, rfl⟩ := h
    have both : (p.marks.steady && q.marks.steady) = true := steady
    rw [Bool.and_eq_true] at both
    exact ⟨hp soundp both.1, hq soundq both.2, rfl⟩
  | alt m p q hp hq =>
    obtain ⟨soundp, soundq, rfl⟩ := h
    have both : (p.marks.steady && q.marks.steady) = true := steady
    rw [Bool.and_eq_true] at both
    exact ⟨hp soundp both.1, hq soundq both.2, rfl⟩
  | star m p hp =>
    obtain ⟨sound, rfl⟩ := h
    exact ⟨hp sound steady, rfl⟩

/-! ## Reading a character -/

variable {start : Bool} {c : Char} {next : Place}

/-- A part that is left alone has no mark and no condition, and no mark comes to it. -/
lemma idle_of_not {m : Marks} (h : ¬ (start || m.any || !m.steady) = true) :
    start = false ∧ m.any = false ∧ m.steady = true := by
  simpa [and_assoc] using h

/-- Moving the marks on does not change what is matched. -/
lemma spans_shift : (p.shift start c next).Spans s t ↔ p.Spans s t := by
  induction p generalizing start s t with
  | seq m p q hp hq =>
    simp only [shift]
    split
    · show (∃ u, (shift _ c next p).Spans s u ∧ (shift _ c next q).Spans u t) ↔ _
      simp only [hp, hq]
      exact Iff.rfl
    · exact Iff.rfl
  | alt m p q hp hq =>
    simp only [shift]
    split
    · show (shift _ c next p).Spans s t ∨ (shift _ c next q).Spans s t ↔ _
      simp only [hp, hq]
      exact Iff.rfl
    · exact Iff.rfl
  | star m p hp =>
    simp only [shift]
    split
    · show Relation.ReflTransGen (shift _ c next p).Spans s t ↔ _
      rw [show (shift _ c next p).Spans = p.Spans from funext fun _ => funext fun _ => propext hp]
      exact Iff.rfl
    · exact Iff.rfl
  | _ => exact Iff.rfl

/-- What is noted of the parts is right at the next place once the marks have moved on. -/
lemma sound_shift (h : p.Sound place) : (p.shift start c next).Sound next := by
  induction p generalizing start with
  | empty => trivial
  | set S => trivial
  | assert a => rfl
  | seq m p q hp hq =>
    simp only [shift]
    split
    · exact ⟨hp h.1, hq h.2.1, rfl⟩
    · next still => exact h.move (p := .seq m p q) (idle_of_not still).2.2
  | alt m p q hp hq =>
    simp only [shift]
    split
    · exact ⟨hp h.1, hq h.2.1, rfl⟩
    · next still => exact h.move (p := .alt m p q) (idle_of_not still).2.2
  | star m p hp =>
    simp only [shift]
    split
    · exact ⟨hp h.1, rfl⟩
    · next still => exact h.move (p := .star m p) (idle_of_not still).2.2

/-- A match goes on from a spot if it has come to a mark there, or begins there if it may. -/
def Goes (start : Bool) (p : Marked) (s t : Spot) : Prop := p.Ongoing s t ∨ start ∧ p.Spans s t

/-- Matches that go on lead on in the text. -/
lemma leadsOn_goes : LeadsOn (Goes start p) :=
  fun _ _ h => h.elim (leadsOn_ongoing ·) fun h => leadsOn_spans h.2

/-- A match ends where it stands if a mark does, or if the pattern matches nothing and may begin. -/
lemma goes_self_iff (h : p.Sound s.place) :
    Goes start p s s ↔ (p.marks.ends || (start && p.marks.passes)) := by
  show p.Ongoing s s ∨ start ∧ p.Spans s s ↔ _
  rw [← ends_iff h, ← passes_iff h, Bool.or_eq_true, Bool.and_eq_true]

/-- What goes on to something beyond a number of characters does so in its first part, or else after it
at the same spot. -/
lemma comp_beyond_iff {R S : Spot → Spot → Prop} (hr : LeadsOn R) (hs : LeadsOn S) {n : Nat}
    (hn : s.rest.length = n + 1) :
    t.rest.length ≤ n ∧ (∃ u, R s u ∧ S u t) ↔
      (∃ u, (u.rest.length ≤ n ∧ R s u) ∧ S u t) ∨ (t.rest.length ≤ n ∧ R s s ∧ S s t) := by
  constructor
  · rintro ⟨ht, u, h, k⟩
    obtain rfl | lt := hr h
    · exact .inr ⟨ht, h, k⟩
    · exact .inl ⟨u, ⟨by omega, h⟩, k⟩
  · rintro (⟨u, ⟨hu, h⟩, k⟩ | ⟨ht, h, k⟩)
    · exact ⟨(hs.length_le k).trans hu, u, h, k⟩
    · exact ⟨ht, s, h, k⟩

/-- In a part that is left alone nothing is ongoing, and nothing goes on from it. -/
lemma ongoing_idle_iff {m : Marks} {u : Spot} {n : Nat} (h : p.Sound place) (hm : p.marks = m)
    (still : ¬ (start || m.any || !m.steady) = true) :
    p.Ongoing u t ↔ t.rest.length ≤ n ∧ Goes start p s t := by
  obtain ⟨rfl, bare, -⟩ := idle_of_not still
  have nothing : ∀ {s}, ¬ p.Ongoing s t := not_ongoing h (hm ▸ bare)
  refine iff_of_false nothing ?_
  rintro ⟨-, h' | ⟨⟨⟩, -⟩⟩
  exact nothing h'

/-- After a character has been read, just what went on before it goes on, if it goes beyond it. -/
theorem ongoing_shift {b : Option Char} {cs : List Char}
    (h : p.Sound (Spot.place ⟨b, c :: cs⟩)) :
    (p.shift start c ⟨some c, cs.head?⟩).Ongoing ⟨some c, cs⟩ t ↔
      t.rest.length ≤ cs.length ∧ Goes start p ⟨b, c :: cs⟩ t := by
  have hn : (Spot.mk b (c :: cs)).rest.length = cs.length + 1 := rfl
  induction p generalizing start t with
  | empty =>
    refine iff_of_false id ?_
    rintro ⟨ht, h' | ⟨-, rfl⟩⟩
    · exact h'
    · exact Nat.not_succ_le_self _ ht
  | assert a =>
    refine iff_of_false id ?_
    rintro ⟨ht, h' | ⟨-, -, rfl⟩⟩
    · exact h'
    · exact Nat.not_succ_le_self _ ht
  | set S marked =>
    show (start && S.contains c) = true ∧ _ = t ↔ _ ∧ ((marked = true ∧ _ = t) ∨ _)
    constructor
    · rintro ⟨hc, rfl⟩
      rw [Bool.and_eq_true] at hc
      exact ⟨le_rfl, .inr ⟨hc.1, c, hc.2, .cons .nil⟩⟩
    · rintro ⟨ht, ⟨-, rfl⟩ | ⟨hstart, d, hd, hst⟩⟩
      · exact absurd ht (Nat.not_succ_le_self _)
      · obtain ⟨rest, e, hst⟩ := Spot.reads_cons_iff.mp hst
        cases e
        exact ⟨by rw [hstart, hd]; rfl, hst.eq_of_nil.symm⟩
  | seq m p q hp hq =>
    obtain ⟨soundp, soundq, rfl⟩ := h
    have hp : ∀ {start t}, _ ↔ _ := fun {start t} => @hp t start soundp
    have hq : ∀ {start t}, _ ↔ _ := fun {start t} => @hq t start soundq
    simp only [shift]
    split
    · have whole : Goes start (p.andThen q) ⟨b, c :: cs⟩ t ↔
          (∃ u, Goes start p ⟨b, c :: cs⟩ u ∧ q.Spans u t) ∨ q.Ongoing ⟨b, c :: cs⟩ t := by
        show ((∃ u, p.Ongoing _ u ∧ q.Spans u t) ∨ q.Ongoing _ t) ∨
          start = true ∧ (∃ u, p.Spans _ u ∧ q.Spans u t) ↔ _
        constructor
        · rintro ((⟨u, k, l⟩ | k) | ⟨hstart, u, k, l⟩)
          · exact .inl ⟨u, .inl k, l⟩
          · exact .inr k
          · exact .inl ⟨u, .inr ⟨hstart, k⟩, l⟩
        · rintro (⟨u, k | ⟨hstart, k⟩, l⟩ | k)
          · exact .inl (.inl ⟨u, k, l⟩)
          · exact .inr ⟨hstart, u, k, l⟩
          · exact .inl (.inr k)
      show (∃ u, (shift _ c _ p).Ongoing _ u ∧ (shift _ c _ q).Spans u t) ∨
        (shift _ c _ q).Ongoing _ t ↔ _ ∧ Goes start (p.andThen q) _ t
      rw [whole, and_or_left, comp_beyond_iff leadsOn_goes leadsOn_spans hn, hq]
      simp only [hp, spans_shift]
      rw [goes_self_iff soundp, Goes, and_or_left]
      exact (or_congr_right or_comm).trans or_assoc.symm
    · next still => exact ongoing_idle_iff (p := p.andThen q) ⟨soundp, soundq, rfl⟩ rfl still
  | alt m p q hp hq =>
    obtain ⟨soundp, soundq, rfl⟩ := h
    have hp : ∀ {start t}, _ ↔ _ := fun {start t} => @hp t start soundp
    have hq : ∀ {start t}, _ ↔ _ := fun {start t} => @hq t start soundq
    simp only [shift]
    split
    · show (shift _ c _ p).Ongoing _ t ∨ (shift _ c _ q).Ongoing _ t ↔
        _ ∧ ((p.Ongoing _ t ∨ q.Ongoing _ t) ∨ start = true ∧ (p.Spans _ t ∨ q.Spans _ t))
      rw [hp, hq, Goes, Goes]
      tauto
    · next still => exact ongoing_idle_iff (p := p.orElse q) ⟨soundp, soundq, rfl⟩ rfl still
  | star m p hp =>
    obtain ⟨sound, rfl⟩ := h
    simp only [shift]
    split
    · have moved : ∀ {start}, (shift start c ⟨some c, cs.head?⟩ p).Spans = p.Spans :=
        funext fun _ => funext fun _ => propext spans_shift
      show (∃ u, (shift _ c _ p).Ongoing _ u ∧ Relation.ReflTransGen (shift _ c _ p).Spans u t) ↔
        _ ∧ ((∃ u, p.Ongoing _ u ∧ Relation.ReflTransGen p.Spans u t) ∨
          start = true ∧ Relation.ReflTransGen p.Spans _ t)
      simp only [hp sound, moved]
      constructor
      · rintro ⟨u, ⟨hu, k⟩, l⟩
        refine ⟨(leadsOn_spans.star.length_le l).trans hu, ?_⟩
        obtain k | ⟨hstart, k⟩ := k
        · exact .inl ⟨u, k, l⟩
        · obtain hstart | ends := Bool.or_eq_true .. ▸ hstart
          · exact .inr ⟨hstart, .head k l⟩
          · exact .inl ⟨_, (ends_iff sound).mp ends, .head k l⟩
      · -- a match that begins at the spot itself has a first step that reads the character
        have begins : ∀ {start}, start = true → t.rest.length ≤ cs.length →
            Relation.ReflTransGen p.Spans ⟨b, c :: cs⟩ t →
            ∃ u, (u.rest.length ≤ cs.length ∧ Goes start p ⟨b, c :: cs⟩ u) ∧
              Relation.ReflTransGen p.Spans u t := by
          intro start hstart ht l
          obtain ⟨u, hu, k, l⟩ := leadsOn_spans.exists_step l (Nat.lt_succ_of_le ht)
          exact ⟨u, ⟨Nat.le_of_lt_succ hu, .inr ⟨hstart, k⟩⟩, l⟩
        rintro ⟨ht, ⟨u, k, l⟩ | ⟨hstart, l⟩⟩
        · obtain rfl | lt := leadsOn_ongoing k
          · exact begins (by rw [show p.anyTimes.marks.ends = true from (ends_iff sound).mpr k, Bool.or_true])
              ht l
          · exact ⟨u, ⟨Nat.le_of_lt_succ lt, .inl k⟩, l⟩
        · exact begins (by rw [hstart, Bool.true_or]) ht l
    · next still => exact ongoing_idle_iff (p := p.anyTimes) ⟨sound, rfl⟩ rfl still

/-! ## The search -/

/-- A match is found at a spot if one is ongoing that can end there, or one can begin and end there. -/
lemma isFound_iff (h : p.Sound s.place) : p.isFound ↔ p.Ongoing s s ∨ p.Spans s s := by
  show (p.marks.ends || p.marks.passes) = true ↔ _
  rw [Bool.or_eq_true, ends_iff h, passes_iff h]

/-- The search finds where a match can end that is ongoing, or that begins in the rest of the text. -/
theorem search_iff {b : Option Char} {cs : List Char} (h : p.Sound (Spot.place ⟨b, cs⟩)) :
    p.search cs ↔ (∃ t, p.Ongoing ⟨b, cs⟩ t) ∨ ∃ ds s t, Spot.Reads ds ⟨b, cs⟩ s ∧ p.Spans s t := by
  have found : p.isFound → (∃ t, p.Ongoing ⟨b, cs⟩ t) ∨
      ∃ ds s t, Spot.Reads ds ⟨b, cs⟩ s ∧ p.Spans s t := fun k =>
    ((isFound_iff h).mp k).imp (fun k => ⟨_, k⟩) (fun k => ⟨[], _, _, .nil, k⟩)
  induction cs generalizing p b with
  | nil =>
    refine ⟨found, fun k => (isFound_iff h).mpr ?_⟩
    obtain ⟨t, k⟩ | ⟨_, s, t, ⟨⟩, k⟩ := k
    · obtain rfl | lt := leadsOn_ongoing k
      · exact .inl k
      · exact absurd lt (Nat.not_lt_zero _)
    · obtain rfl | lt := leadsOn_spans k
      · exact .inr k
      · exact absurd lt (Nat.not_lt_zero _)
  | cons c cs ih =>
    have sound : (p.shift true c ⟨some c, cs.head?⟩).Sound (Spot.place ⟨some c, cs⟩) := sound_shift h
    have later := ih sound fun k =>
      ((isFound_iff sound).mp k).imp (fun k => ⟨_, k⟩) (fun k => ⟨[], _, _, .nil, k⟩)
    show (p.isFound || (p.shift true c ⟨some c, cs.head?⟩).search cs) = true ↔ _
    constructor
    · intro k
      obtain k | k := Bool.or_eq_true .. ▸ k
      · exact found k
      obtain ⟨t, k⟩ | ⟨ds, s, t, hs, k⟩ := later.mp k
      · obtain ⟨-, k | ⟨-, k⟩⟩ := (ongoing_shift h).mp k
        · exact .inl ⟨t, k⟩
        · exact .inr ⟨[], _, t, .nil, k⟩
      · exact .inr ⟨c :: ds, s, t, .cons hs, spans_shift.mp k⟩
    · intro k
      rw [Bool.or_eq_true]
      have beyond : ∀ {t}, t.rest.length < (c :: cs).length → Goes true p ⟨b, c :: cs⟩ t →
          (p.shift true c ⟨some c, cs.head?⟩).search cs = true := fun lt k =>
        later.mpr (.inl ⟨_, (ongoing_shift h).mpr ⟨Nat.le_of_lt_succ lt, k⟩⟩)
      obtain ⟨t, k⟩ | ⟨_, s, t, hs | hs, k⟩ := k
      · obtain rfl | lt := leadsOn_ongoing k
        · exact .inl ((isFound_iff h).mpr (.inl k))
        · exact .inr (beyond lt (.inl k))
      · obtain rfl | lt := leadsOn_spans k
        · exact .inl ((isFound_iff h).mpr (.inr k))
        · exact .inr (beyond lt (.inr ⟨rfl, k⟩))
      · exact .inr (later.mpr (.inr ⟨_, s, t, hs, spans_shift.mpr k⟩))

/-! ## Patterns without marks -/

/-- A pattern without marks, sound at a place. -/
structure Bare (place : Place) (p : Marked) : Prop where
  sound : p.Sound place
  bare : p.marks.any = false

/-- One pattern without marks and another behind it have no marks. -/
lemma Bare.andThen (hp : p.Bare place) (hq : q.Bare place) : (p.andThen q).Bare place :=
  ⟨⟨hp.sound, hq.sound, rfl⟩, by
    show (p.marks.any || q.marks.any) = false
    rw [hp.bare, hq.bare]
    rfl⟩

/-- Two patterns without marks as alternatives have no marks. -/
lemma Bare.orElse (hp : p.Bare place) (hq : q.Bare place) : (p.orElse q).Bare place :=
  ⟨⟨hp.sound, hq.sound, rfl⟩, by
    show (p.marks.any || q.marks.any) = false
    rw [hp.bare, hq.bare]
    rfl⟩

/-- A pattern without marks has none when it is repeated. -/
lemma Bare.anyTimes (h : p.Bare place) : p.anyTimes.Bare place := ⟨⟨h.sound, rfl⟩, h.bare⟩

/-- Copies of a pattern without marks have none. -/
lemma Bare.copies (h : p.Bare place) (n : Nat) : (p.copies n).Bare place := by
  induction n using Nat.strongRecOn with
  | _ n ih =>
    unfold Marked.copies
    split
    · split
      · exact ⟨trivial, rfl⟩
      · exact h
    · have half := ih (n / 2) (by omega)
      simp only
      split
      · exact half.andThen half
      · exact h.andThen (half.andThen half)

/-- A text as a pattern has no marks. -/
lemma bare_ofChars (cs : List Char) : (ofChars cs).Bare place := by
  induction cs with
  | nil => exact ⟨trivial, rfl⟩
  | cons c cs ih =>
    have one : (Marked.set (.single c) false).Bare place := ⟨trivial, rfl⟩
    cases cs with
    | nil => exact one
    | cons d cs => exact one.andThen ih

/-- Every pattern is without marks in the beginning. -/
lemma bare_ofPattern (places : Nat) (p : Pattern) : (ofPattern place places p).Bare place := by
  induction p with
  | empty => exact ⟨trivial, rfl⟩
  | text cs => exact bare_ofChars cs
  | set S => exact ⟨trivial, rfl⟩
  | assert a => exact ⟨rfl, rfl⟩
  | seq p q hp hq => exact hp.andThen hq
  | alt p q hp hq => exact hp.orElse hq
  | repeated p least most lazy hp =>
    refine (hp.copies _).andThen ?_
    cases most with
    | some m => exact (hp.orElse (q := .empty) ⟨trivial, rfl⟩).copies _
    | none => exact hp.anyTimes
  | group p hp => exact hp

/-- Copies of a pattern span what it spans time and again. -/
lemma spans_copies {n : Nat} : (p.copies n).Spans s t ↔ Times p.Spans n s t := by
  induction n using Nat.strongRecOn generalizing s t with
  | _ n ih =>
    unfold copies
    split
    · next small =>
      split
      · next e =>
        subst e
        exact Iff.rfl
      · obtain rfl : n = 1 := by omega
        exact times_one.symm
    · have half : ∀ {s t}, ((p.copies (n / 2)).andThen (p.copies (n / 2))).Spans s t ↔
          Times p.Spans (n / 2 + n / 2) s t := by
        intro s t
        rw [times_add]
        show (∃ u, (p.copies (n / 2)).Spans s u ∧ (p.copies (n / 2)).Spans u t) ↔ _
        simp only [ih (n / 2) (by omega)]
      simp only
      split
      · rw [half, show n / 2 + n / 2 = n by omega]
      · show (∃ u, p.Spans s u ∧ ((p.copies (n / 2)).andThen (p.copies (n / 2))).Spans u t) ↔ _
        obtain ⟨m, rfl⟩ : ∃ m, n = m + 1 := ⟨n - 1, by omega⟩
        simp only [half, show (m + 1) / 2 + (m + 1) / 2 = m by omega]
        exact Iff.rfl

/-- A set of a single character has that one only. -/
lemma single_contains_iff {c d : Char} : (Text.CharSet.single c).contains d ↔ d = c := by
  have code : (Text.CharSet.single c).contains d =
      if d.toNat < c.toNat then false else if c.toNat < d.toNat then false else true := by
    show Text.CharSet.search #[(c.toNat, c.toNat)] d.toNat (Nat.log2 1 + 2) 0 1 = _
    rw [show Nat.log2 1 = 0 by decide]
    simp [Text.CharSet.search]
  rw [code, ← Char.toNat_inj]
  grind

/-- A text is spanned where it is read. -/
lemma spans_ofChars {cs : List Char} : (ofChars cs).Spans s t ↔ Spot.Reads cs s t := by
  induction cs generalizing s with
  | nil => exact ⟨fun e => e ▸ .nil, fun h => h.eq_of_nil.symm⟩
  | cons c cs ih =>
    have one : ∀ {t}, (Marked.set (.single c) false).Spans s t ↔ Spot.Reads [c] s t := by
      intro t
      show (∃ d, (Text.CharSet.single c).contains d ∧ Spot.Reads [d] s t) ↔ _
      simp only [single_contains_iff, exists_eq_left]
    cases cs with
    | nil => exact one
    | cons d cs =>
      show (∃ u, (Marked.set (.single c) false).Spans s u ∧ (ofChars (d :: cs)).Spans u t) ↔ _
      rw [show c :: d :: cs = [c] ++ d :: cs from rfl, Spot.reads_append_iff]
      simp only [one, ih]

/-- A pattern spans what it matches, on texts that are shorter than the number of copies that its
repetitions are cut down to. -/
theorem spans_ofPattern {places : Nat} {p : Pattern} (hs : s.rest.length < places) :
    (ofPattern place places p).Spans s t ↔ p.Matches s t := by
  induction p generalizing s t with
  | empty => exact Iff.rfl
  | text cs => exact spans_ofChars
  | set S => exact Iff.rfl
  | assert a => exact Iff.rfl
  | seq p q hp hq =>
    show (∃ u, (ofPattern place places p).Spans s u ∧ (ofPattern place places q).Spans u t) ↔
      ∃ u, p.Matches s u ∧ q.Matches u t
    simp only [hp hs]
    exact exists_congr fun u => and_congr_right fun h => hq ((leadsOn_matches.length_le h).trans_lt hs)
  | alt p q hp hq => exact or_congr (hp hs) (hq hs)
  | repeated p least most lazy hp =>
    have times : ∀ {n s t}, s.rest.length < places →
        (Times (ofPattern place places p).Spans n s t ↔ Times p.Matches n s t) :=
      fun hs => leadsOn_spans.times_congr hp hs
    -- What stands behind the repetitions that there have to be.
    obtain ⟨rest, whole, more⟩ : ∃ rest, ofPattern place places (.repeated p least most lazy) =
          ((ofPattern place places p).copies (min least places)).andThen rest ∧
        ∀ {u}, u.rest.length < places →
          (rest.Spans u t ↔ ∃ j, (∀ m ∈ most, j ≤ m - least) ∧ Times p.Matches j u t) := by
      cases most with
      | some m =>
        refine ⟨_, rfl, fun {u} hu => ?_⟩
        rw [spans_copies]
        show Times (fun s t => (ofPattern place places p).Spans s t ∨ s = t) _ u t ↔ _
        rw [times_or_idle, leadsOn_spans.exists_times_min hu]
        simp only [times hu, Option.mem_some_iff, forall_eq']
      | none =>
        refine ⟨_, rfl, fun {u} hu => ?_⟩
        show Relation.ReflTransGen (ofPattern place places p).Spans u t ↔ _
        rw [← times_star]
        simp [times hu]
    rw [whole]
    show (∃ u, ((ofPattern place places p).copies (min least places)).Spans s u ∧ rest.Spans u t) ↔
      ∃ n, least ≤ n ∧ (∀ m ∈ most, n ≤ max least m) ∧ Times p.Matches n s t
    simp only [spans_copies, times hs, leadsOn_matches.times_min hs]
    constructor
    · rintro ⟨u, first, k⟩
      obtain ⟨j, hj, k⟩ := (more ((leadsOn_matches.times.length_le first).trans_lt hs)).mp k
      refine ⟨least + j, Nat.le_add_right .., fun m hm => ?_, times_add.mpr ⟨u, first, k⟩⟩
      have := hj m hm
      omega
    · rintro ⟨n, hn, hm, k⟩
      obtain ⟨j, rfl⟩ := Nat.exists_eq_add_of_le hn
      obtain ⟨u, first, k⟩ := times_add.mp k
      refine ⟨u, first, (more ((leadsOn_matches.times.length_le first).trans_lt hs)).mpr ⟨j, ?_, k⟩⟩
      intro m h
      have := hm m h
      omega
  | group p hp => exact hp hs

end Marked

/-- The search finds a match of a pattern exactly if some part of the text is one. -/
theorem Pattern.isMatch_iff (p : Pattern) (text : String) :
    p.isMatch text ↔ ∃ cs s t, Spot.Reads cs (.start text.toList) s ∧ p.Matches s t := by
  have bare : Marked.Bare (Spot.start text.toList).place _ :=
    Marked.bare_ofPattern (text.toList.length + 1) p
  show (Marked.ofPattern (Spot.start text.toList).place (text.toList.length + 1) p).search
    text.toList = true ↔ _
  rw [Marked.search_iff bare.sound]
  have short : ∀ {cs s}, Spot.Reads cs (.start text.toList) s →
      s.rest.length < text.toList.length + 1 := by
    intro cs s h
    have length : text.toList.length = _ := h.length
    omega
  constructor
  · rintro (⟨t, k⟩ | ⟨cs, s, t, h, k⟩)
    · exact absurd k (Marked.not_ongoing bare.sound bare.bare)
    · exact ⟨cs, s, t, h, (Marked.spans_ofPattern (short h)).mp k⟩
  · rintro ⟨cs, s, t, h, k⟩
    exact .inr ⟨cs, s, t, h, (Marked.spans_ofPattern (short h)).mpr k⟩

/-- With the condition that the text begins there in front of it, a pattern is found where one of its
matches begins at the first character. -/
theorem Pattern.isMatch_sequence_textStart (p : Pattern) (text : String) :
    (sequence [.assert .textStart, p]).isMatch text ↔ p.Begins text := by
  simp only [isMatch_iff, matches_sequence, AllMatch, exists_eq_right]
  constructor
  · rintro ⟨cs, s, t, h, _, ⟨first, rfl⟩, k⟩
    obtain rfl := h.eq_start (Option.isNone_iff_eq_none.mp first)
    exact ⟨t, k⟩
  · rintro ⟨t, k⟩
    exact ⟨[], _, t, .nil, _, ⟨rfl, rfl⟩, k⟩

end SceneGrammar
