import SceneGrammar.Json.Printer
import SceneGrammar.Json.Reader
import Mathlib.Data.List.TakeWhile
import Mathlib.Tactic.Lemma
import Mathlib.Tactic.SplitIfs

/-!
# Texts and numbers read back

A quoted text is read as what was quoted, whatever follows it. A number is read up to where no
number goes on, so a numeral that is read on its own is read the same before a comma or a bracket.
Whole numbers in the range of binary64 are read as they were written. That the printed text of a
float is read as that float is a property of the two decimal conversions, which `ReadsBack` states
for one float.
-/

namespace SceneGrammar.Json

/-! ## Texts -/

/-- A hexadecimal digit stands for its value. -/
lemma hexDigit?_hexDigit : ∀ d < 16, Text.hexDigit? (hexDigit d) = some d := by decide

/-- The number of a control is read from the digits it is written with. -/
lemma unitValue?_hexDigit {n : Nat} (h : n < 0x20) :
    unitValue? '0' '0' (hexDigit (n / 16)) (hexDigit (n % 16)) = some n := by
  have high := hexDigit?_hexDigit (n / 16) (by omega)
  have low := hexDigit?_hexDigit (n % 16) (by omega)
  have zero : Text.hexDigit? '0' = some 0 := by decide
  simp [unitValue?, Text.hexValue?, zero, high, low]
  omega

/-- The number of a control spells it. -/
lemma spell?_control {c : Char} (h : c.toNat < 0x20) (ps : List Piece) :
    spell? (.unit c.toNat :: ps) = (spell? ps).map (c :: ·) := by
  have low : (0xDC00 ≤ c.toNat && c.toNat ≤ 0xDFFF) = false := by simp; omega
  have high : (0xD800 ≤ c.toNat && c.toNat ≤ 0xDBFF) = false := by simp; omega
  rw [spell?.eq_def]
  simp only [low, high, Bool.false_eq_true, if_false, Char.ofNat_toNat]

/-- A control character is read from its code in four digits. -/
lemma readPieces_control {c : Char} (h : c.toNat < 0x20) (rest : List Char) :
    readPieces
        ('\\' :: 'u' :: '0' :: '0' :: hexDigit (c.toNat / 16) :: hexDigit (c.toNat % 16) :: rest) =
      (readPieces rest).map fun (ps, r) => (.unit c.toNat :: ps, r) := by
  rw [readPieces.eq_def]
  simp [unitValue?_hexDigit h]

/-- A character with a letter of its own is read from the letter behind a backslash. -/
lemma readPieces_letter {e x : Char} (letter : e ≠ 'u') (h : escapeValue? e = some x)
    (rest : List Char) :
    readPieces ('\\' :: e :: rest) = (readPieces rest).map fun (ps, r) => (.char x :: ps, r) := by
  rw [readPieces.eq_def]
  simp [h, letter]

/-- All other characters are read from themselves. -/
lemma readPieces_char {c : Char} (quote : c ≠ '"') (backslash : c ≠ '\\') (h : ¬ c.toNat < 0x20)
    (rest : List Char) :
    readPieces (c :: rest) = (readPieces rest).map fun (ps, r) => (.char c :: ps, r) := by
  rw [readPieces.eq_def]
  simp [quote, backslash, h]

/-- An escaped character is read as one piece, which spells it. -/
lemma readPieces_escape (c : Char) (rest : List Char) :
    ∃ p, (∀ ps, spell? (p :: ps) = (spell? ps).map (c :: ·)) ∧
      readPieces (escape c ++ rest) = (readPieces rest).map fun (ps, r) => (p :: ps, r) := by
  have letter {e x : Char} (other : e ≠ 'u') (h : escapeValue? e = some x) :
      ∃ p, (∀ ps, spell? (p :: ps) = (spell? ps).map (x :: ·)) ∧
        readPieces (['\\', e] ++ rest) = (readPieces rest).map fun (ps, r) => (p :: ps, r) :=
    ⟨.char x, fun ps => by rw [spell?], readPieces_letter other h rest⟩
  unfold escape
  split_ifs with quote backslash newline carriage tab back form control
  · subst quote; exact letter (by decide) rfl
  · subst backslash; exact letter (by decide) rfl
  · subst newline; exact letter (by decide) rfl
  · subst carriage; exact letter (by decide) rfl
  · subst tab; exact letter (by decide) rfl
  · subst back; exact letter (by decide) rfl
  · subst form; exact letter (by decide) rfl
  · exact ⟨.unit c.toNat, spell?_control control, readPieces_control control rest⟩
  · exact ⟨.char c, fun ps => by rw [spell?], readPieces_char quote backslash control rest⟩

/-- The pieces of an escaped text spell the text. -/
lemma readPieces_flatMap (cs rest : List Char) :
    ∃ ps, spell? ps = some cs ∧ readPieces (cs.flatMap escape ++ '"' :: rest) = some (ps, rest) := by
  induction cs with
  | nil => exact ⟨[], by rw [spell?], by rw [readPieces.eq_def]; rfl⟩
  | cons c cs ih =>
    obtain ⟨ps, spelled, read⟩ := ih
    obtain ⟨p, adds, first⟩ := readPieces_escape c (cs.flatMap escape ++ '"' :: rest)
    refine ⟨p :: ps, ?_, ?_⟩
    · rw [adds, spelled]; rfl
    · rw [List.flatMap_cons, List.append_assoc, first, read]; rfl

/-- A quoted text is read as the text. -/
lemma readText_quote (s : String) (rest : List Char) :
    readText (s.toList.flatMap escape ++ '"' :: rest) = some (some s, rest) := by
  obtain ⟨ps, spelled, read⟩ := readPieces_flatMap s.toList rest
  simp [readText, read, spelled]

/-! ## Numbers -/

/-- No number goes on at the front of the characters. -/
def Stops (cs : List Char) : Prop :=
  ∀ c ∈ cs.head?, c.isDigit = false ∧ c ≠ '.' ∧ c ≠ 'e' ∧ c ≠ 'E'

/-- No number goes on at the end of the text. -/
lemma stops_nil : Stops [] := by simp [Stops]

/-- No number goes on at a comma. -/
lemma stops_comma (cs : List Char) : Stops (',' :: cs) := by simp [Stops]

/-- A digit is read in front of the digits that follow. -/
lemma readDigits_cons_digit {c : Char} {cs : List Char} (h : c.isDigit = true) :
    readDigits (c :: cs) = (c :: (readDigits cs).1, (readDigits cs).2) := by
  simp [readDigits, h]

/-- No digits are read where none stands. -/
lemma readDigits_stops {cs : List Char} (h : ∀ c ∈ cs.head?, c.isDigit = false) :
    readDigits cs = ([], cs) := by
  cases cs with
  | nil => rfl
  | cons c cs => simp [readDigits, h c rfl]

/-- Digits are read the same before anything with which no number goes on. -/
lemma readDigits_append (cs : List Char) {rest : List Char} (stops : Stops rest) :
    readDigits (cs ++ rest) = ((readDigits cs).1, (readDigits cs).2 ++ rest) := by
  induction cs with
  | nil => exact readDigits_stops fun c first => (stops c first).1
  | cons c cs ih =>
    by_cases digit : c.isDigit = true
    case pos => rw [List.cons_append, readDigits_cons_digit digit, readDigits_cons_digit digit, ih]
    case neg => simp [readDigits, digit]

/-- What is left behind digits is an end of the text. -/
lemma readDigits_suffix (cs : List Char) : (readDigits cs).2 <:+ cs := List.dropWhile_suffix _

/-- What a reader leaves stood at the end, and it reads the same before anything with which no number
goes on. -/
def Local {β : Type} (read : List Char → Option (β × List Char)) : Prop :=
  ∀ {cs v r}, read cs = some (v, r) →
    r <:+ cs ∧ ∀ {rest}, Stops rest → read (cs ++ rest) = some (v, r ++ rest)

/-- Without a point there is no fraction. -/
lemma readFraction_other {cs : List Char} (h : ∀ c ∈ cs.head?, c ≠ '.') :
    readFraction cs = some (none, cs) := by
  unfold readFraction
  split
  case h_1 => exact absurd rfl (h _ rfl)
  case h_2 => rfl

/-- A fraction is read from its end of the text alone. -/
lemma local_readFraction : Local readFraction := by
  intro cs f r h
  unfold readFraction at h
  split at h
  case h_1 cs =>
    dsimp only at h
    split at h
    case isTrue => cases h
    case isFalse digits =>
      cases h
      refine ⟨(readDigits_suffix cs).trans (List.suffix_cons _ _), fun stops => ?_⟩
      simp only [readFraction, List.cons_append, readDigits_append cs stops]
      rw [if_neg digits]
  case h_2 other =>
    cases h
    refine ⟨List.suffix_refl _, fun stops => readFraction_other ?_⟩
    cases cs with
    | nil => exact fun c first => (stops c first).2.1
    | cons d ds => rintro c ⟨⟩ rfl; exact other ds rfl

/-- The digits of an exponent with its sign before them. -/
def power (negative : Bool) (body : List Char) : Option (Option Int × List Char) :=
  let (ds, rest) := readDigits body
  if ds.isEmpty then none
  else
    let n : Int := Text.decimalValue ds
    some (some (if negative then -n else n), rest)

/-- The digits of an exponent are read from their end of the text alone. -/
lemma local_power (negative : Bool) : Local (power negative) := by
  intro body e r h
  unfold power at h
  dsimp only at h
  split at h
  case isTrue => cases h
  case isFalse digits =>
    cases h
    refine ⟨readDigits_suffix body, fun stops => ?_⟩
    simp only [power, readDigits_append body stops]
    rw [if_neg digits]

/-- A letter is followed by a sign or by digits. -/
lemma readExponent_letter {c : Char} (letter : (c = 'e' || c = 'E') = true) (cs : List Char) :
    readExponent (c :: cs) = match cs with
      | '-' :: r => power true r
      | '+' :: r => power false r
      | r => power false r := by
  unfold readExponent
  dsimp only
  rw [if_pos letter]
  rcases cs with - | ⟨d, ds⟩
  · rfl
  · by_cases minus : d = '-'
    · subst minus; rfl
    · by_cases plus : d = '+'
      · subst plus; rfl
      · simp [minus, plus, power]

/-- Without its letter there is no exponent. -/
lemma readExponent_other {cs : List Char} (h : ∀ c ∈ cs.head?, ¬ (c = 'e' || c = 'E') = true) :
    readExponent cs = some (none, cs) := by
  cases cs with
  | nil => rfl
  | cons c cs =>
    unfold readExponent
    dsimp only
    rw [if_neg (h c rfl)]

/-- An exponent is read from its end of the text alone. -/
lemma local_readExponent : Local readExponent := by
  intro cs e r h
  cases cs with
  | nil =>
    cases h
    refine ⟨List.suffix_refl _, fun stops => readExponent_other fun c first => ?_⟩
    obtain ⟨-, -, lower, upper⟩ := stops c first
    simp [lower, upper]
  | cons c cs =>
    by_cases letter : (c = 'e' || c = 'E') = true
    case neg =>
      have other : ∀ cs, readExponent (c :: cs) = some (none, c :: cs) := fun cs =>
        readExponent_other (by rintro d ⟨⟩; exact letter)
      rw [other] at h
      cases h
      exact ⟨List.suffix_refl _, fun _ => other _⟩
    case pos =>
      have front : ∀ {body r : List Char}, r <:+ body → r <:+ c :: body := fun suffix =>
        suffix.trans (List.suffix_cons _ _)
      rw [readExponent_letter letter] at h
      split at h
      case h_1 cs =>
        obtain ⟨suffix, same⟩ := local_power true h
        refine ⟨front (suffix.trans (List.suffix_cons _ _)), fun stops => ?_⟩
        exact (readExponent_letter letter _).trans (same stops)
      case h_2 cs =>
        obtain ⟨suffix, same⟩ := local_power false h
        refine ⟨front (suffix.trans (List.suffix_cons _ _)), fun stops => ?_⟩
        exact (readExponent_letter letter _).trans (same stops)
      case h_3 minus plus =>
        obtain ⟨suffix, same⟩ := local_power false h
        refine ⟨front suffix, fun {rest} stops => ?_⟩
        rw [List.cons_append, readExponent_letter letter]
        cases cs with
        | nil => cases h
        | cons d ds =>
          rw [List.cons_append]
          split
          case h_1 first => cases first; exact absurd rfl (minus _)
          case h_2 first => cases first; exact absurd rfl (plus _)
          case h_3 => exact same stops

/-- A number without its sign is read from its end of the text alone. -/
lemma local_readMagnitude (negative : Bool) : Local (readMagnitude negative) := by
  intro cs j r h
  unfold readMagnitude at h
  dsimp only at h
  split at h
  case isTrue => cases h
  case isFalse whole =>
    obtain ⟨⟨f, afterFraction⟩, fraction, h⟩ := Option.bind_eq_some_iff.1 h
    obtain ⟨⟨e, last⟩, exponent, h⟩ := Option.bind_eq_some_iff.1 h
    obtain ⟨fractionEnds, fractionSame⟩ := local_readFraction fraction
    obtain ⟨exponentEnds, exponentSame⟩ := local_readExponent exponent
    have left : r = last := by
      split at h
      case isTrue => cases h; rfl
      case isFalse => cases h; rfl
    subst left
    refine ⟨(exponentEnds.trans fractionEnds).trans (readDigits_suffix cs), fun stops => ?_⟩
    unfold readMagnitude
    rw [readDigits_append cs stops]
    dsimp only
    rw [if_neg whole]
    simp only [fractionSame stops, exponentSame stops, Option.bind_eq_bind, Option.bind_some]
    split at h
    case isTrue plain => cases h; rw [if_pos plain]
    case isFalse plain => cases h; rw [if_neg plain]

/-- A number is read the same before anything with which no number goes on. -/
lemma local_readNumber : Local readNumber := by
  intro cs j r h
  unfold readNumber at h
  split at h
  case h_1 cs =>
    obtain ⟨suffix, same⟩ := local_readMagnitude true h
    exact ⟨suffix.trans (List.suffix_cons _ _), same⟩
  case h_2 other =>
    obtain ⟨suffix, same⟩ := local_readMagnitude false h
    refine ⟨suffix, fun stops => ?_⟩
    have read := same stops
    unfold readNumber
    split
    case h_1 first =>
      cases cs with
      | nil => cases h
      | cons c cs => cases first; exact absurd rfl (other cs)
    case h_2 => exact read

/-! ## Whole numbers -/

/-- The digits of a number stand for it. -/
lemma decimalValue_digits (n : Nat) : Text.decimalValue (Decimal.digits n) = n := by
  have step : (fun n c => n * 10 + (c.toNat - '0'.toNat) : Nat → Char → Nat) =
      fun n c => 10 * n + (c.toNat - '0'.toNat) := by
    funext n c
    rw [Nat.mul_comm]
  rw [Text.decimalValue, step]
  exact Nat.ofDigitChars_ten_toDigits

/-- The digits of a number are digits. -/
lemma isDigit_digits {n : Nat} {c : Char} (h : c ∈ Decimal.digits n) : c.isDigit = true :=
  Nat.isDigit_of_mem_toDigits (by decide) (by decide) h

/-- Every number has a digit. -/
lemma digits_ne_nil (n : Nat) : Decimal.digits n ≠ [] := Nat.toDigits_ne_nil

/-- The digits of a number are read to their end. -/
lemma readDigits_digits (n : Nat) : readDigits (Decimal.digits n) = (Decimal.digits n, []) := by
  have all : ∀ c ∈ Decimal.digits n, c.isDigit = true := fun c => isDigit_digits
  rw [readDigits, List.takeWhile_eq_self_iff.2 all, List.dropWhile_eq_nil_iff.2 all]

/-- Only the digits of zero begin with a zero. -/
lemma head_digits {n : Nat} (h : (Decimal.digits n).head? = some '0') : n = 0 := by
  induction n using Nat.strongRecOn with
  | _ n ih =>
    rw [Decimal.digits, Nat.toDigits_eq_if (by decide)] at h
    split at h
    case isTrue small =>
      have digit : ∀ n < 10, some n.digitChar = some '0' → n = 0 := by decide
      exact digit n small h
    case isFalse large =>
      have first : (Decimal.digits (n / 10)).head? = some '0' := by
        cases digits : Nat.toDigits 10 (n / 10) with
        | nil => exact absurd digits Nat.toDigits_ne_nil
        | cons d ds => rw [digits] at h; rw [Decimal.digits, digits]; exact h
      have := ih (n / 10) (by omega) first
      omega

/-- Digits are read as the number, unless it is out of range. -/
lemma readMagnitude_digits (negative : Bool) (n : Nat) :
    readMagnitude negative (Decimal.digits n) = some (wholeValue negative n, []) := by
  have whole : ((Decimal.digits n).isEmpty ||
      ((Decimal.digits n).head? == some '0' && (Decimal.digits n).length ≠ 1)) = false := by
    have := digits_ne_nil n
    by_cases zero : n = 0
    · subst zero; decide
    · have := mt head_digits zero
      simp_all
  unfold readMagnitude
  rw [readDigits_digits]
  dsimp only
  rw [whole]
  simp [readFraction, readExponent, decimalValue_digits]

/-- A whole number in range is read as it was written. -/
lemma readNumber_intText {n : Int} (h : (Decimal.mk n.natAbs 0).toFloat.isInf = false) :
    readNumber (intText n) = some (.int n, []) := by
  unfold intText
  split
  case isTrue negative =>
    have value : wholeValue true n.natAbs = .int n := by
      have other : n.natAbs ≠ 0 := by omega
      have same : -(n.natAbs : Int) = n := by omega
      simp only [wholeValue, h, other, same]
      rfl
    simp only [readNumber]
    rw [readMagnitude_digits, value]
  case isFalse positive =>
    have value : wholeValue false n.natAbs = .int n := by
      have same : (n.natAbs : Int) = n := by omega
      simp only [wholeValue, h, same, Bool.and_false]
      rfl
    unfold readNumber
    split
    case h_1 cs minus =>
      have := isDigit_digits (c := '-') (n := n.natAbs) (by simp [minus])
      cases this
    case h_2 => rw [readMagnitude_digits, value]

/-! ## Floats -/

/-- The text of a float is read as the float. -/
def ReadsBack (x : Float) : Prop := parse? (print (.float x)) = some (.float x)

/-- A numeral: it begins with a digit or a minus, and there are no blanks in it. -/
structure Numeral (cs : List Char) : Prop where
  begins : ∃ c rest, cs = c :: rest ∧ (c = '-' ∨ c.isDigit = true)
  inked : ∀ c ∈ cs, isBlank c = false

/-- A digit is no blank. -/
lemma isBlank_digit {c : Char} (h : c.isDigit = true) : isBlank c = false := by
  simp only [isBlank, Bool.or_eq_false_iff, decide_eq_false_iff_not]
  refine ⟨⟨⟨?_, ?_⟩, ?_⟩, ?_⟩
  all_goals rintro rfl; cases h

/-- A numeral goes on with whatever has no blanks. -/
lemma Numeral.append {cs rest : List Char} (n : Numeral cs) (h : ∀ c ∈ rest, isBlank c = false) :
    Numeral (cs ++ rest) := by
  obtain ⟨c, tail, rfl, first⟩ := n.begins
  refine ⟨⟨c, tail ++ rest, rfl, first⟩, fun d mem => ?_⟩
  cases List.mem_append.1 mem with
  | inl mem => exact n.inked d mem
  | inr mem => exact h d mem

/-- The digits of a number are a numeral. -/
lemma numeral_digits (n : Nat) : Numeral (Decimal.digits n) := by
  refine ⟨?_, fun c h => isBlank_digit (isDigit_digits h)⟩
  cases digits : Decimal.digits n with
  | nil => exact absurd digits (digits_ne_nil n)
  | cons c cs => exact ⟨c, cs, rfl, .inr (isDigit_digits (digits ▸ List.mem_cons_self))⟩

/-- Without a blank in front, there is none in the whole. -/
lemma inked_cons {c : Char} {cs : List Char} (first : isBlank c = false)
    (h : ∀ d ∈ cs, isBlank d = false) : ∀ d ∈ c :: cs, isBlank d = false := by
  simpa using ⟨first, h⟩

/-- A decimal number written out is a numeral. -/
lemma numeral_positionalText (pointZero : Bool) (d : Decimal) :
    Numeral (Decimal.positionalText pointZero d) := by
  have digits := numeral_digits d.significand
  unfold Decimal.positionalText
  dsimp only
  split
  case isTrue =>
    rw [List.append_assoc]
    refine digits.append fun c h => ?_
    cases List.mem_append.1 h with
    | inl zero => rw [List.eq_of_mem_replicate zero]; rfl
    | inr point => cases pointZero <;> simp at point; rcases point with rfl | rfl <;> rfl
  case isFalse =>
    split
    case isTrue some =>
      obtain ⟨c, tail, same, first⟩ := digits.begins
      refine Numeral.append ⟨?_, fun c h => digits.inked c (List.mem_of_mem_take h)⟩
        (inked_cons rfl fun c h => digits.inked c (List.mem_of_mem_drop h))
      obtain ⟨k, places⟩ : ∃ k, ((Decimal.digits d.significand).length + d.exponent).toNat = k + 1 :=
        ⟨_, (Nat.succ_pred (by omega)).symm⟩
      rw [places, same]
      exact ⟨c, tail.take k, rfl, first⟩
    case isFalse =>
      refine ⟨⟨'0', _, rfl, .inr rfl⟩, ?_⟩
      refine inked_cons rfl (inked_cons rfl fun c h => ?_)
      cases List.mem_append.1 h with
      | inl zero => rw [List.eq_of_mem_replicate zero]; rfl
      | inr digit => exact digits.inked c digit

/-- A decimal number with an exponent is a numeral. -/
lemma numeral_scientificText (plusSign : Bool) (d : Decimal) :
    Numeral (Decimal.scientificText plusSign d) := by
  obtain ⟨⟨c, tail, same, first⟩, inked⟩ := numeral_digits d.significand
  rw [same] at inked
  have sign : ∀ s ∈ (if d.leading < 0 then ['-'] else if plusSign then ['+'] else []),
      isBlank s = false := by
    split_ifs
    all_goals simp [isBlank]
  unfold Decimal.scientificText
  rw [same]
  refine (Numeral.append ?mantissa (inked_cons rfl sign)).append (numeral_digits _).inked
  cases tail with
  | nil => exact ⟨⟨c, [], rfl, first⟩, inked⟩
  | cons e tail =>
    refine ⟨⟨c, _, rfl, first⟩, inked_cons (inked c List.mem_cons_self) (inked_cons rfl ?_)⟩
    exact fun d mem => inked d (List.mem_cons_of_mem c mem)

/-- The text of a float that reads back is a numeral. -/
lemma numeral_floatText {x : Float} (h : ReadsBack x) : Numeral (floatText x) := by
  unfold floatText
  split
  case h_1 b finite =>
    have text : Numeral (Decimal.interchange.text (Decimal.shortest Decimal.interchange.tie b)) := by
      unfold Decimal.Layout.text
      split
      case isTrue => exact numeral_positionalText _ _
      case isFalse => exact numeral_scientificText _ _
    unfold Decimal.Layout.shortestText
    split
    case isTrue => exact ⟨⟨'-', _, rfl, .inl rfl⟩, inked_cons rfl text.inked⟩
    case isFalse => exact text
  case h_2 other =>
    have null : floatText x = "null".toList := by
      unfold floatText
      split
      case h_1 b finite => exact absurd finite (other b)
      case h_2 => rfl
    have read : parse? (print (.float x)) = some .null := by
      rw [print, chars, null]
      rfl
    rw [ReadsBack, read] at h
    cases h

/-- A numeral is read as a number. -/
lemma readValue_numeral {cs : List Char} (n : Numeral cs) (bound : Nat) (rest : List Char) :
    readValue (bound + 1) (cs ++ rest) = readNumber (cs ++ rest) := by
  obtain ⟨c, tail, rfl, first⟩ := n.begins
  have plain : ∀ d ∈ ['n', 't', 'f', '"', '[', '{'], c ≠ d := by
    rintro d mem rfl
    cases first with
    | inl minus => subst minus; simp at mem
    | inr digit =>
      simp only [List.mem_cons, List.not_mem_nil, or_false] at mem
      rcases mem with rfl | rfl | rfl | rfl | rfl | rfl <;> cases digit
  simp only [List.mem_cons, List.not_mem_nil, or_false, forall_eq_or_imp, forall_eq] at plain
  obtain ⟨h₁, h₂, h₃, h₄, h₅, h₆⟩ := plain
  rw [List.cons_append, readValue]
  simp only [h₁, h₂, h₃, h₄, h₅, h₆, if_false]

/-- A float that reads back does so before anything with which no number goes on. -/
lemma readNumber_floatText {x : Float} (h : ReadsBack x) :
    readNumber (floatText x) = some (.float x, []) := by
  have n := numeral_floatText h
  have front : skipBlanks (floatText x) = floatText x := by
    obtain ⟨c, tail, same, first⟩ := n.begins
    rw [skipBlanks, same, List.dropWhile_cons, n.inked c (same ▸ List.mem_cons_self)]
    rfl
  have read := readValue_numeral n (2 * (floatText x).length + 1) []
  rw [List.append_nil] at read
  simp only [ReadsBack, parse?, print, chars, String.toList_ofList, ofChars?, front, readBound,
    read] at h
  obtain ⟨⟨j, r⟩, number, h⟩ := Option.bind_eq_some_iff.1 h
  dsimp only at h
  split at h
  case isFalse => cases h
  case isTrue blank =>
    cases h
    have inked : ∀ c ∈ r, isBlank c = false := fun c mem =>
      n.inked c ((local_readNumber number).1.subset mem)
    cases r with
    | nil => exact number
    | cons c r =>
      rw [skipBlanks, List.dropWhile_cons, inked c List.mem_cons_self] at blank
      cases blank

end SceneGrammar.Json
