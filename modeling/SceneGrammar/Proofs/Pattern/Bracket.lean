import SceneGrammar.Proofs.Pattern.Notation

/-!
# Bracketed classes are nearsighted

What reads a class looks no further than its closing bracket. Between brackets a closing parenthesis is a
member like others, so that the range a member may begin is where a reader can lapse; what comes after a
member is always read with it.
-/

namespace SceneGrammar.Pattern

variable (sw : Switches)

/-! ## Members -/

/-- Reading a member does not look behind it, unless nothing follows the brace of a boundary. -/
lemma nearsighted_readMember : Nearsighted (Stranded sw) (readMember sw) :=
  .cons (fun c => .ite (fun _ => nearsighted_readEscape sw) fun _ => .pure (Escape.char c false)) rfl
    fun _ _ => rfl

section
variable {w w' : List Char} (hw : Verge w w')
include hw

/-- Both sides of a verge begin with the same characters, but for a parenthesis. -/
lemma Verge.head_iff {c : Char} (hc : c ≠ ')') (cs : List Char) :
    (cs ++ w').head? = some c ↔ (cs ++ w).head? = some c := by
  cases cs with
  | nil => cases hw <;> simp [hc.symm]
  | cons d cs => rfl

/-- Blanks are dropped in front of either side of a verge as without it. -/
lemma Verge.dropBlanks_append (cs : List Char) :
    dropBlanks (cs ++ w) = dropBlanks cs ++ w ∧ dropBlanks (cs ++ w') = dropBlanks cs ++ w' := by
  have stays : dropBlanks w = w ∧ dropBlanks w' = w' := by
    cases hw <;> simp [dropBlanks, blank_paren]
  unfold dropBlanks at stays ⊢
  rw [List.dropWhile_append, List.dropWhile_append, stays.1, stays.2]
  split
  · next blank => simp [List.isEmpty_iff.mp blank]
  · exact ⟨rfl, rfl⟩

/-- What a dash in front of it has to know is the same before a verge. -/
lemma ahead?_verge {c : Char} (hc : c ≠ ')') (cs : List Char) :
    sw.ahead? (cs ++ w') = some c ↔ sw.ahead? (cs ++ w) = some c := by
  unfold Switches.ahead?
  split
  · rw [(hw.dropBlanks_append cs).1, (hw.dropBlanks_append cs).2]
    cases dropBlanks cs with
    | nil => cases hw <;> simp [hc.symm]
    | cons d ds =>
      by_cases sign : d = '#'
      · subst sign
        simp only [List.cons_append, (hw.dropBlanks_append ds).1, (hw.dropBlanks_append ds).2]
        exact hw.head_iff hc _
      · simp [sign]
  · exact hw.head_iff hc cs

end

/-- The characters between two members. -/
def between? (sw : Switches) : Escape → Escape → Option Text.CharSet
  | .char x _, .char y _ => charRange? sw x y
  | _, _ => none

/-- Whether what is ahead makes a member of its own, and not the end of a range. -/
def isAlone (sw : Switches) (c : Char) (after : List Char) : Bool :=
  c ≠ '-' || sw.ahead? after = some ']' || sw.ahead? after = some '-'

/-- What follows a member. -/
def readEnd (sw : Switches) (first : Escape) : List Char → Option (Text.CharSet × List Char)
  | [] => none
  | c :: after =>
    if isAlone sw c after then (first.toSet? sw).bind fun s => some (s, c :: after)
    else (readMember sw (sw.next after)).bind fun p => (between? sw first p.1).bind fun s => some (s, p.2)

/-- A range is a member and what follows it. -/
lemma readRange_eq (cs : List Char) :
    readRange sw cs = (readMember sw cs).bind fun p => readEnd sw p.1 (sw.next p.2) := by
  unfold readRange
  cases readMember sw cs with
  | none => rfl
  | some p =>
    obtain ⟨first, rest⟩ := p
    simp only [Option.bind_eq_bind, Option.bind_some]
    cases sw.next rest with
    | nil => rfl
    | cons c after =>
      show (if isAlone sw c after = true then _ else _) = if isAlone sw c after = true then _ else _
      by_cases alone : isAlone sw c after = true
      · rw [if_pos alone, if_pos alone]
        cases first.toSet? sw <;> rfl
      · rw [if_neg alone, if_neg alone]
        cases readMember sw (sw.next after) with
        | none => rfl
        | some p =>
          obtain ⟨last, rest⟩ := p
          cases first <;> cases last <;> rfl

/-- Whether a member stands alone is the same in front of either side of a verge. -/
lemma isAlone_verge {w w' : List Char} (hw : Verge w w') (c : Char) (cs : List Char) :
    isAlone sw c (cs ++ w') = isAlone sw c (cs ++ w) := by
  simp only [isAlone, ahead?_verge sw hw (c := ']') (by decide), ahead?_verge sw hw (c := '-') (by decide)]

/-- A member that makes no range is followed by a character that is still to be read. -/
lemma nearsighted_readEnd (first : Escape) : Nearsighted (fun _ a => a = []) (readEnd sw first) := by
  have ranges : Nearsighted (fun _ a => a = []) fun after => (readMember sw (sw.next after)).bind fun p =>
      (between? sw first p.1).bind fun s => some (s, p.2) :=
    ((nearsighted_readMember sw).next sw).bind_of (fun last => .lift (between? sw first last)) <| by
      rintro _ u a w y ⟨⟨b, rfl⟩, -⟩ e
      cases first <;> cases e
  intro cs s r e
  cases cs with
  | nil => cases e
  | cons c after =>
    simp only [readEnd] at e
    split at e
    · next alone =>
      obtain ⟨t, single, e⟩ := Option.bind_eq_some_iff.mp e
      cases e
      refine ⟨[], rfl, fun w w' a hw hr => ?_⟩
      cases a with
      | nil => exact .inr (.inr rfl)
      | cons d a =>
        obtain ⟨rfl, rfl⟩ := List.cons.inj hr
        left
        exact (if_pos ((isAlone_verge sw hw c a).trans alone)).trans (by rw [single, Option.bind_some]; rfl)
    · next range =>
      obtain ⟨u, rfl, near⟩ := ranges e
      refine ⟨c :: u, rfl, fun w w' a hw hr => ?_⟩
      subst hr
      have still : ∀ {b}, b ++ w = u ++ (a ++ w) → readEnd sw first (c :: (b ++ w')) =
          (readMember sw (sw.next (b ++ w'))).bind fun p =>
            (between? sw first p.1).bind fun s => some (s, p.2) := by
        intro b e
        rw [← e] at range
        show (if isAlone sw c (b ++ w') = true then _ else _) = _
        rw [isAlone_verge sw hw, if_neg range]
      rw [List.cons_append, ← List.append_assoc, still (by simp), List.append_assoc]
      refine (near hw rfl).imp_right (Or.imp_left ?_)
      rintro ⟨rfl, rfl, lost⟩
      exact ⟨rfl, rfl, (still (by simp)).trans lost⟩

/-- A condition is no member, so that none is left stranded. -/
lemma readEnd_assert (a : Assertion) (cs : List Char) : readEnd sw (.assert a) cs = none := by
  cases cs with
  | nil => rfl
  | cons c after =>
    simp only [readEnd]
    split
    · rfl
    · cases readMember sw (sw.next after) <;> rfl

/-- Reading a range does not look behind it, unless nothing follows. -/
lemma nearsighted_readRange : Nearsighted (fun _ a => a = []) (readRange sw) := by
  refine ((nearsighted_readMember sw).bind_of (fun first => (nearsighted_readEnd sw first).next sw)
    ?_).congr (readRange_eq sw)
  rintro _ u a w y ⟨⟨b, rfl⟩, -⟩ e
  cases (readEnd_assert sw b _).symm.trans e

/-! ## Classes -/

/-- The names of classes are in lower case. -/
lemma isLower_of_namedClass {name : List Char} {s : Text.CharSet} (h : namedClass? name = some s) :
    ∀ c ∈ name, c.isLower = true := by
  have letters : (namedClasses.all fun p => p.1.toList.all Char.isLower) = true := by decide
  obtain ⟨ends, found, -⟩ := Option.map_eq_some_iff.mp h
  obtain ⟨l₁, l₂, split, -⟩ := List.lookup_eq_some_iff.mp found
  have lower := List.all_eq_true.mp letters (String.ofList name, ends) (by simp [split])
  simpa using lower

/-- A class by its name up to a colon and a closing bracket. -/
def readClassName (negated : Bool) (cs : List Char) : Option ((Text.CharSet × Bool) × List Char) :=
  match cs.dropWhile (· ≠ ':') with
  | ':' :: ']' :: rest => (namedClass? (cs.takeWhile (· ≠ ':'))).map fun s => ((s, negated), rest)
  | _ => none

/-- A class by its name is read from the name, a colon and a closing bracket. -/
lemma readClassName_eq_some_iff {negated : Bool} {cs rest : List Char} {p : Text.CharSet × Bool} :
    readClassName negated cs = some (p, rest) ↔
      ∃ name, (namedClass? name).map (·, negated) = some p ∧ cs = name ++ ':' :: ']' :: rest := by
  unfold readClassName
  constructor
  · intro e
    split at e
    · next back =>
      obtain ⟨s, known, e⟩ := Option.map_eq_some_iff.mp e
      cases e
      refine ⟨cs.takeWhile (· ≠ ':'), by rw [known]; rfl, ?_⟩
      rw [← back, List.takeWhile_append_dropWhile]
    · cases e
  · rintro ⟨name, h, rfl⟩
    obtain ⟨s, known, rfl⟩ := Option.map_eq_some_iff.mp h
    have keeps : ∀ c ∈ name, decide (c ≠ ':') = true := fun c hc => by
      rw [decide_eq_true_eq]
      rintro rfl
      cases isLower_of_namedClass known _ hc
    rw [List.takeWhile_append_of_pos keeps, List.dropWhile_append_of_pos keeps,
      List.takeWhile_cons_of_neg (by simp), List.dropWhile_cons_of_neg (by simp), List.append_nil]
    simp [known]

/-- There is no parenthesis in the name of a class. -/
lemma paren_not_mem {negated : Bool} {name : List Char} {p : Text.CharSet × Bool}
    (h : (namedClass? name).map (·, negated) = some p) : ')' ∉ name := by
  intro paren
  obtain ⟨s, known, -⟩ := Option.map_eq_some_iff.mp h
  cases isLower_of_namedClass known _ paren

/-- Behind a colon there is the name of a class, negated behind a caret. -/
lemma readNamedClass_colon (cs : List Char) : readNamedClass (':' :: cs) =
    if cs.head? = some '^' then readClassName true cs.tail else readClassName false cs := by
  cases cs with
  | nil => rfl
  | cons c cs =>
    by_cases caret : c = '^'
    · subst caret
      rfl
    · simp only [readNamedClass, List.head?_cons, Option.some.injEq, List.cons.injEq, caret, false_and,
        imp_self, implies_true, if_false]
      rfl

/-- The names of classes hold letters only. -/
lemma outright_readNamedClass : Outright readNamedClass := by
  intro cs p rest e
  obtain _ | ⟨colon, cs⟩ := cs
  · cases e
  by_cases other : colon ≠ ':'
  · simp [readNamedClass, other] at e
  obtain rfl : colon = ':' := not_not.mp other
  rw [readNamedClass_colon] at e
  split at e
  · next caret =>
    obtain ⟨cs, rfl⟩ := List.head?_eq_some_iff.mp caret
    obtain ⟨name, h, split⟩ := readClassName_eq_some_iff.mp e
    obtain rfl : cs = name ++ ':' :: ']' :: rest := split
    refine ⟨':' :: '^' :: name ++ [':', ']'], by simp, fun paren => ?_, fun rest' => ?_⟩
    · exact paren_not_mem h (by simpa using paren)
    · rw [show ':' :: '^' :: name ++ [':', ']'] ++ rest' = ':' :: '^' :: (name ++ ':' :: ']' :: rest') by simp,
        readNamedClass_colon, if_pos List.head?_cons]
      exact readClassName_eq_some_iff.mpr ⟨name, h, rfl⟩
  · next plain =>
    obtain ⟨name, h, rfl⟩ := readClassName_eq_some_iff.mp e
    have front : ∀ rest', (name ++ ':' :: ']' :: rest').head? = (name ++ [':']).head? := fun rest' => by
      cases name <;> rfl
    refine ⟨':' :: name ++ [':', ']'], by simp, fun paren => ?_, fun rest' => ?_⟩
    · exact paren_not_mem h (by simpa using paren)
    · rw [front] at plain
      rw [show ':' :: name ++ [':', ']'] ++ rest' = ':' :: (name ++ ':' :: ']' :: rest') by simp,
        readNamedClass_colon, front, if_neg plain]
      exact readClassName_eq_some_iff.mpr ⟨name, h, rfl⟩

/-- Dashes at the front of a class, with a bound that has to suffice. -/
def dashes? (sw : Switches) : Nat → Members → List Char → Option (Members × List Char)
  | 0, _, _ => none
  | bound + 1, m, cs =>
    match cs with
    | '-' :: rest => dashes? sw bound (m.push (.single '-') 0) (sw.next rest)
    | _ => some (m, cs)

/-- With a bound that suffices, dashes are read as without one. -/
lemma dashes?_eq {bound bound' : Nat} {cs : List Char} (h : cs.length < bound) (h' : cs.length ≤ bound')
    (m : Members) : dashes? sw bound m cs = some (readDashes sw bound' m cs) := by
  induction bound generalizing bound' cs m with
  | zero => cases h
  | succ bound ih =>
    unfold dashes?
    split
    · next rest =>
      obtain ⟨bound', rfl⟩ : ∃ b, bound' = b + 1 := ⟨bound' - 1, by simp at h'; omega⟩
      have shorter := length_next_le sw rest
      simp only [List.length_cons] at h h'
      exact ih (by omega) (by omega) _
    · next other =>
      cases bound' with
      | zero => rfl
      | succ bound' =>
        unfold readDashes
        split
        · exact (other _ rfl).elim
        · rfl

/-- Reading the dashes at the front of a class does not look behind them. -/
lemma nearsighted_readDashes (m : Members) :
    Nearsighted never fun cs => some (readDashes sw cs.length m cs) := by
  have dashes : ∀ bound m, Nearsighted never (dashes? sw bound m) := by
    intro bound
    induction bound with
    | zero => exact fun m => .none
    | succ bound ih =>
      refine fun m => .peek '-' (by decide) (fun _ => rfl) ((ih _).next sw) (fun cs other => ?_) (.pure m)
      unfold dashes?
      split
      · exact (other _ rfl).elim
      · rfl
  have bounded : ∀ m, Bounded fun bound => dashes? sw bound m := by
    intro m bound bound' cs y e h
    induction bound generalizing bound' cs m with
    | zero => cases e
    | succ bound ih =>
      obtain ⟨bound', rfl⟩ : ∃ b, bound' = b + 1 := ⟨bound' - 1, by omega⟩
      simp only [dashes?] at e ⊢
      split at e
      · next rest =>
        exact ih _ e ((length_next_le sw rest).trans_lt (Nat.lt_of_succ_lt_succ h))
      · exact e
  exact (Nearsighted.of_bounded (dashes · m) (bounded m)).congr fun cs =>
    (dashes?_eq sw (Nat.lt_succ_self _) le_rfl m).symm

/-- The sign of a class. -/
def takeSign (sw : Switches) : List Char → Bool × List Char
  | '^' :: rest => (true, sw.next rest)
  | cs => (false, cs)

/-- A closing bracket at the front of a class. -/
def takeBracket (sw : Switches) (m : Members) (cs : List Char) : Members × List Char :=
  match m.sets, cs with
  | [], ']' :: rest => (m.push (.single ']') 0, sw.next rest)
  | _, _ => (m, cs)

/-- A class opens with its sign, then dashes, then a closing bracket. -/
lemma openClass_eq (cs : List Char) : openClass sw cs =
    let (negated, cs) := takeSign sw (sw.next cs)
    let (m, cs) := readDashes sw cs.length {} cs
    (negated, takeBracket sw m cs) := by
  have sign : (match sw.next cs with
      | '^' :: rest => (true, sw.next rest)
      | _ => (false, sw.next cs)) = takeSign sw (sw.next cs) := by
    unfold takeSign
    split <;> rfl
  have bracket : ∀ (negated : Bool) (m : Members) (cs : List Char), (match m.sets, cs with
      | [], ']' :: rest => (negated, m.push (.single ']') 0, sw.next rest)
      | _, _ => (negated, m, cs)) = (negated, takeBracket sw m cs) := by
    intro negated m cs
    unfold takeBracket
    split <;> rfl
  unfold openClass
  dsimp only
  rw [← sign]
  exact bracket _ _ _

/-- Reading what opens a class does not look behind it. -/
lemma nearsighted_openClass : Nearsighted never fun cs =>
    some (((openClass sw cs).1, (openClass sw cs).2.1), (openClass sw cs).2.2) := by
  have sign : Nearsighted never fun cs => some (takeSign sw cs) :=
    .peek '^' (by decide) (fun _ => rfl) ((Nearsighted.pure true).next sw)
      (fun cs other => congrArg some (takeSign.eq_2 sw cs other)) (.pure false)
  have bracket : ∀ m, Nearsighted never fun cs => some (takeBracket sw m cs) := by
    rintro ⟨_ | ⟨s, sets⟩, depth⟩
    · refine .peek ']' (by decide) (fun _ => rfl) ((Nearsighted.pure _).next sw)
        (h := fun cs => some (⟨[], depth⟩, cs)) (fun cs other => ?_) (.pure _)
      unfold takeBracket
      split
      · exact (other _ rfl).elim
      · rfl
    · exact .pure _
  refine ((sign.bind fun negated => (nearsighted_readDashes sw {}).bind fun m =>
    (bracket m).map fun m => (negated, m)).next sw).congr fun cs => ?_
  rw [openClass_eq]
  rfl

/-- What reads the rest of a class, after an operator with its left side and after some members. -/
abbrev MembersReader : Type :=
  Option (SetOp × ClassPart) → Members → List Char → Option (ClassPart × List Char)

/-- The operator of a sign, which is written twice. -/
def readSetOp : List Char → Option (SetOp × List Char)
  | '&' :: '&' :: rest => some (.inter, rest)
  | '-' :: '-' :: rest => some (.diff, rest)
  | '~' :: '~' :: rest => some (.symmDiff, rest)
  | _ => none

/-- A class inside a class, and what follows it. -/
def readInner (sw : Switches) (more : MembersReader) (before : Option (SetOp × ClassPart)) (m : Members)
    (cs : List Char) : Option (ClassPart × List Char) :=
  match readNamedClass cs with
  | some (p, rest) => (sw.complIf? p.2 (sw.fold p.1)).bind fun s => more before (m.push s 0) rest
  | none => (more none (openClass sw cs).2.1 (openClass sw cs).2.2).bind fun p =>
    (closeClass? sw (openClass sw cs).1 p.1).bind fun part => more before (m.push part.set part.depth) p.2

/-- The next part of a class, and what follows it. -/
def readMore (sw : Switches) (more : MembersReader) (before : Option (SetOp × ClassPart)) (m : Members)
    (cs : List Char) : Option (ClassPart × List Char) :=
  match cs with
  | '[' :: rest => readInner sw more before m rest
  | ']' :: rest => some (joinSets sw before m, rest)
  | cs =>
    match readSetOp cs with
    | some (op, rest) => more (some (op, joinSets sw before m)) {} rest
    | none => (readRange sw cs).bind fun p => more before (m.push p.1 0) p.2

/-- The rest of a class is its next part and what the reader makes of the remaining rest. -/
lemma readMembers_succ (bound : Nat) (before : Option (SetOp × ClassPart)) (m : Members) (cs : List Char) :
    readMembers sw (bound + 1) before m cs =
      readMore sw (readMembers sw bound) before m (sw.next cs) := by
  simp only [readMembers]
  split
  · next e =>
    rw [e]
    rfl
  · next rest e =>
    rw [e]
    simp only [readMore, readInner]
    cases readNamedClass rest with
    | none => rfl
    | some p => rfl
  · next e =>
    rw [e]
    rfl
  · next e =>
    rw [e]
    rfl
  · next e =>
    rw [e]
    rfl
  · next e =>
    rw [e]
    rfl
  · next opens closes inter diff symm =>
    have single : readSetOp (sw.next cs) = none := readSetOp.eq_4 _ inter diff symm
    rw [readMore.eq_3 _ _ _ _ _ opens closes, single]
    rfl

/-- An operator is read without looking behind it, and it is no parenthesis. -/
lemma outright_readSetOp : Outright readSetOp := by
  intro cs op rest e
  unfold readSetOp at e
  split at e <;> cases e
  · exact ⟨['&', '&'], rfl, by decide, fun _ => rfl⟩
  · exact ⟨['-', '-'], rfl, by decide, fun _ => rfl⟩
  · exact ⟨['~', '~'], rfl, by decide, fun _ => rfl⟩

/-- What is left behind a reader that looks no further is no longer than the text. -/
lemma Outright.length_le {β : Type} {read : List Char → Option (β × List Char)} (h : Outright read)
    {cs r : List Char} {x : β} (e : read cs = some (x, r)) : r.length ≤ cs.length := by
  obtain ⟨u, rfl, -⟩ := h e
  simp

/-- An operator takes up some of the text. -/
lemma length_readSetOp_lt {cs rest : List Char} {op : SetOp} (e : readSetOp cs = some (op, rest)) :
    rest.length < cs.length := by
  unfold readSetOp at e
  split at e <;> cases e <;> exact Nat.lt_add_of_pos_right Nat.two_pos

/-- A range takes up some of the text. -/
lemma length_readRange_lt {cs rest : List Char} {s : Text.CharSet} (e : readRange sw cs = some (s, rest)) :
    rest.length < cs.length := by
  rw [readRange_eq] at e
  obtain ⟨⟨first, after⟩, member, e⟩ := Option.bind_eq_some_iff.mp e
  have ends := (((nearsighted_readEnd sw first).next sw).suffix e).length_le
  obtain _ | ⟨c, cs⟩ := cs
  · cases member
  refine Nat.lt_succ_of_le (ends.trans ?_)
  simp only [readMember] at member
  split at member
  · exact ((nearsighted_readEscape sw).suffix member).length_le
  · cases member
    exact le_rfl

/-- What opens a class leaves no more than the text. -/
lemma length_openClass_le (cs : List Char) : (openClass sw cs).2.2.length ≤ cs.length :=
  ((nearsighted_openClass sw).suffix rfl).length_le

section
variable {sw} {more more' : MembersReader}
  (shorter : ∀ {before m cs part rest}, more before m cs = some (part, rest) → rest.length < cs.length)
  {before : Option (SetOp × ClassPart)} {m : Members} {cs rest : List Char} {part : ClassPart}
include shorter

/-- The next part of a class leaves less to be read, and depends only on how less is read. -/
lemma readMore_eq_some
    (same : ∀ {before m ds y}, ds.length < cs.length → more before m ds = some y →
      more' before m ds = some y)
    (e : readMore sw more before m cs = some (part, rest)) :
    readMore sw more' before m cs = some (part, rest) ∧ rest.length < cs.length := by
  unfold readMore at e ⊢
  split at e
  · next cs =>
    unfold readInner at e ⊢
    cases named : readNamedClass cs with
    | some p =>
      obtain ⟨p, after⟩ := p
      rw [named] at e
      obtain ⟨s, set, e⟩ := Option.bind_eq_some_iff.mp e
      have less := Nat.lt_succ_of_le (outright_readNamedClass.length_le named)
      exact ⟨Option.bind_eq_some_iff.mpr ⟨s, set, same less e⟩, (shorter e).trans less⟩
    | none =>
      rw [named] at e
      obtain ⟨⟨inner, after⟩, opened, e⟩ := Option.bind_eq_some_iff.mp e
      obtain ⟨part, closed, e⟩ := Option.bind_eq_some_iff.mp e
      have less := Nat.lt_succ_of_le (length_openClass_le sw cs)
      have less' := (shorter opened).trans less
      exact ⟨Option.bind_eq_some_iff.mpr ⟨(inner, after), same less opened,
        Option.bind_eq_some_iff.mpr ⟨part, closed, same less' e⟩⟩, (shorter e).trans less'⟩
  · cases e
    exact ⟨rfl, Nat.lt_succ_self _⟩
  · next opens closes =>
    cases sign : readSetOp cs with
    | some p =>
      obtain ⟨op, after⟩ := p
      simp only [sign] at e ⊢
      have less := length_readSetOp_lt sign
      exact ⟨same less e, (shorter e).trans less⟩
    | none =>
      simp only [sign] at e ⊢
      obtain ⟨⟨s, after⟩, range, e⟩ := Option.bind_eq_some_iff.mp e
      have less := length_readRange_lt sw range
      exact ⟨Option.bind_eq_some_iff.mpr ⟨(s, after), range, same less e⟩, (shorter e).trans less⟩

end

/-- The rest of a class takes up some of the text. -/
lemma length_readMembers_lt {bound : Nat} {before : Option (SetOp × ClassPart)} {m : Members}
    {cs rest : List Char} {part : ClassPart} (e : readMembers sw bound before m cs = some (part, rest)) :
    rest.length < cs.length := by
  induction bound generalizing before m cs part rest with
  | zero => cases e
  | succ bound ih =>
    rw [readMembers_succ] at e
    exact (readMore_eq_some ih (fun _ e => e) e).2.trans_le (length_next_le sw cs)

/-- Reading the rest of a class does not look at its bound. -/
lemma bounded_readMembers (before : Option (SetOp × ClassPart)) (m : Members) :
    Bounded fun bound => readMembers sw bound before m := by
  intro bound bound' cs y e h
  induction bound generalizing bound' cs before m y with
  | zero => cases e
  | succ bound ih =>
    obtain ⟨bound', rfl⟩ : ∃ b, bound' = b + 1 := ⟨bound' - 1, by omega⟩
    simp only [readMembers_succ] at e ⊢
    refine (readMore_eq_some (length_readMembers_lt sw) (fun less e => ih _ _ e ?_) e).1
    have := length_next_le sw cs
    omega

/-- Reading a class inside a class does not look behind what follows it. -/
lemma nearsighted_readInner {more : MembersReader} (hm : ∀ before m, Nearsighted never (more before m))
    (before : Option (SetOp × ClassPart)) (m : Members) : Nearsighted never (readInner sw more before m) := by
  have after : ∀ negated part, Nearsighted never fun cs =>
      (closeClass? sw negated part).bind fun part => more before (m.push part.set part.depth) cs := by
    intro negated part
    cases closeClass? sw negated part with
    | none => exact .none
    | some part => exact hm before (m.push part.set part.depth)
  have named : ∀ p : Text.CharSet × Bool, Nearsighted never fun rest =>
      (sw.complIf? p.2 (sw.fold p.1)).bind fun s => more before (m.push s 0) rest := by
    intro p
    cases sw.complIf? p.2 (sw.fold p.1) with
    | none => exact .none
    | some s => exact hm before (m.push s 0)
  have listed : Nearsighted never fun cs =>
      (more none (openClass sw cs).2.1 (openClass sw cs).2.2).bind fun p =>
        (closeClass? sw (openClass sw cs).1 p.1).bind fun part =>
          more before (m.push part.set part.depth) p.2 :=
    (nearsighted_openClass sw).bind (g := fun p cs => (more none p.2 cs).bind fun q =>
      (closeClass? sw p.1 q.1).bind fun part => more before (m.push part.set part.depth) q.2)
        fun p => (hm none p.2).bind (after p.1)
  exact .orElse outright_readNamedClass (fun e => by simp only [readInner, e]) named
    (fun e => by simp only [readInner, e]) listed

/-- What follows a member is read to the end of the class, and not left where the member ends. -/
lemma nearsighted_readMore {more : MembersReader} (hm : ∀ before m, Nearsighted never (more before m))
    (shorter : ∀ {before m cs part rest}, more before m cs = some (part, rest) → rest.length < cs.length)
    (before : Option (SetOp × ClassPart)) (m : Members) : Nearsighted never (readMore sw more before m) := by
  have range : Nearsighted never fun cs =>
      (readRange sw cs).bind fun p => more before (m.push p.1 0) p.2 := by
    refine (nearsighted_readRange sw).bind_of (fun s => hm before (m.push s 0)) fun {s u a w y} lapse e => ?_
    obtain ⟨rfl, rfl⟩ := List.append_eq_nil_iff.mp lapse
    exact absurd (shorter e) (lt_irrefl _)
  have plain : Nearsighted never fun cs => match readSetOp cs with
      | some (op, rest) => more (some (op, joinSets sw before m)) {} rest
      | none => (readRange sw cs).bind fun p => more before (m.push p.1 0) p.2 :=
    .orElse outright_readSetOp (fun e => by simp only [e])
      (fun op => hm (some (op, joinSets sw before m)) {}) (fun e => by simp only [e]) range
  refine .peekIf (fun c => c == '[' || c == ']') (by decide) (k := fun c rest =>
      if c = '[' then readInner sw more before m rest else some (joinSets sw before m, rest))
    (fun c cs look => ?_) (fun c _ => .ite (fun _ => nearsighted_readInner sw hm before m) fun _ => .pure _)
    (fun cs look => ?_) plain
  · obtain rfl | rfl : c = '[' ∨ c = ']' := by simpa using look
    · rfl
    · rfl
  · refine readMore.eq_3 _ _ _ _ _ ?_ ?_
    · rintro rest rfl
      simp at look
    · rintro rest rfl
      simp at look

/-- Reading the rest of a class does not look behind it. -/
lemma nearsighted_readMembers (bound : Nat) (before : Option (SetOp × ClassPart)) (m : Members) :
    Nearsighted never (readMembers sw bound before m) := by
  induction bound generalizing before m with
  | zero => exact .none
  | succ bound ih =>
    exact ((nearsighted_readMore sw ih (length_readMembers_lt sw) before m).next sw).congr
      (readMembers_succ sw bound before m)

/-- Reading a class does not look behind it. -/
lemma nearsighted_readClass : Nearsighted never (readClass sw) := by
  have members : ∀ p : Bool × Members, Nearsighted never fun cs =>
      (readMembers sw (cs.length + 1) none p.2 cs).bind fun q =>
        (closeClass? sw p.1 q.1).bind fun part => some (part, q.2) := fun p =>
    (Nearsighted.of_bounded (nearsighted_readMembers sw · none p.2) (bounded_readMembers sw none p.2)).bind
      fun part => .lift (closeClass? sw p.1 part)
  refine ((nearsighted_openClass sw).bind members).congr fun cs => ?_
  have enough := (bounded_readMembers sw none (openClass sw cs).2.1).eq
    (Nat.lt_succ_of_le (length_openClass_le sw cs)) (Nat.lt_succ_self _)
  simp only [readClass, Option.bind_some, ← enough]
  rfl

end SceneGrammar.Pattern
