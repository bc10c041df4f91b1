import SceneGrammar.Proofs.Pattern.Nearsighted

/-!
# The notation of patterns is nearsighted

What reads the bounds of a repetition, an escape or the opening of a group is nearsighted. Readers that take
a bound are given one above the length of what is left, and any such bound does. The one lapse is that of a
boundary, which looks behind a brace whether there is anything.
-/

namespace SceneGrammar.Pattern

variable (sw : Switches)

/-- A bound above the length of the text suffices. -/
def Bounded {β : Type} (F : Nat → List Char → Option β) : Prop :=
  ∀ ⦃bound bound' cs y⦄, F bound cs = some y → cs.length < bound' → F bound' cs = some y

section
variable {β : Type} {lapse : β → List Char → Prop} {F : Nat → List Char → Option (β × List Char)}

/-- Any two bounds above the length of the text give the same. -/
lemma Bounded.eq (h : Bounded F) {bound bound' : Nat} {cs : List Char} (hb : cs.length < bound)
    (hb' : cs.length < bound') : F bound cs = F bound' cs := by
  cases e : F bound cs with
  | some y => exact (h e hb').symm
  | none =>
    cases e' : F bound' cs with
    | none => rfl
    | some y => cases e.symm.trans (h e' hb)

/-- A reader with a bound is nearsighted if it is so for each bound. -/
lemma Nearsighted.of_bounded (hF : ∀ bound, Nearsighted lapse (F bound)) (h : Bounded F) :
    Nearsighted lapse fun cs => F (cs.length + 1) cs := by
  intro cs x r e
  obtain ⟨u, split, near⟩ := hF _ e
  refine ⟨u, split, fun w w' a hw hr => ?_⟩
  have enough : ∀ {ds y}, F (cs.length + 1) ds = some y → F (ds.length + 1) ds = some y :=
    fun e => h e (Nat.lt_succ_self _)
  exact (near hw hr).imp enough (Or.imp_left fun h => ⟨h.1, h.2.1, enough h.2.2⟩)

end

/-- Passing over space makes a text no longer. -/
lemma length_next_le (cs : List Char) : (sw.next cs).length ≤ cs.length := by
  obtain ⟨u, split, -⟩ := sw.next_verge cs
  exact List.IsSuffix.length_le ⟨u, split.symm⟩

/-! ## Repetition -/

/-- Decimal digits, with a bound that has to suffice. -/
def digits? (sw : Switches) : Nat → List Char → Option (List Char × List Char)
  | 0, _ => none
  | _ + 1, [] => some ([], [])
  | bound + 1, c :: cs =>
    if c.isDigit then (digits? sw bound (sw.next cs)).map fun p => (c :: p.1, p.2)
    else some ([], c :: cs)

/-- With a bound above the length of the text the digits are read as without one. -/
lemma digits?_eq {bound : Nat} {cs : List Char} (h : cs.length < bound) :
    digits? sw bound cs = some (readCountDigits sw bound cs) := by
  induction bound generalizing cs with
  | zero => cases h
  | succ bound ih =>
    cases cs with
    | nil => rfl
    | cons c cs =>
      simp only [digits?, readCountDigits]
      split
      · rw [ih ((length_next_le sw cs).trans_lt (Nat.lt_of_succ_lt_succ h))]
        rfl
      · rfl

/-- Reading digits does not look at its bound. -/
lemma bounded_digits? : Bounded (digits? sw) := by
  intro bound bound' cs y e h
  induction bound generalizing bound' cs y with
  | zero => cases e
  | succ bound ih =>
    obtain ⟨bound', rfl⟩ : ∃ b, bound' = b + 1 := ⟨bound' - 1, by omega⟩
    cases cs with
    | nil => exact e
    | cons c cs =>
      simp only [digits?] at e ⊢
      split at e
      · next digit =>
        obtain ⟨p, read, rfl⟩ := Option.map_eq_some_iff.mp e
        rw [if_pos digit, ih read ((length_next_le sw cs).trans_lt (Nat.lt_of_succ_lt_succ h)),
          Option.map_some]
      · next other => rw [if_neg other, e]

/-- Reading the digits of a count does not look behind them. -/
lemma nearsighted_readCountDigits :
    Nearsighted never fun cs => some (readCountDigits sw (cs.length + 1) cs) := by
  have digits : ∀ bound, Nearsighted never (digits? sw bound) := by
    intro bound
    induction bound with
    | zero => exact .none
    | succ bound ih =>
      refine .peekIf (·.isDigit) rfl (k := fun c cs => (digits? sw bound (sw.next cs)).map fun p =>
        (c :: p.1, p.2)) (fun c cs digit => ?_) (fun c _ => (ih.next sw).map (c :: ·))
        (fun cs other => ?_) (.pure [])
      · have digit : c.isDigit = true := digit
        simp only [digits?, if_pos digit]
      · cases cs with
        | nil => rfl
        | cons c cs =>
          have other : c.isDigit = false := other
          simp [digits?, other]
  exact (Nearsighted.of_bounded digits (bounded_digits? sw)).congr fun cs =>
    (digits?_eq sw (Nat.lt_succ_self _)).symm

/-- Reading a count does not look behind it. -/
lemma nearsighted_readCount : Nearsighted never (readCount sw) := by
  refine ((nearsighted_readCountDigits sw).bind
    (g := fun ds rest => if ds.isEmpty || Nat.pow 2 32 ≤ Text.decimalValue ds then none
      else some (Text.decimalValue ds, dropBlanks rest)) fun ds => ?_).dropBlanks.congr fun cs => ?_
  · exact .ite (fun _ => .none) fun _ => (Nearsighted.pure (Text.decimalValue ds)).dropBlanks
  · rfl

/-- Whether a repetition is lazy is read from its next character. -/
lemma nearsighted_readLazy : Nearsighted never fun cs => some (readLazy sw cs) :=
  .peek '?' (by decide) (fun _ => rfl) (.pure (!sw.lazyFirst))
    (fun cs other => congrArg some (readLazy.eq_2 sw cs other)) (.pure sw.lazyFirst)

/-- The upper bound of a counted repetition, up to the closing brace. -/
def readMost (sw : Switches) (least : Nat) : List Char → Option (Option Nat × List Char)
  | ',' :: rest =>
    match sw.next rest with
    | '\x7d' :: rest => some (none, '\x7d' :: rest)
    | rest => (readCount sw rest).map fun p => (some p.1, p.2)
  | rest => some (some least, rest)

/-- What closes a counted repetition. -/
def closeBounds (sw : Switches) (least : Nat) (most : Option Nat) : List Char → Option (Bounds × List Char)
  | '\x7d' :: rest => if most.any (· < least) then none else some (⟨least, most⟩, sw.next rest)
  | _ => none

/-- Bounds in braces are a count, what stands for the greater one and a closing brace. -/
lemma readBounds_eq (cs : List Char) : readBounds sw cs =
    (readCount sw (sw.next cs)).bind fun p =>
      (readMost sw p.1 p.2).bind fun q => closeBounds sw p.1 q.1 q.2 := by
  unfold readBounds
  cases readCount sw (sw.next cs) with
  | none => rfl
  | some p =>
    obtain ⟨least, rest⟩ := p
    simp only [Option.bind_eq_bind, Option.bind_some, Option.pure_def]
    obtain _ | ⟨c, rest⟩ := rest
    · rfl
    by_cases comma : c = ','
    · subst comma
      simp only [readMost]
      obtain _ | ⟨d, ds⟩ := sw.next rest
      · cases readCount sw [] <;> rfl
      by_cases brace : d = '\x7d'
      · subst brace
        rfl
      · simp only [List.cons.injEq, brace, false_and, imp_self, implies_true]
        cases readCount sw (d :: ds) <;> rfl
    · rw [readMost.eq_2 _ _ _ fun _ same => comma (List.cons.inj same).1]
      split
      · next same => exact (comma (List.cons.inj same).1).elim
      · rfl

/-- Reading the greater bound does not look behind it. -/
lemma nearsighted_readMost (least : Nat) : Nearsighted never (readMost sw least) := by
  have brace : Nearsighted never fun cs => match cs with
      | '\x7d' :: rest => some ((none : Option Nat), '\x7d' :: rest)
      | rest => (readCount sw rest).map fun p => (some p.1, p.2) := by
    refine Nearsighted.ahead (· == '\x7d') (by decide) (fun cs look => ?_) (.pure none)
      (fun cs look => ?_) ((nearsighted_readCount sw).map some)
    · cases cs with
      | nil => cases look
      | cons c cs =>
        obtain rfl : c = '\x7d' := by simpa using look
        rfl
    · split
      · simp at look
      · rfl
  exact .peek ',' (by decide) (fun _ => rfl) (brace.next sw)
    (fun cs other => readMost.eq_2 sw least cs other) (.pure (some least))

/-- Reading the closing brace of bounds does not look behind it. -/
lemma nearsighted_closeBounds (least : Nat) (most : Option Nat) :
    Nearsighted never (closeBounds sw least most) :=
  .peek '\x7d' (by decide) (fun _ => rfl)
    (.ite (fun _ => .none) fun _ => (Nearsighted.pure (Bounds.mk least most)).next sw)
    (fun cs other => closeBounds.eq_2 sw least most cs other) .none

/-- Reading bounds in braces does not look behind them. -/
lemma nearsighted_readBounds : Nearsighted never (readBounds sw) :=
  (((nearsighted_readCount sw).bind fun least => (nearsighted_readMost sw least).bind fun most =>
    nearsighted_closeBounds sw least most).next sw).congr (readBounds_eq sw)

/-! ## Escapes -/

/-- What stands up to a closing brace, with what becomes of it. -/
def upToBrace {β : Type} (may : Char → Bool) (close : List Char → List Char → Option (β × List Char)) :
    Nat → List Char → List Char → Option (β × List Char)
  | 0, _, _ => none
  | _ + 1, _, [] => none
  | bound + 1, ds, c :: cs =>
    if c = '\x7d' then close ds cs
    else if may c then upToBrace may close bound (c :: ds) (sw.next cs)
    else none

section
variable {β : Type} {may : Char → Bool} {close : List Char → List Char → Option (β × List Char)}

/-- Reading up to a brace does not look at its bound. -/
lemma bounded_upToBrace (ds : List Char) : Bounded fun bound => upToBrace sw may close bound ds := by
  intro bound bound' cs y e h
  induction bound generalizing bound' cs ds with
  | zero => cases e
  | succ bound ih =>
    obtain ⟨bound', rfl⟩ : ∃ b, bound' = b + 1 := ⟨bound' - 1, by omega⟩
    cases cs with
    | nil => cases e
    | cons c cs =>
      simp only [upToBrace] at e ⊢
      split at e
      · next brace => rw [if_pos brace, e]
      · next other =>
        rw [if_neg other]
        split at e
        · next good =>
          rw [if_pos good]
          exact ih _ e ((length_next_le sw cs).trans_lt (Nat.lt_of_succ_lt_succ h))
        · cases e

/-- Reading up to a brace does not look behind it if what closes it does not. -/
lemma nearsighted_upToBrace (hc : ∀ ds, Nearsighted never (close ds)) (bound : Nat) (ds : List Char) :
    Nearsighted never (upToBrace sw may close bound ds) := by
  induction bound generalizing ds with
  | zero => exact .none
  | succ bound ih =>
    exact .cons (fun c => .ite (fun _ => hc ds) fun _ => .ite (fun _ => (ih (c :: ds)).next sw)
      fun _ => .none) rfl fun _ _ => rfl

/-- The bound is above what follows, blanks or not. -/
lemma nearsighted_braced (hc : ∀ ds, Nearsighted never (close ds)) :
    Nearsighted never fun rest => upToBrace sw may close (rest.length + 1) [] (sw.next rest) :=
  ((Nearsighted.of_bounded (nearsighted_upToBrace sw hc · []) (bounded_upToBrace sw [])).next sw).congr
    fun rest => (bounded_upToBrace sw []).eq (Nat.lt_succ_of_le (length_next_le sw rest))
      (Nat.lt_succ_self _)

end

/-- A code in braces is what stands up to the brace, read as a number. -/
lemma readHexBrace_eq (bound : Nat) (ds cs : List Char) : readHexBrace sw bound ds cs =
    upToBrace sw (fun _ => true) (fun ds cs => if ds.isEmpty then none else
      ((Text.hexValue? ds.reverse).bind charOf?).bind fun c => some (c, sw.next cs)) bound ds cs := by
  induction bound generalizing ds cs with
  | zero => rfl
  | succ bound ih =>
    cases cs with
    | nil => rfl
    | cons c cs =>
      simp only [readHexBrace, upToBrace, ih]
      cases Text.hexValue? ds.reverse <;> rfl

/-- Reading a number of hexadecimal digits does not look behind them. -/
lemma nearsighted_readHexDigits (count : Nat) (ds : List Char) :
    Nearsighted never (readHexDigits sw count ds) := by
  induction count generalizing ds with
  | zero =>
    exact (Nearsighted.lift ((Text.hexValue? ds.reverse).bind charOf?)).congr fun cs => by
      cases e : Text.hexValue? ds.reverse <;> simp [readHexDigits, e]
  | succ count ih => exact .cons (fun c => (ih (c :: ds)).next sw) rfl fun _ _ => rfl

/-- A code point behind blanks. -/
def readCode (sw : Switches) (count : Nat) : List Char → Option (Escape × List Char)
  | '\x7b' :: rest => (readHexBrace sw (rest.length + 1) [] (sw.next rest)).map fun p =>
    (.char p.1 false, p.2)
  | cs => (readHexDigits sw count [] cs).map fun p => (.char p.1 (count = 2), p.2)

/-- A character by its code is read from the digits behind the space. -/
lemma readHex_eq (count : Nat) (cs : List Char) : readHex sw count cs = readCode sw count (sw.next cs) := by
  unfold readHex
  split
  · next rest split =>
    simp only [split, readCode]
    cases readHexBrace sw (rest.length + 1) [] (sw.next rest) <;> rfl
  · next other =>
    rw [readCode.eq_2 _ _ _ other]
    cases readHexDigits sw count [] (sw.next cs) <;> rfl

/-- Reading a character by its code does not look behind it. -/
lemma nearsighted_readHex (count : Nat) : Nearsighted never (readHex sw count) := by
  have brace : Nearsighted never fun rest => readHexBrace sw (rest.length + 1) [] (sw.next rest) :=
    (nearsighted_braced sw fun ds => .ite (fun _ => .none) fun _ =>
      (Nearsighted.lift ((Text.hexValue? ds.reverse).bind charOf?)).next sw).congr fun _ =>
        readHexBrace_eq sw _ _ _
  have code : Nearsighted never (readCode sw count) :=
    .peek '\x7b' (by decide) (fun _ => rfl) (brace.map (Escape.char · false))
      (fun cs other => readCode.eq_2 _ _ _ other)
      ((nearsighted_readHexDigits sw count []).map (Escape.char · (count = 2)))
  exact (code.next sw).congr (readHex_eq sw count)

/-- The name of a property in braces is what stands up to the brace. -/
lemma readPropertyName_eq (bound : Nat) (ds cs : List Char) : readPropertyName sw bound ds cs =
    upToBrace sw (fun _ => true) (fun ds cs => some (ds.reverse, cs)) bound ds cs := by
  induction bound generalizing ds cs with
  | zero => rfl
  | succ bound ih =>
    cases cs with
    | nil => rfl
    | cons c cs => simp only [readPropertyName, upToBrace, ih, if_true]

/-- The characters of a property behind blanks, by what a letter and a name stand for. -/
def readPropertySet (sw : Switches) (ofLetter ofName : List Char → Option Text.CharSet) :
    List Char → Option (Text.CharSet × List Char)
  | [] => none
  | c :: rest =>
    if c = '\x7b' then (readPropertyName sw (rest.length + 1) [] (sw.next rest)).bind fun p =>
      (ofName p.1).bind fun s => some (s, p.2)
    else (ofLetter [c]).bind fun s => some (s, sw.next rest)

/-- What a property stands for. -/
def propertyEscape? (sw : Switches) (negated : Bool) (s : Text.CharSet) : Option Escape :=
  if sw.wide then (sw.complIf? negated (sw.fold s)).map .set else none

/-- A class by a property is the set of its name, negated if asked. -/
lemma readProperty_eq (negated : Bool) (cs : List Char) : readProperty sw negated cs =
    (readPropertySet sw Text.property? propertySet? (sw.next cs)).bind fun p =>
      (propertyEscape? sw negated p.1).bind fun e => some (e, p.2) := by
  have last : ∀ (s : Text.CharSet) (rest : List Char),
      (if sw.wide then (sw.complIf? negated (sw.fold s)).bind fun s => some (Escape.set s, rest) else none) =
      (propertyEscape? sw negated s).bind fun e => some (e, rest) := by
    intro s rest
    unfold propertyEscape?
    split
    · cases sw.complIf? negated (sw.fold s) <;> rfl
    · rfl
  unfold readProperty
  simp only [Option.bind_eq_bind, Option.pure_def]
  generalize propertySet? = ofName
  generalize Text.property? = ofLetter
  obtain e | ⟨c, rest⟩ := sw.next cs
  · rfl
  by_cases brace : c = '\x7b'
  · subst brace
    simp only [readPropertySet, if_true]
    cases readPropertyName sw (rest.length + 1) [] (sw.next rest) with
    | none => rfl
    | some p => cases e : ofName p.1 <;> simp [e, last]
  · simp only [readPropertySet, if_neg brace]
    cases ofLetter [c] with
    | none => simp
    | some s => simp [last]

/-- Reading the name of a property does not look behind it. -/
lemma nearsighted_readPropertySet (ofLetter ofName : List Char → Option Text.CharSet) :
    Nearsighted never (readPropertySet sw ofLetter ofName) := by
  have name : Nearsighted never fun rest => readPropertyName sw (rest.length + 1) [] (sw.next rest) :=
    (nearsighted_braced sw fun ds => .pure ds.reverse).congr fun _ => readPropertyName_eq sw _ _ _
  exact .cons (fun c => .ite (fun _ => name.bind fun name => .lift (ofName name)) fun _ =>
    (Nearsighted.lift (ofLetter [c])).next sw) rfl fun _ _ => rfl

/-- Reading a class by a property does not look behind it. -/
lemma nearsighted_readProperty (negated : Bool) : Nearsighted never (readProperty sw negated) :=
  (((nearsighted_readPropertySet sw _ _).next sw).bind fun s =>
    .lift (propertyEscape? sw negated s)).congr (readProperty_eq sw negated)

/-- The name of a condition in braces is what stands up to the brace. -/
lemma readConditionName_eq (bound : Nat) (ds cs : List Char) : readConditionName sw bound ds cs =
    upToBrace sw (fun c => c.isAlpha || c = '-') (fun ds cs => some (ds.reverse, cs)) bound ds cs := by
  induction bound generalizing ds cs with
  | zero => rfl
  | succ bound ih =>
    cases cs with
    | nil => rfl
    | cons c cs => simp only [readConditionName, upToBrace, ih]

/-- A word condition by its name, which is not empty. -/
def readCondition (sw : Switches) (cs : List Char) : Option (Assertion × List Char) :=
  if cs.head?.any fun c => c.isAlpha || c = '-' then
    (readConditionName sw (cs.length + 1) [] cs).bind fun p =>
      (wordCondition? sw.wide p.1).bind fun a => some (a, p.2)
  else none

/-- Behind a boundary, a brace opens the name of a condition, or the boundary ends before it. -/
lemma readBoundary_brace (rest : List Char) : readBoundary sw ('\x7b' :: rest) =
    if (sw.next rest).head?.any fun c => c.isAlpha || c = '-' then
      (readCondition sw (sw.next rest)).map fun p => (.assert p.1, p.2)
    else if sw.next rest = [] then none
    else some (.assert (.wordBoundary sw.wide), '\x7b' :: rest) := by
  simp only [readBoundary]
  obtain e | ⟨c, cs⟩ := sw.next rest
  · rfl
  simp only [readCondition, List.head?_cons, Option.any_some, List.length_cons, Option.bind_eq_bind,
    Bool.or_eq_true, decide_eq_true_eq]
  by_cases look : c.isAlpha = true ∨ c = '-'
  · cases readConditionName sw (cs.length + 2) [] (c :: cs) with
    | none => simp [look]
    | some p => cases e : wordCondition? sw.wide p.1 <;> simp [e, look]
  · simp [look]

/-- If a condition is read in braces, it is the boundary. -/
lemma readBoundary_of_condition {rest r : List Char} {e : Escape}
    (h : (readCondition sw (sw.next rest)).map (fun p => (Escape.assert p.1, p.2)) = some (e, r)) :
    readBoundary sw ('\x7b' :: rest) = some (e, r) := by
  rw [readBoundary_brace]
  split
  · exact h
  · next look => simp [readCondition, look] at h

/-- Reading a condition in braces does not look behind it. -/
lemma nearsighted_readCondition : Nearsighted never (readCondition sw) := by
  have name : Nearsighted never fun cs => readConditionName sw (cs.length + 1) [] cs :=
    (Nearsighted.of_bounded (nearsighted_upToBrace sw (fun ds => .pure ds.reverse) · [])
      (bounded_upToBrace sw [])).congr fun _ => readConditionName_eq sw _ _ _
  exact .ahead (fun c => c.isAlpha || c = '-') (by decide) (fun _ look => if_pos look)
    (name.bind fun name => .lift (wordCondition? sw.wide name)) (fun _ look => if_neg (by simp [look])) .none

/-- A boundary with a brace behind it that is at the end. -/
def Stranded (sw : Switches) (e : Escape) (cs : List Char) : Prop :=
  (∃ a, e = .assert a) ∧ ∃ b, cs = '\x7b' :: b ∧ sw.next b = []

/-- Space is passed over in front of another text as without it, unless nothing else stands there. -/
lemma dropSpace_append {comment : Bool} {cs : List Char} (h : dropSpace comment cs ≠ []) (ds : List Char) :
    dropSpace comment (cs ++ ds) = dropSpace comment cs ++ ds := by
  induction cs generalizing comment with
  | nil => exact (h (by cases comment <;> rfl)).elim
  | cons c cs ih =>
    cases comment with
    | true => exact ih h
    | false =>
      simp only [dropSpace, List.cons_append] at h ⊢
      split at h
      · next blank => rw [if_pos blank, if_pos blank, ih h]
      next other =>
      rw [if_neg other, if_neg other]
      split at h
      · next sign => rw [if_pos sign, if_pos sign, ih h]
      · next sign => rw [if_neg sign, if_neg sign, List.cons_append]

/-- So it is with space and comments of a pattern that allows them. -/
lemma next_append {cs : List Char} (h : sw.next cs ≠ []) (ds : List Char) :
    sw.next (cs ++ ds) = sw.next cs ++ ds := by
  unfold Switches.next at h ⊢
  split at h
  · next spaced => rw [if_pos spaced, if_pos spaced, dropSpace_append h]
  · next solid => rw [if_neg solid, if_neg solid]

/-- Reading a boundary does not look behind it, unless nothing follows its brace. -/
lemma nearsighted_readBoundary : Nearsighted (Stranded sw) (readBoundary sw) := by
  have plain : ∀ {cs}, cs.head? ≠ some '\x7b' →
      readBoundary sw cs = some (.assert (.wordBoundary sw.wide), cs) := by
    intro cs head
    unfold readBoundary
    split
    · simp at head
    · rfl
  intro cs x r e
  by_cases head : cs.head? = some '\x7b'
  · obtain ⟨rest, rfl⟩ : ∃ rest, cs = '\x7b' :: rest := List.head?_eq_some_iff.mp head
    rw [readBoundary_brace] at e
    split at e
    · have named : Nearsighted (Stranded sw) fun cs =>
          (readCondition sw (sw.next cs)).map fun p => (Escape.assert p.1, p.2) :=
        ((nearsighted_readCondition sw).next sw).map Escape.assert
      obtain ⟨u, rfl, near⟩ := named e
      refine ⟨'\x7b' :: u, rfl, fun w w' a hw hr => ?_⟩
      exact (near hw hr).imp (readBoundary_of_condition sw)
        (Or.imp_left fun h => ⟨h.1, h.2.1, readBoundary_of_condition sw h.2.2⟩)
    next look =>
    split at e
    · cases e
    cases e
    refine ⟨[], rfl, fun w w' a hw hr => ?_⟩
    obtain _ | ⟨c, b⟩ := a
    · cases hw <;> cases hr
    obtain ⟨rfl, rfl⟩ := List.cons.inj hr
    by_cases stranded : sw.next b = []
    · exact .inr (.inr ⟨⟨_, rfl⟩, b, rfl, stranded⟩)
    rw [show b.append w = b ++ w from rfl, next_append sw stranded] at look
    refine .inl ((readBoundary_brace sw (b ++ w')).trans ?_)
    rw [next_append sw stranded, if_neg, if_neg]
    · rfl
    · simp [stranded]
    · cases e : sw.next b with
      | nil => exact (stranded e).elim
      | cons c b => simpa [e] using look
  · rw [plain head] at e
    cases e
    refine ⟨[], rfl, fun w w' a hw hr => .inl (plain ?_)⟩
    subst hr
    cases a with
    | nil => cases hw <;> simp
    | cons c a => exact head

/-- Reading an escape does not look behind it, unless nothing follows the brace of a boundary. -/
lemma nearsighted_readEscape : Nearsighted (Stranded sw) (readEscape sw) := by
  refine .cons (fun c => .ite (fun _ => (nearsighted_readHex sw 2).of_never) fun _ =>
    .ite (fun _ => (nearsighted_readHex sw 4).of_never) fun _ =>
    .ite (fun _ => (nearsighted_readHex sw 8).of_never) fun _ =>
    .ite (fun _ => (nearsighted_readProperty sw (c = 'P')).of_never) fun _ =>
    .ite (fun _ => nearsighted_readBoundary sw) fun _ =>
    (Nearsighted.lift (escape? sw c)).congr fun cs => ?_) rfl fun _ _ => rfl
  cases escape? sw c <;> rfl

/-! ## Openings of groups -/

/-- A name in front of a closing angle bracket. -/
lemma readGroupName_eq_some_iff {cs rest : List Char} {name : String} :
    readGroupName cs = some (name, rest) ↔ ∃ c others, name = String.ofList (c :: others) ∧
      cs = c :: others ++ '>' :: rest ∧ '>' ∉ c :: others ∧ isNameChar true c = true ∧
        others.all (isNameChar false) = true := by
  unfold readGroupName
  constructor
  · intro e
    cases front : cs.takeWhile (· ≠ '>') with
    | nil =>
      simp only [front] at e
      cases e
    | cons c others =>
      cases back : cs.dropWhile (· ≠ '>') with
      | nil => simp only [front, back, reduceCtorEq] at e
      | cons d after =>
        simp only [front, back] at e
        split at e
        · next good =>
          cases e
          have bracket : d = '>' := by
            have head := List.head?_dropWhile_not (fun x => decide (x ≠ '>')) cs
            rw [back] at head
            simpa using head
          subst bracket
          have unclosed : ∀ x ∈ c :: others, x ≠ '>' := fun x hx =>
            of_decide_eq_true (List.mem_takeWhile_imp (p := fun x => decide (x ≠ '>')) (front ▸ hx))
          refine ⟨c, others, rfl, ?_, fun h => unclosed _ h rfl, by simpa using good⟩
          rw [← front, ← back, List.takeWhile_append_dropWhile]
        · cases e
  · rintro ⟨c, others, rfl, rfl, unclosed, first, later⟩
    have keeps : ∀ x ∈ c :: others, decide (x ≠ '>') = true := fun x hx => by
      simpa only [decide_eq_true_eq] using fun h : x = '>' => unclosed (h ▸ hx)
    rw [List.takeWhile_append_of_pos keeps, List.dropWhile_append_of_pos keeps,
      List.takeWhile_cons_of_neg (by simp), List.dropWhile_cons_of_neg (by simp), List.append_nil]
    simp only [first, later, Bool.and_self, if_true]

/-- Reading the name of a group does not look behind it. -/
lemma nearsighted_readGroupName : Nearsighted never readGroupName := by
  refine .of_local fun cs name rest e => ?_
  obtain ⟨c, others, rfl, rfl, good⟩ := readGroupName_eq_some_iff.mp e
  exact ⟨c :: others ++ ['>'], by simp, fun rest' =>
    readGroupName_eq_some_iff.mpr ⟨c, others, rfl, by simp, good⟩⟩

/-- Switches end before a colon or a closing parenthesis. -/
lemma readSwitches_eq_some {seen cs rest : List Char} {sw inner : Switches}
    (e : readSwitches seen cs sw = some (inner, rest)) : ∃ u c after, cs = u ++ c :: after ∧
      rest = c :: after ∧ (c = ':' ∨ c = ')') ∧
        ∀ after', readSwitches seen (u ++ c :: after') sw = some (inner, c :: after') := by
  induction cs generalizing seen sw with
  | nil => cases e
  | cons c cs ih =>
    have skip : ∀ seen' sw', (∀ cs, readSwitches seen (c :: cs) sw = readSwitches seen' cs sw') →
        ∃ u d after, c :: cs = u ++ d :: after ∧ rest = d :: after ∧ (d = ':' ∨ d = ')') ∧
          ∀ after', readSwitches seen (u ++ d :: after') sw = some (inner, d :: after') := by
      intro seen' sw' same
      obtain ⟨u, d, after, rfl, rfl, sign, again⟩ := ih ((same cs).symm.trans e)
      exact ⟨c :: u, d, after, rfl, rfl, sign, fun after' => (same _).trans (again after')⟩
    by_cases sign : c = ':' ∨ c = ')'
    · have ends : ∀ cs, readSwitches seen (c :: cs) sw =
          if seen.head? = some '-' then none else some (sw, c :: cs) := fun cs => by
        simp [readSwitches, sign]
      rw [ends] at e
      split at e
      · cases e
      next dash =>
      cases e
      exact ⟨[], c, cs, rfl, rfl, sign, fun after' => (ends after').trans (if_neg dash)⟩
    by_cases again : c ∈ seen
    · simp [readSwitches, sign, again] at e
    by_cases dash : c = '-'
    · exact skip ('-' :: seen) sw fun cs => by
        simp only [readSwitches, List.contains_iff_mem, Bool.or_eq_true, decide_eq_true_eq, if_neg sign,
          if_neg again, if_pos dash]
    have last : ∀ cs, readSwitches seen (c :: cs) sw =
        (sw.set? c (!seen.contains '-')).bind (readSwitches (c :: seen) cs) := fun cs => by
      simp only [readSwitches, Bool.or_eq_true, decide_eq_true_eq, if_neg sign, if_neg dash]
      rw [if_neg (by simpa using again)]
      cases sw.set? c (!seen.contains '-') <;> rfl
    cases set : sw.set? c (!seen.contains '-') with
    | none =>
      rw [last, set] at e
      cases e
    | some sw' => exact skip (c :: seen) sw' fun cs => by rw [last, set, Option.bind_some]

/-- Switches, for the group or for what follows. -/
def readSwitched (sw : Switches) (cs : List Char) : Option (Opening × List Char) :=
  match readSwitches [] cs sw with
  | some (inner, ':' :: after) => some (.plain inner, after)
  | some (inner, ')' :: after) =>
    if cs.head? = some ')' then none else some (.switches inner, after)
  | _ => none

/-- Reading the switches of a group does not look behind them. -/
lemma nearsighted_readSwitched : Nearsighted never (readSwitched sw) := by
  refine .of_local fun cs x r e => ?_
  cases read : readSwitches [] cs sw with
  | none => simp [readSwitched, read] at e
  | some p =>
    obtain ⟨inner, rest⟩ := p
    obtain ⟨u, c, after, rfl, rfl, sign, again⟩ := readSwitches_eq_some read
    have front : ∀ after', (u ++ c :: after').head? = (u ++ [c]).head? := fun after' => by
      cases u <;> rfl
    have here : ∀ after', readSwitched sw (u ++ c :: after') =
        if c = ':' then some (.plain inner, after')
        else if (u ++ [c]).head? = some ')' then none else some (.switches inner, after') := by
      intro after'
      obtain rfl | rfl := sign
      · simp [readSwitched, again]
      · simp [readSwitched, again, front]
    rw [here] at e
    refine ⟨u ++ [c], ?_, fun after' => ?_⟩
    · split at e
      · cases e
        simp
      split at e
      · cases e
      · cases e
        simp
    · rw [List.append_assoc, List.singleton_append, here]
      split at e
      · next colon =>
        cases e
        rw [if_pos colon]
      next paren =>
      rw [if_neg paren]
      split at e
      · cases e
      next inside =>
      cases e
      rw [if_neg inside]

/-- A name of a group does not begin with a sign that no name has. -/
lemma readGroupName_sign {c : Char} (hc : isNameChar true c = false) (rest : List Char) :
    readGroupName (c :: rest) = none := by
  refine Option.eq_none_iff_forall_ne_some.mpr fun ⟨name, after⟩ e => ?_
  obtain ⟨d, others, -, split, -, first, -⟩ := readGroupName_eq_some_iff.mp e
  obtain ⟨rfl, -⟩ := List.cons.inj split
  cases hc.symm.trans first

/-- Switches do not begin with a sign that is none of theirs. -/
lemma readSwitched_sign {c : Char} (hc : ∀ sw : Switches, sw.set? c true = none) (h : c ≠ ':' ∧ c ≠ ')' ∧ c ≠ '-')
    (rest : List Char) : readSwitched sw (c :: rest) = none := by
  have : readSwitches [] (c :: rest) sw = none := by
    simp only [readSwitches]
    simp [h, hc]
  simp [readSwitched, this]

/-- What stands behind the question mark of an opening. -/
def readExtension (sw : Switches) : List Char → Option (Opening × List Char)
  | 'P' :: '<' :: rest => (readGroupName rest).map fun p => (.counted p.1, p.2)
  | '<' :: rest => (readGroupName rest).map fun p => (.counted p.1, p.2)
  | rest => readSwitched sw rest

/-- Without the longer form of a name, a group has a name in angle brackets or switches. -/
lemma readExtension_other {cs : List Char} (h : ∀ rest, cs ≠ ['P', '<'] ++ rest) : readExtension sw cs =
    if cs.head? = some '<' then (readGroupName cs.tail).map fun p => (.counted (some p.1), p.2)
    else readSwitched sw cs := by
  unfold readExtension
  split
  · exact (h _ rfl).elim
  · rfl
  · next bare =>
    refine (if_neg fun head => ?_).symm
    obtain ⟨rest, same⟩ := List.head?_eq_some_iff.mp head
    exact bare rest same

/-- What looks around is no switch and no name. -/
lemma readOpening_eq (cs : List Char) : readOpening sw cs =
    if (sw.next cs).head? = some '?' then readExtension sw (sw.next cs).tail
    else some (.counted none, sw.next cs) := by
  unfold readOpening
  split
  · next rest e =>
    rw [e]
    exact (readSwitched_sign sw (c := '=') (fun _ => rfl) (by decide) rest).symm
  · next rest e =>
    rw [e]
    exact (readSwitched_sign sw (c := '!') (fun _ => rfl) (by decide) rest).symm
  · next rest e =>
    rw [e, List.head?_cons, if_pos rfl]
    exact (congrArg (Option.map _) (readGroupName_sign (c := '=') (by decide +kernel) rest)).symm
  · next rest e =>
    rw [e, List.head?_cons, if_pos rfl]
    exact (congrArg (Option.map _) (readGroupName_sign (c := '!') (by decide +kernel) rest)).symm
  · next rest e =>
    rw [e]
    rfl
  · next rest e =>
    rw [e]
    rfl
  · next rest _ _ _ _ named bare e =>
    rw [e]
    exact (readExtension.eq_3 sw rest named bare).symm
  · next other =>
    refine (if_neg fun head => ?_).symm
    obtain ⟨rest, same⟩ := List.head?_eq_some_iff.mp head
    exact other rest same

/-- Reading what opens a group does not look behind it. -/
lemma nearsighted_readOpening : Nearsighted never (readOpening sw) := by
  have name : Nearsighted never fun cs =>
      (readGroupName cs).map fun p => (Opening.counted (some p.1), p.2) :=
    nearsighted_readGroupName.map fun name => Opening.counted (some name)
  have extension : Nearsighted never (readExtension sw) :=
    .mark ['P', '<'] (by decide) (fun _ => rfl) name (fun _ => readExtension_other sw)
      (.peekElse '<' (by decide) name (nearsighted_readSwitched sw))
  exact ((Nearsighted.peekElse '?' (by decide) extension (.pure (.counted none))).next sw).congr
    (readOpening_eq sw)

end SceneGrammar.Pattern
