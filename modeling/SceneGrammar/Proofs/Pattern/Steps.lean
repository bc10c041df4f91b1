import SceneGrammar.Proofs.Pattern.Bracket

/-!
# Reading token by token

A pattern is read one token after the other. A token changes the current group or opens one inside it; a
closing parenthesis, which is none, closes the current group. How a token is read is nearsighted, so that
what stands behind it can be exchanged at a verge, except where a boundary is left with a brace that does
not close: there no pattern goes on.
-/

namespace SceneGrammar.Pattern

/-! ## Tokens -/

/-- What a token leaves behind: the current group, in the groups around it that the token has opened it in,
and the names so far. -/
structure Token where
  around : List OpenGroup
  current : OpenGroup
  names : List String

/-- The current group goes on. -/
def Token.within (names : List String) (g : OpenGroup) : Token := ⟨[], g, names⟩

/-- A group opens inside the current one. -/
def Token.opens (g inner : OpenGroup) (names : List String) : Token := ⟨[g], inner, names⟩

/-- What an opening does. -/
def Opening.token? (g : OpenGroup) (names : List String) : Opening → Option Token
  | .switches inner => some (.within names (g.switch inner))
  | .plain inner => some (.opens g (.start inner false) names)
  | .counted name =>
    if name.any names.contains then none
    else some (.opens g (.start g.switches true) (name.toList ++ names))

/-- Reads what a repetition says of the item before it. -/
def readRepeat (g : OpenGroup) (names : List String) (bounds : Bounds) (cs : List Char) :
    Option (Token × List Char) :=
  (some (readLazy g.switches cs)).bind fun p =>
    (g.repeatLast? bounds p.1).bind fun g => some (.within names g, p.2)

/-- Reads a token by its first character. -/
def readToken (g : OpenGroup) (names : List String) (c : Char) (cs : List Char) :
    Option (Token × List Char) :=
  let sw := g.switches
  if c = '(' then
    (readOpening sw cs).bind fun p => (p.1.token? g names).bind fun t => some (t, p.2)
  else if c = '|' then some (.within names g.split, cs)
  else if c = '[' then
    (readClass sw cs).bind fun p => some (.within names (g.push (ofSet p.1.set) p.1.depth), p.2)
  else if c = '?' || c = '*' || c = '+' then
    (signBounds? c).bind fun bounds => readRepeat g names bounds cs
  else if c = '\x7b' then (readBounds sw cs).bind fun p => readRepeat g names p.1 p.2
  else if c = '\\' then
    (readEscape sw cs).bind fun p => (g.pushEscape? p.1).bind fun g => some (.within names g, p.2)
  else if c = '.' then sw.anyChar?.bind fun p => some (.within names (g.push p 0), cs)
  else if c = '^' then some (.within names (g.push (.assert sw.caret) 0), cs)
  else if c = '$' then some (.within names (g.push (.assert sw.dollar) 0), cs)
  else some (.within names (g.push (sw.literal c) 0), cs)

/-- A pattern is its first token and what is read behind it in the groups that it leaves. -/
lemma readPattern_token {bound : Nat} {outer : List OpenGroup} {g : OpenGroup} {names : List String}
    {cs rest : List Char} {c : Char} (e : g.switches.next cs = c :: rest) (hc : c ≠ ')') :
    readPattern (bound + 1) outer g names cs = (readToken g names c rest).bind fun p =>
      readPattern bound (p.1.around ++ outer) p.1.current p.1.names p.2 := by
  simp only [readPattern, e, readToken, if_neg hc]
  split
  · cases readOpening g.switches rest with
    | none => rfl
    | some p =>
      obtain ⟨opening, after⟩ := p
      cases opening with
      | switches inner => rfl
      | plain inner => rfl
      | counted name =>
        simp only [Option.bind_some, Opening.token?]
        split <;> rfl
  split
  · rfl
  split
  · cases readClass g.switches rest <;> rfl
  split
  · cases signBounds? c with
    | none => rfl
    | some bounds =>
      simp only [Option.bind_some, readRepeat]
      cases g.repeatLast? bounds (readLazy g.switches rest).1 <;> rfl
  split
  · cases readBounds g.switches rest with
    | none => rfl
    | some p =>
      obtain ⟨bounds, after⟩ := p
      simp only [Option.bind_some, readRepeat]
      cases g.repeatLast? bounds (readLazy g.switches after).1 <;> rfl
  split
  · cases readEscape g.switches rest with
    | none => rfl
    | some p =>
      obtain ⟨escape, after⟩ := p
      simp only [Option.bind_some]
      cases g.pushEscape? escape <;> rfl
  split
  · cases g.switches.anyChar? <;> rfl
  split
  · rfl
  split <;> rfl

/-- The current group would go on with a brace that does not close. -/
def Token.Stuck (t : Token) (cs : List Char) : Prop :=
  ∃ b, cs = '\x7b' :: b ∧ t.current.switches.next b = []

/-- An escape adds a part without groups. -/
lemma OpenGroup.pushEscape?_eq_some {g g' : OpenGroup} {e : Escape} (h : g.pushEscape? e = some g') :
    ∃ p, g' = g.push p 0 := by
  cases e with
  | char c twoDigits =>
    simp only [pushEscape?] at h
    split at h <;> cases h
    exact ⟨_, rfl⟩
  | set s => exact ⟨_, (Option.some.inj h).symm⟩
  | assert a => exact ⟨_, (Option.some.inj h).symm⟩

section
variable (g : OpenGroup) (names : List String)

/-- Reading a repetition does not look behind it, unless an open brace follows. -/
lemma nearsighted_readRepeat (bounds : Bounds) : Nearsighted Token.Stuck (readRepeat g names bounds) :=
  (nearsighted_readLazy g.switches).bind fun isLazy =>
    .liftAs (g.repeatLast? bounds isLazy) (Token.within names)

/-- Reading a token by its first character does not look behind it, unless an open brace follows. -/
lemma nearsighted_readToken (c : Char) : Nearsighted Token.Stuck (readToken g names c) := by
  refine .ite (fun _ => ?_) fun _ => .ite (fun _ => .pure (Token.within names g.split))
    fun _ => .ite (fun _ => ?_) fun _ => .ite (fun _ => ?_) fun _ => .ite (fun _ => ?_)
    fun _ => .ite (fun _ => ?_) fun _ => .ite (fun _ => ?_) fun _ => .ite (fun _ => .pure _)
    fun _ => .ite (fun _ => .pure _) fun _ => .pure _
  · exact (nearsighted_readOpening g.switches).bind fun opening => .lift (opening.token? g names)
  · exact (nearsighted_readClass g.switches).as fun part =>
      Token.within names (g.push (ofSet part.set) part.depth)
  · cases signBounds? c with
    | none => exact .none
    | some bounds => exact nearsighted_readRepeat g names bounds
  · exact (nearsighted_readBounds g.switches).bind (nearsighted_readRepeat g names)
  · refine (nearsighted_readEscape g.switches).bind_of
      (fun e => .liftAs (g.pushEscape? e) (Token.within names)) ?_
    rintro e u a w t ⟨-, b, split, stranded⟩ pushed
    obtain ⟨g', push, pushed⟩ := Option.bind_eq_some_iff.mp pushed
    obtain ⟨rfl, stays⟩ := Prod.mk.inj (Option.some.inj pushed)
    obtain rfl : u = [] := by simpa using stays
    obtain ⟨p, rfl⟩ := OpenGroup.pushEscape?_eq_some push
    exact ⟨b, split, stranded⟩
  · exact .liftAs g.switches.anyChar? fun p => Token.within names (g.push p 0)

/-- Reads a token behind blanks. -/
def nextToken (cs : List Char) : Option (Token × List Char) :=
  match g.switches.next cs with
  | [] => none
  | c :: rest => if c = ')' then none else readToken g names c rest

/-- So it is with the blanks before it. -/
lemma nearsighted_nextToken : Nearsighted Token.Stuck (nextToken g names) :=
  (Nearsighted.cons (f := fun cs => match cs with
    | [] => none
    | c :: rest => if c = ')' then none else readToken g names c rest)
    (fun c => .ite (fun _ => .none) fun _ => nearsighted_readToken g names c) rfl fun _ _ => rfl).next
      g.switches

end

/-- A token takes up some of the text. -/
lemma length_nextToken_lt {g : OpenGroup} {names : List String} {cs rest : List Char} {t : Token}
    (e : nextToken g names cs = some (t, rest)) : rest.length < cs.length := by
  have skipped := length_next_le g.switches cs
  unfold nextToken at e
  split at e
  · cases e
  · next c after ahead =>
    split at e
    · cases e
    · have less := ((nearsighted_readToken g names c).suffix e).length_le
      rw [ahead, List.length_cons] at skipped
      omega

/-! ## The outermost group -/

/-- Whether the outermost of the open groups counts. -/
def outermostCounts (outer : List OpenGroup) (g : OpenGroup) : Bool := (outer.getLast?.getD g).counted

/-- Closing a group does not change whether the outermost one counts. -/
lemma outermostCounts_close (outer : List OpenGroup) (enclosing g : OpenGroup) :
    outermostCounts outer (enclosing.pushGroup g) = outermostCounts (enclosing :: outer) g := by
  cases outer with
  | nil => rfl
  | cons next outer =>
    obtain ⟨last, e⟩ := List.getLast?_isSome.mpr (List.cons_ne_nil next outer) |> Option.isSome_iff_exists.mp
    simp [outermostCounts, e]

/-- A token leaves the current group and whether it counts, or goes into another one inside it. -/
def Token.Keeps (t : Token) (g : OpenGroup) : Prop :=
  t.around = [] ∧ t.current.counted = g.counted ∨ t.around = [g]

/-- A repetition does not change whether its group counts. -/
lemma OpenGroup.repeatLast?_counted {g g' : OpenGroup} {bounds : Bounds} {isLazy : Bool}
    (h : g.repeatLast? bounds isLazy = some g') : g'.counted = g.counted := by
  unfold repeatLast? at h
  split at h
  · cases h
    rfl
  · cases h

/-- A token leaves the current group or goes into another one inside it. -/
lemma readToken_keeps {g : OpenGroup} {names : List String} {c : Char} {cs rest : List Char} {t : Token}
    (e : readToken g names c cs = some (t, rest)) : t.Keeps g := by
  have within : ∀ {g' : OpenGroup}, g'.counted = g.counted → (Token.within names g').Keeps g :=
    fun h => .inl ⟨rfl, h⟩
  have repeats : ∀ {bounds cs}, readRepeat g names bounds cs = some (t, rest) → t.Keeps g := by
    intro bounds cs e
    obtain ⟨g', last, e⟩ := Option.bind_eq_some_iff.mp ((Option.bind_some _ _).symm.trans e)
    cases e
    exact within (OpenGroup.repeatLast?_counted last)
  simp only [readToken] at e
  split at e
  · obtain ⟨⟨opening, after⟩, -, e⟩ := Option.bind_eq_some_iff.mp e
    obtain ⟨t', token, e⟩ := Option.bind_eq_some_iff.mp e
    cases e
    cases opening with
    | switches inner =>
      cases token
      exact within rfl
    | plain inner =>
      cases token
      exact .inr rfl
    | counted name =>
      simp only [Opening.token?] at token
      split at token
      · cases token
      · cases token
        exact .inr rfl
  split at e
  · cases e
    exact within rfl
  split at e
  · obtain ⟨p, -, e⟩ := Option.bind_eq_some_iff.mp e
    cases e
    exact within rfl
  split at e
  · obtain ⟨bounds, -, e⟩ := Option.bind_eq_some_iff.mp e
    exact repeats e
  split at e
  · obtain ⟨p, -, e⟩ := Option.bind_eq_some_iff.mp e
    exact repeats e
  split at e
  · obtain ⟨p, -, e⟩ := Option.bind_eq_some_iff.mp e
    obtain ⟨g', push, e⟩ := Option.bind_eq_some_iff.mp e
    cases e
    obtain ⟨p, rfl⟩ := OpenGroup.pushEscape?_eq_some push
    exact within rfl
  split at e
  · obtain ⟨p, -, e⟩ := Option.bind_eq_some_iff.mp e
    cases e
    exact within rfl
  split at e
  · cases e
    exact within rfl
  split at e <;> cases e <;> exact within rfl

/-- A token does not change whether the outermost group counts. -/
lemma outermostCounts_token {g : OpenGroup} {names : List String} {cs rest : List Char} {t : Token}
    (e : nextToken g names cs = some (t, rest)) (outer : List OpenGroup) :
    outermostCounts (t.around ++ outer) t.current = outermostCounts outer g := by
  unfold nextToken at e
  split at e
  · cases e
  split at e
  · cases e
  obtain ⟨stays, same⟩ | opened := readToken_keeps e
  · rw [stays, List.nil_append]
    cases outer with
    | nil => exact same
    | cons => simp [outermostCounts, List.getLast?_cons]
  · rw [opened]
    cases outer with
    | nil => rfl
    | cons => simp [outermostCounts, List.getLast?_cons]

/-! ## Reading to the end -/

/-- The item of a text in some groups. -/
def read? (outer : List OpenGroup) (g : OpenGroup) (names : List String) (cs : List Char) : Option Item :=
  readPattern (cs.length + 1) outer g names cs

section
variable {outer : List OpenGroup} {g : OpenGroup} {names : List String} {cs rest : List Char}

/-- A pattern is at its end, or a group ends, or a token follows. -/
lemma readPattern_eq_some_iff {bound : Nat} {item : Item} :
    readPattern (bound + 1) outer g names cs = some item ↔
      (g.switches.next cs = [] ∧ outer = [] ∧ g.close = item) ∨
      (∃ enclosing outer' rest, g.switches.next cs = ')' :: rest ∧ outer = enclosing :: outer' ∧
        readPattern bound outer' (enclosing.pushGroup g) names rest = some item) ∨
      ∃ t rest, nextToken g names cs = some (t, rest) ∧
        readPattern bound (t.around ++ outer) t.current t.names rest = some item := by
  cases e : g.switches.next cs with
  | nil => cases outer <;> simp [readPattern, nextToken, e]
  | cons c rest =>
    by_cases hc : c = ')'
    · subst hc
      cases outer with
      | nil => simp [readPattern, nextToken, e]
      | cons enclosing outer => simp [readPattern, nextToken, e, and_assoc]
    · rw [readPattern_token e hc]
      simp [nextToken, e, hc, Option.bind_eq_some_iff]

/-- Any bound above the length of the text does. -/
lemma readPattern_stable {bound bound' : Nat} {item : Item} (e : readPattern bound outer g names cs = some item)
    (h : cs.length < bound') : readPattern bound' outer g names cs = some item := by
  induction bound generalizing bound' outer g names cs with
  | zero => cases e
  | succ bound ih =>
    obtain ⟨bound', rfl⟩ : ∃ b, bound' = b + 1 := ⟨bound' - 1, by omega⟩
    rw [readPattern_eq_some_iff] at e ⊢
    obtain ends | ⟨enclosing, outer', rest, ahead, rfl, e⟩ | ⟨t, rest, token, e⟩ := e
    · exact .inl ends
    · have skipped := length_next_le g.switches cs
      rw [ahead, List.length_cons] at skipped
      exact .inr (.inl ⟨enclosing, outer', rest, ahead, rfl, ih e (by omega)⟩)
    · have less := length_nextToken_lt token
      exact .inr (.inr ⟨t, rest, token, ih e (by omega)⟩)

/-- A text ends outside of all groups, or closes a group, or goes on with a token. -/
lemma read?_eq_some_iff {item : Item} : read? outer g names cs = some item ↔
      (g.switches.next cs = [] ∧ outer = [] ∧ g.close = item) ∨
      (∃ enclosing outer' rest, g.switches.next cs = ')' :: rest ∧ outer = enclosing :: outer' ∧
        read? outer' (enclosing.pushGroup g) names rest = some item) ∨
      ∃ t rest, nextToken g names cs = some (t, rest) ∧
        read? (t.around ++ outer) t.current t.names rest = some item := by
  have bounds : ∀ {outer g names ds}, ds.length < cs.length →
      (readPattern cs.length outer g names ds = some item ↔ read? outer g names ds = some item) :=
    fun less => ⟨fun e => readPattern_stable e (Nat.lt_succ_self _), fun e => readPattern_stable e less⟩
  rw [read?, readPattern_eq_some_iff]
  refine or_congr_right (or_congr ?_ ?_)
  · refine exists_congr fun enclosing => exists_congr fun outer' => exists_congr fun rest =>
      and_congr_right fun ahead => and_congr_right fun _ => bounds ?_
    have skipped := length_next_le g.switches cs
    rw [ahead, List.length_cons] at skipped
    omega
  · exact exists_congr fun t => exists_congr fun rest => and_congr_right fun token =>
      bounds (length_nextToken_lt token)

/-- At the end of the text, outside of all groups, the current one is the item. -/
lemma read?_nil (e : g.switches.next cs = []) : read? [] g names cs = some g.close :=
  read?_eq_some_iff.mpr (.inl ⟨e, rfl, rfl⟩)

/-- A closing parenthesis is no token. -/
lemma nextToken_paren (e : g.switches.next cs = ')' :: rest) : nextToken g names cs = none := by
  simp [nextToken, e]

/-- A closing parenthesis ends a group, which goes into the one around it. -/
lemma read?_close {enclosing : OpenGroup} (e : g.switches.next cs = ')' :: rest) :
    read? (enclosing :: outer) g names cs = read? outer (enclosing.pushGroup g) names rest := by
  ext item
  rw [read?_eq_some_iff, nextToken_paren e, e]
  simp [and_assoc]

/-- Outside of all groups there is nothing to close. -/
lemma read?_unopened (e : g.switches.next cs = ')' :: rest) : read? [] g names cs = none := by
  ext item
  rw [read?_eq_some_iff, nextToken_paren e, e]
  simp

/-- Behind a token the text is read in the groups that it leaves. -/
lemma read?_token {t : Token} (e : nextToken g names cs = some (t, rest)) :
    read? outer g names cs = read? (t.around ++ outer) t.current t.names rest := by
  have visible : g.switches.next cs ≠ [] ∧ ∀ rest, g.switches.next cs ≠ ')' :: rest := by
    unfold nextToken at e
    split at e
    · cases e
    · next c rest ahead =>
      split at e
      · cases e
      · next hc => simp [ahead, hc]
  ext item
  rw [read?_eq_some_iff, e]
  simp [visible, and_assoc]

lemma blank_brace : Text.blank.contains '\x7b' = false := by decide

/-- No pattern goes on with a brace that does not close. -/
lemma read?_stuck {b : List Char} (e : g.switches.next b = []) : read? outer g names ('\x7b' :: b) = none := by
  have brace : g.switches.next ('\x7b' :: b) = '\x7b' :: b := by
    unfold Switches.next
    split
    · simp [dropSpace, blank_brace]
    · rfl
  have token : nextToken g names ('\x7b' :: b) = none := by
    simp only [nextToken, brace]
    show (readBounds g.switches b).bind _ = _
    rw [readBounds_eq, e]
    rfl
  ext item
  rw [read?_eq_some_iff, token, brace]
  simp

end

end SceneGrammar.Pattern
