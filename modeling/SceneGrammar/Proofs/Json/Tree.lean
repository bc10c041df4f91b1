import SceneGrammar.Proofs.Json.Token

/-!
# Trees read back

The text of a tree is read as the tree, if its numbers are. The reader is given two units of its
bound for each character of the text, of which a value takes one and a list it stands in another.
-/

namespace SceneGrammar.Json

/-- A tree that can be told from its text: every part has a value, whole numbers are in range and
floats read back. -/
inductive Legible : Json → Prop
  | null : Legible .null
  | bool (b : Bool) : Legible (.bool b)
  | int {n : Int} (range : (Decimal.mk n.natAbs 0).toFloat.isInf = false) : Legible (.int n)
  | float {x : Float} (back : ReadsBack x) : Legible (.float x)
  | str (s : String) : Legible (.str s)
  | arr {items : List Json} (all : ∀ j ∈ items, Legible j) : Legible (.arr items)
  | obj {fields : List (String × Json)} (all : ∀ f ∈ fields, Legible f.2) : Legible (.obj fields)

/-- The text of a tree begins with a character that is no blank and does not close an array. -/
def Opens (cs : List Char) : Prop := ∃ c rest, cs = c :: rest ∧ isBlank c = false ∧ c ≠ ']'

/-- A numeral opens a text. -/
lemma Numeral.opens {cs : List Char} (n : Numeral cs) : Opens cs := by
  obtain ⟨c, rest, rfl, first⟩ := n.begins
  refine ⟨c, rest, rfl, n.inked c List.mem_cons_self, ?_⟩
  rintro rfl
  cases first with
  | inl minus => cases minus
  | inr digit => cases digit

/-- A whole number is written as a numeral. -/
lemma numeral_intText (n : Int) : Numeral (intText n) := by
  have digits := numeral_digits n.natAbs
  unfold intText
  split
  case isTrue => exact ⟨⟨'-', _, rfl, .inl rfl⟩, inked_cons rfl digits.inked⟩
  case isFalse => exact digits

/-- A tree that can be told from its text opens it. -/
lemma Legible.opens {j : Json} (h : Legible j) : Opens j.chars := by
  unfold chars
  cases h with
  | null => exact ⟨'n', _, rfl, rfl, by decide⟩
  | bool b => cases b <;> exact ⟨_, _, rfl, rfl, by decide⟩
  | int => exact (numeral_intText _).opens
  | float back => exact (numeral_floatText back).opens
  | str => exact ⟨'"', _, rfl, rfl, by decide⟩
  | arr => exact ⟨'[', _, rfl, rfl, by decide⟩
  | obj => exact ⟨'\x7b', _, rfl, rfl, by decide⟩

/-- No blanks are skipped where a text opens. -/
lemma skipBlanks_opens {cs : List Char} (h : Opens cs) (rest : List Char) :
    skipBlanks (cs ++ rest) = cs ++ rest := by
  obtain ⟨c, tail, rfl, ink, -⟩ := h
  rw [skipBlanks, List.cons_append, List.dropWhile_cons, ink]
  rfl

/-- A tree is read from its text whatever follows, if two units of the bound are left for each
character. -/
def Reads (j : Json) : Prop :=
  ∀ bound rest, 2 * j.chars.length ≤ bound → Stops rest →
    readValue bound (j.chars ++ rest) = some (j, rest)

/-! ## Arrays -/

lemma itemChars_one (j : Json) : itemChars [j] = j.chars := by rw [itemChars]

/-- Items are written one after the other with commas between them. -/
lemma itemChars_more (j k : Json) (rest : List Json) :
    itemChars (j :: k :: rest) = j.chars ++ ',' :: itemChars (k :: rest) := by
  rw [itemChars]
  exact List.cons_ne_nil k rest

/-- Items that can be told from their text open it. -/
lemma opens_itemChars {j : Json} (h : Legible j) (rest : List Json) :
    Opens (itemChars (j :: rest)) := by
  obtain ⟨c, tail, same, first⟩ := h.opens
  cases rest with
  | nil => exact ⟨c, tail, by rw [itemChars_one, same], first⟩
  | cons k rest => exact ⟨c, _, by rw [itemChars_more, same]; rfl, first⟩

/-- The items of an array are read up to its bracket. -/
lemma readItems_itemChars {j : Json} {items : List Json} (all : ∀ i ∈ j :: items, Legible i)
    (reads : ∀ i ∈ j :: items, Reads i) (bound : Nat) (rest : List Char)
    (h : 2 * (itemChars (j :: items)).length + 1 ≤ bound) :
    readItems bound (itemChars (j :: items) ++ ']' :: rest) = some (j :: items, rest) := by
  induction items generalizing j bound with
  | nil =>
    obtain ⟨bound, rfl⟩ : ∃ b, bound = b + 1 := ⟨bound - 1, by omega⟩
    rw [itemChars_one] at h ⊢
    rw [readItems, reads j List.mem_cons_self bound _ (by omega) (by simp [Stops])]
    rfl
  | cons k items ih =>
    obtain ⟨bound, rfl⟩ : ∃ b, bound = b + 1 := ⟨bound - 1, by omega⟩
    rw [itemChars_more] at h ⊢
    simp only [List.length_append, List.length_cons] at h
    have others := ih (fun i mem => all i (List.mem_cons_of_mem j mem))
      (fun i mem => reads i (List.mem_cons_of_mem j mem)) bound (by omega)
    have front : skipBlanks (itemChars (k :: items) ++ ']' :: rest) = _ :=
      skipBlanks_opens (opens_itemChars (all k (by simp)) items) _
    rw [readItems, List.append_assoc, List.cons_append,
      reads j List.mem_cons_self bound _ (by omega) (stops_comma _)]
    simp only [Option.bind_eq_bind, Option.bind_some]
    change (readItems bound (skipBlanks (itemChars (k :: items) ++ ']' :: rest))).bind _ = _
    rw [front, others]
    rfl

/-! ## Objects -/

lemma fieldChars_one (key : String) (j : Json) :
    fieldChars [(key, j)] = quote key.toList ++ ':' :: j.chars := by rw [fieldChars]

/-- Fields are written one after the other with commas between them. -/
lemma fieldChars_more (key : String) (j : Json) (f : String × Json) (rest : List (String × Json)) :
    fieldChars ((key, j) :: f :: rest) =
      quote key.toList ++ ':' :: j.chars ++ ',' :: fieldChars (f :: rest) := by
  rw [fieldChars]
  exact List.cons_ne_nil f rest

/-- Fields begin with the quote of the first key. -/
lemma quoted_fieldChars (f : String × Json) (rest : List (String × Json)) :
    ∃ tail, fieldChars (f :: rest) = '"' :: tail := by
  obtain ⟨key, j⟩ := f
  cases rest with
  | nil => exact ⟨_, by rw [fieldChars_one]; rfl⟩
  | cons g rest => exact ⟨_, by rw [fieldChars_more]; rfl⟩

/-- Fields open a text with a quote. -/
lemma opens_fieldChars (f : String × Json) (rest : List (String × Json)) :
    Opens (fieldChars (f :: rest)) := by
  obtain ⟨tail, same⟩ := quoted_fieldChars f rest
  exact ⟨'"', tail, same, rfl, by decide⟩

/-- A field is read with its key and its value; a brace or a comma follows. -/
lemma readFields_field {key : String} {j : Json} (legible : Legible j) (reads : Reads j)
    (bound : Nat) (rest : List Char) (h : 2 * j.chars.length ≤ bound) (stops : Stops rest) :
    readFields (bound + 1) (quote key.toList ++ ':' :: j.chars ++ rest) =
      match skipBlanks rest with
      | '\x7d' :: rest => some (.obj [(key, j)], rest)
      | ',' :: rest => (readFields bound (skipBlanks rest)).bind fun (fields, rest) =>
          some (consField key j fields, rest)
      | _ => none := by
  have text : quote key.toList ++ ':' :: j.chars ++ rest =
      '"' :: (key.toList.flatMap escape ++ '"' :: ':' :: (j.chars ++ rest)) := by simp [quote]
  rw [text, readFields, readText_quote]
  simp only [Option.bind_eq_bind, Option.bind_some]
  change (readValue bound (skipBlanks (j.chars ++ rest))).bind _ = _
  rw [skipBlanks_opens legible.opens, reads bound rest h stops, Option.bind_some]
  rfl

/-- The fields of an object are read up to its brace. -/
lemma readFields_fieldChars {f : String × Json} {fields : List (String × Json)}
    (all : ∀ g ∈ f :: fields, Legible g.2) (reads : ∀ g ∈ f :: fields, Reads g.2) (bound : Nat)
    (rest : List Char) (h : 2 * (fieldChars (f :: fields)).length + 1 ≤ bound) :
    readFields bound (fieldChars (f :: fields) ++ '\x7d' :: rest) =
      some (.obj (f :: fields), rest) := by
  induction fields generalizing f bound with
  | nil =>
    obtain ⟨key, j⟩ := f
    have legible : Legible j := all (key, j) List.mem_cons_self
    have read : Reads j := reads (key, j) List.mem_cons_self
    obtain ⟨bound, rfl⟩ : ∃ b, bound = b + 1 := ⟨bound - 1, by omega⟩
    rw [fieldChars_one] at h ⊢
    simp only [List.length_append, List.length_cons] at h
    exact readFields_field legible read bound _ (by omega) (by simp [Stops])
  | cons g fields ih =>
    obtain ⟨key, j⟩ := f
    have legible : Legible j := all (key, j) List.mem_cons_self
    have read : Reads j := reads (key, j) List.mem_cons_self
    obtain ⟨bound, rfl⟩ : ∃ b, bound = b + 1 := ⟨bound - 1, by omega⟩
    rw [fieldChars_more] at h ⊢
    simp only [List.length_append, List.length_cons] at h
    have others := ih (fun i mem => all i (List.mem_cons_of_mem _ mem))
      (fun i mem => reads i (List.mem_cons_of_mem _ mem)) bound (by omega)
    have front : skipBlanks (fieldChars (g :: fields) ++ '\x7d' :: rest) = _ :=
      skipBlanks_opens (opens_fieldChars g fields) _
    rw [List.append_assoc, List.cons_append,
      readFields_field legible read bound _ (by omega) (stops_comma _)]
    change (readFields bound (skipBlanks (fieldChars (g :: fields) ++ '\x7d' :: rest))).bind _ = _
    rw [front, others]
    rfl

/-! ## Trees -/

/-- An array with items is read with one unit of the bound and its items with the others. -/
lemma readValue_items {cs : List Char} (opens : Opens cs) (bound : Nat) (rest : List Char) :
    readValue (bound + 1) ('[' :: (cs ++ rest)) =
      (readItems bound (cs ++ rest)).map fun (items, rest) => (.arr items, rest) := by
  have front := skipBlanks_opens opens rest
  obtain ⟨c, tail, rfl, -, close⟩ := opens
  rw [readValue]
  simp only [Char.reduceEq, if_false, if_true, front]
  rw [List.cons_append]
  split
  case h_1 same => cases same; exact absurd rfl close
  case h_2 => rfl

/-- An object with fields is read with one unit of the bound and its fields with the others. -/
lemma readValue_fields {cs : List Char} (opens : ∃ tail, cs = '"' :: tail) (bound : Nat)
    (rest : List Char) :
    readValue (bound + 1) ('\x7b' :: (cs ++ rest)) = readFields bound (cs ++ rest) := by
  obtain ⟨tail, rfl⟩ := opens
  rfl

/-- A tree whose text is read with one unit of the bound. -/
lemma reads_of_succ {j : Json} (opens : Opens j.chars)
    (h : ∀ bound rest, 2 * j.chars.length ≤ bound + 1 → Stops rest →
      readValue (bound + 1) (j.chars ++ rest) = some (j, rest)) : Reads j := by
  intro bound rest enough stops
  obtain ⟨c, tail, same, -⟩ := opens
  cases bound with
  | zero => simp [same] at enough
  | succ bound => exact h bound rest enough stops

/-- A legible tree is read from its text. -/
theorem Legible.reads {j : Json} (h : Legible j) : Reads j := by
  refine reads_of_succ h.opens ?_
  induction h with
  | null => intro bound rest _ _; rfl
  | bool b => intro bound rest _ _; cases b <;> rfl
  | int range =>
    intro bound rest _ stops
    rw [chars, readValue_numeral (numeral_intText _),
      (local_readNumber (readNumber_intText range)).2 stops, List.nil_append]
  | float back =>
    intro bound rest _ stops
    rw [chars, readValue_numeral (numeral_floatText back),
      (local_readNumber (readNumber_floatText back)).2 stops, List.nil_append]
  | str s =>
    intro bound rest _ _
    have text : quote s.toList ++ rest = '"' :: (s.toList.flatMap escape ++ '"' :: rest) := by
      simp [quote]
    rw [chars, text, readValue]
    simp [readText_quote]
  | @arr items all ih =>
    intro bound rest enough _
    have reads : ∀ j ∈ items, Reads j := fun j mem => reads_of_succ (all j mem).opens (ih j mem)
    cases items with
    | nil => rfl
    | cons j items =>
      rw [chars] at enough ⊢
      simp only [List.length_append, List.length_cons] at enough
      have text : '[' :: itemChars (j :: items) ++ [']'] ++ rest =
          '[' :: (itemChars (j :: items) ++ ']' :: rest) := by simp
      rw [text, readValue_items (opens_itemChars (all j List.mem_cons_self) items),
        readItems_itemChars all reads bound rest (by omega)]
      rfl
  | @obj fields all ih =>
    intro bound rest enough _
    have reads : ∀ f ∈ fields, Reads f.2 := fun f mem => reads_of_succ (all f mem).opens (ih f mem)
    cases fields with
    | nil => rfl
    | cons f fields =>
      rw [chars] at enough ⊢
      simp only [List.length_append, List.length_cons] at enough
      have text : '\x7b' :: fieldChars (f :: fields) ++ ['\x7d'] ++ rest =
          '\x7b' :: (fieldChars (f :: fields) ++ '\x7d' :: rest) := by simp
      rw [text, readValue_fields (quoted_fieldChars f fields),
        readFields_fieldChars all reads bound rest (by omega)]

/-- The text of a legible tree is read as the tree. -/
theorem Legible.parse?_print {j : Json} (h : Legible j) : parse? j.print = some j := by
  have front := skipBlanks_opens h.opens []
  rw [List.append_nil] at front
  have read := h.reads (readBound j.chars) [] (by unfold readBound; omega) stops_nil
  rw [List.append_nil] at read
  rw [parse?, print, String.toList_ofList, ofChars?, front, read]
  rfl

end SceneGrammar.Json
