import SceneGrammar.Proofs.Grammar.RoundTrip

/-!
# Grammars as interchange text

A grammar is told from its text (`Grammar.parse?_toJson_print`): what is printed of a grammar is read as
that grammar, and whatever text is read as a grammar, in whichever of the forms that a record may
have, gives one that can be printed and read again. The grammars this holds of are those whose
floats are finite and whose tree is not too deep, and they are all that can be read.

The proof follows the readers: each of them takes a sound tree to something whose own tree is sound
and no deeper.
-/

namespace SceneGrammar
open Json

namespace Literal

/-- What is read as a literal is sound as one. -/
lemma sound_ofJson? {d : Nat} {j : Json} {v : Literal} (h : Sound d j) (read : ofJson? j = some v) :
    Sound d v.toJson := by
  induction h generalizing v with
  | null => cases read
  | bool b => cases read; exact .bool b
  | @int d n range =>
    rw [ofJson?] at read
    split at read
    case isTrue fits =>
      cases read
      rw [Bool.and_eq_true, decide_eq_true_iff, decide_eq_true_iff, Int64.toInt_minValue,
        Int64.toInt_maxValue] at fits
      rw [toJson, Int64.toInt_ofInt_of_le fits.1 (by omega)]
      exact .int range
    case isFalse =>
      cases read
      exact .float (Decimal.isFinite_ofInt range)
  | float finite => cases read; exact .float finite
  | str s => cases read; exact .str s
  | arr all ih =>
    rw [ofJson?] at read
    obtain ⟨items, each, same⟩ := Option.map_eq_some_iff.1 read
    cases same
    rw [toJson, itemsToJson_eq]
    rw [itemsOfJson?_eq] at each
    refine .arr (List.forall_mem_map.2 ?_)
    exact forall_of_mapM each fun j mem v read => ih j mem read
  | obj all ih => cases read

end Literal

namespace Expr

lemma sound_entryOf? {read : Json → Option (Expr Unit)} {d : Nat} {j : Json}
    {p : Literal × Expr Unit} (reads : ∀ {d j e}, Sound d j → read j = some e → Sound d e.toJson)
    (h : Sound d j) (entry : entryOf? read j = some p) :
    Sound d (.arr [p.1.toJson, p.2.toJson]) := by
  obtain ⟨items, found, entry⟩ := Option.bind_eq_some_iff.1 entry
  obtain ⟨d, rfl, sound⟩ := h.items? found
  split at entry
  case h_1 w e =>
    obtain ⟨weight, weightRead, entry⟩ := Option.bind_eq_some_iff.1 entry
    obtain ⟨value, valueRead, entry⟩ := Option.bind_eq_some_iff.1 entry
    cases entry
    have weight := Literal.sound_ofJson? (sound w (by simp)) weightRead
    have value := reads (sound e (by simp)) valueRead
    exact .arr (by simp [weight, value])
  case h_2 => cases entry

/-- What is read as a drawn value is sound as one. -/
lemma sound_drawOfRecord? {read : Json → Option (Expr Unit)} {word : String} {record : Json}
    {d : Nat} {e : Expr Unit}
    (reads : ∀ {d j e}, Sound d j → read j = some e → Sound d e.toJson)
    (h : Sound d record) (draw : drawOfRecord? read word record = some e) : Sound d e.toJson := by
  unfold drawOfRecord? at draw
  split_ifs at draw
  case pos =>
    obtain ⟨ps, parts, draw⟩ := Option.bind_eq_some_iff.1 draw
    obtain ⟨d, rfl, sound⟩ := h.parts? parts
    split at draw
    case h_1 least most =>
      obtain ⟨low, lowRead, draw⟩ := Option.bind_eq_some_iff.1 draw
      obtain ⟨high, highRead, draw⟩ := Option.bind_eq_some_iff.1 draw
      cases draw
      have low := Literal.sound_ofJson? (sound least (by simp)) lowRead
      have high := Literal.sound_ofJson? (sound most (by simp)) highRead
      exact .obj (by simp [Sound.str, low, high])
    case h_2 => cases draw
  case pos =>
    obtain ⟨ps, parts, draw⟩ := Option.bind_eq_some_iff.1 draw
    obtain ⟨d, rfl, sound⟩ := h.parts? parts
    split at draw
    case h_1 entries =>
      obtain ⟨items, found, draw⟩ := Option.bind_eq_some_iff.1 draw
      obtain ⟨pairs, each, draw⟩ := Option.bind_eq_some_iff.1 draw
      cases draw
      obtain ⟨d, rfl, below⟩ := (sound entries (by simp)).items? found
      have pairs : ∀ k ∈ entriesToJson pairs, Sound d k := by
        rw [entriesToJson_eq, List.forall_mem_map]
        exact forall_of_mapM each fun j mem p read => sound_entryOf? reads (below j mem) read
      exact .obj (by simpa [Sound.str] using .arr pairs)
    case h_2 => cases draw
  case neg =>
    obtain ⟨ps, parts, draw⟩ := Option.bind_eq_some_iff.1 draw
    obtain ⟨d, rfl, sound⟩ := h.parts? parts
    split at draw
    case h_1 inner =>
      obtain ⟨e, innerRead, draw⟩ := Option.bind_eq_some_iff.1 draw
      cases draw
      have inner := reads (sound inner (by simp)) innerRead
      exact .obj (by simp [Sound.str, inner])
    case h_2 => cases draw

/-- What is read as an argument is sound as one. -/
lemma sound_ofJson? {bound d : Nat} {j : Json} {e : Expr Unit} (h : Sound d j)
    (read : ofJson? bound j = some e) : Sound d e.toJson := by
  induction bound generalizing d j e with
  | zero => cases read
  | succ bound ih =>
    rw [ofJson?] at read
    split at read
    case h_1 v literal =>
      cases read
      exact Literal.sound_ofJson? h literal
    case h_2 =>
      obtain ⟨⟨tag, record⟩, found, read⟩ := Option.bind_eq_some_iff.1 read
      obtain ⟨word, -, read⟩ := Option.bind_eq_some_iff.1 read
      exact sound_drawOfRecord? ih (h.untag? found) read

end Expr

namespace Rule

lemma sound_mirrorToJson (d : Nat) (mirror : Option Axis) : Sound d (mirrorToJson mirror) := by
  cases mirror with
  | none => exact .null
  | some axis => exact .str _

/-- A word that is read is one of those that are asked for. -/
lemma mem_of_word? {inside : Bool} {words : List String} {j : Json} {w : String}
    (h : word? inside words j = some w) : w ∈ words := by
  unfold word? at h
  split at h
  case h_1 s =>
    split at h
    case isTrue known => cases h; exact List.contains_iff_mem.1 known
    case isFalse => cases h
  case h_2 =>
    split at h
    case isTrue => exact List.mem_of_getElem? h
    case isFalse => cases h
  case h_3 => cases h

/-- What is read as a sequence is sound as one. -/
def ReadsSound (read : Json → Option (List (Rule Unit))) : Prop :=
  ∀ {d j rules}, Sound d j → read j = some rules → Sound d (.arr (allToJson rules))

section
variable {read : Json → Option (List (Rule Unit))} {record : Json} {d : Nat} {r : Rule Unit}

/-- A rule of one argument. -/
lemma sound_argument (field : String) (make : Expr Unit → Rule Unit) (h : Sound d record)
    (rule : (do
      match ← record.parts? [field] with
      | [some e] => pure (make (← Expr.ofJson? (e.depth + 1) e))
      | _ => none) = some r) :
    ∃ c e, d = c + 1 ∧ Sound c e.toJson ∧ make e = r := by
  obtain ⟨ps, parts, rule⟩ := Option.bind_eq_some_iff.1 rule
  obtain ⟨c, rfl, sound⟩ := h.parts? parts
  split at rule
  case h_1 j =>
    obtain ⟨e, arg, rule⟩ := Option.bind_eq_some_iff.1 rule
    cases rule
    exact ⟨c, e, rfl, Expr.sound_ofJson? (sound j (by simp)) arg, rfl⟩
  case h_2 => cases rule

/-- A rule of a sequence. -/
lemma sound_block (reads : ReadsSound read) (h : Sound d record)
    (rule : (do
      match ← record.parts? ["body"] with
      | [some body] => pure (block (← read body))
      | _ => none) = some r) :
    ∃ c body, d = c + 1 ∧ Sound c (.arr (allToJson body)) ∧ block body = r := by
  obtain ⟨ps, parts, rule⟩ := Option.bind_eq_some_iff.1 rule
  obtain ⟨c, rfl, sound⟩ := h.parts? parts
  split at rule
  case h_1 j =>
    obtain ⟨body, inner, rule⟩ := Option.bind_eq_some_iff.1 rule
    cases rule
    exact ⟨c, body, rfl, reads (sound j (by simp)) inner, rfl⟩
  case h_2 => cases rule

/-- A rule of a text and a sequence. -/
lemma sound_named (reads : ReadsSound read)
    (field : String) (make : String → List (Rule Unit) → Rule Unit) (h : Sound d record)
    (rule : (do
      match ← record.parts? [field, "body"] with
      | [some name, some body] => pure (make (← name.text?) (← read body))
      | _ => none) = some r) :
    ∃ c name body, d = c + 1 ∧ Sound c (.arr (allToJson body)) ∧ make name body = r := by
  obtain ⟨ps, parts, rule⟩ := Option.bind_eq_some_iff.1 rule
  obtain ⟨c, rfl, sound⟩ := h.parts? parts
  split at rule
  case h_1 t j =>
    obtain ⟨name, -, rule⟩ := Option.bind_eq_some_iff.1 rule
    obtain ⟨body, inner, rule⟩ := Option.bind_eq_some_iff.1 rule
    cases rule
    exact ⟨c, name, body, rfl, reads (sound j (by simp)) inner, rfl⟩
  case h_2 => cases rule

/-- A rule of an argument and a sequence. -/
lemma sound_guarded (reads : ReadsSound read)
    (field : String) (make : Expr Unit → List (Rule Unit) → Rule Unit) (h : Sound d record)
    (rule : (do
      match ← record.parts? [field, "body"] with
      | [some e, some body] => pure (make (← Expr.ofJson? (e.depth + 1) e) (← read body))
      | _ => none) = some r) :
    ∃ c e body, d = c + 1 ∧ Sound c e.toJson ∧ Sound c (.arr (allToJson body)) ∧
      make e body = r := by
  obtain ⟨ps, parts, rule⟩ := Option.bind_eq_some_iff.1 rule
  obtain ⟨c, rfl, sound⟩ := h.parts? parts
  split at rule
  case h_1 j k =>
    obtain ⟨e, arg, rule⟩ := Option.bind_eq_some_iff.1 rule
    obtain ⟨body, inner, rule⟩ := Option.bind_eq_some_iff.1 rule
    cases rule
    exact ⟨c, e, body, rfl, Expr.sound_ofJson? (sound j (by simp)) arg,
      reads (sound k (by simp)) inner, rfl⟩
  case h_2 => cases rule

/-- A rule of an argument and a part that may be missing. -/
lemma sound_optional {β : Type} (fields : List String) (part? : Option Json → Option β)
    (make : Expr Unit → β → Rule Unit) (h : Sound d record)
    (rule : (do
      match ← record.parts? fields with
      | [some e, part] => pure (make (← Expr.ofJson? (e.depth + 1) e) (← part? part))
      | _ => none) = some r) :
    ∃ c e part, d = c + 1 ∧ Sound c e.toJson ∧ make e part = r := by
  obtain ⟨ps, parts, rule⟩ := Option.bind_eq_some_iff.1 rule
  obtain ⟨c, rfl, sound⟩ := h.parts? parts
  split at rule
  case h_1 j k =>
    obtain ⟨e, arg, rule⟩ := Option.bind_eq_some_iff.1 rule
    obtain ⟨part, -, rule⟩ := Option.bind_eq_some_iff.1 rule
    cases rule
    exact ⟨c, e, part, rfl, Expr.sound_ofJson? (sound j (by simp)) arg, rfl⟩
  case h_2 => cases rule

/-- Whether the vector of a rule is absolute; it is not if nothing is said. -/
def absolute? : Option Json → Option Bool
  | none => some false
  | some j => j.truth?

/-- What is read as a rule is sound as one. -/
lemma sound_ofRecord? {word : String} (reads : ReadsSound read) (known : word ∈ words)
    (h : Sound d record) (rule : ofRecord? read word record = some r) : Sound d r.toJson := by
  -- the cases are those of `words`, in its order
  simp only [words, List.mem_cons, List.not_mem_nil, or_false] at known
  rcases known with rfl | rfl | rfl | rfl | rfl | rfl | rfl | rfl | rfl | rfl | rfl | rfl | rfl
  · obtain ⟨d, name, body, rfl, sound, rfl⟩ := sound_named reads "name" define h rule
    exact .obj (by simp [Sound.str, sound])
  · obtain ⟨d, e, rfl, sound, rfl⟩ := sound_argument "alias" exportLink h rule
    exact .obj (by simp [Sound.str, sound])
  · obtain ⟨d, body, rfl, sound, rfl⟩ := sound_block reads h rule
    exact .obj (by simp [Sound.str, sound])
  · obtain ⟨d, e, body, rfl, arg, sound, rfl⟩ := sound_guarded reads "count" times h rule
    exact .obj (by simp [Sound.str, arg, sound])
  · obtain ⟨d, e, rfl, sound, rfl⟩ := sound_argument "name" place h rule
    exact .obj (by simp [Sound.str, sound])
  · obtain ⟨d, e, mirror, rfl, sound, rfl⟩ :=
      sound_optional ["link", "mirror"] mirrorOfJson? copySibling h rule
    exact .obj (by simp [Sound.str, sound, sound_mirrorToJson])
  · obtain ⟨d, e, rfl, sound, rfl⟩ := sound_argument "name" addLink h rule
    exact .obj (by simp [Sound.str, sound])
  · obtain ⟨d, e, rfl, sound, rfl⟩ := sound_argument "name" goTo h rule
    exact .obj (by simp [Sound.str, sound])
  · obtain ⟨d, name, body, rfl, sound, rfl⟩ := sound_named reads "pattern" forLinks h rule
    exact .obj (by simp [Sound.str, sound])
  · obtain ⟨d, e, body, rfl, arg, sound, rfl⟩ := sound_guarded reads "ratio" maybe h rule
    exact .obj (by simp [Sound.str, arg, sound])
  · obtain ⟨d, e, absolute, rfl, sound, rfl⟩ :=
      sound_optional [vectorField .location, "absolute"] absolute? (adjust .location) h rule
    exact .obj (by simp [Sound.str, sound, Sound.bool])
  · obtain ⟨d, e, absolute, rfl, sound, rfl⟩ :=
      sound_optional [vectorField .rotation, "absolute"] absolute? (adjust .rotation) h rule
    exact .obj (by simp [Sound.str, sound, Sound.bool])
  · obtain ⟨d, e, absolute, rfl, sound, rfl⟩ :=
      sound_optional [vectorField .scale, "absolute"] absolute? (adjust .scale) h rule
    exact .obj (by simp [Sound.str, sound, Sound.bool])

end

/-- What is read as the body of a rule is sound as one. -/
lemma sound_body {read : Json → Option (Rule Unit)}
    (reads : ∀ {d j r}, Sound d j → read j = some r → Sound d r.toJson) :
    ReadsSound fun j => j.items?.bind (·.mapM read) := by
  intro d j rules h found
  obtain ⟨items, array, each⟩ := Option.bind_eq_some_iff.1 found
  obtain ⟨d, rfl, sound⟩ := h.items? array
  refine .arr ?_
  rw [allToJson_eq, List.forall_mem_map]
  exact forall_of_mapM each fun j mem r read => reads (sound j mem) read

/-- What is read as a rule is sound as one. -/
lemma sound_ofJson? {bound d : Nat} {inside : Bool} {j : Json} {r : Rule Unit} (h : Sound d j)
    (read : ofJson? bound inside j = some r) : Sound d r.toJson := by
  induction bound generalizing d inside j r with
  | zero => cases read
  | succ bound ih =>
    obtain ⟨⟨tag, record⟩, found, read⟩ := Option.bind_eq_some_iff.1 read
    obtain ⟨word, known, read⟩ := Option.bind_eq_some_iff.1 read
    exact sound_ofRecord? (sound_body ih) (mem_of_word? known) (h.untag? found) read

end Rule

namespace Grammar

/-- The grammars that have an interchange text: their floats are finite, and their tree is not too
deep. -/
structure Portable (g : Grammar) : Prop where
  finite : ∀ x ∈ (toJson g).floats, x.isFinite = true
  shallow : (toJson g).depth ≤ maxDepth

/-- A portable grammar is read from its text. -/
lemma Portable.parse?_print {g : Grammar} (h : Portable g)
    (back : ∀ x ∈ (toJson g).floats, ReadsBack x) : parse? (toJson g).print = some g := by
  have legible : Legible (toJson g) := written_arr (Rule.written_allToJson g) back
  have holdable : (toJson g).holdable 0 = true := by
    rw [holdable, legible.readable, Bool.true_and, decide_eq_true_iff, Nat.zero_add]
    exact h.shallow
  have read := Rule.bodyOfJson?_toJson g ((toJson g).depth + 1) false (by
    rw [toJson, depth]
    omega)
  rw [parse?, legible.parse?_print]
  change ofJson? (toJson g) = some g
  rw [ofJson?, if_pos holdable]
  exact read

/-- What is read as a grammar is portable. -/
lemma portable_of_parse? {text : String} {g : Grammar} (h : parse? text = some g) : Portable g := by
  obtain ⟨j, read, h⟩ := Option.bind_eq_some_iff.1 h
  rw [ofJson?] at h
  split at h
  case isFalse => cases h
  case isTrue holdable =>
    rw [Json.holdable, Bool.and_eq_true, decide_eq_true_iff, Nat.zero_add] at holdable
    have sound : Sound maxDepth j := sound_parse? read holdable.1 holdable.2
    have sound : Sound maxDepth (toJson g) := Rule.sound_body Rule.sound_ofJson? sound h
    exact ⟨sound.isFinite, sound.depth_le⟩

/-- A portable grammar is read from its text, and whatever is read from a text is a portable grammar, which is
read again from its own text. That the text of a finite float is read as the float is a premise. -/
theorem parse?_toJson_print (g : Grammar)
    (back : ∀ x ∈ (toJson g).floats, x.isFinite = true → ReadsBack x) :
    (Portable g → parse? (toJson g).print = some g) ∧
      ∀ text, parse? text = some g → Portable g ∧ parse? (toJson g).print = some g := by
  refine ⟨fun h => h.parse?_print fun x mem => back x mem (h.finite x mem), fun text read => ?_⟩
  have h := portable_of_parse? read
  exact ⟨h, h.parse?_print fun x mem => back x mem (h.finite x mem)⟩

/-- A tree with the tag behind the other fields, a rule in array form and a part left out, and the
grammar that its text is read as. -/
theorem parse?_toJson_print_tilted :
    let j : Json := .arr [.obj [("body", .arr [.arr [.str "move", .arr [.int 1, .float 0.25]]]),
      ("ratio", .float 0.5), ("op", .str "maybe")]]
    let g : Grammar := [.maybe (.literal (.float 0.5))
      [.adjust .location (.literal (.list [.int 1, .float 0.25])) false]]
    (∀ x ∈ (toJson g).floats, x.isFinite = true → ReadsBack x) ∧ parse? j.print = some g ∧
      Portable g ∧ parse? (toJson g).print = some g := by
  intro j g
  have half : ReadsBack 0.5 := rfl
  have quarter : ReadsBack 0.25 := rfl
  have back : ∀ x ∈ (toJson g).floats, x.isFinite = true → ReadsBack x := by
    have floats : (toJson g).floats = [0.5, 0.25] := rfl
    simp only [floats, List.forall_mem_cons]
    exact ⟨fun _ => half, fun _ => quarter, by simp⟩
  have read : parse? j.print = some g := by
    have vector : Legible (.arr [.int 1, .float 0.25]) :=
      .arr (by simpa using ⟨.int rfl, .float quarter⟩)
    have rule : Legible (.arr [.str "move", .arr [.int 1, .float 0.25]]) :=
      .arr (by simpa using ⟨.str _, vector⟩)
    have body : Legible (.arr [.arr [.str "move", .arr [.int 1, .float 0.25]]]) :=
      .arr (by simpa using rule)
    have record : Legible (.obj [("body", .arr [.arr [.str "move", .arr [.int 1, .float 0.25]]]),
      ("ratio", .float 0.5), ("op", .str "maybe")]) :=
      .obj (by simpa using ⟨body, .float half, .str _⟩)
    have legible : Legible j := .arr (by simpa using record)
    rw [parse?, legible.parse?_print]
    rfl
  exact ⟨back, read, (parse?_toJson_print g back).2 _ read⟩

end Grammar

end SceneGrammar
