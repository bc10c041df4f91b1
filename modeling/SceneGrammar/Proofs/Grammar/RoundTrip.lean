import SceneGrammar.Grammar.Interchange
import SceneGrammar.Proofs.Json.Record

/-!
# Grammars read back

A literal, an argument and a rule are each read from their own tree. The tags and the fields of a
record are the same on both sides, and an object is never a literal, so a drawn value is not taken
for one. The tree of a grammar can be told from its text if its floats can.
-/

namespace SceneGrammar
open Json

/-! ## Literals -/

namespace Literal

/-- Items are written one by one. -/
lemma itemsToJson_eq (items : List Literal) : itemsToJson items = items.map toJson := by
  induction items with
  | nil => rfl
  | cons item rest ih => rw [itemsToJson, List.map_cons, ih]

/-- Items are read one by one. -/
lemma itemsOfJson?_eq (items : List Json) : itemsOfJson? items = items.mapM ofJson? := by
  induction items with
  | nil => rfl
  | cons item rest ih => rw [itemsOfJson?, List.mapM_cons, ih]

mutual
/-- A literal is read from its tree. -/
lemma ofJson?_toJson : ∀ v : Literal, ofJson? v.toJson = some v
  | .bool b => rfl
  | .int n => by
    have fits : (Int64.minValue.toInt ≤ n.toInt && n.toInt ≤ Int64.maxValue.toInt) = true := by
      rw [Bool.and_eq_true, decide_eq_true_iff, decide_eq_true_iff]
      exact ⟨n.minValue_le_toInt, n.toInt_le⟩
    rw [toJson, ofJson?, if_pos fits, Int64.ofInt_toInt]
  | .float x => rfl
  | .str s => rfl
  | .list items => by
    rw [toJson, ofJson?, itemsOfJson?_itemsToJson items]
    rfl
/-- The items of a list are read from their trees. -/
lemma itemsOfJson?_itemsToJson : ∀ items : List Literal,
    itemsOfJson? (itemsToJson items) = some items
  | [] => rfl
  | item :: rest => by
    rw [itemsToJson, itemsOfJson?, ofJson?_toJson item, itemsOfJson?_itemsToJson rest]
    rfl
end

mutual
/-- Only the floats of a literal can keep it from being told from its text. -/
lemma written_toJson : ∀ v : Literal, Written v.toJson
  | .bool b => fun _ => .bool b
  | .int n => fun _ => by
    have low := n.le_toInt
    have high := n.toInt_lt
    exact .int (Decimal.isInf_whole (by omega))
  | .float x => written_float x
  | .str s => written_str s
  | .list items => written_arr (written_itemsToJson items)
/-- Items are told from their texts if their floats are. -/
lemma written_itemsToJson : ∀ items : List Literal, ∀ j ∈ itemsToJson items, Written j
  | [] => by simp [itemsToJson]
  | item :: rest => by
    rw [itemsToJson]
    exact List.forall_mem_cons.2 ⟨written_toJson item, written_itemsToJson rest⟩
end

end Literal

/-! ## Arguments -/

namespace Expr

/-- How an entry of a weighted value is read. -/
def entryOf? (read : Json → Option (Expr Unit)) (j : Json) : Option (Literal × Expr Unit) := do
  match ← j.items? with
  | [w, e] => pure (← Literal.ofJson? w, ← read e)
  | _ => none

/-- Entries are written as pairs, one by one. -/
lemma entriesToJson_eq {ι : Type} (entries : List (Literal × Expr ι)) :
    entriesToJson entries = entries.map fun p => .arr [p.1.toJson, p.2.toJson] := by
  induction entries with
  | nil => rfl
  | cons p rest ih => rw [entriesToJson, List.map_cons, ih]

mutual
/-- An argument is read from its tree. -/
lemma ofJson?_toJson : ∀ (e : Expr Unit) (bound : Nat), e.toJson.depth < bound →
    ofJson? bound e.toJson = some e
  | .literal v, bound + 1, _ => by rw [toJson, ofJson?, Literal.ofJson?_toJson]
  | .range least most, bound + 1, _ => by
    change (Literal.ofJson? least.toJson).bind (fun least =>
      (Literal.ofJson? most.toJson).bind fun most => some (range least most)) = _
    rw [Literal.ofJson?_toJson least, Literal.ofJson?_toJson most]
    rfl
  | .weighted entries, bound + 1, h => by
    simp only [toJson, depth, fieldsDepth] at h
    have read := entriesOfJson?_toJson entries bound (by omega)
    exact congrArg (fun o => Option.bind o fun entries => some (weighted entries)) read
  | .fixed _ e, bound + 1, h => by
    simp only [toJson, depth, fieldsDepth] at h
    have read := ofJson?_toJson e bound (by omega)
    exact congrArg (fun o => Option.bind o fun e => some (fixed () e)) read
/-- Entries are read from their trees. -/
lemma entriesOfJson?_toJson : ∀ (entries : List (Literal × Expr Unit)) (bound : Nat),
    itemsDepth (entriesToJson entries) < bound →
      (entriesToJson entries).mapM (entryOf? (ofJson? bound)) = some entries
  | [], bound, _ => rfl
  | (w, e) :: rest, bound, h => by
    simp only [entriesToJson, depth, itemsDepth] at h
    have first := ofJson?_toJson e bound (by omega)
    have others := entriesOfJson?_toJson rest bound (by omega)
    rw [entriesToJson, List.mapM_cons, others]
    simp [entryOf?, items?, Literal.ofJson?_toJson, first]
end

variable {ι : Type}

mutual
/-- Only the floats of an argument can keep it from being told from its text. -/
lemma written_toJson : ∀ e : Expr ι, Written e.toJson
  | .literal v => Literal.written_toJson v
  | .range least most => written_obj (by
    simp [written_str, Literal.written_toJson])
  | .weighted entries => written_obj (by
    simpa [written_str] using written_arr (written_entriesToJson entries))
  | .fixed _ e => written_obj (by
    simpa [written_str] using written_toJson e)
/-- Entries are told from their texts if their floats are. -/
lemma written_entriesToJson : ∀ entries : List (Literal × Expr ι),
    ∀ j ∈ entriesToJson entries, Written j
  | [] => by simp [entriesToJson]
  | (w, e) :: rest => by
    rw [entriesToJson]
    refine List.forall_mem_cons.2 ⟨written_arr ?_, written_entriesToJson rest⟩
    simpa [Literal.written_toJson] using written_toJson e
end

end Expr

/-! ## Rules -/

namespace Rule

/-- The axis of a mirror is read as it was written. -/
lemma mirrorOfJson?_mirrorToJson (mirror : Option Axis) :
    mirrorOfJson? (some (mirrorToJson mirror)) = some mirror := by
  cases mirror with
  | none => rfl
  | some axis => cases axis <;> rfl

/-- The axis of a mirror is told from its text. -/
lemma written_mirrorToJson (mirror : Option Axis) : Written (mirrorToJson mirror) := by
  cases mirror with
  | none => exact fun _ => .null
  | some axis => exact written_str _

/-- Rules are written one by one. -/
lemma allToJson_eq {ι : Type} (rules : List (Rule ι)) : allToJson rules = rules.map toJson := by
  induction rules with
  | nil => rfl
  | cons r rest ih => rw [allToJson, List.map_cons, ih]

/-- The argument of a rule is read as it was written, and the rule made of it. -/
lemma bind_argument (e : Expr Unit) (make : Expr Unit → Option (Rule Unit)) :
    (Expr.ofJson? (e.toJson.depth + 1) e.toJson).bind make = make e := by
  rw [Expr.ofJson?_toJson e _ (Nat.lt_succ_self _)]
  rfl

-- the tag and the fields of a written record are found by computation, which leaves what is read
-- of the argument and of the body
mutual
/-- A rule is read from its tree. -/
lemma ofJson?_toJson : ∀ (r : Rule Unit) (bound : Nat) (inside : Bool), r.toJson.depth < bound →
    ofJson? bound inside r.toJson = some r
  | .define name body, bound + 1, _, h => by
    simp only [toJson, depth, fieldsDepth] at h
    have read := bodyOfJson?_toJson body bound true (by omega)
    exact congrArg (fun o => Option.bind o fun body => some (define name body)) read
  | .exportLink e, bound + 1, _, _ => bind_argument e fun e => some (exportLink e)
  | .block body, bound + 1, _, h => by
    simp only [toJson, depth, fieldsDepth] at h
    have read := bodyOfJson?_toJson body bound true (by omega)
    exact congrArg (fun o => Option.bind o fun body => some (block body)) read
  | .times e body, bound + 1, _, h => by
    simp only [toJson, depth, fieldsDepth] at h
    have read := bodyOfJson?_toJson body bound true (by omega)
    refine (bind_argument e fun e => Option.bind _ fun body => some (times e body)).trans ?_
    exact congrArg (fun o => Option.bind o fun body => some (times e body)) read
  | .place e, bound + 1, _, _ => bind_argument e fun e => some (place e)
  | .copySibling e mirror, bound + 1, _, _ => by
    have read := mirrorOfJson?_mirrorToJson mirror
    refine (bind_argument e fun e => Option.bind _ fun axis => some (copySibling e axis)).trans ?_
    exact congrArg (fun o => Option.bind o fun axis => some (copySibling e axis)) read
  | .addLink e, bound + 1, _, _ => bind_argument e fun e => some (addLink e)
  | .goTo e, bound + 1, _, _ => bind_argument e fun e => some (goTo e)
  | .forLinks pattern body, bound + 1, _, h => by
    simp only [toJson, depth, fieldsDepth] at h
    have read := bodyOfJson?_toJson body bound true (by omega)
    exact congrArg (fun o => Option.bind o fun body => some (forLinks pattern body)) read
  | .maybe e body, bound + 1, _, h => by
    simp only [toJson, depth, fieldsDepth] at h
    have read := bodyOfJson?_toJson body bound true (by omega)
    refine (bind_argument e fun e => Option.bind _ fun body => some (maybe e body)).trans ?_
    exact congrArg (fun o => Option.bind o fun body => some (maybe e body)) read
  | .adjust channel e absolute, bound + 1, _, _ => by
    cases channel
    all_goals exact bind_argument e fun e => some (adjust _ e absolute)
/-- A sequence is read from its trees. -/
lemma bodyOfJson?_toJson : ∀ (rules : List (Rule Unit)) (bound : Nat) (inside : Bool),
    itemsDepth (allToJson rules) < bound →
      (allToJson rules).mapM (ofJson? bound inside) = some rules
  | [], bound, _, _ => rfl
  | r :: rest, bound, inside, h => by
    rw [allToJson, itemsDepth] at h
    have first := ofJson?_toJson r bound inside (by omega)
    have others := bodyOfJson?_toJson rest bound inside (by omega)
    rw [allToJson, List.mapM_cons, first, others]
    rfl
end

variable {ι : Type}

mutual
/-- Only the floats of a rule can keep it from being told from its text. -/
lemma written_toJson : ∀ r : Rule ι, Written r.toJson
  | .define _ body => written_obj (by
    simpa [written_str] using written_arr (written_allToJson body))
  | .exportLink e => written_obj (by simpa [written_str] using e.written_toJson)
  | .block body => written_obj (by
    simpa [written_str] using written_arr (written_allToJson body))
  | .times e body => written_obj (by
    simpa [written_str] using ⟨e.written_toJson, written_arr (written_allToJson body)⟩)
  | .place e => written_obj (by simpa [written_str] using e.written_toJson)
  | .copySibling e mirror => written_obj (by
    simpa [written_str] using ⟨e.written_toJson, written_mirrorToJson mirror⟩)
  | .addLink e => written_obj (by simpa [written_str] using e.written_toJson)
  | .goTo e => written_obj (by simpa [written_str] using e.written_toJson)
  | .forLinks _ body => written_obj (by
    simpa [written_str] using written_arr (written_allToJson body))
  | .maybe e body => written_obj (by
    simpa [written_str] using ⟨e.written_toJson, written_arr (written_allToJson body)⟩)
  | .adjust _ e absolute => written_obj (by
    simpa [written_str] using ⟨e.written_toJson, fun _ => .bool absolute⟩)
/-- Rules are told from their texts if their floats are. -/
lemma written_allToJson : ∀ rules : List (Rule ι), ∀ j ∈ allToJson rules, Written j
  | [] => by simp [allToJson]
  | r :: rest => by
    rw [allToJson]
    exact List.forall_mem_cons.2 ⟨written_toJson r, written_allToJson rest⟩
end

end Rule

end SceneGrammar
