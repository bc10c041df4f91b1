import SceneGrammar.Proofs.Grammar.Register

/-!
# The definitions of a grammar

All definitions in a sequence, wherever they stand in it, the ones inside a body before those that follow
the body. If nothing is wrong with the sequence, these are the names that preparing it gives
(`Rule.registeredAll_eq_definitionsOf`).
-/

namespace SceneGrammar.Rule

variable {ι : Type}

mutual
/-- The definitions in a rule, those inside a body before the one whose body it is. -/
def definitions : Rule ι → List (String × List (Rule ι))
  | .define name body => definitionsOf body ++ [(name, body)]
  | .block body | .times _ body | .forLinks _ body | .maybe _ body => definitionsOf body
  | _ => []
/-- The definitions in a sequence. -/
def definitionsOf : List (Rule ι) → List (String × List (Rule ι))
  | [] => []
  | r :: rs => r.definitions ++ definitionsOf rs
end

/-- The definitions in rules are those in each of them, in order. -/
lemma definitionsOf_eq_flatMap (rs : List (Rule ι)) : definitionsOf rs = rs.flatMap definitions := by
  induction rs with
  | nil => rfl
  | cons r rs ih => rw [definitionsOf, ih, List.flatMap_cons]

/-- The last definition of a name. -/
def lastDefinition? (rs : List (Rule ι)) (name : String) : Option (List (Rule ι)) :=
  (definitionsOf rs).reverse.lookup name

mutual
/-- A rule without a defect gives all its names. -/
lemma registered_eq_definitions : ∀ {r : Rule ι}, r.defect? = none → r.registered = r.definitions
  | .define name body, h => by
    unfold defect? at h
    split at h
    · cases h
    · next named =>
      simp only [registered, definitions, if_neg named, registeredAll_eq_definitionsOf h, h,
        Option.isNone_none, if_true]
  | .block body, h => by
    simp only [registered, definitions]
    exact registeredAll_eq_definitionsOf h
  | .times e body, h => by
    obtain ⟨he, hbody⟩ := Option.or_eq_none_iff.mp h
    simp only [registered, definitions, he, Option.isNone_none, if_true]
    exact registeredAll_eq_definitionsOf hbody
  | .forLinks pattern body, h => by
    obtain ⟨hp, hbody⟩ := Option.or_eq_none_iff.mp h
    simp only [registered, definitions, hp, Option.isNone_none, if_true]
    exact registeredAll_eq_definitionsOf hbody
  | .maybe e body, h => by
    obtain ⟨he, hbody⟩ := Option.or_eq_none_iff.mp h
    simp only [registered, definitions, he, Option.isNone_none, if_true]
    exact registeredAll_eq_definitionsOf hbody
  | .exportLink _, _ | .place _, _ | .copySibling _ _, _ | .addLink _, _ | .goTo _, _
  | .adjust _ _ _, _ => rfl
/-- Nothing keeps a sequence without defects from giving all its names. -/
theorem registeredAll_eq_definitionsOf : ∀ {rs : List (Rule ι)}, defectOf? rs = none →
    registeredAll rs = definitionsOf rs
  | [], _ => rfl
  | r :: rs, h => by
    obtain ⟨hr, hrs⟩ := Option.or_eq_none_iff.mp h
    simp only [registeredAll, definitionsOf, registered_eq_definitions hr, hr, Option.isNone_none,
      if_true, registeredAll_eq_definitionsOf hrs]
end

/-! ## Without definitions -/

mutual
/-- A rule without definitions gives no names. -/
lemma registered_eq_nil : ∀ {r : Rule ι}, r.definitions = [] → r.registered = []
  | .define _ _, h => absurd (List.append_eq_nil_iff.mp h).2 (List.cons_ne_nil _ _)
  | .block body, h => registeredAll_eq_nil h
  | .times _ body, h | .forLinks _ body, h | .maybe _ body, h => by
    have inside : definitionsOf body = [] := h
    simp only [registered, registeredAll_eq_nil inside, ite_self]
  | .exportLink _, _ | .place _, _ | .copySibling _ _, _ | .addLink _, _ | .goTo _, _
  | .adjust _ _ _, _ => rfl
/-- A sequence without definitions gives no names, even if it has defects. -/
lemma registeredAll_eq_nil : ∀ {rs : List (Rule ι)}, definitionsOf rs = [] → registeredAll rs = []
  | [], _ => rfl
  | r :: rs, h => by
    obtain ⟨hr, hrs⟩ := List.append_eq_nil_iff.mp h
    simp only [registeredAll, registered_eq_nil hr, registeredAll_eq_nil hrs, ite_self,
      List.append_nil]
end

mutual
/-- Numbering makes no definitions. -/
lemma definitions_number : ∀ {r : Rule ι}, r.definitions = [] → ∀ next,
    (r.number next).1.definitions = []
  | .define _ _, h, _ => absurd (List.append_eq_nil_iff.mp h).2 (List.cons_ne_nil _ _)
  | .block body, h, _ | .times _ body, h, _ | .forLinks _ body, h, _ | .maybe _ body, h, _ => by
    have inside : definitionsOf body = [] := h
    exact definitionsOf_numberAll inside _
  | .exportLink _, _, _ | .place _, _, _ | .copySibling _ _, _, _ | .addLink _, _, _ | .goTo _, _, _
  | .adjust _ _ _, _, _ => rfl
/-- Numbering makes no definitions. -/
lemma definitionsOf_numberAll : ∀ {rs : List (Rule ι)}, definitionsOf rs = [] → ∀ next,
    definitionsOf (numberAll rs next).1 = []
  | [], _, _ => rfl
  | r :: rs, h, next => by
    obtain ⟨hr, hrs⟩ := List.append_eq_nil_iff.mp h
    simp only [numberAll, definitionsOf, definitions_number hr, definitionsOf_numberAll hrs,
      List.append_nil]
end

end SceneGrammar.Rule
