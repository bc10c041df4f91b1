import SceneGrammar.Proofs.Grammar.Defect

/-!
# Names that are given before a defect is found

Preparing gives sequences their names as it goes, the ones inside a sequence before the sequence itself,
and stops at the first defect. `Rule.registered` lists what has been named by then. A label does not
matter for the names (`Rule.registeredNames_numberAll`).
-/

namespace SceneGrammar.Rule

variable {ι : Type}

mutual
/-- The sequences that preparing a rule gives names to, in order, until it comes to a defect. -/
def registered : Rule ι → List (String × List (Rule ι))
  | .define name body =>
    if name.isEmpty then []
    else registeredAll body ++ if (defectOf? body).isNone then [(name, body)] else []
  | .block body => registeredAll body
  | .times e body => if (e.argumentDefect? "repeat" .count).isNone then registeredAll body else []
  | .forLinks pattern body => if (patternDefect? pattern).isNone then registeredAll body else []
  | .maybe e body => if (e.argumentDefect? "maybe" .number).isNone then registeredAll body else []
  | _ => []
/-- The same for rules one after the other. -/
def registeredAll : List (Rule ι) → List (String × List (Rule ι))
  | [] => []
  | r :: rs => r.registered ++ if r.defect?.isNone then registeredAll rs else []
end

/-- The names alone. -/
def registeredNames (rs : List (Rule ι)) : List String := (registeredAll rs).map (·.1)

mutual
/-- Numbering leaves the names that a rule gives. -/
lemma names_number : ∀ (r : Rule ι) (next : Nat),
    (r.number next).1.registered.map (·.1) = r.registered.map (·.1)
  | .define name body, next => by
    simp only [number, registered, defectOf?_numberAll body next]
    split
    · rfl
    · rw [List.map_append, List.map_append, names_numberAll body next]
      split <;> rfl
  | .block body, next => by
    simp only [number, registered]
    exact names_numberAll body next
  | .times e body, next => by
    simp only [number, registered, e.argumentDefect?_number]
    split
    · exact names_numberAll body _
    · rfl
  | .forLinks pattern body, next => by
    simp only [number, registered]
    split
    · exact names_numberAll body next
    · rfl
  | .maybe e body, next => by
    simp only [number, registered, e.argumentDefect?_number]
    split
    · exact names_numberAll body _
    · rfl
  | .exportLink e, next | .place e, next | .copySibling e _, next | .addLink e, next | .goTo e, next
  | .adjust _ e _, next => rfl
/-- Numbering leaves the names that rules give. -/
lemma names_numberAll : ∀ (rs : List (Rule ι)) (next : Nat),
    (registeredAll (numberAll rs next).1).map (·.1) = (registeredAll rs).map (·.1)
  | [], next => rfl
  | r :: rs, next => by
    simp only [numberAll, registeredAll, defect?_number r next, List.map_append, names_number r next]
    split
    · rw [names_numberAll rs]
    · rfl
end

/-- Labels do not matter for the names. -/
lemma registeredNames_numberAll (rs : List (Rule ι)) (next : Nat) :
    registeredNames (numberAll rs next).1 = registeredNames rs := names_numberAll rs next

end SceneGrammar.Rule
