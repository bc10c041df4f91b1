import SceneGrammar.Proofs.Grammar.Defect

/-!
# Rules in preorder

A rule and all that is inside it, in the order in which it is written, and with it everything that is
wrong with a rule. The first defect is the first of these (`Rule.head?_defects`).
-/

namespace SceneGrammar

namespace Expr
variable {ι : Type}

mutual
/-- Everything that is wrong with a value, in the order in which it is written. -/
def defects : Expr ι → List Defect
  | .literal _ => []
  | .range least most => (least.boundsDefect? most).toList
  | .weighted entries => (if entries.isEmpty then [.noEntries] else []) ++ entriesDefects entries
  | .fixed _ e => e.defects
/-- Everything that is wrong with entries, a weight before its argument. -/
def entriesDefects : List (Literal × Expr ι) → List Defect
  | [] => []
  | (w, e) :: rest => w.weightDefect?.toList ++ (e.defects ++ entriesDefects rest)
end

/-- Everything that is wrong with an argument that has to have a form. -/
def argumentDefects (subject : String) (shape : Shape) : Expr ι → List Defect
  | .literal v => if shape.accepts v then [] else [.literalShape subject shape v]
  | e => e.defects

mutual
/-- The first of the defects of an argument is the one that is found. -/
lemma head?_defects : ∀ e : Expr ι, e.defects.head? = e.defect?
  | .literal v => rfl
  | .range least most => by
    simp only [defects, defect?, Option.head?_toList]
  | .weighted entries => by
    simp only [defects, defect?]
    split
    · rfl
    · exact head?_entriesDefects entries
  | .fixed _ e => head?_defects e
/-- The first of the defects of entries is the one that is found. -/
lemma head?_entriesDefects : ∀ entries : List (Literal × Expr ι),
    (entriesDefects entries).head? = entriesDefect? entries
  | [] => rfl
  | (w, e) :: rest => by
    simp only [entriesDefects, entriesDefect?, List.head?_append, Option.head?_toList,
      head?_defects e, head?_entriesDefects rest]
end

/-- The first of the defects of an argument of some form is the one that is found. -/
lemma head?_argumentDefects (subject : String) (shape : Shape) (e : Expr ι) :
    (e.argumentDefects subject shape).head? = e.argumentDefect? subject shape := by
  cases e with
  | literal v =>
    simp only [argumentDefects, argumentDefect?]
    split <;> rfl
  | range least most => exact head?_defects _
  | weighted entries => exact head?_defects _
  | fixed label e => exact head?_defects _

end Expr

namespace Rule
variable {ι : Type}

mutual
/-- A rule and all rules inside it, a rule before what is inside it. -/
def preorder : Rule ι → List (Rule ι)
  | .define name body => .define name body :: preorderAll body
  | .block body => .block body :: preorderAll body
  | .times e body => .times e body :: preorderAll body
  | .forLinks pattern body => .forLinks pattern body :: preorderAll body
  | .maybe e body => .maybe e body :: preorderAll body
  | r => [r]
/-- Rules and all rules inside them. -/
def preorderAll : List (Rule ι) → List (Rule ι)
  | [] => []
  | r :: rs => r.preorder ++ preorderAll rs
end

/-- A rule comes first, then what is inside it. -/
lemma preorder_eq (r : Rule ι) : r.preorder = r :: preorderAll r.body := by
  cases r <;> simp only [preorder, body, preorderAll]

/-- Everything that is wrong with a rule apart from what is inside it: with the name of a definition,
with a pattern or with an argument. -/
def ownDefects : Rule ι → List Defect
  | .define name _ => if name.isEmpty then [.unnamedDefinition] else []
  | .forLinks pattern _ => (patternDefect? pattern).toList
  | r =>
    match r.argument? with
    | some (shape, e) => e.argumentDefects r.word shape
    | none => []

/-- Everything that is wrong with a rule, in the order in which it is written. -/
def defects (r : Rule ι) : List Defect := r.preorder.flatMap ownDefects

/-- The defects of a rule are its own and those of the rules inside it, in preorder. -/
lemma defects_eq (r : Rule ι) :
    r.defects = r.ownDefects ++ (preorderAll r.body).flatMap ownDefects := by
  rw [defects, preorder_eq, List.flatMap_cons]

mutual
/-- The first defect of a rule is the first thing that is wrong with it. -/
theorem head?_defects : ∀ r : Rule ι, r.defects.head? = r.defect?
  | .define name body => by
    rw [defects_eq, List.head?_append, Rule.body, head?_defectsOf body]
    simp only [ownDefects, defect?]
    split <;> rfl
  | .block body => by
    rw [defects_eq, List.head?_append, Rule.body, head?_defectsOf body]
    rfl
  | .times e body => by
    rw [defects_eq, List.head?_append, Rule.body, head?_defectsOf body]
    exact congrArg (Option.or · _) (e.head?_argumentDefects _ _)
  | .forLinks pattern body => by
    rw [defects_eq, List.head?_append, Rule.body, head?_defectsOf body]
    exact congrArg (Option.or · _) Option.head?_toList
  | .maybe e body => by
    rw [defects_eq, List.head?_append, Rule.body, head?_defectsOf body]
    exact congrArg (Option.or · _) (e.head?_argumentDefects _ _)
  | .exportLink e | .place e | .copySibling e _ | .addLink e | .goTo e | .adjust _ e _ => by
    simp only [defects_eq, body, preorderAll, List.flatMap_nil, List.append_nil]
    exact e.head?_argumentDefects _ _
/-- So it is for a sequence. -/
theorem head?_defectsOf : ∀ rs : List (Rule ι),
    ((preorderAll rs).flatMap ownDefects).head? = defectOf? rs
  | [] => rfl
  | r :: rs => by
    have first : (r.preorder.flatMap ownDefects).head? = r.defect? := head?_defects r
    rw [preorderAll, List.flatMap_append, List.head?_append, first, head?_defectsOf rs, defectOf?]
end

/-- A rule has no defect if nothing is wrong with it. -/
lemma defect?_eq_none_iff {r : Rule ι} : r.defect? = none ↔ r.defects = [] := by
  rw [← head?_defects, List.head?_eq_none_iff]

/-- Labels do not matter for the first defects of the rules of a sequence. -/
lemma filterMap_numberAll (rs : List (Rule ι)) (next : Nat) :
    (numberAll rs next).1.filterMap defect? = rs.filterMap defect? := by
  induction rs generalizing next with
  | nil => rfl
  | cons r rs ih => simp only [numberAll, List.filterMap_cons, defect?_number r next, ih]

end Rule

end SceneGrammar
