import Mathlib.Tactic.Lemma
import SceneGrammar.Fault
import SceneGrammar.Grammar.Rule
import SceneGrammar.Pattern.Reader

/-!
# Defects of a grammar

The first defect of an argument, a rule or a sequence, read off what is written alone: no scene, no
source of randomness and no label of a fixed value has a say in it. The rules inside a rule without
defects have none either (`Rule.defect?_of_mem_body`), and numbering a grammar does not change what is
wrong with it (`Rule.defectOf?_numberAll`).
-/

namespace SceneGrammar

/-- What is wrong with the bounds of a range. -/
def Literal.boundsDefect? (least most : Literal) : Option Defect :=
  match least.int? with
  | none => some .leastNotInteger
  | some low =>
    match most.int? with
    | none => some .mostNotInteger
    | some high => if high < low then some .emptyRange else none

/-- What is wrong with a weight. -/
def Literal.weightDefect? (w : Literal) : Option Defect :=
  match w.number? with
  | some x => if x.isFinite && 0 ≤ x then none else some (.badWeight w)
  | none => some (.badWeight w)

namespace Expr
variable {ι : Type}

mutual
/-- The first defect of a value. A literal has none. -/
def defect? : Expr ι → Option Defect
  | .literal _ => none
  | .range least most => least.boundsDefect? most
  | .weighted entries => if entries.isEmpty then some .noEntries else entriesDefect? entries
  | .fixed _ e => e.defect?
/-- The first defect of entries, a weight before its argument. -/
def entriesDefect? : List (Literal × Expr ι) → Option Defect
  | [] => none
  | (w, e) :: rest => w.weightDefect?.or (e.defect?.or (entriesDefect? rest))
end

/-- What is wrong with an argument that has to have a form. -/
def argumentDefect? (subject : String) (shape : Shape) : Expr ι → Option Defect
  | .literal v => if shape.accepts v then none else some (.literalShape subject shape v)
  | e => e.defect?

/-- An argument without defects is a value without defects. -/
lemma defect?_of_argument {subject : String} {shape : Shape} {e : Expr ι}
    (h : e.argumentDefect? subject shape = none) : e.defect? = none := by
  cases e with
  | literal v => rfl
  | range least most => exact h
  | weighted entries => exact h
  | fixed label e => exact h

/-! ## Labels -/

/-- Numbering does not change whether there are entries. -/
lemma isEmpty_numberEntries (entries : List (Literal × Expr ι)) (next : Nat) :
    (numberEntries entries next).1.isEmpty = entries.isEmpty := by
  cases entries <;> rfl

mutual
/-- Numbering leaves the first defect of an argument. -/
lemma defect?_number : ∀ (e : Expr ι) (next : Nat), (e.number next).1.defect? = e.defect?
  | .literal v, next => rfl
  | .range least most, next => rfl
  | .weighted entries, next => by
    simp only [number, defect?, isEmpty_numberEntries, entriesDefect?_number entries next]
  | .fixed _ e, next => by
    simp only [number, defect?]
    exact defect?_number e (next + 1)
/-- Numbering leaves the first defect of entries. -/
lemma entriesDefect?_number : ∀ (entries : List (Literal × Expr ι)) (next : Nat),
    entriesDefect? (numberEntries entries next).1 = entriesDefect? entries
  | [], next => rfl
  | (w, e) :: rest, next => by
    simp only [numberEntries, entriesDefect?, defect?_number e next, entriesDefect?_number rest]
end

/-- Numbering leaves the first defect of an argument of some form. -/
lemma argumentDefect?_number (subject : String) (shape : Shape) (e : Expr ι) (next : Nat) :
    (e.number next).1.argumentDefect? subject shape = e.argumentDefect? subject shape := by
  cases e with
  | literal v => rfl
  | range least most => rfl
  | weighted entries => exact defect?_number (.weighted entries) next
  | fixed label e => exact defect?_number (.fixed label e) next

end Expr

namespace Rule
variable {ι : Type}

/-- The rules right inside a rule. -/
def body : Rule ι → List (Rule ι)
  | .define _ body | .block body | .times _ body | .forLinks _ body | .maybe _ body => body
  | _ => []

/-- What is wrong with a pattern. -/
def patternDefect? (source : String) : Option Defect :=
  if (Pattern.anchored? source).isSome then none else some (.badPattern source)

mutual
/-- The first defect of a rule. -/
def defect? : Rule ι → Option Defect
  | .define name body => if name.isEmpty then some .unnamedDefinition else defectOf? body
  | .exportLink e => e.argumentDefect? "export_link" .text
  | .block body => defectOf? body
  | .times e body => (e.argumentDefect? "repeat" .count).or (defectOf? body)
  | .place e => e.argumentDefect? "instance" .text
  | .copySibling e _ => e.argumentDefect? "copy_parent_link_children" .text
  | .addLink e => e.argumentDefect? "create_link" .text
  | .goTo e => e.argumentDefect? "move_to_link" .text
  | .forLinks pattern body => (patternDefect? pattern).or (defectOf? body)
  | .maybe e body => (e.argumentDefect? "maybe" .number).or (defectOf? body)
  | .adjust channel e absolute => e.argumentDefect? (Rule.word (.adjust channel e absolute)) .vector
/-- The first defect of a sequence. -/
def defectOf? : List (Rule ι) → Option Defect
  | [] => none
  | r :: rs => r.defect?.or (defectOf? rs)
end

/-- A sequence has no defect if none of its rules has one. -/
lemma defectOf?_eq_none_iff {rs : List (Rule ι)} :
    defectOf? rs = none ↔ ∀ r ∈ rs, r.defect? = none := by
  induction rs with
  | nil => simp [defectOf?]
  | cons r rs ih => simp [defectOf?, ih]

/-- What is inside a rule without defects has none. -/
lemma defect?_of_mem_body {r q : Rule ι} (h : r.defect? = none) (hq : q ∈ r.body) :
    q.defect? = none := by
  have key : ∀ {rs : List (Rule ι)}, defectOf? rs = none → q ∈ rs → q.defect? = none :=
    fun hrs hmem => defectOf?_eq_none_iff.mp hrs q hmem
  cases r with
  | define name body =>
    unfold defect? at h
    split at h
    · cases h
    · exact key h hq
  | block body => exact key h hq
  | times e body => exact key (Option.or_eq_none_iff.mp h).2 hq
  | forLinks pattern body => exact key (Option.or_eq_none_iff.mp h).2 hq
  | maybe e body => exact key (Option.or_eq_none_iff.mp h).2 hq
  | _ => cases hq

/-- The argument of a rule, with the form that it has to come to. -/
def argument? : Rule ι → Option (Shape × Expr ι)
  | .exportLink e | .place e | .copySibling e _ | .addLink e | .goTo e => some (.text, e)
  | .times e _ => some (.count, e)
  | .maybe e _ => some (.number, e)
  | .adjust _ e _ => some (.vector, e)
  | .define _ _ | .block _ | .forLinks _ _ => none

/-- The argument of a rule without defects has none. -/
lemma defect?_of_argument? {r : Rule ι} {shape : Shape} {e : Expr ι} (h : r.defect? = none)
    (ha : r.argument? = some (shape, e)) : e.defect? = none := by
  cases r with
  | define name body => cases ha
  | block body => cases ha
  | forLinks pattern body => cases ha
  | times e body => cases ha; exact Expr.defect?_of_argument (Option.or_eq_none_iff.mp h).1
  | maybe e body => cases ha; exact Expr.defect?_of_argument (Option.or_eq_none_iff.mp h).1
  | _ => cases ha; exact Expr.defect?_of_argument h

/-! ## Labels -/

/-- What a rule for the offset is called depends on its channel. -/
lemma word_adjust {κ : Type} (channel : Channel) (e : Expr ι) (e' : Expr κ) (absolute : Bool) :
    word (.adjust channel e absolute) = word (.adjust channel e' absolute) := by
  cases channel <;> rfl

mutual
/-- Numbering leaves the first defect of a rule. -/
lemma defect?_number : ∀ (r : Rule ι) (next : Nat), (r.number next).1.defect? = r.defect?
  | .define name body, next => by
    simp only [number, defect?, defectOf?_numberAll body next]
  | .exportLink e, next => by
    simp only [number, defect?, e.argumentDefect?_number]
  | .block body, next => by
    simp only [number, defect?, defectOf?_numberAll body next]
  | .times e body, next => by
    simp only [number, defect?, e.argumentDefect?_number, defectOf?_numberAll body]
  | .place e, next => by
    simp only [number, defect?, e.argumentDefect?_number]
  | .copySibling e mirror, next => by
    simp only [number, defect?, e.argumentDefect?_number]
  | .addLink e, next => by
    simp only [number, defect?, e.argumentDefect?_number]
  | .goTo e, next => by
    simp only [number, defect?, e.argumentDefect?_number]
  | .forLinks pattern body, next => by
    simp only [number, defect?, defectOf?_numberAll body next]
  | .maybe e body, next => by
    simp only [number, defect?, e.argumentDefect?_number, defectOf?_numberAll body]
  | .adjust channel e absolute, next => by
    simp only [number, defect?, e.argumentDefect?_number]
    rw [word_adjust channel (e.number next).1 e absolute]
/-- The labels of a sequence do not matter for its defects. -/
lemma defectOf?_numberAll : ∀ (rs : List (Rule ι)) (next : Nat),
    defectOf? (numberAll rs next).1 = defectOf? rs
  | [], next => rfl
  | r :: rs, next => by
    simp only [numberAll, defectOf?, defect?_number r next, defectOf?_numberAll rs]
end

end Rule

end SceneGrammar
