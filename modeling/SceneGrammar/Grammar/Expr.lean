import SceneGrammar.Grammar.Literal

/-!
# Expressions

What a rule takes as an argument: a literal, or a value that is drawn when the rule is carried out.
A fixed value is drawn once and remembered under its label. Grammars are read without labels, and
numbered before they run, so that no two fixed values of a run share one.
-/

namespace SceneGrammar

/-- An argument of a rule, with labels of type `ι` on its fixed values. -/
inductive Expr (ι : Type) where
  | literal (value : Literal)
  /-- Any integer between two bounds, ends included. -/
  | range (least most : Literal)
  /-- One of several arguments, by their weights. -/
  | weighted (entries : List (Literal × Expr ι))
  /-- What the argument comes to the first time. -/
  | fixed (label : ι) (of : Expr ι)
deriving Inhabited

namespace Expr
variable {ι : Type}

/-- The literal, of a literal. -/
def literal? : Expr ι → Option Literal
  | .literal v => some v
  | _ => none

/-- The word for the kind of an argument. -/
def kind : Expr ι → String
  | .literal v => v.typeName
  | .range _ _ => "range"
  | .weighted _ => "weighted"
  | .fixed _ _ => "static"

mutual
/-- Whether two arguments are equal, labels aside. -/
def same : Expr ι → Expr ι → Bool
  | .literal v, .literal w => v == w
  | .range a b, .range c d => a == c && b == d
  | .weighted es, .weighted fs => entriesSame es fs
  | .fixed _ e, .fixed _ f => same e f
  | _, _ => false
/-- Whether two lists of entries agree entry by entry. -/
def entriesSame : List (Literal × Expr ι) → List (Literal × Expr ι) → Bool
  | [], [] => true
  | (v, e) :: es, (w, f) :: fs => v == w && same e f && entriesSame es fs
  | _, _ => false
end

mutual
/-- Labels the fixed values with numbers from `next` on, in the order in which they are written, and
returns the first number that is left. -/
def number : Expr ι → Nat → Expr Nat × Nat
  | .literal v, next => (.literal v, next)
  | .range least most, next => (.range least most, next)
  | .weighted entries, next =>
    let (entries, next) := numberEntries entries next
    (.weighted entries, next)
  | .fixed _ e, next =>
    let (e, after) := number e (next + 1)
    (.fixed next e, after)
/-- Labels the fixed values of entries. -/
def numberEntries : List (Literal × Expr ι) → Nat → List (Literal × Expr Nat) × Nat
  | [], next => ([], next)
  | (w, e) :: rest, next =>
    let (e, next) := number e next
    let (rest, next) := numberEntries rest next
    ((w, e) :: rest, next)
end

mutual
/-- Removes the labels. -/
def erase : Expr ι → Expr Unit
  | .literal v => .literal v
  | .range least most => .range least most
  | .weighted entries => .weighted (eraseEntries entries)
  | .fixed _ e => .fixed () e.erase
/-- Removes the labels of entries. -/
def eraseEntries : List (Literal × Expr ι) → List (Literal × Expr Unit)
  | [] => []
  | (w, e) :: rest => (w, e.erase) :: eraseEntries rest
end

end Expr

end SceneGrammar
