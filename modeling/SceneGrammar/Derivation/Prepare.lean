import SceneGrammar.Derivation.Draw
import SceneGrammar.Pattern.Marked
import SceneGrammar.Pattern.Reader

/-!
# Preparing rules

Before a grammar runs, its rules are checked, its definitions are registered and its fixed values
are settled. Preparation does not touch the scene and stops at the first defect of a rule.
-/

namespace SceneGrammar.Derivation
variable {σ ρ α : Type} [Host σ α] [RandomSource ρ]

/-- Fails with a defect. -/
def reject {β : Type} (d : Defect) : Action σ ρ α β := throw d.fault

/-- Gives a sequence a name. -/
def define (name : String) (body : List (Rule Nat)) : Action σ ρ α Unit :=
  modify fun s => { s with definitions := s.definitions.insert name body }

/-- The pattern of a rule, anchored at the start of a name. It depends on its text alone, so none is kept
for later. -/
def compile (source : String) : Action σ ρ α Pattern :=
  match Pattern.anchored? source with
  | some p => pure p
  | none => reject (.badPattern source)

/-- Checks the bounds of a range. -/
def checkRange (least most : Literal) : Action σ ρ α Unit :=
  match least.int? with
  | none => reject .leastNotInteger
  | some low =>
    match most.int? with
    | none => reject .mostNotInteger
    | some high => if high < low then reject .emptyRange else pure ()

/-- Checks a weight: a number, finite and not negative. -/
def checkWeight (w : Literal) : Action σ ρ α Unit :=
  match w.number? with
  | some x => if x.isFinite && 0 ≤ x then pure () else reject (.badWeight w)
  | none => reject (.badWeight w)

mutual
/-- Checks an argument and settles its fixed values; a literal needs no preparation. -/
def prepareValue : Expr Nat → Action σ ρ α Unit
  | .literal _ => pure ()
  | .range least most => checkRange least most
  | .weighted entries => if entries.isEmpty then reject .noEntries else prepareEntries entries
  | .fixed label e => do
    prepareValue e
    let v ← resolve e
    settle label v
    note (.settled label v)
/-- Checks entries one after the other, a weight before its argument. -/
def prepareEntries : List (Literal × Expr Nat) → Action σ ρ α Unit
  | [] => pure ()
  | (w, e) :: rest => do
    checkWeight w
    prepareValue e
    prepareEntries rest
end

/-- Prepares an argument of a rule. A literal has to have the form already; whether a drawn value
has it is seen when it is drawn. -/
def prepareArgument (subject : String) (shape : Shape) : Expr Nat → Action σ ρ α Unit
  | .literal v => if shape.accepts v then pure () else reject (.literalShape subject shape v)
  | e => prepareValue e

mutual
/-- Prepares a rule. -/
def prepare : Rule Nat → Action σ ρ α Unit
  | .define name body =>
    if name.isEmpty then reject .unnamedDefinition
    else do
      prepareAll body
      define name body
  | .exportLink e => prepareArgument "export_link" .text e
  | .block body => prepareAll body
  | .times e body => do
    prepareArgument "repeat" .count e
    prepareAll body
  | .place e => prepareArgument "instance" .text e
  | .copySibling e _ => prepareArgument "copy_parent_link_children" .text e
  | .addLink e => prepareArgument "create_link" .text e
  | .goTo e => prepareArgument "move_to_link" .text e
  | .forLinks pattern body => do
    let _ ← compile pattern
    prepareAll body
  | .maybe e body => do
    prepareArgument "maybe" .number e
    prepareAll body
  | .adjust channel e absolute =>
    prepareArgument (Rule.word (.adjust channel e absolute)) .vector e
/-- Prepares rules one after the other. -/
def prepareAll : List (Rule Nat) → Action σ ρ α Unit
  | [] => pure ()
  | r :: rs => do
    prepare r
    prepareAll rs
end

end SceneGrammar.Derivation
