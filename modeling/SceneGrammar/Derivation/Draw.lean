import SceneGrammar.Derivation.State
import SceneGrammar.Selection

/-!
# Drawing arguments

What an argument comes to. A literal is itself, a range takes one integer draw, a weighted value one
uniform draw for the choice of an entry, which may itself be drawn. A fixed value is drawn when it
is first needed and recalled from then on.
-/

namespace SceneGrammar.Derivation
variable {σ ρ α : Type} [Host σ α] [RandomSource ρ]

/-- The weights of entries; what is no number has no weight. -/
def entryWeights (entries : List (Literal × Expr Nat)) : List Float :=
  entries.map fun (w, _) => w.number?.getD 0

/-- The place of the entry that a draw chooses. -/
def chooseEntry (weights : List Float) : Action σ ρ α Nat := do
  let threshold := Selection.total weights * (← uniform)
  match Selection.firstReaching weights threshold with
  | some i => pure i
  | none => throw Defect.noEntries.fault

/-- Remembers a fixed value. -/
def settle (label : Nat) (value : Literal) : Action σ ρ α Unit :=
  modify fun s => { s with settled := s.settled.insert label value }

mutual
/-- Draws an argument. -/
def resolve : Expr Nat → Action σ ρ α Literal
  | .literal v => pure v
  | .range least most => do
    let low := least.int?.getD 0
    pure (.int (← intRange low (most.int?.getD low)))
  | .weighted entries => do resolveEntry entries (← chooseEntry (entryWeights entries))
  | .fixed label e => do
    match (← get).settled.get? label with
    | some v =>
      note (.recalled label v)
      pure v
    | none =>
      let v ← resolve e
      settle label v
      note (.recalled label v)
      pure v
/-- Draws the argument of the entry at a place. -/
def resolveEntry : List (Literal × Expr Nat) → Nat → Action σ ρ α Literal
  | [], _ => throw Defect.noEntries.fault
  | (_, e) :: _, 0 => resolve e
  | _ :: rest, i + 1 => resolveEntry rest i
end

/-- Draws an argument of a rule, which has to come to a value of a form. -/
def resolveAs (shape : Shape) (subject : String) (e : Expr Nat) : Action σ ρ α shape.Value := do
  let v ← resolve e
  match shape.read? v with
  | some x => pure x
  | none => throw (shape.fault subject v)

end SceneGrammar.Derivation
