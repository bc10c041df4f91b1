/-!
# Sources of randomness

Every random decision takes one draw from a source: a uniform number or an integer of a range.
-/

namespace SceneGrammar

/-- A value that random draws are taken from; a draw returns the source as it is afterwards. -/
class RandomSource (ρ : Type) where
  /-- A number from zero on and below one. -/
  uniform : ρ → Float × ρ
  /-- An integer between two bounds, ends included; the lower one if the upper is not above it. -/
  intRange : Int64 → Int64 → ρ → Int64 × ρ

/-- A source that counts its draws. -/
structure Counted (ρ : Type) where
  source : ρ
  draws : Nat := 0

instance {ρ : Type} [RandomSource ρ] : RandomSource (Counted ρ) where
  uniform c :=
    let (x, source) := RandomSource.uniform c.source
    (x, ⟨source, c.draws + 1⟩)
  intRange min max c :=
    let (n, source) := RandomSource.intRange min max c.source
    (n, ⟨source, c.draws + 1⟩)

end SceneGrammar
