import SceneGrammar.Decimal.Basic
import SceneGrammar.Random.Source

/-!
# Scripted sources

A source that replays a list of numbers, over and over. Every draw takes one of them, that of an
integer as well.
-/

namespace SceneGrammar.Random

/-- The numbers, and how many of them have been taken. -/
structure Scripted where
  uniforms : Array Float
  taken : Nat := 0

namespace Scripted

/-- The next number. -/
def next (s : Scripted) : Float × Scripted :=
  (s.uniforms.getD (s.taken % s.uniforms.size) 0, { s with taken := s.taken + 1 })

/-- The integer as far into a range as the next number is into the unit interval. A number that is
not finite leads to the end of the range that it points to, or to its lower end. -/
def intRange (min max : Int64) (s : Scripted) : Int64 × Scripted :=
  let (x, s) := s.next
  let span := Float.ofInt (max.toInt - min.toInt + 1) * x
  match Decimal.truncate? span with
  | some n => (Int64.ofInt (Min.min max.toInt (min.toInt + n)), s)
  | none => (if 0 < span then max else min, s)

instance : RandomSource Scripted where
  uniform := next
  intRange := intRange

end Scripted

end SceneGrammar.Random
