import Mathlib.Tactic.Lemma
import SceneGrammar.Random.Stream

/-!
# Integers between bounds

A source is `Bounded` if the integers that are drawn from it lie between the bounds. A random stream is
(`Stream.bounded`): what a draw of it is kept for is an offset smaller than the size of the range.
-/

namespace SceneGrammar

/-- A source whose integers lie between the bounds that they are drawn for, ends included. -/
structure RandomSource.Bounded (ρ : Type) [RandomSource ρ] : Prop where
  intRange : ∀ {low high : Int64} (r : ρ), low ≤ high →
    low ≤ (RandomSource.intRange low high r).1 ∧ (RandomSource.intRange low high r).1 ≤ high

namespace Random.Stream

/-- An offset that is kept is smaller than the size. -/
lemma offset?_lt {size n : Nat} {bits : UInt64} (h : offset? size bits = some n) : n < size := by
  unfold offset? at h
  dsimp only at h
  split at h
  case isTrue kept =>
    obtain rfl := Option.some.inj h
    have positive : 0 < size := Nat.pos_of_ne_zero fun e => by simp [e] at kept
    exact Nat.div_lt_of_lt_mul (Nat.mul_lt_mul_of_pos_right bits.toNat_lt positive)
  case isFalse => cases h

lemma drawOffset_lt {size : Nat} (h : 0 < size) (bound : Nat) (s : Stream) :
    (drawOffset size bound s).1 < size := by
  induction bound generalizing s with
  | zero => exact h
  | succ bound ih =>
    unfold drawOffset
    split
    case h_1 n kept => exact offset?_lt kept
    case h_2 => exact ih s.next.2

/-- A random stream keeps to the bounds. -/
theorem bounded : RandomSource.Bounded Stream where
  intRange {low high} s h := by
    show low ≤ (Stream.intRange low high s).1 ∧ (Stream.intRange low high s).1 ≤ high
    rw [Int64.le_iff_toInt_le] at h
    simp only [Int64.le_iff_toInt_le]
    have low_le := low.le_toInt
    have high_lt := high.toInt_lt
    unfold Stream.intRange
    split
    case isTrue below => exact ⟨Int.le_refl _, h⟩
    case isFalse =>
      dsimp only
      split
      case isTrue whole =>
        -- The range of all integers has every integer in it.
        rw [Nat.pow_eq] at whole
        have size : high.toInt - low.toInt + 1 = 2 ^ 64 := by lia
        have above := s.next.1.toInt64.le_toInt
        have below := s.next.1.toInt64.toInt_lt
        exact ⟨by lia, by lia⟩
      case isFalse =>
        have positive : 0 < (high.toInt - low.toInt + 1).toNat := by lia
        have offset := drawOffset_lt positive (Nat.pow 2 67) s
        dsimp only
        rw [Int64.toInt_ofInt_of_le (by lia) (by lia)]
        exact ⟨by lia, by lia⟩

end Random.Stream

end SceneGrammar
