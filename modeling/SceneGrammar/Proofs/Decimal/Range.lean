import SceneGrammar.Decimal.Basic
import Mathlib.Algebra.Group.Nat.Defs
import Mathlib.Tactic.Lemma
import Mathlib.Tactic.SplitIfs

/-!
# The range of binary64

A decimal is read as a number: as a finite one or as infinity, never as one that is undefined.
Whole numbers of at most 128 bits are finite.

A float is taken apart into a mantissa and an exponent, computed with, and packed into bits again.
All that matters here is how great the exponent can get: `Below B` says that a number is finite
with an exponent of at most `B`, and no exponent beyond 971 can be packed.
-/

namespace SceneGrammar.Decimal
open Float.Model Float.Model.UnpackedFloat

/-- The number is finite and its exponent is at most `B`. -/
def Below (B : Int) : UnpackedFloat → Prop
  | .zero _ => True
  | .finite _ _ e _ => e ≤ B
  | _ => False

/-- What is below a bound is finite. -/
lemma Below.isFinite {B : Int} {f : UnpackedFloat} (h : Below B f) : f.isFinite = true := by
  cases f with
  | infinity _ => exact h.elim
  | notANumber => exact h.elim
  | zero _ => rfl
  | finite _ _ _ _ => rfl

/-- What is below a bound is a number. -/
lemma Below.isNaN {B : Int} {f : UnpackedFloat} (h : Below B f) : f.isNaN = false := by
  cases f with
  | infinity _ => exact h.elim
  | notANumber => exact h.elim
  | zero _ => rfl
  | finite _ _ _ _ => rfl

/-! ## Rounding -/

/-- Shifting a mantissa divides it by a power of two. -/
lemma mantissa_shiftRight (k : Nat) (em : ExtendedMantissa) :
    (em >>> k).mantissa = em.mantissa / 2 ^ k := by
  induction k with
  | zero => simp [HShiftRight.hShiftRight, Nat.repeat]
  | succ k ih =>
    change (ExtendedMantissa.shiftRightOne (em >>> k)).mantissa = _
    simp only [ExtendedMantissa.shiftRightOne, ih, Nat.div_div_eq_div_mul, Nat.pow_succ]

/-- The mantissa that is given is the one that is held. -/
lemma mantissa_ofMantissaAndAccuracy (m : Nat) (a : Accuracy) :
    (ExtendedMantissa.ofMantissaAndAccuracy m a).mantissa = m := by
  cases a with
  | exact => rfl
  | inexact o => cases o <;> rfl

/-- Rounding adds at most one to a mantissa. -/
lemma roundedMantissa_le (em : ExtendedMantissa) : em.roundedMantissa ≤ em.mantissa + 1 := by
  obtain ⟨m, r, s⟩ := em
  cases r <;> cases s <;>
    simp [ExtendedMantissa.roundedMantissa, ExtendedMantissa.accuracy, Accuracy.roundToNearestEven]
  omega

/-- The exponent of a binary64 float leaves 53 digits to its mantissa, down to the least one. -/
lemma targetExponent_eq (t : Int) : Format.binary64.targetExponent t = max (t - 53) (-1074) := by
  simp only [Format.targetExponent]
  rfl

/-- A mantissa that is shifted to its place has at most fifty-three bits. -/
lemma mantissa_shiftToTargetExponent_lt (m : Nat) (e : Int) (a : Accuracy) :
    (shiftToTargetExponent Format.binary64 m e a).1.mantissa < 2 ^ 53 := by
  have bits : m.log2 + 1 ≤ 53 + (Format.binary64.targetExponent (totalExponent m e) - e).toNat := by
    rw [targetExponent_eq, totalExponent]
    omega
  simp only [shiftToTargetExponent, shiftToExponent, mantissa_shiftRight,
    mantissa_ofMantissaAndAccuracy]
  rw [Nat.div_lt_iff_lt_mul (Nat.two_pow_pos _), ← Nat.pow_add]
  exact Nat.lt_of_lt_of_le Nat.lt_log2_self (Nat.pow_le_pow_right (by decide) bits)

/-- The exponent of the place to which a mantissa is shifted. -/
lemma exponent_shiftToTargetExponent (m : Nat) (e : Int) (a : Accuracy) :
    (shiftToTargetExponent Format.binary64 m e a).2 = max e (max (m.log2 + e - 52) (-1074)) := by
  simp only [shiftToTargetExponent, shiftToExponent, targetExponent_eq, totalExponent]
  omega

/-- A rounded number is finite: rounding adds one to the exponent at most. -/
lemma below_roundWithAccuracy {B e : Int} {m k : Nat} (s : Sign) (a : Accuracy)
    (bits : m < 2 ^ k) (exponent : e < B) (place : k + e - 53 < B) (least : -1074 < B) :
    Below B (roundWithAccuracy Format.binary64 s m e a) := by
  have digits : m.log2 < k ∨ m.log2 = 0 := by
    by_cases zero : m = 0
    · exact .inr (by simp [zero])
    · exact .inl ((Nat.log2_lt zero).2 bits)
  have short := mantissa_shiftToTargetExponent_lt m e a
  have first := exponent_shiftToTargetExponent m e a
  unfold roundWithAccuracy
  generalize shiftToTargetExponent Format.binary64 m e a = shifted at short first ⊢
  obtain ⟨em, e₁⟩ := shifted
  -- rounding up may give a bit more than fits, for which there is a second shift
  have rounded : em.roundedMantissa.log2 ≤ 53 := by
    have := roundedMantissa_le em
    by_cases zero : em.roundedMantissa = 0
    · simp [zero]
    · exact Nat.lt_succ_iff.1 ((Nat.log2_lt zero).2 (by dsimp only at short; omega))
  have second := exponent_shiftToTargetExponent em.roundedMantissa e₁ .exact
  dsimp only at first ⊢
  by_cases zero :
      (shiftToTargetExponent Format.binary64 em.roundedMantissa e₁ .exact).1.mantissa = 0
  case pos => rw [dif_pos zero]; trivial
  case neg =>
    rw [dif_neg zero]
    change (shiftToTargetExponent _ em.roundedMantissa e₁ .exact).2 ≤ B
    omega

/-- What is rounded is a number. -/
lemma isNaN_roundWithAccuracy (s : Sign) (m : Nat) (e : Int) (a : Accuracy) :
    (roundWithAccuracy Format.binary64 s m e a).isNaN = false := by
  have bound : Below (max (m.log2 + 1 + e) (max e 0) + 1) (roundWithAccuracy _ s m e a) :=
    below_roundWithAccuracy s a Nat.lt_log2_self (by omega) (by omega) (by omega)
  exact bound.isNaN

/-! ## Packing -/

lemma exponentBias_eq : Format.binary64.exponentBias = 1023 := rfl

/-- A finite number that is read off bits has a mantissa of at most fifty-three bits and an exponent
of at most 971. -/
lemma unpack_finite {b : BitVec Format.binary64.numBits} {s : Sign} {m : Nat} {e : Int} {p : 0 < m}
    (h : UnpackedFloat.unpack Format.binary64 b = .finite s m e p) : m < 2 ^ 53 ∧ e ≤ 971 := by
  unfold UnpackedFloat.unpack at h
  dsimp only at h
  have bias := exponentBias_eq
  have fraction : (unpackMantissa b).toNat < 2 ^ 52 := (unpackMantissa b).isLt
  have field : (unpackExponent b).toNat < 2 ^ 11 := (unpackExponent b).isLt
  by_cases full : unpackExponent b = -1#11
  case pos =>
    rw [if_pos full] at h
    by_cases empty : unpackMantissa b = 0#52
    case pos => rw [if_pos empty] at h; cases h
    case neg => rw [if_neg empty] at h; cases h
  case neg =>
    have part : (unpackExponent b).toNat ≠ 2047 := fun same => full (BitVec.eq_of_toNat_eq same)
    rw [if_neg full] at h
    by_cases low : unpackExponent b = 0#11
    case pos =>
      have zero : (unpackExponent b).toNat = 0 := congrArg BitVec.toNat low
      rw [if_pos low] at h
      by_cases empty : unpackMantissa b = 0#52
      case pos => rw [dif_pos empty] at h; cases h
      case neg =>
        rw [dif_neg empty] at h
        cases h
        exact ⟨Nat.lt_trans fraction (by decide), by omega⟩
    case neg =>
      rw [if_neg low] at h
      cases h
      exact ⟨(1#1 ++ unpackMantissa b).isLt, by omega⟩

/-- Bits whose exponent field is not full stand for a finite number. -/
lemma below_unpack_packComponents {B : Int} (s : Sign) (field : BitVec 11) (fraction : BitVec 52)
    (part : field.toNat < 2047) (least : -1074 ≤ B) (most : (field.toNat : Int) - 1075 ≤ B) :
    Below B (UnpackedFloat.unpack Format.binary64
      (packComponents Format.binary64 s field fraction)) := by
  have number : ¬ field = -1#11 := fun full => by simp [full] at part
  unfold UnpackedFloat.unpack
  dsimp only
  rw [unpackExponent_packComponents, if_neg number]
  have bias := exponentBias_eq
  by_cases low : field = 0#11
  case pos =>
    have zero : field.toNat = 0 := congrArg BitVec.toNat low
    rw [if_pos low]
    by_cases empty : unpackMantissa (packComponents Format.binary64 s field fraction) = 0#52
    case pos => rw [dif_pos empty]; trivial
    case neg => rw [dif_neg empty]; change _ ≤ B; omega
  case neg => rw [if_neg low]; change _ ≤ B; omega

/-- The bits of a finite number whose exponent is not too great. -/
lemma pack_finite {s : Sign} {m : Nat} {e : Int} (p : 0 < m) (h : e ≤ 971) :
    ∃ field : BitVec 11, field.toNat ≤ (e + 1075).toNat ∧
      UnpackedFloat.pack Format.binary64 (.finite s m e p) =
        packComponents Format.binary64 s field (BitVec.ofNat 52 m) := by
  have fits : ¬ 2 ^ Format.binary64.exponentBits ≤ (e + Format.binary64.exponentBias +
      Format.binary64.mantissaBitsWithoutImplicit).toNat + 1 := by
    change ¬ 2048 ≤ (e + 1023 + 52).toNat + 1
    omega
  unfold UnpackedFloat.pack
  dsimp only
  rw [if_neg fits]
  split
  case isTrue => exact ⟨_, by rw [BitVec.toNat_ofNat, exponentBias_eq]; omega, rfl⟩
  case isFalse => exact ⟨_, Nat.zero_le _, rfl⟩

/-- Packing keeps a bound of the exponent. -/
lemma Below.unpack_pack {B : Int} {f : UnpackedFloat} (h : Below B f) (least : -1074 ≤ B)
    (most : B ≤ 971) :
    Below B (UnpackedFloat.unpack Format.binary64 (UnpackedFloat.pack Format.binary64 f)) := by
  cases f with
  | infinity _ => exact h.elim
  | notANumber => exact h.elim
  | zero s => cases s <;> trivial
  | finite s m e p =>
    obtain ⟨field, small, packed⟩ := pack_finite (s := s) p (Int.le_trans h most)
    rw [packed]
    change e ≤ B at h
    exact below_unpack_packComponents s field _ (by omega) least (by omega)

/-- What is a number is packed as one, if need be as infinity. -/
lemma isNaN_unpack_pack {f : UnpackedFloat} (h : f.isNaN = false) :
    (UnpackedFloat.unpack Format.binary64 (UnpackedFloat.pack Format.binary64 f)).isNaN = false := by
  cases f with
  | notANumber => cases h
  | infinity s => cases s <;> rfl
  | zero s => cases s <;> rfl
  | finite s m e p =>
    by_cases small : e ≤ 971
    case pos => exact (Below.unpack_pack (f := .finite s m e p) small (by decide) (by decide)).isNaN
    case neg =>
      have beyond : 2 ^ Format.binary64.exponentBits ≤ (e + Format.binary64.exponentBias +
          Format.binary64.mantissaBitsWithoutImplicit).toNat + 1 := by
        change 2048 ≤ (e + 1023 + 52).toNat + 1
        omega
      unfold UnpackedFloat.pack
      dsimp only
      rw [if_pos beyond]
      cases s <;> rfl

/-- A float that is neither undefined nor infinite is finite. -/
lemma isFinite_of_isInf {x : Float} (number : x.isNaN = false) (h : x.isInf = false) :
    x.isFinite = true := by
  change x.toModel.unpack.isNaN = false at number
  change x.toModel.unpack.isInf = false at h
  change x.toModel.unpack.isFinite = true
  cases u : x.toModel.unpack with
  | infinity _ => rw [u] at h; cases h
  | notANumber => rw [u] at number; cases number
  | zero _ => rfl
  | finite _ _ _ _ => rfl

/-- A finite float is not infinite. -/
lemma isInf_of_isFinite {x : Float} (h : x.isFinite = true) : x.isInf = false := by
  change x.toModel.unpack.isFinite = true at h
  change x.toModel.unpack.isInf = false
  cases u : x.toModel.unpack with
  | infinity _ => rw [u] at h; cases h
  | notANumber => rfl
  | zero _ => rfl
  | finite _ _ _ _ => rfl

/-- A change of the sign leaves a float finite. -/
lemma isFinite_neg {x : Float} (h : x.isFinite = true) : (-x).isFinite = true := by
  have below : Below 971 x.toModel.unpack.neg := by
    change x.toModel.unpack.isFinite = true at h
    cases u : x.toModel.unpack with
    | infinity _ => rw [u] at h; cases h
    | notANumber => rw [u] at h; cases h
    | zero _ => trivial
    | finite _ _ _ _ => exact (unpack_finite u).2
  exact (below.unpack_pack (by decide) (by decide)).isFinite

/-! ## Digits with a power of ten -/

/-- A word of 64 bits is finite. -/
lemma below_ofUInt64 (n : UInt64) : Below 12 (UnpackedFloat.ofUInt64 Format.binary64 n) := by
  unfold UnpackedFloat.ofUInt64 UnpackedFloat.ofNat UnpackedFloat.ofInt UnpackedFloat.normalize
  split
  case h_1 less =>
    have := Std.compare_eq_lt.1 less
    omega
  case h_2 => trivial
  case h_3 =>
    have small : n.toNat.log2 < 64 := by
      by_cases zero : n.toNat = 0
      · simp [zero]
      · exact (Nat.log2_lt zero).2 n.toNat_lt
    simp only [UnpackedFloat.round, decreaseExponent, targetExponent_eq, totalExponent,
      Int.toNat_natCast, Nat.shiftLeft_eq]
    generalize shift : (0 - max ((n.toNat.log2 : Int) + 1 + 0 - 53) (-1074)).toNat = k
    have bits : n.toNat * 2 ^ k < 2 ^ (n.toNat.log2 + 1 + k) := by
      rw [Nat.pow_add]
      exact Nat.mul_lt_mul_of_pos_right Nat.lt_log2_self (Nat.two_pow_pos k)
    exact below_roundWithAccuracy _ _ bits (by omega) (by omega) (by omega)

/-- Whether the number is finite and not zero. -/
def isRegular : UnpackedFloat → Bool
  | .finite _ _ _ _ => true
  | _ => false

/-- The powers of ten in the table are finite and not zero. -/
lemma power_finite (e : Nat) (h : e < Float.exactlyRepresentablePowersOfTen.size) :
    ∃ s m x p, Float.exactlyRepresentablePowersOfTen[e].toModel.unpack = .finite s m x p := by
  have checked : ∀ x ∈ Float.exactlyRepresentablePowersOfTen.toList,
      isRegular x.toModel.unpack = true := by decide
  have regular := checked _ (Array.getElem_mem_toList h)
  cases u : Float.exactlyRepresentablePowersOfTen[e].toModel.unpack with
  | infinity _ => rw [u] at regular; cases regular
  | notANumber => rw [u] at regular; cases regular
  | zero _ => rw [u] at regular; cases regular
  | finite s m x p => exact ⟨s, m, x, p, rfl⟩

/-- A finite number times one that is finite and not zero is a number. -/
lemma isNaN_mul {B : Int} {f : UnpackedFloat} (h : Below B f) {s : Sign} {m : Nat} {e : Int}
    (p : 0 < m) : (UnpackedFloat.mul Format.binary64 f (.finite s m e p)).isNaN = false := by
  cases f with
  | infinity _ => exact h.elim
  | notANumber => exact h.elim
  | zero _ => rfl
  | finite _ _ _ _ => exact isNaN_roundWithAccuracy _ _ _ _

/-- A finite number over one that is finite and not zero is a number. -/
lemma isNaN_div {B : Int} {f : UnpackedFloat} (h : Below B f) {s : Sign} {m : Nat} {e : Int}
    (p : 0 < m) : (UnpackedFloat.div Format.binary64 f (.finite s m e p)).isNaN = false := by
  cases f with
  | infinity _ => exact h.elim
  | notANumber => exact h.elim
  | zero _ => rfl
  | finite _ _ _ _ => exact isNaN_roundWithAccuracy _ _ _ _

/-- Either of two numbers is a number. -/
lemma isNaN_ite {c : Prop} [Decidable c] {f g : UnpackedFloat} (hf : f.isNaN = false)
    (hg : g.isNaN = false) : (if c then f else g).isNaN = false := by
  by_cases h : c
  case pos => rwa [if_pos h]
  case neg => rwa [if_neg h]

/-- Digits with a power of ten are read as a number. -/
lemma isNaN_ofScientific (m : Nat) (s : Bool) (e : Nat) :
    (Float.ofScientific m s e).isNaN = false := by
  unfold Float.ofScientific
  split
  case isTrue table =>
    obtain ⟨_, _, _, p, power⟩ := power_finite e (Nat.lt_succ_of_le table.2)
    have whole := (below_ofUInt64 m.toUInt64).unpack_pack (by decide) (by decide)
    split
    case isTrue => exact isNaN_unpack_pack (power ▸ isNaN_div whole p)
    case isFalse => exact isNaN_unpack_pack (power ▸ isNaN_mul whole p)
  case isFalse =>
    refine isNaN_unpack_pack ?_
    unfold UnpackedFloat.ofScientific
    by_cases zero : m = 0
    case pos => rw [dif_pos zero]; rfl
    case neg =>
      rw [dif_neg zero]
      refine isNaN_ite rfl (isNaN_ite rfl (isNaN_ite ?_ ?_))
      all_goals exact isNaN_roundWithAccuracy _ _ _ _

/-- A product is finite unless it has too many bits. -/
lemma below_mul {B e e' : Int} {m m' k : Nat} {s s' : Sign} (p : 0 < m) (p' : 0 < m')
    (bits : m * m' < 2 ^ k) (exponent : e + e' < B) (place : k + (e + e') - 53 < B)
    (least : -1074 < B) :
    Below B (UnpackedFloat.mul Format.binary64 (.finite s m e p) (.finite s' m' e' p')) :=
  below_roundWithAccuracy _ _ bits exponent place least

/-- A word of 64 bits times the least power of ten is finite. -/
lemma below_mul_one (n : UInt64) : Below 971 (UnpackedFloat.mul Format.binary64
    n.toFloat.toModel.unpack Float.exactlyRepresentablePowersOfTen[0].toModel.unpack) := by
  have whole : Below 12 n.toFloat.toModel.unpack :=
    (below_ofUInt64 n).unpack_pack (by decide) (by decide)
  have one : Float.exactlyRepresentablePowersOfTen[0].toModel.unpack =
      .finite .positive (2 ^ 52) (-52) (by decide) := rfl
  rw [one]
  cases h : n.toFloat.toModel.unpack with
  | infinity _ => rw [h] at whole; exact whole.elim
  | notANumber => rw [h] at whole; exact whole.elim
  | zero _ => trivial
  | finite s m e p =>
    rw [h] at whole
    change e ≤ 12 at whole
    have bits : m * 2 ^ 52 < 2 ^ 105 := by
      have := (unpack_finite h).1
      omega
    exact below_mul _ _ bits (by omega) (by omega) (by omega)

/-- A whole number of 128 bits is far below the greatest float. -/
lemma below_ofScientific_zero {n : Nat} (h : n < 2 ^ 128) :
    Below 971 (UnpackedFloat.ofScientific Format.binary64 n 0) := by
  have bits : (n <<< Format.binary64.mantissaBits) * 10 ^ (0 : Int).toNat < 2 ^ 181 := by
    have mantissa : Format.binary64.mantissaBits = 53 := rfl
    simp only [mantissa, Nat.shiftLeft_eq, Int.toNat_zero, Nat.pow_zero, Nat.mul_one]
    omega
  have small : ¬ (0 : Int) > 2 ^ Format.binary64.exponentBits :=
    Int.not_lt.2 (Int.pow_nonneg (by decide))
  have large : ¬ (0 : Int) < -(2 ^ Format.binary64.exponentBits + n.log2) := by
    have : (0 : Int) ≤ 2 ^ Format.binary64.exponentBits := Int.pow_nonneg (by decide)
    omega
  unfold UnpackedFloat.ofScientific
  by_cases zero : n = 0
  case pos =>
    rw [dif_pos zero]
    trivial
  case neg =>
    rw [dif_neg zero, if_neg small, if_neg large, if_pos (Int.le_refl 0)]
    refine below_mul (k := 181) _ _ ?_ ?_ ?_ ?_
    · exact bits
    all_goals decide

/-- A natural number of at most 128 bits is finite. -/
theorem isFinite_ofNat {n : Nat} (h : n < 2 ^ 128) : (Float.ofNat n).isFinite = true := by
  unfold Float.ofNat
  change (Float.ofScientific n false 0).isFinite = true
  unfold Float.ofScientific
  split
  case isTrue => exact ((below_mul_one n.toUInt64).unpack_pack (by decide) (by decide)).isFinite
  case isFalse => exact ((below_ofScientific_zero h).unpack_pack (by decide) (by decide)).isFinite

/-! ## Decimals -/

/-- The float of a decimal number is a number. -/
lemma isNaN_toFloat (d : Decimal) : d.toFloat.isNaN = false := by
  unfold toFloat
  dsimp only
  split_ifs
  · rfl
  · rfl
  · rfl
  · exact isNaN_ofScientific _ _ _
  · exact isNaN_ofScientific _ _ _

/-- A decimal that is not read as infinity is read as a finite number. -/
theorem isFinite_toFloat {d : Decimal} (h : d.toFloat.isInf = false) : d.toFloat.isFinite = true :=
  isFinite_of_isInf (isNaN_toFloat d) h

/-- A whole number of at most 310 digits is read as it stands. -/
lemma toFloat_whole (n : Nat) : (Decimal.mk n 0).toFloat =
    if 311 ≤ (digits n).length then Float.ofBits 0x7FF0000000000000 else Float.ofNat n := by
  by_cases zero : n = 0
  · subst zero; rfl
  · unfold toFloat
    dsimp only
    split_ifs
    all_goals first | omega | rfl

/-- A natural number of at most 128 bits is not read as infinity. -/
theorem isInf_whole {n : Nat} (h : n < 2 ^ 128) : (Decimal.mk n 0).toFloat.isInf = false := by
  have short : (digits n).length ≤ 39 :=
    (Nat.length_toDigits_le_iff (by decide) (by decide)).2 (Nat.lt_trans h (by decide))
  rw [toFloat_whole, if_neg (by omega)]
  exact isInf_of_isFinite (isFinite_ofNat h)

/-- An integer is finite as a float if its digits are not read as infinity. -/
theorem isFinite_ofInt {n : Int} (h : (Decimal.mk n.natAbs 0).toFloat.isInf = false) :
    (Float.ofInt n).isFinite = true := by
  have finite : (Float.ofNat n.natAbs).isFinite = true := by
    have := isFinite_toFloat h
    rw [toFloat_whole] at this
    split_ifs at this
    · cases this
    · exact this
  cases n with
  | ofNat n => exact finite
  | negSucc n => exact isFinite_neg finite

end SceneGrammar.Decimal
