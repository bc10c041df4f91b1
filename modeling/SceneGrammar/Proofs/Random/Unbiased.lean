import Mathlib.Algebra.Order.Floor.Div
import Mathlib.Data.Set.Card
import Mathlib.Order.Interval.Finset.Nat
import SceneGrammar.Proofs.Random.Bounds

/-!
# Integers without bias

An integer of a range is drawn in words of 64 bits that wrap: the size of the range of all integers wraps
to zero, and the lower bound and an offset are added across the sign. `integer?` says what 64 random bits
stand for in these words, and a stream draws it (`intRange_first`). Each integer of the range has as many
of the bits as every other one (`ncard_integer?`), because as many multiples of the size lie in a stretch
of some length wherever it begins (`multiples_eq`).
-/

namespace SceneGrammar.Random.Stream

variable {low high n : Int64} {bits : UInt64} {size offset : Nat}

/-! ## Draws in words -/

/-- The integer of a range that 64 random bits stand for, in words that wrap; none if they are thrown away. -/
def integer? (low high : Int64) (bits : UInt64) : Option Int64 :=
  let size := (high - low + 1).toUInt64
  if size = 0 then some bits.toInt64
  else
    let product := bits.toNat * size.toNat
    let zone := (size <<< UInt64.ofNat (63 - size.toNat.log2)) - 1
    if UInt64.ofNat product ≤ zone then some (low + (UInt64.ofNat (product / 2 ^ 64)).toInt64)
    else none

/-- The number of integers between two bounds, ends included. -/
def span (low high : Int64) : Nat := (high.toInt - low.toInt + 1).toNat

/-- There are as many integers between two bounds as they are apart, and one. -/
lemma span_bounds (h : low < high) :
    (span low high : Int) = high.toInt - low.toInt + 1 ∧ 0 < span low high ∧ span low high ≤ 2 ^ 64 := by
  rw [Int64.lt_iff_toInt_lt] at h
  have low_le := low.le_toInt
  have high_lt := high.toInt_lt
  unfold span
  lia

/-- An integer as a word is the integer up to a multiple of `2 ^ 64`. -/
lemma toNat_toUInt64 (x : Int64) : (x.toUInt64.toNat : Int) = x.toInt % 2 ^ 64 := by
  have wrapped : x.toInt = (x.toUInt64.toNat : Int).bmod (2 ^ 64) :=
    BitVec.toInt_eq_toNat_bmod x.toBitVec
  have fits := x.toUInt64.toNat_lt
  rw [wrapped]
  refine (Eq.trans Int.bmod_emod ?_).symm
  exact Int.emod_eq_of_lt (by lia) (by lia)

/-- The size is the number of integers, except that it wraps. -/
lemma toNat_size (h : low < high) : (high - low + 1).toUInt64.toNat = span low high % 2 ^ 64 := by
  obtain ⟨whole, -, -⟩ := span_bounds h
  have wrapped := toNat_toUInt64 (high - low + 1)
  have sum : (high - low + 1).toInt % 2 ^ 64 = (high.toInt - low.toInt + 1) % 2 ^ 64 := by
    rw [Int64.toInt_add, Int64.toInt_sub]
    refine Eq.trans Int.bmod_emod ?_
    rw [Int.add_emod, Int.bmod_emod, ← Int.add_emod]
    rfl
  rw [sum, ← whole] at wrapped
  exact_mod_cast wrapped

/-- The size moved up until its highest bit is the highest of 64 is still a word. -/
lemma shifted_lt (positive : 0 < size) (h : size < 2 ^ 64) :
    size * 2 ^ (63 - size.log2) < 2 ^ 64 := by
  have top : size.log2 < 64 := (Nat.log2_lt positive.ne').mpr h
  calc
    size * 2 ^ (63 - size.log2) < 2 ^ (size.log2 + 1) * 2 ^ (63 - size.log2) :=
      Nat.mul_lt_mul_of_pos_right Nat.lt_log2_self (Nat.two_pow_pos _)
    _ = 2 ^ 64 := by rw [← Nat.pow_add, show size.log2 + 1 + (63 - size.log2) = 64 by lia]

/-- A word that is not above the zone lies below the size moved up. -/
lemma le_zone_iff {w : UInt64} (h : w ≠ 0) (product : Nat) :
    UInt64.ofNat product ≤ (w <<< UInt64.ofNat (63 - w.toNat.log2)) - 1 ↔
      product % 2 ^ 64 < w.toNat * 2 ^ (63 - w.toNat.log2) := by
  have positive : 0 < w.toNat := Nat.pos_of_ne_zero fun e => h (UInt64.toNat_inj.mp e)
  have shifted := shifted_lt positive w.toNat_lt
  have places : (UInt64.ofNat (63 - w.toNat.log2)).toNat % 64 = 63 - w.toNat.log2 := by
    rw [UInt64.toNat_ofNat_of_lt' (by lia), Nat.mod_eq_of_lt (by lia)]
  have moved : (w <<< UInt64.ofNat (63 - w.toNat.log2)).toNat =
      w.toNat * 2 ^ (63 - w.toNat.log2) := by
    rw [UInt64.toNat_shiftLeft, places, Nat.shiftLeft_eq, Nat.mod_eq_of_lt shifted]
  have nonzero := Nat.mul_pos positive (Nat.two_pow_pos (63 - w.toNat.log2))
  have one : (1 : UInt64) ≤ w <<< UInt64.ofNat (63 - w.toNat.log2) := by
    rw [UInt64.le_iff_toNat_le, moved]
    exact nonzero
  rw [UInt64.le_iff_toNat_le, UInt64.toNat_sub_of_le _ _ one, moved, UInt64.toNat_ofNat']
  exact Nat.le_sub_one_iff_lt nonzero

/-- In the range of all integers the bits are taken as they are. -/
lemma integer?_whole (h : low < high) (all : span low high = 2 ^ 64) :
    integer? low high bits = some bits.toInt64 := by
  have size := toNat_size h
  rw [all, Nat.mod_self] at size
  unfold integer?
  rw [if_pos (UInt64.toNat_inj.mp size)]

/-- In every other range an offset is added to the lower bound. -/
lemma integer?_part (h : low < high) (part : span low high < 2 ^ 64) : integer? low high bits =
    (offset? (span low high) bits).map fun (offset : Nat) => Int64.ofInt (low.toInt + offset) := by
  obtain ⟨whole, positive, -⟩ := span_bounds h
  have size := toNat_size h
  rw [Nat.mod_eq_of_lt part] at size
  have nonzero : (high - low + 1).toUInt64 ≠ 0 := fun zero => by
    rw [zero] at size
    exact positive.ne size
  have keeps := le_zone_iff nonzero (bits.toNat * span low high)
  rw [size] at keeps
  unfold integer?
  simp only [if_neg nonzero, size, keeps, offset?, Nat.pow_eq]
  split
  case isTrue kept =>
    rw [Option.map_some, Int64.ofInt_add, Int64.ofInt_toInt, UInt64.toInt64_ofNat']
    rfl
  case isFalse thrown => rfl

/-! ## The bits of an integer -/

/-- The bits that are kept for an offset are those whose product with the size lies in a stretch. -/
lemma offset?_eq_some_iff (positive : 0 < size) (h : size < 2 ^ 64) :
    offset? size bits = some offset ↔ offset * 2 ^ 64 ≤ bits.toNat * size ∧
      bits.toNat * size < offset * 2 ^ 64 + size * 2 ^ (63 - size.log2) := by
  have shifted := shifted_lt positive h
  unfold offset?
  simp only [Nat.pow_eq]
  generalize bits.toNat * size = product
  generalize size * 2 ^ (63 - size.log2) = zone at *
  split
  · rw [Option.some.injEq]
    lia
  · simp only [reduceCtorEq, false_iff]
    lia

/-- A stretch that is some times as long as a number holds as many of its multiples, wherever it begins. -/
lemma multiples_eq (positive : 0 < size) (start count : Nat) :
    {b | start ≤ b * size ∧ b * size < start + size * count} =
      (Finset.Ico (start ⌈/⌉ size) (start ⌈/⌉ size + count) : Set Nat) := by
  ext b
  have lower : start ≤ b * size ↔ start ⌈/⌉ size ≤ b := by
    rw [ceilDiv_le_iff_le_mul positive, Nat.mul_comm]
  have upper : start + size * count ≤ b * size ↔ start ⌈/⌉ size + count ≤ b := by
    cases Nat.lt_or_ge b count with
    | inl less =>
      have short := Nat.mul_lt_mul_of_pos_right less positive
      rw [Nat.mul_comm size]
      exact ⟨fun h => by lia, fun h => by lia⟩
    | inr more =>
      obtain ⟨d, rfl⟩ := Nat.exists_eq_add_of_le more
      rw [Nat.add_comm count d, Nat.add_le_add_iff_right, ceilDiv_le_iff_le_mul positive,
        Nat.add_mul, Nat.mul_comm count, Nat.mul_comm d, Nat.add_le_add_iff_right]
  simp only [Set.mem_ofPred_eq, Finset.coe_Ico, Set.mem_Ico, lower]
  lia

/-- Each offset is kept for as many bits as every other one. -/
lemma ncard_offset? (positive : 0 < size) (h : size < 2 ^ 64) (inside : offset < size) :
    {bits | offset? size bits = some offset}.ncard = 2 ^ (63 - size.log2) := by
  have shifted := shifted_lt positive h
  have numbers : UInt64.toNat '' {bits | offset? size bits = some offset} =
      {b | offset * 2 ^ 64 ≤ b * size ∧
        b * size < offset * 2 ^ 64 + size * 2 ^ (63 - size.log2)} := by
    ext b
    constructor
    · rintro ⟨bits, kept, rfl⟩
      exact (offset?_eq_some_iff positive h).mp kept
    · rintro ⟨above, below⟩
      have fits : b < 2 ^ 64 := by
        have last : (offset + 1) * 2 ^ 64 ≤ size * 2 ^ 64 := Nat.mul_le_mul_right _ inside
        exact Nat.lt_of_mul_lt_mul_right (a := size) (by lia)
      have same : (UInt64.ofNat b).toNat = b := UInt64.toNat_ofNat_of_lt' fits
      refine ⟨UInt64.ofNat b, (offset?_eq_some_iff positive h).mpr ?_, same⟩
      rw [same]
      exact ⟨above, below⟩
  have injective : Function.Injective UInt64.toNat := fun _ _ => UInt64.toNat_inj.mp
  rw [← Set.ncard_image_of_injective _ injective, numbers, multiples_eq positive,
    Set.ncard_coe_finset, Nat.card_Ico]
  exact Nat.add_sub_cancel_left _ _

/-- An offset that is smaller than the size does not leave the range. -/
lemma toInt_offset (h : low < high) (inside : offset < span low high) :
    (Int64.ofInt (low.toInt + offset)).toInt = low.toInt + offset := by
  obtain ⟨whole, -, -⟩ := span_bounds h
  have low_le := low.le_toInt
  have high_lt := high.toInt_lt
  exact Int64.toInt_ofInt_of_le (by lia) (by lia)

/-- Each integer of a range has as many of the bits as every other one. -/
lemma ncard_integer? (h : low < high) (above : low ≤ n) (below : n ≤ high) :
    {bits | integer? low high bits = some n}.ncard = 2 ^ (63 - (span low high).log2) := by
  obtain ⟨whole, positive, le⟩ := span_bounds h
  rw [Int64.le_iff_toInt_le] at above below
  cases Nat.lt_or_eq_of_le le with
  | inl part =>
    simp only [integer?_part h part]
    have same : {bits | (offset? (span low high) bits).map
        (fun (offset : Nat) => Int64.ofInt (low.toInt + offset)) = some n} =
        {bits | offset? (span low high) bits = some (n.toInt - low.toInt).toNat} := by
      ext bits
      simp only [Set.mem_ofPred_eq, Option.map_eq_some_iff]
      constructor
      · rintro ⟨offset, kept, rfl⟩
        rw [kept, toInt_offset h (offset?_lt kept)]
        congr 1
        lia
      · intro kept
        refine ⟨_, kept, ?_⟩
        rw [show low.toInt + ((n.toInt - low.toInt).toNat : Int) = n.toInt by lia, Int64.ofInt_toInt]
    rw [same]
    exact ncard_offset? positive part (by lia)
  | inr all =>
    simp only [integer?_whole h all]
    have single : {bits : UInt64 | some bits.toInt64 = some n} = {n.toUInt64} := by
      ext bits
      simp only [Set.mem_ofPred_eq, Set.mem_singleton_iff, Option.some.injEq]
      exact ⟨fun e => e ▸ (UInt64.toUInt64_toInt64 bits).symm, fun e => e ▸ n.toInt64_toUInt64⟩
    rw [single, Set.ncard_singleton, all, Nat.log2_two_pow]
    rfl

/-! ## The draws of a stream -/

/-- A stream from which some more words were taken. -/
def skip (s : Stream) (words : Nat) : Stream := { s with position := s.position + .ofNat 68 words }

/-- The 64 bits of a draw, after so many other draws. -/
def draw (s : Stream) (k : Nat) : UInt64 := (s.skip (2 * k)).next.1

variable {s : Stream}

/-- Words may be taken at once or one part after the other. -/
lemma skip_skip (k l : Nat) : (s.skip k).skip l = s.skip (k + l) := by
  simp [skip, BitVec.ofNat_add, BitVec.add_assoc]

/-- A draw takes two words. -/
lemma next_skip : s.next.2 = s.skip 2 := rfl

/-- The first draw is the next one. -/
lemma draw_zero : s.draw 0 = s.next.1 := by simp [draw, skip]

/-- What is drawn after the next draw is drawn one later. -/
lemma draw_next (k : Nat) : s.next.2.draw k = s.draw (k + 1) := by
  rw [draw, draw, next_skip, skip_skip]
  congr 3
  lia

/-- The draws begin again when the stream has come round. -/
lemma draw_mod (k : Nat) : s.draw (k % 2 ^ 67) = s.draw k := by
  have words : BitVec.ofNat 68 (2 * (k % 2 ^ 67)) = BitVec.ofNat 68 (2 * k) := by
    apply BitVec.eq_of_toNat_eq
    rw [BitVec.toNat_ofNat, BitVec.toNat_ofNat]
    lia
  rw [draw, draw, skip, skip, words]

/-- The draws up to the first one that is kept, or up to the bound if none of them is. -/
lemma drawOffset_first (size : Nat) {bound : Nat} (positive : 0 < bound) (s : Stream) :
    ∃ k < bound, (drawOffset size bound s).2 = s.skip (2 * (k + 1)) ∧
      (∀ j < k, offset? size (s.draw j) = none) ∧
      (offset? size (s.draw k) = some (drawOffset size bound s).1 ∨
        ∀ j < bound, offset? size (s.draw j) = none) := by
  induction bound generalizing s with
  | zero => exact absurd positive (Nat.lt_irrefl 0)
  | succ bound ih =>
    have at_once : ∀ j < 0, offset? size (s.draw j) = none := fun j less =>
      absurd less (Nat.not_lt_zero j)
    unfold drawOffset
    cases e : offset? size s.next.1 with
    | some offset => exact ⟨0, positive, next_skip, at_once, .inl (draw_zero ▸ e)⟩
    | none =>
      have first : offset? size (s.draw 0) = none := draw_zero ▸ e
      cases Nat.eq_zero_or_pos bound with
      | inl last =>
        subst last
        exact ⟨0, positive, next_skip, at_once, .inr fun j less => by
          rwa [Nat.lt_one_iff.mp less]⟩
      | inr more =>
        -- The draws that follow are those of the stream after this one.
        obtain ⟨k, less, rest, thrown, last⟩ := ih more s.next.2
        simp only [draw_next] at thrown last
        have shifted {m : Nat} (later : ∀ j < m, offset? size (s.draw (j + 1)) = none) :
            ∀ j < m + 1, offset? size (s.draw j) = none := fun j less => by
          cases j with
          | zero => exact first
          | succ j => exact later j (Nat.lt_of_succ_lt_succ less)
        refine ⟨k + 1, Nat.succ_lt_succ less, ?_, shifted thrown, last.imp_right shifted⟩
        rw [rest, next_skip, skip_skip]
        congr 1
        lia

/-! ## Integers of a range -/

/-- Of the range of all integers every draw is kept, as it is. -/
lemma intRange_whole (h : low < high) (all : span low high = 2 ^ 64) (s : Stream) :
    intRange low high s = (s.next.1.toInt64, s.next.2) := by
  unfold intRange
  rw [if_neg (Int64.not_le.mpr h)]
  exact if_pos all

/-- Of a smaller range an offset is drawn and added to the lower bound. -/
lemma intRange_part (h : low < high) (part : span low high < 2 ^ 64) (s : Stream) :
    intRange low high s =
      (Int64.ofInt (low.toInt + (drawOffset (span low high) (2 ^ 67) s).1),
        (drawOffset (span low high) (2 ^ 67) s).2) := by
  unfold intRange
  rw [if_neg (Int64.not_le.mpr h)]
  exact if_neg part.ne

/-- An integer is that of the first draw that is not thrown away, and no more words are taken. -/
lemma intRange_first (h : low < high) (s : Stream) :
    ∃ k, (intRange low high s).2 = s.skip (2 * (k + 1)) ∧
      (∀ j < k, integer? low high (s.draw j) = none) ∧
      (integer? low high (s.draw k) = some (intRange low high s).1 ∨
        ∀ j, integer? low high (s.draw j) = none) := by
  obtain ⟨-, -, le⟩ := span_bounds h
  cases Nat.lt_or_eq_of_le le with
  | inl part =>
    obtain ⟨k, -, rest, thrown, last⟩ := drawOffset_first (span low high) (Nat.two_pow_pos 67) s
    simp only [integer?_part h part, intRange_part h part, Option.map_eq_none_iff]
    refine ⟨k, rest, thrown, last.imp (fun kept => by rw [kept, Option.map_some]) fun never j => ?_⟩
    rw [← draw_mod]
    exact never (j % 2 ^ 67) (Nat.mod_lt _ (Nat.two_pow_pos 67))
  | inr all =>
    rw [intRange_whole h all]
    refine ⟨0, next_skip, fun j less => absurd less (Nat.not_lt_zero j), .inl ?_⟩
    rw [integer?_whole h all, draw_zero]

/-- A drawn integer lies in its range and is what the first draw stands for that is not thrown away, and of
the 64 bits of a draw each integer of the range has as many as every other one. -/
theorem intRange_unbiased (s : Stream) (low high : Int64) :
    -- An empty range has its lower bound, and no word is taken.
    (high ≤ low → intRange low high s = (low, s)) ∧
    (low < high →
      low ≤ (intRange low high s).1 ∧ (intRange low high s).1 ≤ high ∧
      -- Two words are taken for each draw; only a stream that throws all away has no integer.
      (∃ k, (intRange low high s).2 = s.skip (2 * (k + 1)) ∧
        (∀ j < k, integer? low high (s.draw j) = none) ∧
        (integer? low high (s.draw k) = some (intRange low high s).1 ∨
          ∀ j, integer? low high (s.draw j) = none)) ∧
      ∃ share, 0 < share ∧ ∀ n, low ≤ n → n ≤ high →
        {bits | integer? low high bits = some n}.ncard = share) := by
  constructor
  · intro h
    unfold intRange
    rw [if_pos h]
  · intro h
    obtain ⟨low_le, le_high⟩ := bounded.intRange s (Int64.le_of_lt h)
    exact ⟨low_le, le_high, intRange_first h s, _, Nat.two_pow_pos _, fun n above below =>
      ncard_integer? h above below⟩

/-- A range of one integer, the range of all integers, and one with integers of both signs. -/
theorem intRange_unbiased_signs :
    intRange 9 9 (ofSeed 3) = (9, ofSeed 3) ∧ Int64.minValue < Int64.maxValue ∧
      0 < {bits | integer? Int64.minValue Int64.maxValue bits = some (-1)}.ncard ∧
      -1 ≤ (intRange (-1) 1 (ofSeed 3)).1 ∧
      {bits | integer? (-1) 1 bits = some (-1)}.ncard = {bits | integer? (-1) 1 bits = some 1}.ncard := by
  have all : Int64.minValue < Int64.maxValue := by decide
  obtain ⟨-, -, -, share, positive, equal⟩ := (intRange_unbiased (ofSeed 3) _ _).2 all
  obtain ⟨above, -, -, share', -, equal'⟩ := (intRange_unbiased (ofSeed 3) (-1) 1).2 (by decide)
  refine ⟨(intRange_unbiased (ofSeed 3) 9 9).1 (by decide), all, ?_, above, ?_⟩
  · rwa [equal (-1) (by decide) (by decide)]
  · rw [equal' (-1) (by decide) (by decide), equal' 1 (by decide) (by decide)]

end SceneGrammar.Random.Stream
