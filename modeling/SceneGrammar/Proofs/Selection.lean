import Mathlib.MeasureTheory.Measure.Lebesgue.Basic
import Mathlib.Tactic.Lemma
import SceneGrammar.Selection

/-!
# Selection is proportional

Without rounding both rules of selection give every candidate its share of the draws: a draw `u` of
the unit interval makes the threshold `u * total`, and the draws that pick a candidate form an
interval as long as its weight is of the total. The rule for collections owns the left end of each
interval, the rule for values the right end, so that they part only where the threshold is one of
the running sums.

Both rules are picks among the running sums (`pick_eq_some_iff`); what is said of them is read off
that equivalence, with the running sums in ascending order (`runningSum_mono`).
-/

namespace SceneGrammar.Selection
open MeasureTheory Set

section Hits
variable {α : Type} [Add α]

/-- There is no first hit where no running sum is one. -/
lemma firstHit_eq_none_iff {hit : α → Bool} {running : α} {weights : List α} :
    firstHit hit running weights = none ↔
      ∀ j < weights.length, ¬ hit ((weights.take (j + 1)).foldl (· + ·) running) := by
  induction weights generalizing running with
  | nil => simp [firstHit]
  | cons w ws ih =>
    rw [List.length_cons, Nat.forall_lt_succ_left]
    by_cases h : hit (running + w) <;> simp [firstHit, h, ih]

/-- The first hit is a hit that no other one comes before. -/
lemma firstHit_eq_some_iff {hit : α → Bool} {running : α} {weights : List α} {i : Nat} :
    firstHit hit running weights = some i ↔
      i < weights.length ∧ hit ((weights.take (i + 1)).foldl (· + ·) running) ∧
        ∀ j < i, ¬ hit ((weights.take (j + 1)).foldl (· + ·) running) := by
  induction weights generalizing running i with
  | nil => simp [firstHit]
  | cons w ws ih =>
    cases i with
    | zero => by_cases h : hit (running + w) <;> simp [firstHit, h]
    | succ i =>
      rw [Nat.forall_lt_succ_left]
      by_cases h : hit (running + w) <;> simp [firstHit, h, ih]

variable [Zero α]

/-- The sum of the first candidates' weights. -/
def runningSum (weights : List α) (i : Nat) : α := total (weights.take i)

@[simp] lemma runningSum_length (weights : List α) :
    runningSum weights weights.length = total weights := by
  rw [runningSum, List.take_length]

/-- A pick is the first candidate whose running sum is a hit, or the last candidate. -/
lemma pick_eq_some_iff {hit : α → Bool} {weights : List α} {i : Nat} :
    pick hit weights = some i ↔
      i < weights.length ∧ (hit (runningSum weights (i + 1)) ∨ i + 1 = weights.length) ∧
        ∀ j < i, ¬ hit (runningSum weights (j + 1)) := by
  cases found : firstHit hit 0 weights with
  | some k =>
    obtain ⟨lt, reached, first⟩ := firstHit_eq_some_iff.1 found
    have picked : pick hit weights = some k := by simp [pick, found]
    rw [picked, Option.some.injEq]
    refine ⟨?a, ?b⟩
    case a =>
      rintro rfl
      exact ⟨lt, .inl reached, first⟩
    case b =>
      rintro ⟨-, last, before⟩
      refine Nat.le_antisymm (Nat.le_of_not_lt fun above => ?_)
        (Nat.le_of_not_lt fun below => before k below reached)
      obtain reached' | last := last
      case inl => exact first i above reached'
      case inr => omega
  | none =>
    have none' := firstHit_eq_none_iff.1 found
    have picked : pick hit weights = lastIndex? weights := by simp [pick, found]
    rw [picked]
    cases weights with
    | nil => simp [lastIndex?]
    | cons w ws =>
      rw [lastIndex?, Option.some.injEq]
      refine ⟨?a, ?b⟩
      case a =>
        rintro rfl
        exact ⟨by simp, .inr rfl, fun j below => none' j (by simp; omega)⟩
      case b =>
        rintro ⟨lt, reached | last, -⟩
        · exact absurd reached (none' i lt)
        · simpa using last.symm

end Hits

/-- The sum of all weights does not depend on the order of the additions. -/
lemma total_eq_sum {α : Type} [AddMonoid α] (weights : List α) : total weights = weights.sum :=
  List.sum_eq_foldl.symm

/-- One more candidate adds its weight. -/
lemma runningSum_succ {α : Type} [AddMonoid α] {weights : List α} {i : Nat} {w : α}
    (h : weights[i]? = some w) :
    runningSum weights (i + 1) = runningSum weights i + w := by
  simp [runningSum, total_eq_sum, List.take_add_one, h]

section Boundary
variable {α : Type} [AddMonoid α] [LinearOrder α] {weights : List α} {i : Nat} {t : α}

/-- Up to the total, a pick is the first candidate whose running sum reaches the threshold. -/
lemma firstReaching_eq_some_iff (most : t ≤ total weights) :
    firstReaching weights t = some i ↔
      IsLeast {j | j < weights.length ∧ t ≤ runningSum weights (j + 1)} i := by
  simp only [firstReaching, pick_eq_some_iff, decide_eq_true_eq, not_le]
  refine ⟨?a, ?b⟩
  case a =>
    rintro ⟨lt, reached, before⟩
    refine ⟨⟨lt, reached.elim id fun last => ?_⟩, fun j ⟨_, reached'⟩ => ?_⟩
    · rwa [last, runningSum_length]
    · exact Nat.le_of_not_lt fun below => (before j below).not_ge reached'
  case b =>
    rintro ⟨⟨lt, reached⟩, least⟩
    refine ⟨lt, .inl reached, fun j below => lt_of_not_ge fun reached' => ?_⟩
    exact absurd (least ⟨below.trans lt, reached'⟩) (Nat.not_le.2 below)

/-- A list with a candidate has a pick under either rule, and the strict one picks no earlier
candidate than the other. They agree unless the threshold is a running sum. -/
lemma firstReaching_le_firstExceeding (h : weights ≠ []) (t : α) :
    ∃ i j, firstReaching weights t = some i ∧ firstExceeding weights t = some j ∧ i ≤ j ∧
      ((∀ k, 0 < k → k ≤ weights.length → t ≠ runningSum weights k) → i = j) := by
  obtain ⟨i, reaching⟩ := Option.ne_none_iff_exists'.1 (mt pick_eq_none_iff.1 h :
    firstReaching weights t ≠ none)
  obtain ⟨j, exceeding⟩ := Option.ne_none_iff_exists'.1 (mt pick_eq_none_iff.1 h :
    firstExceeding weights t ≠ none)
  refine ⟨i, j, reaching, exceeding, ?_⟩
  simp only [firstReaching, firstExceeding, pick_eq_some_iff, decide_eq_true_eq, not_le,
    not_lt] at reaching exceeding
  obtain ⟨ltᵢ, reached, below⟩ := reaching
  obtain ⟨ltⱼ, exceeded, upTo⟩ := exceeding
  have le : i ≤ j := by
    refine Nat.le_of_not_lt fun after => ?_
    obtain exceeded | last := exceeded
    case inl => exact (below j after).not_gt exceeded
    case inr => omega
  refine ⟨le, fun apart => le.antisymm (Nat.le_of_not_lt fun before => ?_)⟩
  obtain reached | last := reached
  case inl =>
    exact apart (i + 1) (Nat.succ_pos i) ltᵢ (reached.antisymm (upTo i before))
  case inr => omega

end Boundary

section Order
variable {α : Type} [AddCommGroup α] [LinearOrder α] [IsOrderedAddMonoid α]
  {weights : List α} {i : Nat} {t : α}

/-- The running sums of weights that are not negative ascend. -/
lemma runningSum_mono (nonneg : ∀ w ∈ weights, 0 ≤ w) : Monotone (runningSum weights) := by
  refine monotone_nat_of_le_succ fun i => ?_
  cases h : weights[i]? with
  | some w =>
    rw [runningSum_succ h]
    exact le_add_of_nonneg_right (nonneg w (List.mem_of_getElem? h))
  | none =>
    have short : weights.length ≤ i := List.getElem?_eq_none_iff.1 h
    rw [runningSum, runningSum, List.take_of_length_le short, List.take_of_length_le (by omega)]

/-- No running sum is more than the total. -/
lemma runningSum_le_total (nonneg : ∀ w ∈ weights, 0 ≤ w) (h : i ≤ weights.length) :
    runningSum weights i ≤ total weights :=
  runningSum_length weights ▸ runningSum_mono nonneg h

/-- Below the total, a strict pick is the candidate whose running sum is the first above the
threshold. -/
lemma firstExceeding_eq_some_iff (nonneg : ∀ w ∈ weights, 0 ≤ w) (least : 0 ≤ t)
    (most : t < total weights) :
    firstExceeding weights t = some i ↔
      i < weights.length ∧ runningSum weights i ≤ t ∧ t < runningSum weights (i + 1) := by
  simp only [firstExceeding, pick_eq_some_iff, decide_eq_true_eq, not_lt]
  refine ⟨?a, ?b⟩
  case a =>
    rintro ⟨lt, above, before⟩
    refine ⟨lt, ?c, above.elim id fun last => ?d⟩
    case c =>
      cases i with
      | zero => exact least
      | succ i => exact before i (Nat.lt_succ_self i)
    case d => rwa [last, runningSum_length]
  case b =>
    rintro ⟨lt, le, above⟩
    exact ⟨lt, .inl above, fun j below => (runningSum_mono nonneg below).trans le⟩

/-- Above zero, that candidate is the one whose interval of running sums holds the threshold. -/
lemma firstReaching_eq_some_iff_of_pos (nonneg : ∀ w ∈ weights, 0 ≤ w) (least : 0 < t)
    (most : t ≤ total weights) :
    firstReaching weights t = some i ↔
      i < weights.length ∧ runningSum weights i < t ∧ t ≤ runningSum weights (i + 1) := by
  rw [firstReaching_eq_some_iff most]
  refine ⟨?a, ?b⟩
  case a =>
    rintro ⟨⟨lt, reached⟩, first⟩
    refine ⟨lt, ?_, reached⟩
    cases i with
    | zero => exact least
    | succ i =>
      refine lt_of_not_ge fun reached' => ?_
      exact absurd (first ⟨by omega, reached'⟩) (Nat.not_succ_le_self i)
  case b =>
    rintro ⟨lt, above, reached⟩
    refine ⟨⟨lt, reached⟩, fun j ⟨_, reached'⟩ => Nat.le_of_not_lt fun below => ?_⟩
    exact (above.trans_le reached').not_ge (runningSum_mono nonneg below)

end Order

section Shares
variable {weights : List ℝ}

/-- The draws of a set for which a rule picks an index. -/
def drawsFor (rule : List ℝ → ℝ → Option Nat) (weights : List ℝ) (draws : Set ℝ) (i : Nat) :
    Set ℝ :=
  {u ∈ draws | rule weights (u * total weights) = some i}

/-- The draws for a candidate under the strict rule. -/
lemma drawsFor_firstExceeding (nonneg : ∀ w ∈ weights, 0 ≤ w) (positive : 0 < total weights)
    {i : Nat} (h : i < weights.length) :
    drawsFor firstExceeding weights (Ico 0 1) i =
      Ico (runningSum weights i / total weights) (runningSum weights (i + 1) / total weights) := by
  ext u
  rw [mem_Ico, div_le_iff₀ positive, lt_div_iff₀ positive]
  constructor
  case mp =>
    rintro ⟨⟨least, most⟩, picked⟩
    have most' : u * total weights < total weights := mul_lt_of_lt_one_left positive most
    exact ((firstExceeding_eq_some_iff nonneg (mul_nonneg least positive.le) most').1 picked).2
  case mpr =>
    rintro ⟨le, lt⟩
    have most := lt.trans_le (runningSum_le_total nonneg h)
    have least := (runningSum_mono nonneg (Nat.zero_le i)).trans le
    refine ⟨⟨?_, ?_⟩, (firstExceeding_eq_some_iff nonneg least most).2 ⟨h, le, lt⟩⟩
    · exact nonneg_of_mul_nonneg_left least positive
    · exact (mul_lt_iff_lt_one_left positive).1 most

/-- The draws above zero for a candidate under the other rule. -/
lemma drawsFor_firstReaching (nonneg : ∀ w ∈ weights, 0 ≤ w) (positive : 0 < total weights)
    {i : Nat} (h : i < weights.length) :
    drawsFor firstReaching weights (Ioo 0 1) i =
      Ioc (runningSum weights i / total weights) (runningSum weights (i + 1) / total weights)
        ∩ Iio 1 := by
  ext u
  rw [mem_inter_iff, mem_Ioc, div_lt_iff₀ positive, le_div_iff₀ positive]
  constructor
  case mp =>
    rintro ⟨⟨least, most⟩, picked⟩
    have most' : u * total weights ≤ total weights := mul_le_of_le_one_left positive.le most.le
    have least' := mul_pos least positive
    exact ⟨((firstReaching_eq_some_iff_of_pos nonneg least' most').1 picked).2, most⟩
  case mpr =>
    rintro ⟨⟨lt, le⟩, below⟩
    have most := le.trans (runningSum_le_total nonneg h)
    have least := (runningSum_mono nonneg (Nat.zero_le i)).trans_lt lt
    refine ⟨⟨?_, below⟩, (firstReaching_eq_some_iff_of_pos nonneg least most).2 ⟨h, lt, le⟩⟩
    exact pos_of_mul_pos_left least positive.le

/-- Every candidate's interval is as long as its weight is of the total. -/
lemma length_interval {i : Nat} {w : ℝ} (h : weights[i]? = some w) :
    runningSum weights (i + 1) / total weights - runningSum weights i / total weights =
      w / total weights := by
  rw [← sub_div, runningSum_succ h, add_sub_cancel_left]

/-- Cutting an interval off at its right end or beyond keeps its length. -/
lemma volume_Ioc_inter_Iio {a b c : ℝ} (h : b ≤ c) :
    volume (Ioc a b ∩ Iio c) = ENNReal.ofReal (b - a) := by
  refine le_antisymm ?_ ?_
  · exact Real.volume_Ioc ▸ measure_mono inter_subset_left
  · rw [← Real.volume_Ioo]
    exact measure_mono fun x hx => ⟨⟨hx.1, hx.2.le⟩, hx.2.trans_le h⟩

/-- Both rules of selection pick in proportion to the weights, and differ on boundaries only. -/
theorem picks_proportional (nonneg : ∀ w ∈ weights, 0 ≤ w) (positive : 0 < total weights) :
    (∀ u ∈ Ico (0 : ℝ) 1,
      (∃ i, firstExceeding weights (u * total weights) = some i) ∧
      (∃ i, firstReaching weights (u * total weights) = some i) ∧
      ∀ i,
        (firstExceeding weights (u * total weights) = some i ↔ i < weights.length ∧
          runningSum weights i ≤ u * total weights ∧
          u * total weights < runningSum weights (i + 1)) ∧
        (firstReaching weights (u * total weights) = some i ↔
          IsLeast {j | j < weights.length ∧ u * total weights ≤ runningSum weights (j + 1)} i)) ∧
    (∀ i w, weights[i]? = some w →
      drawsFor firstExceeding weights (Ico 0 1) i =
        Ico (runningSum weights i / total weights) (runningSum weights (i + 1) / total weights) ∧
      volume (drawsFor firstExceeding weights (Ico 0 1) i) =
        ENNReal.ofReal (w / total weights) ∧
      drawsFor firstReaching weights (Ioo 0 1) i =
        Ioc (runningSum weights i / total weights) (runningSum weights (i + 1) / total weights)
          ∩ Iio 1 ∧
      volume (drawsFor firstReaching weights (Ioo 0 1) i) = ENNReal.ofReal (w / total weights) ∧
      (w = 0 → drawsFor firstExceeding weights (Ico 0 1) i = ∅ ∧
        drawsFor firstReaching weights (Ioo 0 1) i = ∅)) ∧
    ∀ t, ∃ i j, firstReaching weights t = some i ∧ firstExceeding weights t = some j ∧ i ≤ j ∧
      ((∀ k, 0 < k → k ≤ weights.length → t ≠ runningSum weights k) → i = j) := by
  have some_candidate : weights ≠ [] := by
    rintro rfl
    exact positive.false
  have both := firstReaching_le_firstExceeding some_candidate
  refine ⟨fun u ⟨least, most⟩ => ?rule, fun i w h => ?share, both⟩
  case rule =>
    obtain ⟨i, j, reaching, exceeding, -⟩ := both (u * total weights)
    have most' : u * total weights < total weights := mul_lt_of_lt_one_left positive most
    have least' : 0 ≤ u * total weights := mul_nonneg least positive.le
    exact ⟨⟨j, exceeding⟩, ⟨i, reaching⟩, fun k =>
      ⟨firstExceeding_eq_some_iff nonneg least' most', firstReaching_eq_some_iff most'.le⟩⟩
  case share =>
    obtain ⟨lt, -⟩ := List.getElem?_eq_some_iff.1 h
    have exceeding := drawsFor_firstExceeding nonneg positive lt
    have reaching := drawsFor_firstReaching nonneg positive lt
    have right : runningSum weights (i + 1) / total weights ≤ 1 :=
      (div_le_one positive).2 (runningSum_le_total nonneg lt)
    refine ⟨exceeding, ?_, reaching, ?_, ?_⟩
    · rw [exceeding, Real.volume_Ico, length_interval h]
    · rw [reaching, volume_Ioc_inter_Iio right, length_interval h]
    · rintro rfl
      rw [exceeding, reaching, runningSum_succ h, add_zero]
      simp

/-- A candidate without weight among others. -/
theorem picks_proportional_gap :
    volume (drawsFor firstExceeding [1, 0, 3] (Ico 0 1) 2) = ENNReal.ofReal (3 / 4) ∧
      drawsFor firstReaching [1, 0, 3] (Ioo 0 1) 1 = ∅ := by
  have sum : total [(1 : ℝ), 0, 3] = 4 := by norm_num [total]
  have nonneg : ∀ w ∈ [(1 : ℝ), 0, 3], 0 ≤ w := by simp
  obtain ⟨-, share, -⟩ := picks_proportional nonneg (sum ▸ by norm_num)
  obtain ⟨-, length, -⟩ := share 2 3 rfl
  obtain ⟨-, -, -, -, never⟩ := share 1 0 rfl
  exact ⟨sum ▸ length, (never rfl).2⟩

end Shares

end SceneGrammar.Selection
