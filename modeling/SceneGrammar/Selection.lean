/-!
# Selection by weight

A choice among weighted candidates looks for the first running sum of the weights that passes a
threshold. Values of a grammar take the first sum that reaches it, template collections the first
that exceeds it; the two differ where the threshold equals a running sum.
-/

namespace SceneGrammar.Selection
variable {α : Type} [Add α]

/-- The index of the first running sum, counted on from `running`, that is a hit. -/
def firstHit (hit : α → Bool) (running : α) : List α → Option Nat
  | [] => none
  | w :: ws => if hit (running + w) then some 0 else (firstHit hit (running + w) ws).map (· + 1)

/-- The last index of a list, none for the empty list. -/
def lastIndex? : List α → Option Nat
  | [] => none
  | _ :: ws => some ws.length

/-- The first hit among the running sums. Where rounding leaves none, the last candidate stands in,
so only an empty list has no pick. -/
def pick [Zero α] (hit : α → Bool) (weights : List α) : Option Nat :=
  firstHit hit 0 weights <|> lastIndex? weights

/-- A hit is the index of a candidate. -/
theorem firstHit_lt_length {hit : α → Bool} {running : α} {weights : List α} {i : Nat}
    (h : firstHit hit running weights = some i) : i < weights.length := by
  induction weights generalizing running i with
  | nil => simp [firstHit] at h
  | cons w ws ih =>
    unfold firstHit at h
    split at h
    · simp only [Option.some.injEq] at h
      simp [← h]
    · obtain ⟨j, hj, rfl⟩ := Option.map_eq_some_iff.1 h
      simpa using ih hj

variable [Zero α]

/-- The first candidate whose running sum is at least the threshold. -/
def firstReaching [LE α] [DecidableLE α] (weights : List α) (threshold : α) : Option Nat :=
  pick (fun running => threshold ≤ running) weights

/-- The first candidate whose running sum is above the threshold. -/
def firstExceeding [LT α] [DecidableLT α] (weights : List α) (threshold : α) : Option Nat :=
  pick (fun running => threshold < running) weights

/-- The sum of all weights, added up from the left. -/
def total (weights : List α) : α := weights.foldl (· + ·) 0

/-- A pick is the index of a candidate. -/
theorem pick_lt_length {hit : α → Bool} {weights : List α} {i : Nat}
    (h : pick hit weights = some i) : i < weights.length := by
  unfold pick at h
  cases hf : firstHit hit 0 weights with
  | some j =>
    rw [hf] at h
    simp only [Option.orElse_eq_orElse, Option.orElse_some, Option.some.injEq] at h
    exact h ▸ firstHit_lt_length hf
  | none =>
    cases weights with
    | nil => simp [hf, lastIndex?] at h
    | cons w ws =>
      simp only [hf, lastIndex?, Option.orElse_eq_orElse, Option.orElse_none,
        Option.some.injEq] at h
      simp [← h]

/-- Only an empty list has no pick. -/
theorem pick_eq_none_iff {hit : α → Bool} {weights : List α} :
    pick hit weights = none ↔ weights = [] := by
  cases weights with
  | nil => simp [pick, firstHit, lastIndex?]
  | cons w ws => cases h : firstHit hit 0 (w :: ws) <;> simp [pick, h, lastIndex?]

end SceneGrammar.Selection
