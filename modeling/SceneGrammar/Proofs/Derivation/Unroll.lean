import SceneGrammar.Proofs.Derivation.Atomic
import SceneGrammar.Proofs.Derivation.Balance
import SceneGrammar.Proofs.Grammar.Label

/-!
# Repetition written out

Carrying out one sequence after another is carrying out the two as one (`executeAll_append`): what is
fatal in the first keeps the second from beginning, and whatever else goes wrong does not. So repeating
a sequence is the same as writing it out as often within one scope (`execute_times`), for any sequence
that has no fixed values, which would be fixed once for all rounds, but once for each copy.
-/

namespace SceneGrammar.Derivation

variable {σ ρ α : Type} [Scalar α] [Host σ α] [RandomSource ρ]

/-- Sequences one after the other are one sequence. -/
lemma executeAll_append (env : Surroundings σ ρ α) (rs rs' : List (Rule Nat)) :
    executeAll env (rs ++ rs') = executeAll env rs >>= fun _ => executeAll env rs' := by
  induction rs with
  | nil =>
    simp only [List.nil_append, executeAll]
    rw [pure_bind]
  | cons r rs ih =>
    simp only [List.cons_append, executeAll, ih, bind_assoc]

/-- Rounds of a sequence are copies of it in a row. -/
lemma iterate_executeAll (env : Surroundings σ ρ α) (body : List (Rule Nat)) (n : Nat) :
    iterate n (executeAll env body) = executeAll env (List.replicate n body).flatten := by
  induction n with
  | zero => simp only [iterate, List.replicate_zero, List.flatten_nil, executeAll]
  | succ n ih =>
    simp only [iterate, List.replicate_succ, List.flatten_cons]
    rw [executeAll_append, ih]

/-- Repeating a sequence a written number of times is a scope around as many copies of it. -/
lemma execute_times (env : Surroundings σ ρ α) {n : Int64} (hn : 0 ≤ n) (body : List (Rule Nat)) :
    execute env (.times (.literal (.int n)) body) =
      execute env (.block (List.replicate n.toInt.toNat body).flatten) := by
  have count : resolveAs .count "repeat" (.literal (.int n)) =
      (pure n.toInt.toNat : Action σ ρ α Nat) := by
    have e : Shape.count.read? (.int n) = some n.toInt.toNat := if_pos hn
    simp only [resolveAs, resolve, pure_bind, e]
  simp only [execute]
  rw [count, pure_bind, iterate_executeAll]

/-- A repetition with a written count is a scope around as many copies of its body, each of which begins
where the one before has ended, unless that was with a fatal fault. -/
theorem execute_times_unrolled (settings : Settings) (levels : Nat) {n : Int64} (hn : 0 ≤ n)
    {body : Grammar} (hbody : Rule.labelsOf body = []) (next next' : Nat) (s : State σ ρ α) :
    let env : Surroundings σ ρ α := ⟨settings, placeWithin settings levels⟩
    let copies (m : Nat) : Grammar := (List.replicate m body).flatten
    let repetition := (Rule.number (.times (.literal (.int n)) body) next).1
    let round := executeAll env (Rule.numberAll body next).1
    execute env repetition s =
        execute env (Rule.number (.block (copies n.toInt.toNat)) next').1 s ∧
      (∀ m t, executeAll env (Rule.numberAll (copies (m + 1)) next').1 t =
        match round t with
        | .ok _ u => executeAll env (Rule.numberAll (copies m) next').1 u
        | .error f u => .error f u) ∧
      (∀ t f u, round t = .error f u → f.fatal = true) ∧
      -- Either way it comes back to its cursor.
      (after (execute env repetition) s).cursor = s.cursor := by
  intro env copies repetition round
  have written (m : Nat) : (Rule.numberAll (copies m) next').1 =
      (List.replicate m (Rule.numberAll body next).1).flatten :=
    Rule.numberAll_copies hbody m next' next
  refine ⟨?unrolled, ?next, ?fatal, ?back⟩
  case unrolled =>
    show execute env (.times (.literal (.int n)) (Rule.numberAll body next).1) s =
      execute env (.block (Rule.numberAll (copies n.toInt.toNat) next').1) s
    rw [execute_times env hn, written]
  case next =>
    intro m t
    rw [written, written, List.replicate_succ, List.flatten_cons, executeAll_append]
    show EStateM.bind round _ t = _
    unfold EStateM.bind
    cases round t <;> rfl
  case fatal =>
    intro t f u e
    exact (executeAll_fatally env _ t).error e f rfl
  case back => exact (execute_balanced settings levels repetition s).2 rfl

/-- Three trees in the orchard, each further on and larger than the one before. -/
theorem execute_times_unrolled_orchard :
    let s : State (Scene Float) Random.Stream Float :=
      { scene := Scene.orchard, random := .ofSeed 0, cursor := .link (.enter 2 1) }
    let env : Surroundings (Scene Float) Random.Stream Float := ⟨{}, placeWithin {} 11⟩
    let move : Rule Unit := .adjust .location (.literal (.list [.int 1, .int 0, .int 0])) false
    let grow : Rule Unit := .adjust .scale (.literal (.list [.int 2, .int 2, .int 2])) false
    let tree : Rule Unit := .block [.place (.literal (.str "trees"))]
    let body : Grammar := [move, grow, tree]
    0 ≤ (3 : Int64) ∧ Rule.labelsOf body = [] ∧
      execute env (Rule.number (.times (.literal (.int 3)) body) 0).1 s =
        execute env (Rule.number
          (.block [move, grow, tree, move, grow, tree, move, grow, tree]) 0).1 s := by
  refine ⟨by decide, rfl, ?_⟩
  exact (execute_times_unrolled {} 11 (by decide) rfl 0 0 _).1

end SceneGrammar.Derivation
