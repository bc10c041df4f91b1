import SceneGrammar.Proofs.Derivation.Atomic
import SceneGrammar.Proofs.Grammar.Validity
import SceneGrammar.Proofs.Scene.Keep

/-!
# Preparing as validation

Preparing a rule draws numbers for its fixed values and uses what was settled and defined before,
but none of this has a say in what it comes to: a value without defects can always be drawn, so the
verdict is the first defect of the rule (`verdict_prepare`) and the same in all states, on all hosts
and with all sources. A rule passes if it is valid (`prepare_validates`).
-/

namespace SceneGrammar.Derivation

/-- What an action comes to, whatever it leaves behind. -/
def verdict {σ ρ α β : Type} (act : Action σ ρ α β) (s : State σ ρ α) : Except Fault β :=
  match act s with
  | .ok b _ => .ok b
  | .error f _ => .error f

/-- Two states between which rules were checked: values were drawn and settled, sequences got
names, and nothing else happened. -/
def Checked {σ ρ α : Type} (s t : State σ ρ α) : Prop :=
  t = { s with random := t.random, definitions := t.definitions, settled := t.settled }

variable {σ ρ α : Type} [Host σ α] [RandomSource ρ]

/-- Preparing does nothing else on a host that does not listen. -/
lemma checked_preparing (deaf : Host.Deaf σ) :
    Preparing (Checked : State σ ρ α → State σ ρ α → Prop) where
  refl _ := rfl
  trans {s t u} h k := by
    unfold Checked at h k ⊢
    rw [k, h]
  uniform _ := rfl
  intRange _ _ _ := rfl
  settle {s t} label v _ h := by
    unfold Checked at h ⊢
    rw [h]
  reuse s label v := by
    unfold Checked State.noted
    rw [deaf]
  fix s label v := by
    unfold Checked State.noted
    rw [deaf]
  define _ _ _ _ := rfl

/-- Preparing a rule comes to its first defect, or to nothing. -/
lemma verdict_prepare (r : Rule Nat) (s : State σ ρ α) :
    verdict (prepare r) s = r.defect?.elim (.ok ()) fun d => .error d.fault := by
  have found := preparing_any.prepare r s
  unfold Finds at found
  unfold verdict
  cases done : prepare r s with
  | ok _ t =>
    obtain ⟨-, none⟩ := found.ok done
    rw [none]
    rfl
  | error f t =>
    obtain ⟨-, d, defect, rfl⟩ := found.error done
    rw [defect]
    rfl

/-- Preparing comes to the same in any two states, succeeds exactly for valid rules, and leaves what a run
looks at as it was. -/
theorem prepare_validates {σ' ρ' α' : Type} [Host σ' α'] [RandomSource ρ'] (deaf : Host.Deaf σ)
    (r : Rule Nat) (s : State σ ρ α) (s' : State σ' ρ' α') :
    verdict (prepare r) s = verdict (prepare r) s' ∧
      (verdict (prepare r) s = .ok () ↔ r.Valid) ∧ Checked s (after (prepare r) s) := by
  refine ⟨?same, ?valid, ?checked⟩
  case same => rw [verdict_prepare, verdict_prepare]
  case valid =>
    rw [verdict_prepare, ← Rule.defect?_eq_none_iff_valid]
    cases r.defect? with
    | none => exact iff_of_true rfl rfl
    | some d => exact iff_of_false nofun nofun
  case checked =>
    have found := (checked_preparing deaf).prepare r s
    exact Ends.after (found.imp (fun _ _ h => h.1) fun _ _ h => h.1)

/-- A value is drawn before the definition without a name is seen. -/
theorem prepare_validates_orchard :
    let r : Rule Nat := .block [.place (.fixed 0 (.range (.int 1) (.int 3))), .define "" []]
    let s : State (Scene Float) Random.Scripted Float :=
      { scene := Scene.orchard, random := { uniforms := #[] }, cursor := .link (.enter 2 1) }
    verdict (prepare r) s = .error Defect.unnamedDefinition.fault ∧ ¬ r.Valid ∧
      Checked s (after (prepare r) s) := by
  intro r s
  obtain ⟨-, valid, checked⟩ := prepare_validates Scene.deaf r s s
  have rejected : verdict (prepare r) s = .error Defect.unnamedDefinition.fault :=
    verdict_prepare r s
  refine ⟨rejected, fun isValid => ?_, checked⟩
  exact nomatch rejected.symm.trans (valid.2 isValid)

end SceneGrammar.Derivation
