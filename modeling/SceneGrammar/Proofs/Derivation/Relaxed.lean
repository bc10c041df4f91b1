import SceneGrammar.Proofs.Derivation.Twin.Run
import SceneGrammar.Proofs.Scene.Keep
import SceneGrammar.Proofs.Scene.View
import SceneGrammar.Random.Scripted

/-!
# Relaxed runs

Relaxed settings forget the faults that are not fatal, and nothing else: no step of a run looks at what
was recorded, and all that is wrong with a grammar is fatal. So a strict run and a relaxed one do the
same, and the faults of the relaxed one are the fatal faults of the strict one (`generate_relaxed`).
-/

namespace SceneGrammar

variable {σ ρ α : Type}

/-- Settings that record every fault. -/
def Settings.strictly (settings : Settings) : Settings := { settings with strict := true }

/-- Settings that record fatal faults only. -/
def Settings.relaxed (settings : Settings) : Settings := { settings with strict := false }

/-- The same host, with a record of faults from which those are missing that are not fatal. -/
def Likeness.lenient : Likeness σ σ α :=
  { Likeness.view id with faults := fun e e' => e' = e.filter (·.fatal) }

lemma Likeness.lenient_lasts [Host σ α] {keys : List String} :
    (Likeness.lenient : Likeness σ σ α).Lasts keys :=
  { (Likeness.view_id : (Likeness.view (id : σ → σ) : Likeness σ σ α).Lasts keys) with }

namespace Derivation

/-- A fault is recorded in the relaxed run if it is fatal, and in the strict one anyway. -/
lemma lenient_record (settings : Settings) {d : Nat} {s s' : State σ ρ α} (h : s.Alike .lenient d s')
    (f : Fault) : (s.record settings.strictly f).Alike .lenient d (s'.record settings.relaxed f) := by
  have faults : s'.errors = s.errors.filter (·.fatal) := h.faults
  have strict : s.record settings.strictly f = { s with errors := s.errors.push f } := rfl
  rw [strict]
  cases hf : f.fatal with
  | true =>
    have relaxed : s'.record settings.relaxed f = { s' with errors := s'.errors.push f } := by
      simp [State.record, hf]
    rw [relaxed]
    refine { h with faults := ?_ }
    calc s'.errors.push f
        = (s.errors.filter (·.fatal)).push f := by rw [faults]
      _ = (s.errors.push f).filter (·.fatal) := by simp [hf]
  | false =>
    have relaxed : s'.record settings.relaxed f = s' := by
      simp [State.record, Settings.relaxed, hf]
    rw [relaxed]
    refine { h with faults := ?_ }
    calc s'.errors
        = s.errors.filter (·.fatal) := faults
      _ = (s.errors.push f).filter (·.fatal) := by simp [hf]

variable [Host σ α]

lemma lenient_fits (settings : Settings) :
    (Likeness.lenient : Likeness σ σ α).Fits settings.strictly settings.relaxed where
  toLasts := Likeness.lenient_lasts
  linkKey := rfl
  weightKey := rfl
  directiveKey := rfl
  maxDepth := rfl
  record f h := lenient_record settings h f

variable [Scalar α] [RandomSource ρ]

/-- A relaxed run does what the strict run does with the same grammar, start, host and randomness, and
records the fatal ones of its faults, in the same order. -/
theorem generate_relaxed (settings : Settings) (grammar : Grammar) (start : NodeId) (scene : σ)
    (random : ρ) :
    let strict := generate { settings with strict := true } grammar start scene random
    let relaxed := generate { settings with strict := false } grammar start scene random
    relaxed.2.1 = strict.2.1 ∧ relaxed.2.2 = strict.2.2 ∧
      relaxed.1.generated = strict.1.generated ∧
      relaxed.1.errors = strict.1.errors.filter (·.fatal) := by
  intro strict relaxed
  have fits := lenient_fits (σ := σ) (α := α) settings
  have placed : ∀ name (t t' : State σ ρ α), t.Alike .lenient 0 t' →
      Twin .lenient 0 Eq (placeWithin settings.strictly (settings.maxDepth.toNat + 1) name)
        (placeWithin settings.relaxed (settings.maxDepth.toNat + 1) name) t t' :=
    fun name t t' ht => Twin.placeWithin fits _ name 0 t t' ht
  have same : (Likeness.lenient : Likeness σ σ α).host scene scene := rfl
  have twin := generateIn_twin fits rfl (fun _ => rfl) rfl placed grammar start same random
  obtain ⟨f, hf, -⟩ | ⟨f, hf, -⟩ | ⟨⟨hgenerated, herrors⟩, hscene, hrandom⟩ := twin
  · exact hf.elim
  · exact hf.elim
  · have errors : relaxed.1.errors.toArray = strict.1.errors.toArray.filter (·.fatal) := herrors
    refine ⟨hscene, hrandom, hgenerated, ?_⟩
    simpa using congrArg Array.toList errors

/-- A rule that needs an object, at a link, and a name that stands for nothing. -/
example :
    let errors (strict : Bool) := (generate { strict } [.addLink (.literal (.str "branch")),
      .place (.literal (.str "rocks"))] 2 (Scene.orchard : Scene Float)
      ({ uniforms := #[] } : Random.Scripted)).1.errors
    errors true = [.precondition "create_link" .object .link] ∧ errors false = [] := by
  decide +kernel

end Derivation

end SceneGrammar
