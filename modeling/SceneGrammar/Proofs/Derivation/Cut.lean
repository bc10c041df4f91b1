import Mathlib.Logic.Function.Iterate
import SceneGrammar.Proofs.Derivation.View

/-!
# No level too many

`placeWithin` counts how many instances may still be inside each other. The count is of no consequence:
an instance refuses to nest deeper than the settings allow before the count is used up. So whatever is
put in the place of the level after that, a run goes the same way (`generateIn_cut`), and placing is the
only solution of its own equation without any count (`place_unique`).
-/

namespace SceneGrammar

variable {σ ρ α : Type} [Host σ α]

namespace Derivation

omit [Host σ α] in
/-- Twins on one host end the same way. -/
lemma Twin.eq {β : Type} {d : Nat} {act act' : Action σ ρ α β} {s : State σ ρ α}
    (h : Twin (.view id) d Eq act act' s s) : act s = act' s := by
  have ends := Twin.view_ends h
  cases e : act s with
  | ok b t => exact (ends.ok e).2.symm
  | error f t => exact (ends.error e).2.symm

variable [Scalar α] [RandomSource ρ] {settings : Settings}

/-- Below the depth that the settings allow, nothing is placed. -/
lemma placeInstance_deep (inner : String → Action σ ρ α Unit) {s : State σ ρ α}
    (h : settings.maxDepth.toNat < s.depth) (name : String) :
    placeInstance settings inner name s = .ok () s := by
  show (if settings.maxDepth.toNat < s.depth then pure ()
    else nested (placeName ⟨settings, inner⟩ name) : Action σ ρ α Unit) s = _
  rw [if_pos h]
  rfl

lemma placeWithin_deep {s : State σ ρ α} (h : settings.maxDepth.toNat < s.depth) (levels : Nat)
    (name : String) : placeWithin settings levels name s = .ok () s := by
  cases levels with
  | zero => rfl
  | succ levels => exact placeInstance_deep _ h name

/-- Instances that nest as deep as they may, and those whose count is used up no sooner, place the same.
The depth and the levels that are left add up to the same all the way down. -/
lemma placeInstance_iterate (beyond : String → Action σ ρ α Unit) (levels count : Nat) (name : String)
    {d : Nat} {s s' : State σ ρ α} (hs : s.Alike (.view id) d s') (hd : d ≤ settings.maxDepth.toNat + 1)
    (hl : settings.maxDepth.toNat + 1 < d + levels) (hc : settings.maxDepth.toNat + 1 ≤ d + count) :
    Twin (.view id) d Eq ((placeInstance settings)^[levels] beyond name)
      (placeWithin settings count name) s s' := by
  induction levels generalizing count name d s s' with
  | zero => omega
  | succ levels ih =>
    rw [Function.iterate_succ_apply']
    cases count with
    | zero =>
      -- The count is used up, but so is the depth.
      have deep : settings.maxDepth.toNat < s.depth := by
        rw [hs.depth]
        omega
      exact .of_eq (placeInstance_deep _ deep name) rfl (.pure rfl hs)
    | succ count =>
      refine Twin.placeInstance (view_fits Likeness.view_id) name hs fun hd name t t' ht => ?_
      exact ih count name ht (by omega) (by omega) (by omega)

/-- A run goes the same way whatever is placed below the level after the last one. -/
theorem generateIn_cut (beyond : String → Action σ ρ α Unit) {levels : Nat}
    (hl : settings.maxDepth.toNat + 2 ≤ levels) (grammar : Grammar) (start : NodeId) (scene : σ)
    (random : ρ) :
    generateIn ⟨settings, (placeInstance settings)^[levels] beyond⟩ grammar start scene random =
      generate settings grammar start scene random := by
  symm
  refine generateIn_view Likeness.view_id (fun name t ht => ?_) grammar start scene random
  have same : t.Alike (.view id) 0 t := State.alike_view_iff.mpr ⟨rfl, ht⟩
  exact placeInstance_iterate beyond levels _ name same (by omega) (by omega) (by omega)

/-- Placing names in instances, each of which places names in instances, has one meaning, which is that
of `placeWithin` with as many levels as a run has. -/
theorem place_unique (place : String → Action σ ρ α Unit) :
    place = placeInstance settings place ↔
      place = placeWithin settings (settings.maxDepth.toNat + 1) := by
  -- A solution is its own iterate, and a run has one level more than it needs.
  have key : ∀ (beyond : String → Action σ ρ α Unit),
      (placeInstance settings)^[settings.maxDepth.toNat + 2] beyond =
        placeWithin settings (settings.maxDepth.toNat + 1) := by
    intro beyond
    funext name s
    by_cases hs : s.depth ≤ settings.maxDepth.toNat + 1
    · have same : s.Alike (.view id) s.depth s := State.alike_view_iff.mpr ⟨rfl, rfl⟩
      exact (placeInstance_iterate beyond _ _ name same hs (by omega) (by omega)).eq
    · have hd : settings.maxDepth.toNat < s.depth := by omega
      rw [Function.iterate_succ_apply', placeInstance_deep _ hd, placeWithin_deep hd]
  constructor
  · intro h
    rw [← key place]
    exact (Function.iterate_fixed h.symm _).symm
  · rintro rfl
    calc placeWithin settings (settings.maxDepth.toNat + 1)
      _ = (placeInstance settings)^[settings.maxDepth.toNat + 2] (placeInstance settings
            (placeWithin settings (settings.maxDepth.toNat + 1))) := (key _).symm
      _ = placeInstance settings ((placeInstance settings)^[settings.maxDepth.toNat + 2]
            (placeWithin settings (settings.maxDepth.toNat + 1))) := by
        rw [← Function.iterate_succ_apply, Function.iterate_succ_apply']
      _ = placeInstance settings (placeWithin settings (settings.maxDepth.toNat + 1)) := by rw [key]

end Derivation

end SceneGrammar
