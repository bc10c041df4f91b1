import SceneGrammar.Proofs.Derivation.Request
import SceneGrammar.Proofs.Derivation.View
import SceneGrammar.Proofs.Scene.Watched

/-!
# Watching a part of a run

A state may be watched from any point on: what follows goes the way that it goes without being watched
(`executeAll_watched`). A host is not told of requests, and these leave the definitions, what is being
expanded and the faults so far as they are (`asks_of_unheard`).
-/

namespace SceneGrammar.Derivation

variable {σ ρ α : Type}

/-- A state whose host is watched from here on. -/
def State.watched (s : State σ ρ α) : State (Watched σ α) ρ α :=
  { s with scene := { host := s.scene } }

/-- Two states between which a host was told nothing, with the same books. -/
structure Unheard (s t : State (Watched σ α) ρ α) : Prop where
  told : t.scene.told = s.scene.told
  definitions : t.definitions = s.definitions
  captures : t.captures = s.captures
  errors : t.errors = s.errors

variable [Host σ α]

/-- A relation that lasts where nothing is told lasts through requests. -/
lemma asks_of_unheard
    {R : Option Fault → State (Watched σ α) ρ α → State (Watched σ α) ρ α → Prop}
    (trans : ∀ {o s t u}, R none s t → R o t u → R o s u)
    (granted : ∀ {s t}, Unheard s t → R none s t)
    (refused : ∀ {f s t}, Unheard s t → R (some (.scene f)) s t) : Asks R := by
  have silent : ∀ {β} {act : Edit (Watched σ α) β} (s : State (Watched σ α) ρ α),
      Ends act s.scene (fun _ w => w.told = s.scene.told) (fun _ w => w.told = s.scene.told) →
        Obeys R (request act) s := by
    intro β act s h
    apply request_ends
    exact h.imp (fun _ _ e => granted ⟨e, rfl, rfl, rfl⟩) (fun _ _ e => refused ⟨e, rfl, rfl, rfl⟩)
  have told := fun s : State (Watched σ α) ρ α => Watched.told_lasts (σ := σ) (· = s.scene.told)
  exact {
    refl := fun _ => granted ⟨rfl, rfl, rfl, rfl⟩
    trans
    offer := fun ha s => silent s ((told s).offer ha s.scene rfl)
    moveAll := fun n origin target s => silent s ((told s).moveAll n origin target s.scene rfl)
    addGenerated := fun _ _ => granted ⟨rfl, rfl, rfl, rfl⟩ }

variable [Scalar α] [RandomSource ρ]

/-- A sequence goes the same way when it is watched. -/
lemma executeAll_watched (settings : Settings) (levels : Nat) (rs : List (Rule Nat))
    (s : State σ ρ α) :
    Twin (.view Watched.host) s.depth Eq (executeAll ⟨settings, placeWithin settings levels⟩ rs)
      (executeAll ⟨settings, placeWithin settings levels⟩ rs) s.watched s := by
  have fits : (Likeness.view Watched.host : Likeness (Watched σ α) σ α).Fits settings settings :=
    view_fits Watched.view
  refine Twin.executeAll fits (fun name t t' ht => ?_) rs s.watched s ?_
  · exact Twin.placeWithin fits levels name s.depth t t' ht
  · exact State.alike_view_iff.mpr ⟨rfl, rfl⟩

/-- What a sequence obeys when it is watched holds of it when it is not. -/
lemma executeAll_unwatched {settings : Settings} {levels : Nat} {rs : List (Rule Nat)}
    {s : State σ ρ α}
    {R : Option Fault → State (Watched σ α) ρ α → State (Watched σ α) ρ α → Prop}
    (h : Obeys R (executeAll ⟨settings, placeWithin settings levels⟩ rs) s.watched) :
    let watching := executeAll ⟨settings, placeWithin settings levels⟩ rs s.watched
    let w := after (executeAll ⟨settings, placeWithin settings levels⟩ rs) s.watched
    Ends (executeAll ⟨settings, placeWithin settings levels⟩ rs) s
      (fun b t => watching = .ok b w ∧ t = w.map Watched.host ∧ R none s.watched w)
      (fun f t => watching = .error f w ∧ t = w.map Watched.host ∧ R (some f) s.watched w) := by
  have twins := Twin.view_ends (executeAll_watched settings levels rs s)
  unfold Obeys at h
  unfold after
  dsimp only
  cases e : executeAll ⟨settings, placeWithin settings levels⟩ rs s.watched with
  | ok b w => exact Ends.of_ok (twins.ok e).2 ⟨rfl, rfl, h.ok e⟩
  | error f w => exact Ends.of_error (twins.error e).2 ⟨rfl, rfl, h.error e⟩

end SceneGrammar.Derivation
