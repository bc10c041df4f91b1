import SceneGrammar.Proofs.Outcome

/-!
# Two actions side by side

`Paired X V Q act act' s s'` says that two actions end alike: both with values that `V` relates, or both
with the same fault, in states that `Q` relates either way. A fault of the kind `X` excuses the two from
this, whichever of them it ends. There is one rule for each way of composing actions.
-/

namespace SceneGrammar

variable {ε σ σ' β β' γ γ' δ : Type}

/-- Two actions that end alike, unless one of them ends with an excused fault. -/
def Paired (X : ε → Prop) (V : β → β' → Prop) (Q : σ → σ' → Prop) (act : EStateM ε σ β)
    (act' : EStateM ε σ' β') (s : σ) (s' : σ') : Prop :=
  match act s, act' s' with
  | .ok b t, .ok b' t' => V b b' ∧ Q t t'
  | .error f t, .error f' t' => X f ∨ X f' ∨ f = f' ∧ Q t t'
  | .error f _, .ok _ _ => X f
  | .ok _ _, .error f' _ => X f'

namespace Paired
variable {X : ε → Prop} {V : β → β' → Prop} {W : γ → γ' → Prop} {Q : σ → σ' → Prop}
  {act : EStateM ε σ β} {act' : EStateM ε σ' β'} {s : σ} {s' : σ'}

lemma pure {b : β} {b' : β'} (hb : V b b') (hs : Q s s') :
    Paired X V Q (Pure.pure b) (Pure.pure b') s s' := ⟨hb, hs⟩

lemma throw (f : ε) (hs : Q s s') :
    Paired X V Q (MonadExcept.throw f) (MonadExcept.throw f) s s' := .inr (.inr ⟨rfl, hs⟩)

lemma modify {f : σ → σ} {f' : σ' → σ'} (h : Q (f s) (f' s')) :
    Paired X Eq Q (modify f) (modify f') s s' := ⟨rfl, h⟩

lemma modifyGet {f : σ → β × σ} {f' : σ' → β' × σ'} (hv : V (f s).1 (f' s').1)
    (hs : Q (f s).2 (f' s').2) : Paired X V Q (modifyGet f) (modifyGet f') s s' := ⟨hv, hs⟩

/-- An excused fault of the first action. -/
lemma excused_left {f : ε} {t : σ} (e : act s = .error f t) (hf : X f) : Paired X V Q act act' s s' := by
  unfold Paired
  rw [e]
  cases act' s' with
  | ok b' t' => exact hf
  | error f' t' => exact .inl hf

/-- An excused fault of the second action. -/
lemma excused_right {f : ε} {t : σ'} (e : act' s' = .error f t) (hf : X f) :
    Paired X V Q act act' s s' := by
  unfold Paired
  rw [e]
  cases act s with
  | ok b t => exact hf
  | error f' t => exact .inr (.inl hf)

/-- Actions that end as two others do. -/
lemma of_eq {x : EStateM ε σ β} {x' : EStateM ε σ' β'} {u : σ} {u' : σ'} (e : x u = act s)
    (e' : x' u' = act' s') (h : Paired X V Q act act' s s') : Paired X V Q x x' u u' := by
  unfold Paired at h ⊢
  rw [e, e']
  exact h

/-- The ways in which two actions may end. -/
lemma elim {P : Prop} (ha : Paired X V Q act act' s s')
    (ok : ∀ b b' t t', act s = .ok b t → act' s' = .ok b' t' → V b b' → Q t t' → P)
    (fault : ∀ f t t', act s = .error f t → act' s' = .error f t' → Q t t' → P)
    (left : ∀ f t, act s = .error f t → X f → P)
    (right : ∀ f t, act' s' = .error f t → X f → P) : P := by
  unfold Paired at ha
  cases e : act s with
  | ok b t =>
    rw [e] at ha
    cases e' : act' s' with
    | ok b' t' =>
      rw [e'] at ha
      exact ok b b' t t' e e' ha.1 ha.2
    | error f' t' =>
      rw [e'] at ha
      exact right f' t' e' ha
  | error f t =>
    rw [e] at ha
    cases e' : act' s' with
    | ok b' t' =>
      rw [e'] at ha
      exact left f t e ha
    | error f' t' =>
      rw [e'] at ha
      obtain hf | hf' | ⟨rfl, hq⟩ := ha
      · exact left f t e hf
      · exact right f' t' e' hf'
      · exact fault f t t' e e' hq

/-- Two actions that are followed by actions that end alike wherever the first ones lead. -/
lemma bind {k : β → EStateM ε σ γ} {k' : β' → EStateM ε σ' γ'} (ha : Paired X V Q act act' s s')
    (hk : ∀ b b' t t', V b b' → Q t t' → Paired X W Q (k b) (k' b') t t') :
    Paired X W Q (act >>= k) (act' >>= k') s s' := by
  refine ha.elim ?_ ?_ ?_ ?_
  · intro b b' t t' e e' hb ht
    exact of_eq (by simp only [Bind.bind, EStateM.bind, e]) (by simp only [Bind.bind, EStateM.bind, e'])
      (hk b b' t t' hb ht)
  · intro f t t' e e' ht
    exact of_eq (by simp only [Bind.bind, EStateM.bind, e]; rfl)
      (by simp only [Bind.bind, EStateM.bind, e']; rfl) (throw f ht)
  · intro f t e hf
    exact excused_left (f := f) (t := t) (by simp only [Bind.bind, EStateM.bind, e]) hf
  · intro f t e hf
    exact excused_right (f := f) (t := t) (by simp only [Bind.bind, EStateM.bind, e]) hf

/-- Two actions that read their states. -/
lemma get {k : σ → EStateM ε σ γ} {k' : σ' → EStateM ε σ' γ'}
    (hk : Paired X W Q (k s) (k' s') s s') :
    Paired X W Q (MonadState.get >>= k) (MonadState.get >>= k') s s' := hk

/-- Two loops whose rounds end alike wherever they begin. -/
lemma forM {body : δ → EStateM ε σ Unit} {body' : δ → EStateM ε σ' Unit} {l : List δ} (hs : Q s s')
    (hb : ∀ x ∈ l, ∀ t t', Q t t' → Paired X Eq Q (body x) (body' x) t t') :
    Paired X Eq Q (l.forM body) (l.forM body') s s' := by
  induction l generalizing s s' with
  | nil => exact pure rfl hs
  | cons x rest ih =>
    refine bind (hb x List.mem_cons_self s s' hs) fun _ _ t t' _ ht => ?_
    exact ih ht fun y hy => hb y (List.mem_cons_of_mem x hy)

end Paired

end SceneGrammar
