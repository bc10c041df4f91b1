import Mathlib.Tactic.Lemma

/-!
# How actions end

`Ends act s Q E` says how an action of a state with faults ends from `s`: in `Q` with a value, or in
`E` with a fault. There is one rule for each way of composing actions, so that a sequence of requests
is followed request by request. `after act s` is the state that is left, whichever way it ends.
-/

namespace SceneGrammar

variable {ε σ β γ : Type}

/-- An action ends in `Q` with a value or in `E` with a fault. -/
def Ends (act : EStateM ε σ β) (s : σ) (Q : β → σ → Prop) (E : ε → σ → Prop) : Prop :=
  match act s with
  | .ok b t => Q b t
  | .error e t => E e t

/-- The state after an action, whether it failed or not. -/
def after (act : EStateM ε σ β) (s : σ) : σ :=
  match act s with
  | .ok _ t => t
  | .error _ t => t

namespace Ends
variable {act : EStateM ε σ β} {s t : σ} {Q Q' : β → σ → Prop} {E E' : ε → σ → Prop}

/-- How an action ends is decided by carrying it out. -/
instance [∀ b t, Decidable (Q b t)] [∀ f t, Decidable (E f t)] : Decidable (Ends act s Q E) :=
  match e : act s with
  | .ok b t => decidable_of_iff (Q b t) (by unfold Ends; rw [e])
  | .error f t => decidable_of_iff (E f t) (by unfold Ends; rw [e])

/-- A known value decides how an action ends. -/
lemma of_ok {b} (e : act s = .ok b t) (h : Q b t) : Ends act s Q E := by
  unfold Ends; rw [e]; exact h

/-- A known fault decides how an action ends. -/
lemma of_error {f} (e : act s = .error f t) (h : E f t) : Ends act s Q E := by
  unfold Ends; rw [e]; exact h

/-- The end of an action that returns a value. -/
lemma ok {b} (h : Ends act s Q E) (e : act s = .ok b t) : Q b t := by
  unfold Ends at h; rw [e] at h; exact h

/-- The end of an action that fails. -/
lemma error {f} (h : Ends act s Q E) (e : act s = .error f t) : E f t := by
  unfold Ends at h; rw [e] at h; exact h

/-- An action that cannot fail. -/
lemma exists_ok (h : Ends act s Q fun _ _ => False) : ∃ b t, act s = .ok b t ∧ Q b t := by
  unfold Ends at h
  cases e : act s with
  | ok b t => rw [e] at h; exact ⟨b, t, rfl, h⟩
  | error f t => rw [e] at h; exact h.elim

/-- An action that fails in one way just where something holds. -/
lemma eq_error {P : Prop} {f : ε} (hP : P)
    (h : Ends act s (fun _ _ => ¬ P) (fun g u => P ∧ g = f ∧ u = t ∨ ¬ P ∧ E g u)) :
    act s = .error f t := by
  cases e : act s with
  | ok b u => exact absurd hP (h.ok e)
  | error g u =>
    obtain ⟨-, rfl, rfl⟩ | ⟨k, -⟩ := h.error e
    · rfl
    · exact absurd hP k

/-- What holds both ways holds of the state after the action. -/
lemma after {P : σ → Prop} (h : Ends act s (fun _ => P) (fun _ => P)) : P (after act s) := by
  unfold Ends at h; unfold SceneGrammar.after
  cases e : act s <;> rw [e] at h <;> exact h

/-- Weaker ends. -/
lemma imp (h : Ends act s Q E) (hQ : ∀ b t, Q b t → Q' b t) (hE : ∀ f t, E f t → E' f t) :
    Ends act s Q' E' := by
  unfold Ends at h ⊢
  cases e : act s with
  | ok b t => rw [e] at h; exact hQ b t h
  | error f t => rw [e] at h; exact hE f t h

/-- What holds of every value and every fault. -/
lemma of_forall (hQ : ∀ b t, Q b t) (hE : ∀ f t, E f t) : Ends act s Q E := by
  unfold Ends
  cases act s with
  | ok b t => exact hQ b t
  | error f t => exact hE f t

/-- An action ends as it does. -/
lemma itself : Ends act s (fun b t => act s = .ok b t) (fun f t => act s = .error f t) := by
  unfold Ends
  cases act s with
  | ok b t => rfl
  | error f t => rfl

/-- An action that ends in one way only has that outcome. -/
lemma eq {r : EStateM.Result ε σ β} (h : Ends act s (fun b t => r = .ok b t) (fun f t => r = .error f t)) :
    act s = r := by
  unfold Ends at h
  cases e : act s <;> rw [e] at h <;> exact h.symm

/-- Two ends at once. -/
lemma and (h : Ends act s Q E) (h' : Ends act s Q' E') :
    Ends act s (fun b t => Q b t ∧ Q' b t) (fun f t => E f t ∧ E' f t) := by
  unfold Ends at h h' ⊢
  cases e : act s <;> rw [e] at h h' <;> exact ⟨h, h'⟩

/-- A value ends as itself. -/
lemma pure {b : β} (h : Q b s) : Ends (Pure.pure b) s Q E := h

/-- A fault ends as itself. -/
lemma throw {f : ε} (h : E f s) : Ends (MonadExcept.throw f : EStateM ε σ β) s Q E := h

/-- A change of the state ends in the changed state. -/
lemma modify {f : σ → σ} {Q : Unit → σ → Prop} (h : Q () (f s)) :
    Ends (modify f : EStateM ε σ Unit) s Q E := h

/-- A change of the state that gives a value ends so. -/
lemma modifyGet {f : σ → β × σ} (h : Q (f s).1 (f s).2) :
    Ends (modifyGet f : EStateM ε σ β) s Q E := h

/-- An action after another one. -/
lemma bind {k : β → EStateM ε σ γ} {Q : γ → σ → Prop}
    (h : Ends act s (fun b t => Ends (k b) t Q E) E) : Ends (act >>= k) s Q E := by
  unfold Ends at h ⊢
  cases e : act s with
  | ok b t => rw [e] at h; simpa [Bind.bind, EStateM.bind, e] using h
  | error f t => rw [e] at h; simpa [Bind.bind, EStateM.bind, e] using h

/-- An action that reads the state. -/
lemma get {k : σ → EStateM ε σ γ} {Q : γ → σ → Prop} (h : Ends (k s) s Q E) :
    Ends (MonadState.get >>= k) s Q E := bind h

/-- A loop passes through what holds after each part of its list. -/
lemma forM_prefix {I : List γ → σ → Prop} {body : γ → EStateM ε σ Unit} {l : List γ} (hs : I [] s)
    (h : ∀ done x rest, l = done ++ x :: rest → ∀ t, I done t →
      Ends (body x) t (fun _ => I (done ++ [x])) E) :
    Ends (l.forM body) s (fun _ => I l) E := by
  -- What is left of the list is carried out after what is done of it.
  have key : ∀ rest done s, l = done ++ rest → I done s →
      Ends (rest.forM body) s (fun _ => I l) E := by
    intro rest
    induction rest with
    | nil =>
      intro done s e hd
      rw [List.append_nil] at e
      exact pure (e ▸ hd)
    | cons x rest ih =>
      intro done s e hd
      show Ends (body x >>= fun _ => rest.forM body) s _ E
      apply bind
      refine imp (h done x rest e s hd) ?_ (fun _ _ => id)
      exact fun _ t ht => ih (done ++ [x]) t (by simpa using e) ht
  exact key l [] s rfl hs

/-- A loop keeps what each of its rounds keeps. -/
lemma forM {I : σ → Prop} {body : γ → EStateM ε σ Unit} {l : List γ} (hs : I s)
    (h : ∀ x ∈ l, ∀ t, I t → Ends (body x) t (fun _ => I) E) :
    Ends (l.forM body) s (fun _ => I) E := by
  refine forM_prefix (I := fun _ => I) hs fun done x rest e t ht => h x ?_ t ht
  rw [e]
  exact List.mem_append_right _ List.mem_cons_self

end Ends

/-! ## The same outcome -/

section
variable {act act' : EStateM ε σ β} {s : σ}

/-- Actions with the same outcome that are followed by actions with the same outcome. -/
lemma bind_eq {k k' : β → EStateM ε σ γ} (ha : act s = act' s)
    (hk : Ends act s (fun b t => k b t = k' b t) (fun _ _ => True)) :
    (act >>= k) s = (act' >>= k') s := by
  unfold Ends at hk
  simp only [Bind.bind, EStateM.bind, ← ha]
  cases e : act s with
  | ok b t =>
    rw [e] at hk
    exact hk
  | error f t => rfl

/-- Actions that are one in a state are one before whatever follows. -/
lemma bind_left_eq {k : β → EStateM ε σ γ} (ha : act s = act' s) :
    (act >>= k) s = (act' >>= k) s := by
  simp only [Bind.bind, EStateM.bind, ha]

/-- Loops whose rounds have the same outcome wherever they begin. -/
lemma forM_eq {I : σ → Prop} {body body' : γ → EStateM ε σ Unit} {l : List γ} (hs : I s)
    (h : ∀ x ∈ l, ∀ t, I t → body x t = body' x t ∧ Ends (body x) t (fun _ => I) (fun _ _ => True)) :
    l.forM body s = l.forM body' s := by
  induction l generalizing s with
  | nil => rfl
  | cons x rest ih =>
    -- The rounds that follow begin where this one has ended, and there the invariant still holds.
    obtain ⟨hx, hi⟩ := h x List.mem_cons_self s hs
    refine bind_eq hx (hi.imp ?_ (fun _ _ => id))
    exact fun _ t ht => ih ht fun y hy => h y (List.mem_cons_of_mem x hy)

end

end SceneGrammar
