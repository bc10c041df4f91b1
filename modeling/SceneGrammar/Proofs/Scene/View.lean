import SceneGrammar.Proofs.Scene.Likeness

/-!
# Views of hosts

A view turns one host into another one. If that one answers and hears the same, the two are alike and
stay so: `(Likeness.view view).Lasts keys`. Then nothing else may differ: alike places, cursors and
events are the same.
-/

namespace SceneGrammar

variable {σ τ α β : Type}

/-- Hosts that differ by a view, where nothing is excused. -/
def Likeness.view (view : σ → τ) : Likeness σ τ α where
  host s s' := s' = view s
  place := Eq
  excused _ := False
  faults e e' := e' = e

lemma Cursor.alike_eq : (Cursor.Alike Eq : Cursor α → Cursor α → Prop) = Eq := by
  funext c c'
  apply propext
  constructor
  · rintro (_ | _ | ⟨hn, ho, hw⟩)
    · rfl
    · rfl
    · next p p' =>
      cases p
      cases p'
      cases hn
      cases ho
      cases hw
      rfl
  · rintro rfl
    cases c with
    | object n => exact .object n
    | aliased n aliases => exact .aliased n aliases
    | link p => exact .link ⟨rfl, rfl, rfl⟩

lemma Capture.alike_eq : (Capture.Alike Eq : Capture α → Capture α → Prop) = Eq := by
  funext c c'
  apply propext
  constructor
  · rintro ⟨he, ho, ha⟩
    rw [Cursor.alike_eq] at he
    cases c
    cases c'
    cases he
    cases ho
    cases ha
    rfl
  · rintro rfl
    exact ⟨Cursor.alike_eq ▸ rfl, rfl, rfl⟩

lemma Event.Alike.eq {e e' : Event α} (h : e.Alike Eq e') : e' = e := by
  cases h with
  | same => rfl
  | rule depth r hcursor hscopes hcaptures =>
    rw [Cursor.alike_eq] at hcursor
    rw [Cursor.alike_eq, List.forall₂_eq_eq_eq] at hscopes
    rw [Capture.alike_eq, List.forall₂_eq_eq_eq] at hcaptures
    rw [hcursor, hscopes, hcaptures]

/-- Requests of which one ends on the view as the other one does. -/
lemma Likeness.view_pairs {view : σ → τ} {act : Edit σ β} {act' : Edit τ β}
    (h : ∀ s, act' (view s) = match act s with
      | .ok b t => .ok b (view t)
      | .error f t => .error f (view t)) {s : σ} {s' : τ} (hs : s' = view s) :
    (Likeness.view view : Likeness σ τ α).Pairs Eq act act' s s' := by
  subst hs
  unfold Likeness.Pairs Paired
  rw [h]
  cases act s with
  | ok b t => exact ⟨rfl, rfl⟩
  | error f t => exact .inr (.inr ⟨rfl, rfl⟩)

/-- A request ends on a view as its pair does. -/
lemma Likeness.view_ends {view : σ → τ} {act : Edit σ β} {act' : Edit τ β} {s : σ}
    (h : (Likeness.view view : Likeness σ τ α).Pairs Eq act act' s (view s)) :
    Ends act s (fun b t => act' (view s) = .ok b (view t))
      (fun f t => act' (view s) = .error f (view t)) := by
  refine Paired.elim h ?_ ?_ ?_ ?_
  · rintro b _ t _ e e' rfl rfl
    exact Ends.of_ok e e'
  · rintro f t _ e e' rfl
    exact Ends.of_error e e'
  · rintro _ _ _ hf
    exact hf.elim
  · rintro _ _ _ hf
    exact hf.elim

/-- A host is a view of itself. -/
theorem Likeness.view_id [Host σ α] {keys : List String} :
    (Likeness.view (id : σ → σ) : Likeness σ σ α).Lasts keys := by
  have same : ∀ {β} (act : Edit σ β) {s s' : σ}, s' = s →
      (Likeness.view (id : σ → σ) : Likeness σ σ α).Pairs Eq act act s s' := by
    intro β act s s' h
    refine view_pairs (fun s => ?_) h
    dsimp only [id]
    cases act s <;> rfl
  exact {
    combine := fun f _ _ _ _ ha hb => congrArg₂ f ha hb
    size := fun h => congrArg Host.size h
    parent? := fun h => congrArg Host.parent? h
    children := fun h => congrArg Host.children h
    property? := fun h n key _ => congrArg (Host.property? · n key) h
    container? := fun h => congrArg Host.container? h
    topLevel? := fun h => congrArg Host.topLevel? h
    observe := fun h he => congrArg₂ Host.observe he.eq h
    setProperty := fun _ _ _ => same _
    world := fun _ => same _
    setWorld := fun _ h hw => hw ▸ same _ h
    duplicate := fun _ => same _
    reparent := fun _ _ => same _
    moveTo := fun _ _ _ => same _
    flip := fun _ => same _
    bake := fun _ => same _
    addMarker := fun _ h hw => hw ▸ same _ h
    remove := fun _ => same _ }

end SceneGrammar
