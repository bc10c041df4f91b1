import SceneGrammar.Derivation.State
import SceneGrammar.Proofs.Scene.Likeness

/-!
# Twin runs

Two runs are alike if their hosts are and nothing else differs but places in the world and the faults so
far. Two actions are a `Twin` of each other if they keep alike runs so. There is one rule for each way of
composing actions. The depth is kept track of, since two runs need place the same only as deep as
instances nest.
-/

namespace SceneGrammar

variable {σ τ ρ α β β' γ γ' : Type}

namespace Derivation

/-- Two runs that are alike, inside of `d` instances. -/
structure State.Alike (L : Likeness σ τ α) (d : Nat) (s : State σ ρ α) (s' : State τ ρ α) : Prop where
  host : L.host s.scene s'.scene
  random : s'.random = s.random
  cursor : s.cursor.Alike L.place s'.cursor
  scopes : List.Forall₂ (Cursor.Alike L.place) s.scopes s'.scopes
  definitions : s'.definitions = s.definitions
  captures : List.Forall₂ (Capture.Alike L.place) s.captures s'.captures
  depth : s.depth = d
  depth' : s'.depth = d
  settled : s'.settled = s.settled
  freshLabel : s'.freshLabel = s.freshLabel
  expanded : s'.expanded = s.expanded
  generated : s'.generated = s.generated
  faults : L.faults s.errors s'.errors

/-- Two actions that keep runs alike, as long as neither is refused with an excuse. -/
abbrev Twin (L : Likeness σ τ α) (d : Nat) (V : β → β' → Prop) (act : Action σ ρ α β)
    (act' : Action τ ρ α β') (s : State σ ρ α) (s' : State τ ρ α) : Prop :=
  Paired (fun f => ∃ g, f = .scene g ∧ L.excused g) V (State.Alike L d) act act' s s'

variable {L : Likeness σ τ α} {d : Nat} {s : State σ ρ α} {s' : State τ ρ α}

/-! ## Changes of a state -/

namespace State.Alike

/-- Alike runs are alike inside a new scope. -/
lemma pushScope (h : s.Alike L d s') : s.pushScope.Alike L d s'.pushScope :=
  { h with scopes := .cons h.cursor h.scopes }

/-- Alike runs are alike when both leave a scope. -/
lemma popScope (h : s.Alike L d s') : s.popScope.Alike L d s'.popScope := by
  have hscopes := h.scopes
  unfold State.popScope
  cases e : s.scopes with
  | nil =>
    rw [e, List.forall₂_nil_left_iff] at hscopes
    rw [hscopes]
    exact h
  | cons c cs =>
    rw [e, List.forall₂_cons_left_iff] at hscopes
    obtain ⟨c', cs', hc, hcs, e'⟩ := hscopes
    rw [e']
    exact { h with cursor := hc, scopes := hcs }

/-- Alike runs are alike when both open a definition. -/
lemma openCapture (h : s.Alike L d s') : s.openCapture.Alike L d s'.openCapture :=
  { h with captures := .cons ⟨h.cursor, rfl, rfl⟩ h.captures }

/-- Alike runs are alike when both close a definition. -/
lemma closeCapture (h : s.Alike L d s') : s.closeCapture.Alike L d s'.closeCapture := by
  have hcaptures := h.captures
  unfold State.closeCapture
  cases e : s.captures with
  | nil =>
    rw [e, List.forall₂_nil_left_iff] at hcaptures
    rw [hcaptures]
    exact h
  | cons c cs =>
    rw [e, List.forall₂_cons_left_iff] at hcaptures
    obtain ⟨c', cs', hc, hcs, e'⟩ := hcaptures
    rw [e']
    dsimp only
    rw [hc.object, hc.aliases]
    cases c.object with
    | some n => exact { h with cursor := .aliased n _, captures := hcs }
    | none => exact { h with cursor := hc.entry, captures := hcs }

/-- Alike runs are alike when both publish a link. -/
lemma publish (h : s.Alike L d s') (name : String) (link : NodeId) :
    (s.publish name link).Alike L d (s'.publish name link) := by
  have hcaptures := h.captures
  unfold State.publish
  cases e : s.captures with
  | nil =>
    rw [e, List.forall₂_nil_left_iff] at hcaptures
    rw [hcaptures]
    exact h
  | cons c cs =>
    rw [e, List.forall₂_cons_left_iff] at hcaptures
    obtain ⟨c', cs', hc, hcs, e'⟩ := hcaptures
    rw [e']
    exact { h with captures := .cons ⟨hc.entry, hc.object, by rw [hc.aliases]⟩ hcs }

/-- Alike runs are alike when both have generated a node. -/
lemma addGenerated (h : s.Alike L d s') (n : NodeId) :
    (s.addGenerated n).Alike L d (s'.addGenerated n) :=
  { h with generated := congrArg (·.push n) h.generated }

/-- Alike runs are alike when both have placed a node. -/
lemma addPlaced (h : s.Alike L d s') (n : NodeId) : (s.addPlaced n).Alike L d (s'.addPlaced n) := by
  refine { h.addGenerated n with captures := ?_ }
  refine List.forall₂_map_left_iff.mpr (List.forall₂_map_right_iff.mpr (h.captures.imp ?_))
  exact fun c c' hc => ⟨hc.entry, by rw [hc.object], hc.aliases⟩

/-- Alike runs are alike with alike cursors. -/
lemma goTo (h : s.Alike L d s') {cursor cursor' : Cursor α} (hc : cursor.Alike L.place cursor') :
    State.Alike L d { s with cursor } { s' with cursor := cursor' } := { h with cursor := hc }

/-- Alike runs are alike one instance deeper. -/
lemma descend (h : s.Alike L d s') : s.descend.Alike L (d + 1) s'.descend :=
  { h with depth := congrArg (· + 1) h.depth, depth' := congrArg (· + 1) h.depth' }

/-- Alike runs are alike when both come up from an instance. -/
lemma ascend (h : s.Alike L (d + 1) s') : s.ascend.Alike L d s'.ascend :=
  { h with depth := congrArg (· - 1) h.depth, depth' := congrArg (· - 1) h.depth' }

variable [Host σ α] [Host τ α] {keys : List String}

/-- Alike runs are alike after alike events were told to hosts that stay alike. -/
lemma noted (h : s.Alike L d s') (hL : L.Lasts keys) {e e' : Event α} (he : e.Alike L.place e') :
    (s.noted e).Alike L d (s'.noted e') := { h with host := hL.observe h.host he }

/-- Alike runs are alike after telling where they are. -/
lemma atLevel (h : s.Alike L d s') (hL : L.Lasts keys) : s.atLevel.Alike L d s'.atLevel := by
  have e : Event.level s'.depth s'.captures.length = (.level s.depth s.captures.length : Event α) := by
    rw [h.depth, h.depth', h.captures.length_eq]
  unfold State.atLevel
  rw [e]
  exact h.noted hL (.same _)

end State.Alike

/-! ## Actions -/

namespace Twin
variable {V : β → β' → Prop} {act : Action σ ρ α β} {act' : Action τ ρ α β'}

/-- Requests of alike hosts that end alike do so in alike runs. -/
lemma request {act : Edit σ β} {act' : Edit τ β'} (hs : s.Alike L d s')
    (h : L.Pairs V act act' s.scene s'.scene) :
    Twin L d V (Derivation.request act : Action σ ρ α β) (Derivation.request act') s s' := by
  unfold Likeness.Pairs Paired at h
  unfold Twin Paired Derivation.request
  cases e : act s.scene with
  | ok b t =>
    cases e' : act' s'.scene with
    | ok b' t' =>
      rw [e, e'] at h
      exact ⟨h.1, { hs with host := h.2 }⟩
    | error f' t' =>
      rw [e, e'] at h
      exact ⟨f', rfl, h⟩
  | error f t =>
    cases e' : act' s'.scene with
    | ok b' t' =>
      rw [e, e'] at h
      exact ⟨f, rfl, h⟩
    | error f' t' =>
      rw [e, e'] at h
      obtain hf | hf' | ⟨rfl, ht⟩ := h
      · exact .inl ⟨f, rfl, hf⟩
      · exact .inr (.inl ⟨f', rfl, hf'⟩)
      · exact .inr (.inr ⟨rfl, { hs with host := ht }⟩)

/-- Alike runs draw the same number. -/
lemma uniform [RandomSource ρ] (hs : s.Alike L d s') :
    Twin L d Eq (Derivation.uniform : Action σ ρ α Float) Derivation.uniform s s' :=
  .modifyGet (by rw [hs.random]) { hs with random := by rw [hs.random] }

/-- Alike runs draw the same integer. -/
lemma intRange [RandomSource ρ] (least most : Int64) (hs : s.Alike L d s') :
    Twin L d Eq (Derivation.intRange least most : Action σ ρ α Int64)
      (Derivation.intRange least most) s s' :=
  .modifyGet (by rw [hs.random]) { hs with random := by rw [hs.random] }

/-- Repeating actions that keep runs alike keeps them alike. -/
lemma iterate {act : Action σ ρ α Unit} {act' : Action τ ρ α Unit} (hs : s.Alike L d s')
    (ha : ∀ t t', t.Alike L d t' → Twin L d Eq act act' t t') (n : Nat) :
    Twin L d Eq (Derivation.iterate n act) (Derivation.iterate n act') s s' := by
  induction n generalizing s s' with
  | zero => exact .pure rfl hs
  | succ n ih => exact .bind (ha s s' hs) fun _ _ t t' _ ht => ih ht

/-! ## Brackets -/

/-- An action between two changes of its state that are made whether it fails or not. -/
lemma bracket {d' : Nat} {x : Action σ ρ α β} {x' : Action τ ρ α β'}
    (opened close : State σ ρ α → State σ ρ α) (opened' close' : State τ ρ α → State τ ρ α)
    (hclose : ∀ t t', t.Alike L d' t' → (close t).Alike L d (close' t'))
    (ha : Twin L d' V act act' (opened s) (opened' s'))
    (hx : x s = match act (opened s) with
      | .ok b t => .ok b (close t)
      | .error f t => .error f (close t))
    (hx' : x' s' = match act' (opened' s') with
      | .ok b t => .ok b (close' t)
      | .error f t => .error f (close' t)) : Twin L d V x x' s s' := by
  refine Paired.elim ha ?_ ?_ ?_ ?_
  · intro b b' t t' e e' hb ht
    exact .of_eq (by rw [hx, e]; rfl) (by rw [hx', e']; rfl) (.pure hb (hclose t t' ht))
  · intro f t t' e e' ht
    exact .of_eq (by rw [hx, e]; rfl) (by rw [hx', e']; rfl) (.throw f (hclose t t' ht))
  · intro f t e hf
    exact .excused_left (f := f) (t := close t) (by rw [hx, e]) hf
  · intro f t e hf
    exact .excused_right (f := f) (t := close' t) (by rw [hx', e]) hf

/-- Actions that keep runs alike do so in a scope of their own. -/
lemma inScope (ha : Twin L d V act act' s.pushScope s'.pushScope) :
    Twin L d V (Derivation.inScope act) (Derivation.inScope act') s s' :=
  bracket _ _ _ _ (fun _ _ => State.Alike.popScope) ha rfl rfl

variable [Host σ α] [Host τ α] {keys : List String}

/-- Actions that keep runs alike do so inside a definition. -/
lemma captured (hL : L.Lasts keys)
    (ha : Twin L d V act act' s.openCapture.atLevel s'.openCapture.atLevel) :
    Twin L d V (Derivation.captured act) (Derivation.captured act') s s' :=
  bracket (·.openCapture.atLevel) (·.closeCapture.atLevel) (·.openCapture.atLevel)
    (·.closeCapture.atLevel) (fun _ _ ht => ht.closeCapture.atLevel hL) ha rfl rfl

/-- Actions that keep runs alike do so one instance deeper. -/
lemma nested (hL : L.Lasts keys)
    (ha : Twin L (d + 1) V act act' s.descend.atLevel s'.descend.atLevel) :
    Twin L d V (Derivation.nested act) (Derivation.nested act') s s' :=
  bracket (·.descend.atLevel) (·.ascend.atLevel) (·.descend.atLevel) (·.ascend.atLevel)
    (fun _ _ ht => ht.ascend.atLevel hL) ha rfl rfl

/-- Telling alike events keeps runs alike. -/
lemma note (hL : L.Lasts keys) (hs : s.Alike L d s') {e e' : Event α} (he : e.Alike L.place e') :
    Twin L d Eq (Derivation.note e : Action σ ρ α Unit) (Derivation.note e') s s' :=
  .modify (hs.noted hL he)

end Twin

end Derivation

end SceneGrammar
