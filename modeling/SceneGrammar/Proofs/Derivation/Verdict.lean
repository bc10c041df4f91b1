import SceneGrammar.Derivation.Prepare
import SceneGrammar.Proofs.Grammar.Defect
import SceneGrammar.Proofs.Outcome

/-!
# Verdicts of drawing and preparing

Preparing a rule succeeds if the rule has no defect, and fails with the first defect if it has one
(`Preparing.prepare`). Drawing an argument without defects does not fail (`Drawing.resolve`), unless the
drawn value lacks the form that its rule needs (`Drawing.resolveAs`). What happens to the state
meanwhile is left to a relation that lasts through draws, settled values and definitions.
-/

namespace SceneGrammar.Derivation

variable {σ ρ α : Type} [Host σ α] [RandomSource ρ]

/-- A relation that lasts through draws, through fixed values that are settled when they are first
needed, and through the notes of their use. -/
structure Drawing (R : State σ ρ α → State σ ρ α → Prop) : Prop where
  refl : ∀ s, R s s
  trans : ∀ {s t u}, R s t → R t u → R s u
  uniform : ∀ s, R s { s with random := (RandomSource.uniform s.random).2 }
  intRange : ∀ s low high, R s { s with random := (RandomSource.intRange low high s.random).2 }
  settle : ∀ {s t} label v, s.settled.get? label = none → R s t →
    R s { t with settled := t.settled.insert label v }
  reuse : ∀ s label v, R s (s.noted (.recalled label v))

/-- A relation that also lasts through what is settled before a run. -/
structure Fixing (R : State σ ρ α → State σ ρ α → Prop) : Prop extends Drawing R where
  fix : ∀ s label v,
    R s ({ s with settled := s.settled.insert label v }.noted (.settled label v))

/-- A relation that also lasts through what is defined before a run. -/
structure Preparing (R : State σ ρ α → State σ ρ α → Prop) : Prop extends Fixing R where
  define : ∀ s name body, Rule.defectOf? body = none →
    R s { s with definitions := s.definitions.insert name body }

/-! ## Drawing -/

namespace Drawing
variable {R : State σ ρ α → State σ ρ α → Prop}

/-- Only where there are no entries is none chosen. -/
lemma chooseEntry (h : Drawing R) (entries : List (Literal × Expr Nat)) (s : State σ ρ α) :
    Ends (Derivation.chooseEntry (entryWeights entries)) s
      (fun i t => R s t ∧ i < entries.length)
      (fun f t => R s t ∧ f = Defect.noEntries.fault ∧ entries = []) := by
  unfold Derivation.chooseEntry
  apply Ends.bind
  refine Ends.modifyGet ?_
  dsimp only
  split
  · next i hi =>
    have hlt := Selection.pick_lt_length hi
    exact Ends.pure ⟨h.uniform s, by simpa [entryWeights] using hlt⟩
  · next hi =>
    have hnil := Selection.pick_eq_none_iff.mp hi
    exact Ends.throw ⟨h.uniform s, rfl, by simpa [entryWeights] using hnil⟩

mutual
/-- Drawing fails over a weighted value without entries only. -/
theorem resolve (h : Drawing R) : ∀ (e : Expr Nat) (s : State σ ρ α),
    Ends (Derivation.resolve e) s (fun _ t => R s t)
      (fun f t => R s t ∧ f = Defect.noEntries.fault ∧ e.defect? ≠ none)
  | .literal v, s => by
    simp only [Derivation.resolve]
    exact Ends.pure (h.refl s)
  | .range least most, s => by
    simp only [Derivation.resolve]
    apply Ends.bind
    exact Ends.modifyGet (Ends.pure (h.intRange s _ _))
  | .weighted entries, s => by
    simp only [Derivation.resolve]
    apply Ends.bind
    refine (h.chooseEntry entries s).imp ?_ ?_
    · rintro i t ⟨hst, hi⟩
      have hne : entries ≠ [] := List.ne_nil_of_length_pos (Nat.zero_lt_of_lt hi)
      refine (resolveEntry h entries i t).imp (fun _ _ => h.trans hst) ?_
      rintro f u ⟨htu, hf, hd⟩
      refine ⟨h.trans hst htu, hf, ?_⟩
      simpa [Expr.defect?, hne] using hd hi
    · rintro f t ⟨hst, hf, rfl⟩
      exact ⟨hst, hf, by simp [Expr.defect?]⟩
  | .fixed label e, s => by
    simp only [Derivation.resolve]
    apply Ends.get
    cases hl : s.settled.get? label with
    | some v =>
      apply Ends.bind
      exact Ends.modify (Ends.pure (h.reuse s label v))
    | none =>
      apply Ends.bind
      refine (resolve h e s).imp ?_ ?_
      · intro v t hst
        apply Ends.bind
        refine Ends.modify ?_
        apply Ends.bind
        exact Ends.modify (Ends.pure (h.trans (h.settle label v hl hst) (h.reuse _ label v)))
      · rintro f t ⟨hst, hf, hd⟩
        exact ⟨hst, hf, by simpa [Expr.defect?] using hd⟩
/-- So does drawing an entry that there is. -/
theorem resolveEntry (h : Drawing R) :
    ∀ (entries : List (Literal × Expr Nat)) (i : Nat) (s : State σ ρ α),
      Ends (Derivation.resolveEntry entries i) s (fun _ t => R s t) (fun f t => R s t ∧
        f = Defect.noEntries.fault ∧ (i < entries.length → Expr.entriesDefect? entries ≠ none))
  | [], i, s => by
    simp only [Derivation.resolveEntry]
    exact Ends.throw ⟨h.refl s, rfl, fun hi => absurd hi (Nat.not_lt_zero i)⟩
  | (w, e) :: rest, 0, s => by
    simp only [Derivation.resolveEntry]
    refine (resolve h e s).imp (fun _ _ => id) ?_
    rintro f t ⟨hst, hf, hd⟩
    refine ⟨hst, hf, fun _ hnone => hd ?_⟩
    simp only [Expr.entriesDefect?, Option.or_eq_none_iff] at hnone
    exact hnone.2.1
  | (w, e) :: rest, i + 1, s => by
    simp only [Derivation.resolveEntry]
    refine (resolveEntry h rest i s).imp (fun _ _ => id) ?_
    rintro f t ⟨hst, hf, hd⟩
    refine ⟨hst, hf, fun hi hnone => hd (Nat.lt_of_succ_lt_succ hi) ?_⟩
    simp only [Expr.entriesDefect?, Option.or_eq_none_iff] at hnone
    exact hnone.2.2
end

/-- Drawing for a form fails over a value without the form, or as drawing does. -/
lemma resolveAs (h : Drawing R) (shape : Shape) (subject : String) (e : Expr Nat)
    (s : State σ ρ α) :
    Ends (Derivation.resolveAs shape subject e) s (fun _ t => R s t)
      (fun f t => R s t ∧ ((∃ v, f = shape.fault subject v) ∨
        f = Defect.noEntries.fault ∧ e.defect? ≠ none)) := by
  unfold Derivation.resolveAs
  apply Ends.bind
  refine (h.resolve e s).imp ?_ ?_
  · intro v t hst
    cases shape.read? v with
    | some x => exact Ends.pure hst
    | none => exact Ends.throw ⟨hst, .inl ⟨v, rfl⟩⟩
  · rintro f t ⟨hst, hf⟩
    exact ⟨hst, .inr hf⟩

end Drawing

/-! ## Preparing -/

/-- An action that finds a defect or none, and leaves a relation either way. -/
def Finds (R : State σ ρ α → State σ ρ α → Prop) (act : Action σ ρ α Unit) (d? : Option Defect)
    (s : State σ ρ α) : Prop :=
  Ends act s (fun _ t => R s t ∧ d? = none) (fun f t => R s t ∧ ∃ d, d? = some d ∧ f = d.fault)

namespace Fixing
variable {R : State σ ρ α → State σ ρ α → Prop} {s : State σ ρ α} {d? : Option Defect}

/-- A rejection finds its defect. -/
lemma found (h : Fixing R) (d : Defect) : Finds R (reject d) (some d) s :=
  Ends.throw ⟨h.refl s, d, rfl, rfl⟩

/-- Doing nothing finds no defect. -/
lemma nothing (h : Fixing R) : Finds R (pure ()) none s := Ends.pure ⟨h.refl s, rfl⟩

/-- One action after another finds what the first one finds, or else what the second one does. -/
lemma bind (h : Fixing R) {act k : Action σ ρ α Unit} {e? : Option Defect}
    (ha : Finds R act d? s) (hk : ∀ t, R s t → Finds R k e? t) :
    Finds R (act >>= fun _ => k) (d?.or e?) s := by
  apply Ends.bind
  refine Ends.imp ha ?_ ?_
  · rintro _ t ⟨hst, rfl⟩
    exact (hk t hst).imp (fun _ _ k => ⟨h.trans hst k.1, k.2⟩) (fun _ _ k => ⟨h.trans hst k.1, k.2⟩)
  · rintro f t ⟨hst, d, rfl, rfl⟩
    exact ⟨hst, d, rfl, rfl⟩

/-- Checking the bounds of a range finds what is wrong with them. -/
lemma checkRange (h : Fixing R) (least most : Literal) :
    Finds R (Derivation.checkRange least most) (least.boundsDefect? most) s := by
  unfold Derivation.checkRange Literal.boundsDefect?
  cases least.int? with
  | none => exact h.found _
  | some low =>
    cases most.int? with
    | none => exact h.found _
    | some high =>
      dsimp only
      split
      · exact h.found _
      · exact h.nothing

/-- Checking a weight finds what is wrong with it. -/
lemma checkWeight (h : Fixing R) (w : Literal) :
    Finds R (Derivation.checkWeight w) w.weightDefect? s := by
  unfold Derivation.checkWeight Literal.weightDefect?
  cases w.number? with
  | none => exact h.found _
  | some x =>
    dsimp only
    split
    · exact h.nothing
    · exact h.found _

/-- The pattern that is compiled is the one that is written. -/
lemma compile (h : Fixing R) (source : String) :
    Ends (Derivation.compile source) s (fun _ t => R s t ∧ Rule.patternDefect? source = none)
      (fun f t => R s t ∧ ∃ d, Rule.patternDefect? source = some d ∧ f = d.fault) := by
  unfold Derivation.compile Rule.patternDefect?
  cases Pattern.anchored? source with
  | some p => exact Ends.pure ⟨h.refl s, rfl⟩
  | none => exact Ends.throw ⟨h.refl s, .badPattern source, rfl, rfl⟩

mutual
/-- Preparing a value finds its first defect. -/
theorem prepareValue (h : Fixing R) :
    ∀ (e : Expr Nat) (s : State σ ρ α), Finds R (Derivation.prepareValue e) e.defect? s
  | .literal _, s => by
    simp only [Derivation.prepareValue]
    exact h.nothing
  | .range least most, s => by
    simp only [Derivation.prepareValue, Expr.defect?]
    exact h.checkRange least most
  | .weighted entries, s => by
    simp only [Derivation.prepareValue, Expr.defect?]
    split
    · exact h.found _
    · exact prepareEntries h entries s
  | .fixed label e, s => by
    simp only [Derivation.prepareValue, Expr.defect?]
    apply Ends.bind
    refine (prepareValue h e s).imp ?_ (fun _ _ => id)
    rintro _ t ⟨hst, hd⟩
    -- The value is drawn at once, which does not fail, as no defect has been found.
    apply Ends.bind
    refine (h.resolve e t).imp ?_ ?_
    · intro v u htu
      apply Ends.bind
      exact Ends.modify (Ends.modify ⟨h.trans hst (h.trans htu (h.fix u label v)), hd⟩)
    · rintro f u ⟨-, -, hd'⟩
      exact absurd hd hd'
/-- Preparing entries finds the first defect of a weight or an argument. -/
theorem prepareEntries (h : Fixing R) :
    ∀ (entries : List (Literal × Expr Nat)) (s : State σ ρ α),
      Finds R (Derivation.prepareEntries entries) (Expr.entriesDefect? entries) s
  | [], s => by
    simp only [Derivation.prepareEntries]
    exact h.nothing
  | (w, e) :: rest, s => by
    simp only [Derivation.prepareEntries]
    refine h.bind (h.checkWeight w) fun t _ => ?_
    exact h.bind (prepareValue h e t) fun u _ => prepareEntries h rest u
end

/-- Preparing an argument finds its first defect. -/
lemma prepareArgument (h : Fixing R) (subject : String) (shape : Shape) (e : Expr Nat) :
    Finds R (Derivation.prepareArgument subject shape e) (e.argumentDefect? subject shape) s := by
  cases e with
  | literal v =>
    simp only [Derivation.prepareArgument, Expr.argumentDefect?]
    split
    · exact h.nothing
    · exact h.found _
  | range least most => exact h.prepareValue _ s
  | weighted entries => exact h.prepareValue _ s
  | fixed label e => exact h.prepareValue _ s

end Fixing

namespace Preparing
variable {R : State σ ρ α → State σ ρ α → Prop}

mutual
/-- Preparing a rule finds its first defect. -/
theorem prepare (h : Preparing R) :
    ∀ (r : Rule Nat) (s : State σ ρ α), Finds R (Derivation.prepare r) r.defect? s
  | .define name body, s => by
    simp only [Derivation.prepare, Rule.defect?]
    split
    · exact h.found _
    · apply Ends.bind
      refine (prepareAll h body s).imp ?_ (fun _ _ => id)
      rintro _ t ⟨hst, hd⟩
      exact Ends.modify ⟨h.trans hst (h.define t name body hd), hd⟩
  | .exportLink e, s => by
    simp only [Derivation.prepare]
    exact h.prepareArgument _ _ e
  | .block body, s => by
    simp only [Derivation.prepare]
    exact prepareAll h body s
  | .times e body, s => by
    simp only [Derivation.prepare]
    exact h.bind (h.prepareArgument _ _ e) fun t _ => prepareAll h body t
  | .place e, s => by
    simp only [Derivation.prepare]
    exact h.prepareArgument _ _ e
  | .copySibling e _, s => by
    simp only [Derivation.prepare]
    exact h.prepareArgument _ _ e
  | .addLink e, s => by
    simp only [Derivation.prepare]
    exact h.prepareArgument _ _ e
  | .goTo e, s => by
    simp only [Derivation.prepare]
    exact h.prepareArgument _ _ e
  | .forLinks source body, s => by
    simp only [Derivation.prepare, Rule.defect?]
    apply Ends.bind
    refine (h.compile source).imp ?_ ?_
    · rintro _ t ⟨hst, hd⟩
      rw [hd]
      exact (prepareAll h body t).imp (fun _ _ k => ⟨h.trans hst k.1, k.2⟩)
        (fun _ _ k => ⟨h.trans hst k.1, k.2⟩)
    · rintro f t ⟨hst, d, hd, rfl⟩
      exact ⟨hst, d, by rw [hd]; rfl, rfl⟩
  | .maybe e body, s => by
    simp only [Derivation.prepare]
    exact h.bind (h.prepareArgument _ _ e) fun t _ => prepareAll h body t
  | .adjust channel e absolute, s => by
    simp only [Derivation.prepare]
    exact h.prepareArgument _ _ e
/-- Preparing a sequence finds the first defect of its rules. -/
theorem prepareAll (h : Preparing R) :
    ∀ (rs : List (Rule Nat)) (s : State σ ρ α),
      Finds R (Derivation.prepareAll rs) (Rule.defectOf? rs) s
  | [], s => by
    simp only [Derivation.prepareAll]
    exact h.nothing
  | r :: rs, s => by
    simp only [Derivation.prepareAll]
    exact h.bind (prepare h r s) fun t _ => prepareAll h rs t
end

end Preparing

omit [Host σ α] [RandomSource ρ] in
/-- What fails over defects only makes no requests that are refused. -/
lemma Finds.not_refused {R : State σ ρ α → State σ ρ α → Prop} {act : Action σ ρ α Unit}
    {d? : Option Defect} {s t : State σ ρ α} {g : SceneFault} (h : Finds R act d? s) :
    act s ≠ .error (.scene g) t := by
  intro e
  unfold Finds at h
  obtain ⟨-, d, -, hd⟩ := h.error e
  cases d <;> cases hd

/-- Whatever becomes of the state, preparing finds defects. -/
lemma preparing_any : Preparing (fun _ _ : State σ ρ α => True) := by
  have drawing : Drawing (fun _ _ : State σ ρ α => True) := by constructor <;> simp
  exact ⟨⟨drawing, by simp⟩, by simp⟩

end SceneGrammar.Derivation
