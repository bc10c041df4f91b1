import SceneGrammar.Derivation.Prepare
import SceneGrammar.Proofs.Derivation.Twin

/-!
# Arguments of twin runs

Drawing an argument and preparing a rule only tell the host what they do, so they keep alike runs alike.
-/

namespace SceneGrammar.Derivation

variable {σ τ ρ α β : Type} {L : Likeness σ τ α} {keys : List String} {d : Nat}

namespace Twin

/-! ## Drawing -/

section
variable {s : State σ ρ α} {s' : State τ ρ α}

/-- Alike runs read a pattern alike. -/
lemma compile (source : String) (hs : s.Alike L d s') :
    Twin L d Eq (Derivation.compile source : Action σ ρ α Pattern) (Derivation.compile source) s s' := by
  unfold Derivation.compile
  cases Pattern.anchored? source with
  | some p => exact .pure rfl hs
  | none => exact .throw _ hs

/-- Alike runs check the bounds of a range alike. -/
lemma checkRange (least most : Literal) (hs : s.Alike L d s') :
    Twin L d Eq (Derivation.checkRange least most : Action σ ρ α Unit)
      (Derivation.checkRange least most) s s' := by
  unfold Derivation.checkRange
  cases least.int? with
  | none => exact .throw _ hs
  | some low =>
    cases most.int? with
    | none => exact .throw _ hs
    | some high =>
      dsimp only
      split
      · exact .throw _ hs
      · exact .pure rfl hs

/-- Alike runs check a weight alike. -/
lemma checkWeight (w : Literal) (hs : s.Alike L d s') :
    Twin L d Eq (Derivation.checkWeight w : Action σ ρ α Unit) (Derivation.checkWeight w) s s' := by
  unfold Derivation.checkWeight
  cases w.number? with
  | none => exact .throw _ hs
  | some x =>
    dsimp only
    split
    · exact .pure rfl hs
    · exact .throw _ hs

/-- Alike runs settle a value alike. -/
lemma settle (label : Nat) (v : Literal) (hs : s.Alike L d s') :
    Twin L d Eq (Derivation.settle label v : Action σ ρ α Unit) (Derivation.settle label v) s s' :=
  .modify { hs with settled := congrArg (·.insert label v) hs.settled }

/-- Alike runs define a name alike. -/
lemma define (name : String) (body : List (Rule Nat)) (hs : s.Alike L d s') :
    Twin L d Eq (Derivation.define name body : Action σ ρ α Unit) (Derivation.define name body) s s' :=
  .modify { hs with definitions := congrArg (·.insert name body) hs.definitions }

/-- Alike runs choose the same entry. -/
lemma chooseEntry [RandomSource ρ] (weights : List Float) (hs : s.Alike L d s') :
    Twin L d Eq (Derivation.chooseEntry weights : Action σ ρ α Nat)
      (Derivation.chooseEntry weights) s s' := by
  unfold Derivation.chooseEntry
  refine .bind (uniform hs) fun x _ t t' hx ht => ?_
  subst hx
  dsimp only
  cases Selection.firstReaching weights (Selection.total weights * x) with
  | some i => exact .pure rfl ht
  | none => exact .throw _ ht

end

variable [Host σ α] [Host τ α] [RandomSource ρ]

mutual
/-- Drawing an argument. -/
theorem resolve (hL : L.Lasts keys) :
    ∀ (e : Expr Nat) (s : State σ ρ α) (s' : State τ ρ α), s.Alike L d s' →
      Twin L d Eq (Derivation.resolve e : Action σ ρ α Literal) (Derivation.resolve e) s s'
  | .literal v, s, s', hs => by
    simp only [Derivation.resolve]
    exact .pure rfl hs
  | .range least most, s, s', hs => by
    simp only [Derivation.resolve]
    refine .bind (intRange _ _ hs) fun n _ t t' hn ht => ?_
    exact .pure (by rw [hn]) ht
  | .weighted entries, s, s', hs => by
    simp only [Derivation.resolve]
    refine .bind (chooseEntry _ hs) fun i _ t t' hi ht => ?_
    subst hi
    exact resolveEntry hL entries i t t' ht
  | .fixed label e, s, s', hs => by
    simp only [Derivation.resolve]
    apply Paired.get
    rw [hs.settled]
    cases s.settled.get? label with
    | some v => exact .bind (note hL hs (.same _)) fun _ _ t t' _ ht => .pure rfl ht
    | none =>
      refine .bind (resolve hL e s s' hs) fun v _ t t' hv ht => ?_
      subst hv
      refine .bind (settle label v ht) fun _ _ t t' _ ht => ?_
      exact .bind (note hL ht (.same _)) fun _ _ t t' _ ht => .pure rfl ht
/-- Drawing the argument of an entry. -/
theorem resolveEntry (hL : L.Lasts keys) :
    ∀ (entries : List (Literal × Expr Nat)) (i : Nat) (s : State σ ρ α) (s' : State τ ρ α),
      s.Alike L d s' → Twin L d Eq (Derivation.resolveEntry entries i : Action σ ρ α Literal)
        (Derivation.resolveEntry entries i) s s'
  | [], _, s, s', hs => by
    simp only [Derivation.resolveEntry]
    exact .throw _ hs
  | (_, e) :: _, 0, s, s', hs => by
    simp only [Derivation.resolveEntry]
    exact resolve hL e s s' hs
  | _ :: rest, i + 1, s, s', hs => by
    simp only [Derivation.resolveEntry]
    exact resolveEntry hL rest i s s' hs
end

variable {s : State σ ρ α} {s' : State τ ρ α}

/-- Alike runs draw the same from an argument. -/
lemma resolveAs (hL : L.Lasts keys) (shape : Shape) (subject : String) (e : Expr Nat)
    (hs : s.Alike L d s') :
    Twin L d Eq (Derivation.resolveAs shape subject e : Action σ ρ α shape.Value)
      (Derivation.resolveAs shape subject e) s s' := by
  unfold Derivation.resolveAs
  refine .bind (resolve hL e s s' hs) fun v _ t t' hv ht => ?_
  subst hv
  cases shape.read? v with
  | some x => exact .pure rfl ht
  | none => exact .throw _ ht

/-! ## Preparing -/

mutual
/-- Checking an argument. -/
theorem prepareValue (hL : L.Lasts keys) :
    ∀ (e : Expr Nat) (s : State σ ρ α) (s' : State τ ρ α), s.Alike L d s' →
      Twin L d Eq (Derivation.prepareValue e : Action σ ρ α Unit) (Derivation.prepareValue e) s s'
  | .literal _, s, s', hs => by
    simp only [Derivation.prepareValue]
    exact .pure rfl hs
  | .range least most, s, s', hs => by
    simp only [Derivation.prepareValue]
    exact checkRange least most hs
  | .weighted entries, s, s', hs => by
    simp only [Derivation.prepareValue]
    split
    · exact .throw _ hs
    · exact prepareEntries hL entries s s' hs
  | .fixed label e, s, s', hs => by
    simp only [Derivation.prepareValue]
    refine .bind (prepareValue hL e s s' hs) fun _ _ t t' _ ht => ?_
    refine .bind (resolve hL e t t' ht) fun v _ t t' hv ht => ?_
    subst hv
    exact .bind (settle label v ht) fun _ _ t t' _ ht => note hL ht (.same _)
/-- Checking entries. -/
theorem prepareEntries (hL : L.Lasts keys) :
    ∀ (entries : List (Literal × Expr Nat)) (s : State σ ρ α) (s' : State τ ρ α), s.Alike L d s' →
      Twin L d Eq (Derivation.prepareEntries entries : Action σ ρ α Unit)
        (Derivation.prepareEntries entries) s s'
  | [], s, s', hs => by
    simp only [Derivation.prepareEntries]
    exact .pure rfl hs
  | (w, e) :: rest, s, s', hs => by
    simp only [Derivation.prepareEntries]
    refine .bind (checkWeight w hs) fun _ _ t t' _ ht => ?_
    exact .bind (prepareValue hL e t t' ht) fun _ _ t t' _ ht => prepareEntries hL rest t t' ht
end

/-- Alike runs prepare an argument alike. -/
lemma prepareArgument (hL : L.Lasts keys) (subject : String) (shape : Shape) (e : Expr Nat)
    (hs : s.Alike L d s') :
    Twin L d Eq (Derivation.prepareArgument subject shape e : Action σ ρ α Unit)
      (Derivation.prepareArgument subject shape e) s s' := by
  unfold Derivation.prepareArgument
  cases e with
  | literal v =>
    dsimp only
    split
    · exact .pure rfl hs
    · exact .throw _ hs
  | range least most => exact prepareValue hL _ s s' hs
  | weighted entries => exact prepareValue hL _ s s' hs
  | fixed label e => exact prepareValue hL _ s s' hs

mutual
/-- Preparing a rule. -/
theorem prepare (hL : L.Lasts keys) :
    ∀ (r : Rule Nat) (s : State σ ρ α) (s' : State τ ρ α), s.Alike L d s' →
      Twin L d Eq (Derivation.prepare r : Action σ ρ α Unit) (Derivation.prepare r) s s'
  | .define name body, s, s', hs => by
    simp only [Derivation.prepare]
    split
    · exact .throw _ hs
    · exact .bind (prepareAll hL body s s' hs) fun _ _ t t' _ ht => define name body ht
  | .exportLink e, s, s', hs => by
    simp only [Derivation.prepare]
    exact prepareArgument hL _ _ e hs
  | .block body, s, s', hs => by
    simp only [Derivation.prepare]
    exact prepareAll hL body s s' hs
  | .times e body, s, s', hs => by
    simp only [Derivation.prepare]
    exact .bind (prepareArgument hL _ _ e hs) fun _ _ t t' _ ht => prepareAll hL body t t' ht
  | .place e, s, s', hs => by
    simp only [Derivation.prepare]
    exact prepareArgument hL _ _ e hs
  | .copySibling e _, s, s', hs => by
    simp only [Derivation.prepare]
    exact prepareArgument hL _ _ e hs
  | .addLink e, s, s', hs => by
    simp only [Derivation.prepare]
    exact prepareArgument hL _ _ e hs
  | .goTo e, s, s', hs => by
    simp only [Derivation.prepare]
    exact prepareArgument hL _ _ e hs
  | .forLinks source body, s, s', hs => by
    simp only [Derivation.prepare]
    exact .bind (compile source hs) fun _ _ t t' _ ht => prepareAll hL body t t' ht
  | .maybe e body, s, s', hs => by
    simp only [Derivation.prepare]
    exact .bind (prepareArgument hL _ _ e hs) fun _ _ t t' _ ht => prepareAll hL body t t' ht
  | .adjust channel e absolute, s, s', hs => by
    simp only [Derivation.prepare]
    exact prepareArgument hL _ _ e hs
/-- Preparing rules one after the other. -/
theorem prepareAll (hL : L.Lasts keys) :
    ∀ (rs : List (Rule Nat)) (s : State σ ρ α) (s' : State τ ρ α), s.Alike L d s' →
      Twin L d Eq (Derivation.prepareAll rs : Action σ ρ α Unit) (Derivation.prepareAll rs) s s'
  | [], s, s', hs => by
    simp only [Derivation.prepareAll]
    exact .pure rfl hs
  | r :: rs, s, s', hs => by
    simp only [Derivation.prepareAll]
    exact .bind (prepare hL r s s' hs) fun _ _ t t' _ ht => prepareAll hL rs t t' ht
end

end Twin

end SceneGrammar.Derivation
