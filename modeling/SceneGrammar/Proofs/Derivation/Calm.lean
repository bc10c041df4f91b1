import SceneGrammar.Proofs.Derivation.Verdict

/-!
# Drawing and preparing

What drawing an argument and preparing a rule leave alone. A relation between states is `Calm` if it
lasts through notes to the host and through changes of a run's own books; every draw and every
preparation satisfies such a relation, whether it fails or not (`Calm.resolveAs`, `Calm.prepareAll`). One
such relation is `Steady`: the cursor, the open scopes and definitions, the depth and the generated
nodes are as they were.
-/

namespace SceneGrammar.Derivation

variable {σ ρ α : Type} [Host σ α]

/-- What an event says of the state in which the host hears of it. -/
def State.Shows (s : State σ ρ α) : Event α → Prop
  | .rule depth _ cursor scopes captures =>
    depth = s.depth ∧ cursor = s.cursor ∧ scopes = s.scopes ∧ captures = s.captures
  | .level depth frames => depth = s.depth ∧ frames = s.captures.length
  | .placed _ frames => frames = s.captures.length
  | .exported _ _ frames => frames = s.captures.length
  | _ => True

/-- A relation that drawing and preparing satisfy: they tell the host what they do and keep their own
books, and leave everything else alone. -/
structure Calm (R : State σ ρ α → State σ ρ α → Prop) : Prop where
  refl : ∀ s, R s s
  trans : ∀ {s t u}, R s t → R t u → R s u
  note : ∀ {s e}, s.Shows e → R s (s.noted e)
  book : ∀ s random definitions settled freshLabel expanded errors,
    R s { s with random, definitions, settled, freshLabel, expanded, errors }

variable {R : State σ ρ α → State σ ρ α → Prop} {β γ : Type}

/-- An action that satisfies a relation whether it fails or not. -/
def Quiet (R : State σ ρ α → State σ ρ α → Prop) (act : Action σ ρ α β) : Prop :=
  ∀ s, Ends act s (fun _ => R s) (fun _ => R s)

/-- An action after which a relation holds between the two states and the fault. -/
def Obeys (R : Option Fault → State σ ρ α → State σ ρ α → Prop) (act : Action σ ρ α β)
    (s : State σ ρ α) : Prop :=
  Ends act s (fun _ => R none s) (fun f => R (some f) s)

omit [Host σ α] in
/-- One action after another. -/
lemma Obeys.bind {R : Option Fault → State σ ρ α → State σ ρ α → Prop}
    (trans : ∀ {o s t u}, R none s t → R o t u → R o s u) {s : State σ ρ α}
    {act : Action σ ρ α β} {k : β → Action σ ρ α γ} (ha : Obeys R act s)
    (hk : ∀ b t, R none s t → Obeys R (k b) t) : Obeys R (act >>= k) s := by
  apply Ends.bind
  refine Ends.imp ha ?_ (fun _ _ => id)
  intro b t hst
  exact (hk b t hst).imp (fun _ _ => trans hst) (fun _ _ => trans hst)

omit [Host σ α] in
/-- A loop whose rounds begin where the relation has led so far. -/
lemma Obeys.forM {R : Option Fault → State σ ρ α → State σ ρ α → Prop} {s : State σ ρ α}
    (refl : R none s s) (trans : ∀ {o s t u}, R none s t → R o t u → R o s u) {l : List γ}
    {body : γ → Action σ ρ α Unit} (hb : ∀ x ∈ l, ∀ t, R none s t → Obeys R (body x) t) :
    Obeys R (l.forM body) s := by
  refine Ends.forM refl ?_
  intro x hx t hst
  exact (hb x hx t hst).imp (fun _ _ => trans hst) (fun _ _ => trans hst)

namespace Calm

/-- One quiet action after another is quiet. -/
lemma bind (h : Calm R) {act : Action σ ρ α β} {k : β → Action σ ρ α γ} (ha : Quiet R act)
    (hk : ∀ b, Quiet R (k b)) : Quiet R (act >>= k) := by
  intro s
  apply Ends.bind
  refine (ha s).imp ?_ (fun _ _ => id)
  intro b t hst
  exact (hk b t).imp (fun _ _ => h.trans hst) (fun _ _ => h.trans hst)

/-- Doing nothing is quiet. -/
lemma pure (h : Calm R) (b : β) : Quiet R (Pure.pure b) := fun s => Ends.pure (h.refl s)

/-- Failing at once is quiet. -/
lemma throw (h : Calm R) (f : Fault) : Quiet R (MonadExcept.throw f : Action σ ρ α β) :=
  fun s => Ends.throw (h.refl s)

/-- Looking at the state is quiet. -/
lemma get (h : Calm R) : Quiet R (MonadState.get : Action σ ρ α (State σ ρ α)) := h.refl

/-- Telling the host something that says nothing of the state. -/
lemma tell (h : Calm R) {e : Event α} (he : ∀ s : State σ ρ α, s.Shows e) :
    Quiet R (Derivation.note e : Action σ ρ α Unit) := fun s => Ends.modify (h.note (he s))

/-- Defining a name is quiet. -/
lemma define (h : Calm R) (name : String) (body : List (Rule Nat)) :
    Quiet R (Derivation.define name body : Action σ ρ α Unit) := by
  intro s
  apply Ends.modify
  exact h.book s s.random _ s.settled s.freshLabel s.expanded s.errors

/-- Reading a pattern is quiet. -/
lemma compile (h : Calm R) (source : String) :
    Quiet R (Derivation.compile source : Action σ ρ α Pattern) := by
  unfold Derivation.compile
  cases Pattern.anchored? source with
  | some p => exact h.pure p
  | none => exact h.throw _

variable [RandomSource ρ]

/-- Drawing and preparing keep to their own books. -/
lemma preparing (h : Calm R) : Preparing R where
  refl := h.refl
  trans := h.trans
  uniform s := h.book s _ s.definitions s.settled s.freshLabel s.expanded s.errors
  intRange s _ _ := h.book s _ s.definitions s.settled s.freshLabel s.expanded s.errors
  settle {_ t} _ _ _ hst :=
    h.trans hst (h.book t t.random t.definitions _ t.freshLabel t.expanded t.errors)
  reuse _ _ _ := h.note trivial
  fix s _ _ :=
    h.trans (h.book s s.random s.definitions _ s.freshLabel s.expanded s.errors) (h.note trivial)
  define s _ _ _ := h.book s s.random _ s.settled s.freshLabel s.expanded s.errors

/-- Drawing a number is quiet. -/
lemma uniform (h : Calm R) : Quiet R (Derivation.uniform : Action σ ρ α Float) :=
  fun s => Ends.modifyGet (h.preparing.uniform s)

/-- Drawing an argument of a form. -/
lemma resolveAs (h : Calm R) (shape : Shape) (subject : String) (e : Expr Nat) :
    Quiet R (Derivation.resolveAs shape subject e : Action σ ρ α shape.Value) :=
  fun s => (h.preparing.resolveAs shape subject e s).imp (fun _ _ => id) (fun _ _ k => k.1)

/-- Preparing rules one after the other. -/
lemma prepareAll (h : Calm R) (rs : List (Rule Nat)) :
    Quiet R (Derivation.prepareAll rs : Action σ ρ α Unit) :=
  fun s => (h.preparing.prepareAll rs s).imp (fun _ _ k => k.1) (fun _ _ k => k.1)

end Calm

/-! ## What stays as it was -/

/-- Two states that differ in the host, the source and a run's own books only. -/
structure Steady (s t : State σ ρ α) : Prop where
  cursor : t.cursor = s.cursor
  scopes : t.scopes = s.scopes
  captures : t.captures = s.captures
  depth : t.depth = s.depth
  generated : t.generated = s.generated

omit [Host σ α] in
lemma Steady.refl (s : State σ ρ α) : Steady s s := ⟨rfl, rfl, rfl, rfl, rfl⟩

omit [Host σ α] in
/-- States stay steady after one action and another. -/
lemma Steady.trans {s t u : State σ ρ α} (h : Steady s t) (k : Steady t u) : Steady s u :=
  ⟨k.cursor.trans h.cursor, k.scopes.trans h.scopes, k.captures.trans h.captures,
    k.depth.trans h.depth, k.generated.trans h.generated⟩

/-- Drawing and preparing leave all but the host, the source and a run's own books. -/
lemma steady_calm : Calm (Steady : State σ ρ α → State σ ρ α → Prop) where
  refl := .refl
  trans h k := h.trans k
  note _ := ⟨rfl, rfl, rfl, rfl, rfl⟩
  book _ _ _ _ _ _ _ := ⟨rfl, rfl, rfl, rfl, rfl⟩

end SceneGrammar.Derivation
