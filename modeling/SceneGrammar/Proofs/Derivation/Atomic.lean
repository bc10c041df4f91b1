import SceneGrammar.Proofs.Derivation.Request
import SceneGrammar.Random.Scripted

/-!
# Skipped rules

A rule that fails without ending the run has done nothing but draw its arguments, which advances the
source and settles fixed values, and not even that if it stood at the wrong kind of place
(`execute_atomic`). Faults of what is carried out inside of a rule do not come up here: bodies,
definitions and directives fail with fatal faults only (`executeAll_fatally`, `placeWithin_fatally`).
-/

namespace SceneGrammar

/-- A host that takes no notice of what it is told. -/
def Host.Deaf (σ : Type) {α : Type} [Host σ α] : Prop := ∀ (e : Event α) (s : σ), Host.observe e s = s

/-- A scene takes no notice. -/
lemma Scene.deaf {α : Type} [Scalar α] : Host.Deaf (Scene α) := fun _ _ => rfl

/-- The sources that draws make of a source. -/
inductive Drawn {ρ : Type} [RandomSource ρ] (random : ρ) : ρ → Prop where
  | refl : Drawn random random
  | uniform {later : ρ} : Drawn random later → Drawn random (RandomSource.uniform later).2
  | intRange {later : ρ} (low high : Int64) : Drawn random later →
    Drawn random (RandomSource.intRange low high later).2

/-- Draws after draws are draws. -/
lemma Drawn.trans {ρ : Type} [RandomSource ρ] {r s t : ρ} (h : Drawn r s) (k : Drawn s t) :
    Drawn r t := by
  induction k with
  | refl => exact h
  | uniform _ ih => exact ih.uniform
  | intRange low high _ ih => exact ih.intRange low high

namespace Derivation

variable {σ ρ α β γ : Type}

/-! ## Draws -/

/-- Two states between which values were drawn, and fixed values settled that were not before. -/
structure Drew [RandomSource ρ] (s t : State σ ρ α) : Prop where
  rest : t = { s with random := t.random, settled := t.settled }
  drawn : Drawn s.random t.random
  settled : ∀ label v, s.settled.get? label = some v → t.settled.get? label = some v

lemma Drew.refl [RandomSource ρ] (s : State σ ρ α) : Drew s s := ⟨rfl, .refl, fun _ _ => id⟩

/-- Drawing does nothing else on a host that does not listen. -/
lemma drew_drawing [Host σ α] [RandomSource ρ] (deaf : Host.Deaf σ) :
    Drawing (Drew : State σ ρ α → State σ ρ α → Prop) where
  refl := .refl
  trans h k := by
    refine ⟨?_, h.drawn.trans k.drawn, fun label v e => k.settled label v (h.settled label v e)⟩
    rw [k.rest, h.rest]
  uniform _ := ⟨rfl, .uniform .refl, fun _ _ => id⟩
  intRange _ low high := ⟨rfl, .intRange low high .refl, fun _ _ => id⟩
  settle {s t} label v hnone h := by
    refine ⟨?_, h.drawn, fun label' v' e => ?_⟩
    · rw [h.rest]
    · have hne : label ≠ label' := by
        rintro rfl
        rw [hnone] at e
        cases e
      dsimp only
      rw [Bindings.get?_insert, if_neg hne]
      exact h.settled label' v' e
  reuse s label v := by
    have e : s.noted (.recalled label v) = s := by
      unfold State.noted
      rw [deaf]
    rw [e]
    exact .refl s

/-! ## Fatal faults -/

/-- Ending with a value or a fatal fault. -/
def Fatally (o : Option Fault) (_ _ : State σ ρ α) : Prop := ∀ f ∈ o, f.fatal = true

lemma Fatally.none (s t : State σ ρ α) : Fatally none s t := nofun

/-- A host refuses with fatal faults. -/
lemma fatally_asks [Host σ α] : Asks (Fatally : Option Fault → State σ ρ α → State σ ρ α → Prop) := by
  have refused : ∀ {β} (act : Edit σ β) s, Obeys Fatally (request act : Action σ ρ α β) s := by
    intro β act s
    apply request_ends
    exact Ends.of_forall (fun _ _ => .none _ _) (fun f _ => by rintro _ ⟨⟩; rfl)
  exact {
    refl := fun s => .none s s
    trans := fun _ h => h
    offer := fun _ => refused _
    moveAll := fun _ _ _ => refused _
    addGenerated := fun _ _ => .none _ _ }

namespace Fatally
variable {s : State σ ρ α}

/-- Doing nothing does not fail. -/
lemma pure (b : β) : Obeys Fatally (Pure.pure b : Action σ ρ α β) s := Ends.pure (.none s s)

/-- Changing the state does not fail. -/
lemma modify {f : State σ ρ α → State σ ρ α} :
    Obeys Fatally (modify f : Action σ ρ α Unit) s := Ends.modify (.none _ _)

/-- One action after another fails fatally only, if both do. -/
lemma bind {act : Action σ ρ α β} {k : β → Action σ ρ α γ} (ha : Obeys Fatally act s)
    (hk : ∀ b t, Obeys Fatally (k b) t) : Obeys Fatally (act >>= k) s :=
  Obeys.bind (fun _ h => h) ha fun b t _ => hk b t

/-- Actions in a row fail fatally only, if each does. -/
lemma forM {l : List β} {body : β → Action σ ρ α Unit} (hb : ∀ x t, Obeys Fatally (body x) t) :
    Obeys Fatally (l.forM body) s :=
  Obeys.forM (.none s s) (fun _ h => h) fun x _ t _ => hb x t

/-- Repeating an action that fails fatally only does so too. -/
lemma iterate {act : Action σ ρ α Unit} (ha : ∀ t, Obeys Fatally act t) :
    ∀ (n : Nat) (s : State σ ρ α), Obeys Fatally (Derivation.iterate n act) s
  | 0, _ => pure ()
  | n + 1, s => bind (ha s) fun _ t => iterate ha n t

end Fatally

section
variable [Scalar α] [Host σ α] {s : State σ ρ α}

/-- What is done at a link that is entered stands at a link. -/
lemma enterLink_fatally {n : NodeId} {k : Action σ ρ α β}
    (hk : ∀ t place, t.cursor = .link place → Obeys Fatally k t) :
    Obeys Fatally (enterLink n >>= fun _ => k) s := by
  unfold enterLink
  apply Ends.bind
  apply Ends.bind
  refine Ends.imp (fatally_asks.offer (.world n) s) ?_ (fun _ _ => id)
  exact fun world t _ => Ends.modify (hk _ _ rfl)

variable [RandomSource ρ]

/-- A sequence skips rules that fail without ending the run. -/
lemma executeAll_fatally (env : Surroundings σ ρ α) (rs : List (Rule Nat)) (s : State σ ρ α) :
    Obeys Fatally (executeAll env rs) s := by
  induction rs generalizing s with
  | nil =>
    simp only [executeAll]
    exact Fatally.pure ()
  | cons r rs ih =>
    simp only [executeAll]
    apply Ends.get
    refine Fatally.bind Fatally.modify fun _ t => Fatally.bind ?_ fun _ u => ih u
    apply tolerate_ends
    -- A rule may fail in any way: what is not fatal is recorded here and goes no further.
    refine Ends.of_forall (fun _ _ => .none _ _) fun f u => ⟨fun hf => ?_, fun _ => .none _ _⟩
    rintro _ ⟨⟩
    exact hf

/-- What is done where an instance is placed. -/
abbrev AtLinks (place : String → Action σ ρ α Unit) : Prop :=
  ∀ name s at_, s.cursor = .link at_ → Obeys Fatally (place name) s

/-- At a link, the directive of a leaf fails fatally only. -/
lemma runDirective_fatally {settings : Settings} {inner : String → Action σ ρ α Unit}
    (hp : AtLinks inner) (leaf : NodeId) (text : String) {place : LinkPlace α}
    (hs : s.cursor = .link place) :
    Obeys Fatally (runDirective ⟨settings, inner⟩ leaf text) s := by
  unfold runDirective
  apply Ends.bind
  refine Ends.modify ?_
  cases Grammar.parse? text with
  | none => exact hp _ _ place hs
  | some grammar =>
    refine Ends.get (Fatally.bind Fatally.modify fun _ t => ?_)
    apply prepared_ends
    exact Ends.of_forall (fun _ u => executeAll_fatally _ _ u) (fun _ _ => .none _ _)

/-- Expanding leaves fails fatally only. -/
lemma expandLeaves_fatally {settings : Settings} {inner : String → Action σ ρ α Unit}
    (hp : AtLinks inner) (s : State σ ρ α) :
    Obeys Fatally (expandLeaves ⟨settings, inner⟩) s := by
  have leaf : ∀ p : NodeId × String, ∀ t, Obeys Fatally (expandLeaf ⟨settings, inner⟩ p.1 p.2) t := by
    intro p t
    unfold expandLeaf
    apply Ends.get
    split
    · exact Fatally.pure ()
    · refine Fatally.bind Fatally.modify fun _ u => inScope_ends ?_
      exact enterLink_fatally fun v place hv => runDirective_fatally hp p.1 p.2 hv
  unfold expandLeaves
  apply Ends.get
  split
  · exact Fatally.pure ()
  · exact Fatally.forM leaf

/-- What is placed at a link meets no wrong kind of place, however deep instances nest. -/
theorem placeWithin_fatally (settings : Settings) (levels : Nat) :
    AtLinks (placeWithin settings levels : String → Action σ ρ α Unit) := by
  induction levels with
  | zero => exact fun _ _ _ _ => Fatally.pure ()
  | succ levels ih =>
    intro name s place hs
    unfold placeWithin placeInstance
    apply Ends.get
    split
    · exact Fatally.pure ()
    · apply nested_ends
      unfold placeName
      apply Ends.get
      have under : s.descend.atLevel.cursor = .link place := hs
      cases s.descend.atLevel.definitions.get? name with
      | some body =>
        refine Fatally.bind Fatally.modify fun _ t => Fatally.bind ?_ fun _ => expandLeaves_fatally ih
        exact captured_ends (executeAll_fatally _ body _)
      | none =>
        dsimp only
        cases Host.topLevel? s.descend.atLevel.scene name with
        | none => exact Fatally.pure ()
        | some members =>
          refine Fatally.bind ?_ fun _ => expandLeaves_fatally ih
          refine fatally_asks.placeTemplate ?_ (.none _ _) (fun _ _ => .none _ _)
            (fun _ _ => .none _ _)
          exact Ends.of_ok (requireLink_eq "instance" under) (.none _ _)

end

/-! ## Rules -/

section
variable [RandomSource ρ]

/-- An action that has only drawn values when it fails without ending the run, and has not even done
so when it stood at the wrong kind of place. -/
def Skips (act : Action σ ρ α β) (s : State σ ρ α) : Prop :=
  Ends act s (fun _ _ => True) fun f t => f.fatal = false →
    Drew s t ∧ ∀ subject expected found, f = .precondition subject expected found → t = s

namespace Skips
variable {s : State σ ρ α}

omit [RandomSource ρ] in
/-- Fatal faults do not count. -/
lemma vacuous {act : Action σ ρ α β} {P : Fault → State σ ρ α → Prop} (h : Obeys Fatally act s) :
    Ends act s (fun _ _ => True) (fun f t => f.fatal = false → P f t) := by
  refine Ends.imp h (fun _ _ _ => trivial) fun f t hf hfalse => ?_
  rw [hf f rfl] at hfalse
  cases hfalse

/-- An action that fails fatally only has nothing to skip. -/
lemma of_fatally {act : Action σ ρ α β} (h : Obeys Fatally act s) : Skips act s := vacuous h

/-- Standing at the wrong kind of place comes up before anything else. -/
lemma link (subject : String) {k : LinkPlace α → Action σ ρ α β}
    (hk : ∀ place, s.cursor = .link place → Skips (k place) s) :
    Skips (requireLink subject >>= k) s := by
  apply Ends.bind
  refine (requireLink_ends subject s).imp ?_ ?_
  · rintro place _ ⟨rfl, e⟩
    exact hk place e
  · rintro f _ ⟨rfl, -⟩ -
    exact ⟨.refl _, fun _ _ _ _ => rfl⟩

/-- What needs an object skips if it does so at every object. -/
lemma object (subject : String) {k : NodeId → Action σ ρ α β} (hk : ∀ n, Skips (k n) s) :
    Skips (requireObject subject >>= k) s := by
  apply Ends.bind
  refine (requireObject_ends subject s).imp ?_ ?_
  · rintro n _ ⟨rfl, -⟩
    exact hk n
  · rintro f _ ⟨rfl, -⟩ -
    exact ⟨.refl _, fun _ _ _ _ => rfl⟩

/-- Then an argument is drawn, and what follows it does not fail without ending the run. -/
lemma argument [Host σ α] (deaf : Host.Deaf σ) (shape : Shape) (subject : String) (e : Expr Nat)
    {k : shape.Value → Action σ ρ α β}
    (hk : ∀ v t, t.cursor = s.cursor → Obeys Fatally (k v) t) :
    Skips (resolveAs shape subject e >>= k) s := by
  apply Ends.bind
  have steady := steady_calm.resolveAs shape subject e s
  refine (((drew_drawing deaf).resolveAs shape subject e s).and steady).imp ?_ ?_
  · rintro v t ⟨-, ht⟩
    exact vacuous (hk v t ht.cursor)
  · rintro f t ⟨⟨hst, hf⟩, -⟩ hfalse
    obtain ⟨v, rfl⟩ | ⟨rfl, -⟩ := hf
    · exact ⟨hst, nofun⟩
    · rw [Defect.fatal_fault] at hfalse
      cases hfalse

end Skips

end

variable [Scalar α] [Host σ α] [RandomSource ρ]

/-- Each rule checks its place, then draws its argument, and only then does anything else. -/
lemma execute_skips (deaf : Host.Deaf σ) (settings : Settings) (levels : Nat) (r : Rule Nat)
    (s : State σ ρ α) : Skips (execute ⟨settings, placeWithin settings levels⟩ r) s := by
  have all := executeAll_fatally (σ := σ) (ρ := ρ) ⟨settings, placeWithin settings levels⟩
  cases r with
  | define name body =>
    simp only [execute]
    exact .of_fatally (Fatally.bind Fatally.modify fun _ _ => Fatally.modify)
  | exportLink e =>
    simp only [execute]
    refine .link _ fun place _ => .argument deaf _ _ e fun name t _ => ?_
    exact Ends.get (Fatally.bind Fatally.modify fun _ _ => Fatally.modify)
  | block body =>
    simp only [execute]
    exact .of_fatally (inScope_ends (all body _))
  | times e body =>
    simp only [execute]
    refine .argument deaf _ _ e fun n t _ => ?_
    exact inScope_ends (Fatally.iterate (all body) n _)
  | place e =>
    simp only [execute]
    refine .link _ fun place hs => .argument deaf _ _ e fun name t ht => ?_
    -- Drawing has not moved the cursor, so the instance stands at the link, too.
    exact placeWithin_fatally settings levels name t place (ht.trans hs)
  | copySibling e mirror =>
    simp only [execute]
    refine .link _ fun place _ => .argument deaf _ _ e fun name t _ => ?_
    exact fatally_asks.copySiblings settings place name mirror t
  | addLink e =>
    simp only [execute]
    refine .object _ fun n => .argument deaf _ _ e fun name t _ => ?_
    exact fatally_asks.addLink settings n name t
  | goTo e =>
    simp only [execute]
    refine .argument deaf _ _ e fun name t _ => ?_
    apply Ends.get
    split
    · exact fatally_asks.enterLink (fun _ _ => .none _ _) _ t
    · exact Fatally.pure ()
  | forLinks source body =>
    simp only [execute]
    refine .object _ fun n => .of_fatally ?_
    have compiled : Obeys Fatally (compile source : Action σ ρ α Pattern) s := by
      unfold compile
      cases Pattern.anchored? source with
      | some p => exact Fatally.pure p
      | none => exact Ends.throw (by rintro _ ⟨⟩; exact Defect.fatal_fault _)
    refine Fatally.bind compiled fun p t => ?_
    apply Ends.get
    refine Fatally.forM fun link u => inScope_ends ?_
    exact enterLink_fatally fun v _ _ => all body v
  | maybe e body =>
    simp only [execute]
    refine .argument deaf _ _ e fun ratio t _ => ?_
    refine Fatally.bind (Ends.modifyGet (.none _ _)) fun x u => ?_
    split
    · exact inScope_ends (all body _)
    · exact Fatally.pure ()
  | adjust channel e absolute =>
    simp only [execute]
    exact .link _ fun place _ => .argument deaf _ _ e fun v t _ => Fatally.modify

/-- A rule that fails without ending the run leaves everything as it was, drawn and settled values
aside, and leaves those too if it failed over the kind of the place. -/
theorem execute_atomic (deaf : Host.Deaf σ) (settings : Settings) (levels : Nat) (r : Rule Nat)
    (s : State σ ρ α) {f : Fault} {t : State σ ρ α}
    (h : execute ⟨settings, placeWithin settings levels⟩ r s = .error f t) (hf : f.fatal = false) :
    Drew s t ∧ ∀ subject expected found, f = .precondition subject expected found → t = s :=
  (execute_skips deaf settings levels r s).error h hf

/-- An integer is drawn where the name of a tree is needed: it has been drawn and settled. -/
theorem execute_atomic_orchard :
    let random : Random.Scripted := { uniforms := #[] }
    let s : State (Scene Float) Random.Scripted Float :=
      { scene := Scene.orchard, random, cursor := .link (.enter 2 1) }
    let v : Literal := .int (RandomSource.intRange 1 3 random).1
    let t := { s with random := (RandomSource.intRange 1 3 random).2, settled := ⟨[(0, v)]⟩ }
    let r : Rule Nat := .place (.fixed 0 (.range (.int 1) (.int 3)))
    execute ⟨{}, placeWithin {} 11⟩ r s = .error (Shape.text.fault "instance" v) t ∧ Drew s t := by
  intro random s v t r
  have h : execute ⟨{}, placeWithin {} 11⟩ r s = .error (Shape.text.fault "instance" v) t := rfl
  exact ⟨h, (execute_atomic Scene.deaf {} 11 r s h rfl).1⟩

end Derivation

end SceneGrammar

