import SceneGrammar.Derivation.Place
import SceneGrammar.Proofs.Derivation.Twin.Execute
import SceneGrammar.Proofs.Derivation.Verdict

/-!
# Instances of twin runs

Placing a name keeps alike runs alike if what the instance places in its turn does so one instance
further down (`Twin.placeInstance`).
-/

namespace SceneGrammar

variable {σ τ ρ α β : Type} [Host σ α] [Host τ α] {L : Likeness σ τ α}
  {settings settings' : Settings}

/-! ## What is read -/

namespace Likeness.Fits
variable {scene : σ} {scene' : τ}

/-- Hosts that fit give templates the same weights. -/
lemma templateWeight (h : L.Fits settings settings') (hs : L.host scene scene') :
    Derivation.templateWeight settings' scene' = Derivation.templateWeight settings scene := by
  funext n
  unfold Derivation.templateWeight
  rw [h.weightKey, h.property? hs n _ (List.mem_cons_of_mem _ List.mem_cons_self)]

/-- Hosts that fit have the same directives below a node. -/
lemma directives (h : L.Fits settings settings') (hs : L.host scene scene') (root : NodeId) :
    Derivation.directives settings' scene' root = Derivation.directives settings scene root := by
  have property : ∀ n, Host.property? scene' n settings.directiveKey
      = Host.property? scene n settings.directiveKey := fun n =>
    h.property? hs n _ (by simp [Settings.keys])
  unfold Derivation.directives
  simp only [h.descendants root hs, h.children hs, h.directiveKey, property]

end Likeness.Fits

namespace Derivation

namespace Twin
variable [Scalar α] [RandomSource ρ] {inner : String → Action σ ρ α Unit}
  {inner' : String → Action τ ρ α Unit} {d : Nat} {s : State σ ρ α} {s' : State τ ρ α}

/-- Alike runs place a template alike. -/
lemma placeTemplate (h : L.Fits settings settings') (collection : String) (members : List NodeId)
    (hs : s.Alike L d s') :
    Twin L d Eq (Derivation.placeTemplate settings collection members : Action σ ρ α Unit)
      (Derivation.placeTemplate settings' collection members) s s' := by
  unfold Derivation.placeTemplate
  refine .bind (requireLink _ hs) fun p p' t t' hp ht => ?_
  apply Paired.get
  dsimp only
  rw [h.templateWeight ht.host]
  refine .bind (note h.toLasts ht (.same _)) fun _ _ t t' _ ht => ?_
  refine .bind (uniform ht) fun x _ t t' hx ht => ?_
  subst hx
  split
  · exact .pure rfl ht
  · next template _ =>
    refine placeCopy h.toLasts hp template ht fun copy u u' hu => ?_
    refine .bind (.modify (hu.goTo (.object copy))) fun _ _ v v' _ hv => ?_
    apply Paired.get
    rw [← hv.captures.length_eq]
    exact .bind (note h.toLasts hv (.same _)) fun _ _ w w' _ hw => .modify (hw.addPlaced copy)

/-- Alike runs carry out the directive of a leaf alike, if they place instances alike. -/
lemma runDirective (h : L.Fits settings settings')
    (hinner : ∀ name t t', t.Alike L d t' → Twin L d Eq (inner name) (inner' name) t t')
    (leaf : NodeId) (text : String) (hs : s.Alike L d s') :
    Twin L d Eq (Derivation.runDirective ⟨settings, inner⟩ leaf text)
      (Derivation.runDirective ⟨settings', inner'⟩ leaf text) s s' := by
  unfold Derivation.runDirective
  refine .bind (note h.toLasts hs (.same _)) fun _ _ t t' _ ht => ?_
  cases Grammar.parse? text with
  | none => exact hinner _ t t' ht
  | some grammar =>
    -- The first label that is free is the same in both runs, and so are the labels of the grammar.
    apply Paired.get
    rw [ht.freshLabel]
    refine .bind (.modify { ht with freshLabel := rfl }) fun _ _ u u' _ hu => ?_
    have prepared := prepareAll h.toLasts (Rule.numberAll grammar t.freshLabel).1 u u' hu
    refine Paired.elim prepared ?_ ?_ ?_ ?_
    · intro _ _ v v' e e' _ hv
      have run : Twin L d Eq (Derivation.executeAll ⟨settings, inner⟩ _)
          (Derivation.executeAll ⟨settings', inner'⟩ _) v v' :=
        executeAll h hinner (Rule.numberAll grammar t.freshLabel).1 v v' hv
      exact .of_eq (by simp only [e]) (by simp only [e']) run
    · intro f v v' e e' hv
      exact .of_eq (by simp only [e]; rfl) (by simp only [e']; rfl) (.pure rfl (h.record f hv))
    · rintro f v e ⟨g, rfl, -⟩
      exact absurd e (preparing_any.prepareAll _ u).not_refused
    · rintro f v e ⟨g, rfl, -⟩
      exact absurd e (preparing_any.prepareAll _ u').not_refused

/-- Alike runs expand a leaf alike, if they place instances alike. -/
lemma expandLeaf (h : L.Fits settings settings')
    (hinner : ∀ name t t', t.Alike L d t' → Twin L d Eq (inner name) (inner' name) t t')
    (leaf : NodeId) (text : String) (hs : s.Alike L d s') :
    Twin L d Eq (Derivation.expandLeaf ⟨settings, inner⟩ leaf text)
      (Derivation.expandLeaf ⟨settings', inner'⟩ leaf text) s s' := by
  unfold Derivation.expandLeaf
  apply Paired.get
  rw [hs.expanded]
  split
  · exact .pure rfl hs
  · have mark := congrArg (leaf :: ·) hs.expanded
    refine .bind (.modify { hs with expanded := mark }) fun _ _ t t' _ ht => inScope ?_
    refine .bind (enterLink h.toLasts leaf ht.pushScope) fun _ _ u u' _ hu => ?_
    exact runDirective h hinner leaf text hu

/-- Alike runs expand the leaves below an object alike, if they place instances alike. -/
lemma expandLeaves (h : L.Fits settings settings')
    (hinner : ∀ name t t', t.Alike L d t' → Twin L d Eq (inner name) (inner' name) t t')
    (hs : s.Alike L d s') :
    Twin L d Eq (Derivation.expandLeaves ⟨settings, inner⟩)
      (Derivation.expandLeaves ⟨settings', inner'⟩) s s' := by
  unfold Derivation.expandLeaves
  apply Paired.get
  rw [hs.cursor.object?]
  cases s.cursor.object? with
  | none => exact .pure rfl hs
  | some object =>
    dsimp only
    rw [h.directives hs.host]
    exact .forM hs fun p _ t t' ht => expandLeaf h hinner p.1 p.2 ht

/-- Alike runs place a name alike, if they place instances alike. -/
lemma placeName (h : L.Fits settings settings')
    (hinner : ∀ name t t', t.Alike L d t' → Twin L d Eq (inner name) (inner' name) t t')
    (name : String) (hs : s.Alike L d s') :
    Twin L d Eq (Derivation.placeName ⟨settings, inner⟩ name)
      (Derivation.placeName ⟨settings', inner'⟩ name) s s' := by
  unfold Derivation.placeName
  apply Paired.get
  rw [hs.definitions]
  cases s.definitions.get? name with
  | some body =>
    refine .bind (note h.toLasts hs (.same _)) fun _ _ t t' _ ht => ?_
    have opened := ht.openCapture.atLevel h.toLasts
    refine .bind (captured h.toLasts (executeAll h hinner body _ _ opened)) fun _ _ u u' _ hu => ?_
    exact expandLeaves h hinner hu
  | none =>
    dsimp only
    rw [h.topLevel? hs.host]
    cases Host.topLevel? s.scene name with
    | some members =>
      refine .bind (placeTemplate h name members hs) fun _ _ t t' _ ht => ?_
      exact expandLeaves h hinner ht
    | none => exact .pure rfl hs

/-- Placing a name, where the instance may differ in what it places in its turn as long as that keeps
runs alike one instance further down. -/
theorem placeInstance (h : L.Fits settings settings') (name : String) (hs : s.Alike L d s')
    (hinner : d ≤ settings.maxDepth.toNat → ∀ name t t', t.Alike L (d + 1) t' →
      Twin L (d + 1) Eq (inner name) (inner' name) t t') :
    Twin L d Eq (Derivation.placeInstance settings inner name)
      (Derivation.placeInstance settings' inner' name) s s' := by
  unfold Derivation.placeInstance
  apply Paired.get
  rw [h.maxDepth, hs.depth', hs.depth]
  split
  · exact .pure rfl hs
  · next hd =>
    refine nested h.toLasts (placeName h (hinner (Nat.le_of_not_lt hd)) name ?_)
    exact hs.descend.atLevel h.toLasts

/-- Alike runs place a name alike, however many instances may nest. -/
theorem placeWithin (h : L.Fits settings settings') (levels : Nat) (name : String) (d : Nat)
    (s : State σ ρ α) (s' : State τ ρ α) (hs : s.Alike L d s') :
    Twin L d Eq (Derivation.placeWithin settings levels name)
      (Derivation.placeWithin settings' levels name) s s' := by
  induction levels generalizing name d s s' with
  | zero => exact .pure rfl hs
  | succ levels ih =>
    exact placeInstance h name hs fun _ name t t' ht => ih name (d + 1) t t' ht

end Twin

end Derivation

end SceneGrammar
