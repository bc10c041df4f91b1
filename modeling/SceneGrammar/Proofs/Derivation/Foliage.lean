import SceneGrammar.Proofs.Derivation.Depth
import SceneGrammar.Proofs.Derivation.Upholding
import SceneGrammar.Proofs.Grammar.Definitions
import SceneGrammar.Proofs.Scene.Foliage

/-!
# What the directives of leaves say

A run changes directives of leaves by copying them only: links that it creates have another key, and what
it copies has leaves where the template has them. So if no directive of a leaf defines anything when the
run begins, no directive that is carried out does (`foliage_upholds`).
-/

namespace SceneGrammar.Derivation

open Scene (Foliage)

variable {ρ α : Type} [Scalar α] {settings : Settings} {s : State (Scene α) ρ α} {n : NodeId}
  {key : String} {Q : Literal → Prop}

/-- A link and a directive have different keys. -/
lemma linkKey_ne_directiveKey (settings : Settings) : settings.linkKey ≠ settings.directiveKey := by
  unfold Settings.linkKey Settings.directiveKey Settings.key
  split
  · decide
  · intro e
    exact absurd (String.append_right_inj _ |>.mp e) (by decide)

/-- A copy is brought to its place. -/
lemma foliage_handles (key : String) (Q : Literal → Prop) (n : NodeId) :
    Handles (fun (_ : Option Fault) (s t : State (Scene α) ρ α) =>
      Foliage key Q (· = n) s.scene → Foliage key Q (· = n) t.scene) n where
  trans h k := k ∘ h
  world m := request_keeps fun s hs =>
    (Scene.world_ends s m).imp (fun _ _ e => e ▸ hs) (fun _ _ e => e ▸ hs)
  setWorld w := request_keeps fun _ hs => hs.setWorld n w
  moveAll origin target := request_keeps fun s hs =>
    Host.moveAll_ends (N := fun _ => True)
      (fun m _ _ h => h.update (by simp) (by simp) (by simp) m)
      (fun _ _ _ _ _ _ => trivial) n s trivial hs
  reparent p := request_keeps fun _ hs => hs.reparent p
  flip := request_keeps fun _ hs => hs.update (by simp) (by simp) (by simp) n
  bake := request_keeps fun _ hs => hs.update (by simp) (by simp) (by simp) n

/-! ## Rules -/

/-- A copy of a child is at its place at the end, and no leaf was made on the way. -/
lemma copyChild_foliage (h : Foliage key Q (fun _ => False) s.scene) (place : LinkPlace α)
    (mirror : Option Axis) (child : NodeId) :
    Leaves (fun t _ => Foliage key Q (fun _ => False) t) (copyChild place mirror child) s := by
  unfold copyChild
  apply Ends.bind
  refine request_ends ((h.duplicate child).imp ?_ (fun _ _ => id))
  intro copy scene h
  have handles := foliage_handles (ρ := ρ) (α := α) key Q copy
  refine Ends.imp (handles.settle place { s with scene } fun t _ => ?_) (fun _ _ k => (k h).home)
    (fun _ _ k => (k h).home)
  cases mirror with
  | some axis =>
    apply Ends.bind
    exact (handles.mirrorAt place.node axis t).imp (fun _ _ k => Ends.modify k) (fun _ _ k => k)
  | none => exact Ends.bind (Ends.pure (Ends.modify id))

/-- Copying the children of a sibling leaves what leaves hold. -/
lemma copySiblings_foliage (h : Foliage key Q (fun _ => False) s.scene) (settings : Settings)
    (place : LinkPlace α) (name : String) (mirror : Option Axis) :
    Leaves (fun t _ => Foliage key Q (fun _ => False) t)
      (copySiblingChildren settings place name mirror) s := by
  unfold copySiblingChildren
  apply Ends.get
  dsimp only
  split
  · exact Ends.pure h
  · split
    · exact Ends.pure h
    · exact Ends.forM (I := fun t : State (Scene α) ρ α => Foliage key Q (fun _ => False) t.scene) h
        fun child _ t ht => copyChild_foliage ht place mirror child

/-- A new link holds its name. -/
lemma addLink_foliage (h : Foliage settings.directiveKey Q (fun _ => False) s.scene) (object : NodeId)
    (name : String) :
    Leaves (fun t _ => Foliage settings.directiveKey Q (fun _ => False) t)
      (addLinkTo settings object name) s := by
  unfold addLinkTo
  apply Ends.bind
  refine request_ends ((Scene.world_ends s.scene object).imp ?_ (fun _ _ e => e ▸ h))
  rintro w _ rfl
  apply Ends.bind
  refine request_ends ((h.addMarker w object).imp ?_ (fun _ _ => id))
  intro marker scene h
  exact request_ends (h.setProperty (linkKey_ne_directiveKey settings) marker _)

/-- Placing a template leaves what leaves hold. -/
lemma placeTemplate_foliage [RandomSource ρ] (h : Foliage key Q (fun _ => False) s.scene)
    (settings : Settings) (collection : String) (members : List NodeId) :
    Leaves (fun t _ => Foliage key Q (fun _ => False) t)
      (placeTemplate settings collection members) s := by
  unfold placeTemplate
  apply Ends.bind
  refine (requireLink_ends "instance" s).imp ?_ (fun _ _ k => k.1 ▸ h)
  rintro place _ ⟨rfl, -⟩
  apply Ends.get
  refine Ends.bind (Ends.modify (Ends.bind (Ends.modifyGet ?_)))
  dsimp only
  split
  · exact Ends.pure h
  · next template _ =>
    apply Ends.bind
    refine request_ends ((h.duplicate template).imp ?_ (fun _ _ => id))
    intro copy scene h
    refine Ends.imp ((foliage_handles key Q copy).settle place _ fun u _ => ?_) (fun _ _ k => (k h).home)
      (fun _ _ k => (k h).home)
    exact Ends.bind (Ends.modify (Ends.get (Ends.bind (Ends.modify (Ends.modify id)))))

/-- What leaves hold lasts through a run. -/
lemma foliage_upholds [RandomSource ρ] (settings : Settings) (Q : Literal → Prop)
    (I : State (Scene α) ρ α → Prop) :
    Upholds settings I (fun scene _ => Foliage settings.directiveKey Q (fun _ => False) scene) where
  observe _ h := h
  world n s _ h := (Scene.world_ends s n).imp (fun _ _ e => e ▸ h) (fun _ _ e => e ▸ h)
  copySiblings name mirror _ h _ := copySiblings_foliage h settings _ name mirror
  addLink name _ h _ := addLink_foliage h _ name
  placeTemplate _ h _ := placeTemplate_foliage h settings _ _
  mark _ _ _ _ h := h
  directive _ h := h

end SceneGrammar.Derivation
