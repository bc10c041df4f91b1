import Mathlib.Data.List.Forall2
import SceneGrammar.Proofs.Derivation.Request
import SceneGrammar.Random.Stream

/-!
# Balance

Whatever a rule does and however it ends, the open scopes and the depth are afterwards what they were
before, and the definitions being expanded are the same ones. They may have been given an object, but
keep the object they had, and only the innermost one publishes links. A rule that has a body, or that
only adds to what there is, leaves the cursor where it was.
-/

namespace SceneGrammar

/-- The same definition being expanded, with the object it had. -/
structure Capture.Holds {α : Type} (c d : Capture α) : Prop where
  entry : d.entry = c.entry
  object : ∀ n, c.object = some n → d.object = some n

/-- The same definitions being expanded, where those below the innermost one publish nothing. -/
structure Capture.Kept {α : Type} (cs ds : List (Capture α)) : Prop where
  frames : List.Forall₂ Capture.Holds cs ds
  aliases : ds.tail.map (·.aliases) = cs.tail.map (·.aliases)

/-- The rules that come back to the cursor they started from. -/
def Rule.stationary {ι : Type} : Rule ι → Bool
  | .define _ _ | .exportLink _ | .block _ | .times _ _ | .copySibling _ _ | .addLink _
  | .forLinks _ _ | .maybe _ _ => true
  | .place _ | .goTo _ | .adjust _ _ _ => false

namespace Capture
variable {α : Type} {c d e : Capture α} {cs ds es : List (Capture α)}

lemma Holds.refl (c : Capture α) : Holds c c := ⟨rfl, fun _ => id⟩

/-- The same definition is being expanded after two steps that leave it. -/
lemma Holds.trans (h : Holds c d) (k : Holds d e) : Holds c e :=
  ⟨k.entry.trans h.entry, fun n hn => k.object n (h.object n hn)⟩

lemma Kept.refl (cs : List (Capture α)) : Kept cs cs :=
  ⟨List.forall₂_same.mpr fun c _ => .refl c, rfl⟩

/-- The same definitions are being expanded after two steps that leave them. -/
lemma Kept.trans (h : Kept cs ds) (k : Kept ds es) : Kept cs es := by
  refine ⟨?_, k.aliases.trans h.aliases⟩
  have hf := h.frames
  have kf := k.frames
  clear h k
  induction hf generalizing es with
  | nil => exact kf
  | cons hcd _ ih =>
    cases kf with
    | cons hde krest => exact .cons (hcd.trans hde) (ih krest)

/-- Offering an object to definitions keeps them. -/
lemma kept_offer (cs : List (Capture α)) (n : NodeId) :
    Kept cs (cs.map fun c => { c with object := c.object <|> some n }) := by
  constructor
  · rw [List.forall₂_map_right_iff, List.forall₂_same]
    intro c _
    exact ⟨rfl, fun m hm => by simp [hm]⟩
  · simp [← List.map_tail, Function.comp_def]

/-- Publishing a link keeps definitions. -/
lemma kept_publish (c : Capture α) (cs : List (Capture α)) (aliases : Aliases) :
    Kept (c :: cs) ({ c with aliases } :: cs) :=
  ⟨.cons ⟨rfl, fun _ => id⟩ (List.forall₂_same.mpr fun c _ => .refl c), rfl⟩

/-- What is kept while one more definition is expanded is kept. -/
lemma Kept.below (h : Kept (c :: cs) (d :: ds)) : Kept cs ds := by
  cases h.frames with
  | cons _ hf => exact ⟨hf, by simpa using congrArg List.tail h.aliases⟩

end Capture

namespace Derivation

variable {σ ρ α β : Type}

/-- Two states in the same scopes, instances and definitions. -/
structure Balanced (s t : State σ ρ α) : Prop where
  scopes : t.scopes = s.scopes
  depth : t.depth = s.depth
  captures : Capture.Kept s.captures t.captures

namespace Balanced
variable {s t u v : State σ ρ α}

lemma of_eq (h₁ : t.scopes = s.scopes) (h₂ : t.depth = s.depth) (h₃ : t.captures = s.captures) :
    Balanced s t := ⟨h₁, h₂, h₃ ▸ .refl _⟩

/-- Balanced steps are balanced one after the other. -/
lemma trans (h : Balanced s t) (k : Balanced t u) : Balanced s u :=
  ⟨k.scopes.trans h.scopes, k.depth.trans h.depth, h.captures.trans k.captures⟩

lemma addPlaced (s : State σ ρ α) (n : NodeId) : Balanced s (s.addPlaced n) :=
  ⟨rfl, rfl, Capture.kept_offer s.captures n⟩

/-- Publishing a link is balanced. -/
lemma publish (s : State σ ρ α) (name : String) (link : NodeId) :
    Balanced s (s.publish name link) := by
  unfold State.publish
  split
  · next c cs e => exact ⟨rfl, rfl, by rw [e]; exact Capture.kept_publish c cs _⟩
  · exact .of_eq rfl rfl rfl

/-- Closing the scope that was opened leads back to the cursor there. -/
lemma popScope (h : Balanced s.pushScope t) : Balanced s t.popScope ∧ t.popScope.cursor = s.cursor := by
  have e : t.scopes = s.cursor :: s.scopes := h.scopes
  unfold State.popScope
  rw [e]
  exact ⟨⟨rfl, h.depth, h.captures⟩, rfl⟩

/-- Ending the expansion that was begun leads back to the definitions around it. -/
lemma closeCapture (h : Balanced s.openCapture t) : Balanced s t.closeCapture := by
  have hc : Capture.Kept ({ entry := s.cursor } :: s.captures) t.captures := h.captures
  unfold State.closeCapture
  cases e : t.captures with
  | nil =>
    rw [e] at hc
    cases hc.frames
  | cons c cs =>
    rw [e] at hc
    dsimp only
    cases c.object with
    | some n => exact ⟨h.scopes, h.depth, hc.below⟩
    | none => exact ⟨h.scopes, h.depth, hc.below⟩

/-- A step that is balanced an instance deeper is so when the run has come up. -/
lemma ascend (h : Balanced s.descend t) : Balanced s t.ascend := by
  have e : t.depth = s.depth + 1 := h.depth
  exact ⟨h.scopes, by simp [State.ascend, e], h.captures⟩

end Balanced

/-- Two states in the same scopes, instances and definitions, and at the same cursor. -/
structure Returned (s t : State σ ρ α) : Prop extends Balanced s t where
  cursor : t.cursor = s.cursor

namespace Returned
variable {s t u : State σ ρ α}

lemma of_eq (h₁ : t.scopes = s.scopes) (h₂ : t.depth = s.depth) (h₃ : t.captures = s.captures)
    (h₄ : t.cursor = s.cursor) : Returned s t := ⟨.of_eq h₁ h₂ h₃, h₄⟩

/-- Steps that return do so one after the other. -/
lemma trans (h : Returned s t) (k : Returned t u) : Returned s u :=
  ⟨h.toBalanced.trans k.toBalanced, k.cursor.trans h.cursor⟩

/-- Publishing a link leaves the cursor. -/
lemma publish (s : State σ ρ α) (name : String) (link : NodeId) :
    Returned s (s.publish name link) := by
  obtain ⟨_, e⟩ := s.publish_eq name link
  exact ⟨.publish s name link, by rw [e]⟩

end Returned

/-- What is done in a scope comes back. -/
lemma inScope_returned {act : Action σ ρ α Unit}
    (h : ∀ s, Ends act s (fun _ => Balanced s) (fun _ => Balanced s)) :
    Quiet Returned (inScope act) := by
  intro s
  apply inScope_ends
  refine (h s.pushScope).imp ?_ ?_
  · intro _ t ht
    exact ⟨ht.popScope.1, ht.popScope.2⟩
  · intro _ t ht
    exact ⟨ht.popScope.1, ht.popScope.2⟩

/-- A request changes the host only. -/
lemma request_returned {act : Edit σ β} : Quiet Returned (request act : Action σ ρ α β) := by
  intro s
  apply request_ends
  unfold Ends
  split
  · exact .of_eq rfl rfl rfl rfl
  · exact .of_eq rfl rfl rfl rfl

variable [Host σ α]

/-- Telling the depth is balanced. -/
lemma State.balanced_atLevel (s : State σ ρ α) : Balanced s s.atLevel := .of_eq rfl rfl rfl

/-- Requests and preparations are balanced. -/
lemma balanced_serves : Serves (Balanced : State σ ρ α → State σ ρ α → Prop) where
  refl _ := .of_eq rfl rfl rfl
  trans h k := h.trans k
  note _ := .of_eq rfl rfl rfl
  book _ _ _ _ _ _ _ := .of_eq rfl rfl rfl
  offer _ s := (request_returned s).imp (fun _ _ h => h.toBalanced) (fun _ _ h => h.toBalanced)
  moveAll _ _ _ s := (request_returned s).imp (fun _ _ h => h.toBalanced) (fun _ _ h => h.toBalanced)
  addGenerated _ _ := .of_eq rfl rfl rfl

/-- Requests and preparations leave the cursor. -/
lemma returned_serves : Serves (Returned : State σ ρ α → State σ ρ α → Prop) where
  refl _ := .of_eq rfl rfl rfl rfl
  trans h k := h.trans k
  note _ := .of_eq rfl rfl rfl rfl
  book _ _ _ _ _ _ _ := .of_eq rfl rfl rfl rfl
  offer _ := request_returned
  moveAll _ _ _ := request_returned
  addGenerated _ _ := .of_eq rfl rfl rfl rfl

variable [Scalar α] [RandomSource ρ]

/-- Balance is how all rules leave the state. -/
lemma balanced_conduct (settings : Settings) :
    Conduct settings (fun _ => (Balanced : State σ ρ α → State σ ρ α → Prop)) := by
  refine balanced_serves.conduct (fun _ _ => .of_eq rfl rfl rfl) .addPlaced .publish
    (fun h => h.popScope.1) ?_ ?_
  · intro s t _ h
    exact (s.descend.balanced_atLevel.trans h).ascend.trans t.ascend.balanced_atLevel
  · intro s t u v _ h k l
    have hk := (t.openCapture.balanced_atLevel.trans k).closeCapture
    have body := h.trans (hk.trans (u.closeCapture.balanced_atLevel.trans l))
    exact (s.descend.balanced_atLevel.trans body).ascend.trans v.ascend.balanced_atLevel

variable {settings : Settings} {place : String → Action σ ρ α Unit}

/-- A stationary rule comes back to its cursor. -/
lemma execute_returned (hp : Conduct.Inner (fun _ => Balanced) place) {r : Rule Nat}
    (hr : r.stationary = true) : Quiet Returned (execute ⟨settings, place⟩ r) := by
  have h := returned_serves (σ := σ) (ρ := ρ) (α := α)
  have b := balanced_conduct (σ := σ) (ρ := ρ) settings
  have body := fun rs => inScope_returned (b.executeAll hp rs)
  cases r with
  | define name body =>
    simp only [execute]
    exact h.bind (h.tell fun _ => trivial) fun _ => h.define name body
  | exportLink e =>
    simp only [execute]
    refine h.bind (h.link _) fun place => ?_
    refine h.bind (h.resolveAs _ _ e) fun name => ?_
    unfold publish
    intro s
    apply Ends.get
    apply Ends.bind
    refine Ends.modify (Ends.modify ?_)
    exact (h.note (e := .exported name place.node _) rfl).trans (.publish _ name place.node)
  | block rs =>
    simp only [execute]
    exact body rs
  | times e rs =>
    simp only [execute]
    refine h.bind (h.resolveAs _ _ e) fun n => ?_
    -- All rounds share one scope. Each begins where the one before has ended.
    exact inScope_returned (b.iterate (b.executeAll hp rs) n)
  | copySibling e mirror =>
    simp only [execute]
    refine h.bind (h.link _) fun place => ?_
    exact h.bind (h.resolveAs _ _ e) fun name => h.asks.copySiblings settings place name mirror
  | addLink e =>
    simp only [execute]
    refine h.bind (h.object _) fun n => ?_
    exact h.bind (h.resolveAs _ _ e) fun name => h.asks.addLink settings n name
  | forLinks source rs =>
    simp only [execute]
    refine h.bind (h.object _) fun n => ?_
    refine h.bind (h.compile source) fun p => ?_
    refine h.bind h.get fun s t => ?_
    -- Entering a link moves the cursor, but within a scope of its own.
    refine Obeys.forM (R := fun _ => Returned) (h.refl t) h.trans fun link _ u _ => ?_
    exact inScope_returned (fun v => b.bind (b.enter v link) fun _ w => b.executeAll hp rs w) u
  | maybe e rs =>
    simp only [execute]
    refine h.bind (h.resolveAs _ _ e) fun ratio => ?_
    refine h.bind h.uniform fun x => ?_
    split
    · exact body rs
    · exact h.pure ()
  | place e => cases hr
  | goTo e => cases hr
  | adjust channel e absolute => cases hr

/-- However a rule ends, it leaves the scopes, the depth and the definitions being expanded balanced,
and a stationary rule leaves the cursor. -/
theorem execute_balanced (settings : Settings) (levels : Nat) (r : Rule Nat) (s : State σ ρ α) :
    Balanced s (after (execute ⟨settings, placeWithin settings levels⟩ r) s) ∧
      (r.stationary = true →
        (after (execute ⟨settings, placeWithin settings levels⟩ r) s).cursor = s.cursor) := by
  have b := balanced_conduct (σ := σ) (ρ := ρ) settings
  constructor
  · exact Ends.after (b.execute (b.placeWithin levels) r s)
  · intro hr
    exact (Ends.after (execute_returned (b.placeWithin levels) hr s)).cursor

/-- Placing two trees in the orchard comes back to the root. -/
theorem execute_balanced_orchard :
    let s : State (Scene Float) Random.Stream Float :=
      { scene := Scene.orchard, random := .ofSeed 0, cursor := .link (.enter 2 1) }
    let r : Rule Nat := .times (.literal (.int 2)) [.place (.literal (.str "trees"))]
    r.stationary = true ∧ (after (execute ⟨{}, placeWithin {} 11⟩ r) s).cursor = s.cursor :=
  ⟨rfl, (execute_balanced {} 11 _ _).2 rfl⟩

end Derivation

end SceneGrammar
