import SceneGrammar.Proofs.Derivation.Request

/-!
# What a host keeps under a regime

Only requests change what a host is like, a host may listen, and the leaves whose directives run are
marked. Under a regime, a property of the host and of the marked leaves lasts through a run if events,
reading places, copying the children of links, adding links, placing templates and visiting leaves keep
it where the invariant of the regime holds: it becomes part of the invariant (`Regime.upholding`).
-/

namespace SceneGrammar

variable {σ ρ α β : Type}

/-- The leaf whose directive is about to run. -/
def Event.leaf? : Event α → Option NodeId
  | .directive leaf _ => some leaf
  | _ => none

namespace Derivation

/-- An action after which the host and the marked leaves have a property, whether it fails or not. -/
def Leaves (P : σ → List NodeId → Prop) (act : Action σ ρ α β) (s : State σ ρ α) : Prop :=
  Ends act s (fun _ t => P t.scene t.expanded) (fun _ t => P t.scene t.expanded)

/-- What obeys a relation and leaves a property obeys both. -/
lemma Obeys.leaves {R : Option Fault → State σ ρ α → State σ ρ α → Prop}
    {P : σ → List NodeId → Prop} {act : Action σ ρ α β} {s : State σ ρ α} (h : Obeys R act s)
    (k : Leaves P act s) : Obeys (fun o s t => R o s t ∧ P t.scene t.expanded) act s := Ends.and h k

/-- A property of hosts and marked leaves that lasts through what single rules ask of the host under an
invariant, and through marking and entering leaves. -/
structure Upholds [Scalar α] [Host σ α] [RandomSource ρ] (settings : Settings)
    (I : State σ ρ α → Prop) (P : σ → List NodeId → Prop) : Prop where
  observe : ∀ {e : Event α} {s leaves}, e.leaf? = none → P s leaves → P (Host.observe e s) leaves
  world : ∀ n {s leaves}, P s leaves →
    Ends (Host.world (α := α) n) s (fun _ t => P t leaves) (fun _ t => P t leaves)
  copySiblings : ∀ {s : State σ ρ α} {place} name mirror, I s → P s.scene s.expanded →
    s.cursor = .link place → Leaves P (copySiblingChildren settings place name mirror) s
  addLink : ∀ {s : State σ ρ α} {n} name, I s → P s.scene s.expanded → s.cursor.object? = some n →
    Leaves P (addLinkTo settings n name) s
  placeTemplate : ∀ {s : State σ ρ α} {collection members}, I s → P s.scene s.expanded →
    Host.topLevel? s.scene collection = some members →
    Leaves P (placeTemplate settings collection members) s
  mark : ∀ {s t : State σ ρ α} {object leaf text}, I s → I t → s.cursor.object? = some object →
    (leaf, text) ∈ directives settings s.scene object → P t.scene t.expanded →
    P t.scene (leaf :: t.expanded)
  directive : ∀ {s : State σ ρ α} {leaf text},
    Visiting settings (fun t => I t ∧ P t.scene t.expanded) leaf text s → P s.scene s.expanded →
    P (Host.observe (.directive leaf text) s.scene) s.expanded

variable [Scalar α] [Host σ α] [RandomSource ρ] {settings : Settings}
  {G : Bindings Nat Literal → Rule Nat → Prop} {I : State σ ρ α → Prop} {P : σ → List NodeId → Prop}
  {R : Option Fault → State σ ρ α → State σ ρ α → Prop}

namespace Upholds

/-- What a host upholds lasts through preparations. -/
lemma preparing (h : Upholds settings I P) :
    Preparing (fun s t : State σ ρ α => P s.scene s.expanded → P t.scene t.expanded) where
  refl _ := id
  trans k l := l ∘ k
  uniform _ := id
  intRange _ _ _ := id
  settle _ _ _ k := k
  reuse _ _ _ := h.observe rfl
  fix _ _ _ := h.observe rfl
  define _ _ _ _ := id

/-- What a host upholds lasts while a link is entered. -/
lemma enterLink (h : Upholds settings I P) (n : NodeId) {s : State σ ρ α}
    (hs : P s.scene s.expanded) : Leaves P (Derivation.enterLink n) s := by
  unfold Derivation.enterLink
  apply Ends.bind
  refine request_ends ((h.world n hs).imp ?_ (fun _ _ => id))
  exact fun _ scene hscene => Ends.modify hscene

/-- The host is told how deep the run is. -/
lemma atLevel (h : Upholds settings I P) {s : State σ ρ α} (hs : P s.scene s.expanded) :
    P s.atLevel.scene s.atLevel.expanded :=
  h.observe rfl hs

/-- What a host upholds lasts at the end of a definition. -/
lemma closeCapture (h : Upholds settings I P) {s : State σ ρ α} (hs : P s.scene s.expanded) :
    P s.closeCapture.atLevel.scene s.closeCapture.atLevel.expanded := by
  obtain ⟨cursor, captures, e⟩ := s.closeCapture_eq
  rw [e]
  exact h.observe rfl hs

end Upholds

/-! ## What all requests keep -/

omit [Scalar α] [RandomSource ρ] in
/-- What lasts through all requests lasts through those of a run. -/
lemma lasting_asks (h : ∀ leaves, Host.Lasts (P · leaves)) :
    Asks (fun _ (s t : State σ ρ α) => P s.scene s.expanded → P t.scene t.expanded) := by
  have keeps : ∀ {β} {act : Edit σ β}, (∀ leaves s, P s leaves →
      Ends act s (fun _ t => P t leaves) (fun _ t => P t leaves)) → ∀ s : State σ ρ α,
      Obeys (fun _ s t => P s.scene s.expanded → P t.scene t.expanded) (request act) s := by
    intro β act hact s
    apply request_ends
    by_cases hs : P s.scene s.expanded
    · exact (hact s.expanded s.scene hs).imp (fun _ _ ht _ => ht) (fun _ _ ht _ => ht)
    · exact Ends.of_forall (fun _ _ k => absurd k hs) (fun _ _ k => absurd k hs)
  exact {
    refl := fun _ => id
    trans := fun k l => l ∘ k
    offer := fun ha => keeps fun leaves => (h leaves).offer ha
    moveAll := fun n origin target => keeps fun leaves => (h leaves).moveAll n origin target
    addGenerated := fun _ _ => id }

/-- What all requests keep is upheld if events, marks and directives keep it. -/
lemma Upholds.of_lasts (lasts : ∀ leaves, Host.Lasts (P · leaves))
    (observe : ∀ {e : Event α} {s leaves}, e.leaf? = none → P s leaves → P (Host.observe e s) leaves)
    (mark : ∀ {s t : State σ ρ α} {object leaf text}, I s → I t → s.cursor.object? = some object →
      (leaf, text) ∈ directives settings s.scene object → P t.scene t.expanded →
      P t.scene (leaf :: t.expanded))
    (directive : ∀ {s : State σ ρ α} {leaf text},
      Visiting settings (fun t => I t ∧ P t.scene t.expanded) leaf text s → P s.scene s.expanded →
      P (Host.observe (.directive leaf text) s.scene) s.expanded) :
    Upholds settings I P where
  observe := observe
  world n _ leaves := (lasts leaves).offer (.world n) _
  copySiblings {s place} name mirror _ hs _ :=
    ((lasting_asks lasts).copySiblings settings place name mirror s).imp (fun _ _ k => k hs)
      (fun _ _ k => k hs)
  addLink {s n} name _ hs _ :=
    ((lasting_asks lasts).addLink settings n name s).imp (fun _ _ k => k hs) (fun _ _ k => k hs)
  placeTemplate {s collection members} _ hs _ := by
    refine ((lasting_asks lasts).placeTemplate ?link (observe rfl) (fun _ _ => id)
      (fun _ _ => observe rfl)).imp (fun _ _ k => k hs) (fun _ _ k => k hs)
    exact (requireLink_ends _ s).imp (fun _ _ k => k.1 ▸ id) (fun _ _ k => k.1 ▸ id)
  mark := mark
  directive := directive

/-! ## The regime -/

/-- What a host keeps under a regime becomes part of its invariant. -/
theorem Regime.upholding (h : Regime settings G I R) (k : Upholds settings I P) :
    Regime settings G (fun s => I s ∧ P s.scene s.expanded)
      (fun o s t => R o s t ∧ P t.scene t.expanded) where
  refl hs := ⟨h.refl hs.1, hs.2⟩
  trans hst htu := ⟨h.trans hst.1 htu.1, htu.2⟩
  keeps hs hst := ⟨h.keeps hs.1 hst.1, hst.2⟩
  stays hs hst := h.stays hs.1 hst.1
  body := h.body
  known hs := h.known hs.1
  tolerate {f s t} hs hf hst := by
    refine ⟨h.tolerate hs.1 hf hst.1, ?_⟩
    obtain ⟨errors, e⟩ := record_eq settings t f
    rw [e]
    exact hst.2
  misplaced subject expected hs := ⟨h.misplaced subject expected hs.1, hs.2⟩
  draw {s r shape e} hs hr he := by
    refine (h.draw hs.1 hr he).leaves ?_
    exact (k.preparing.resolveAs shape r.word e s).imp (fun _ _ l => l hs.2) (fun _ _ l => l.1 hs.2)
  compile {s source body} hs hr := by
    refine (h.compile hs.1 hr).leaves ?_
    exact (k.preparing.compile source).imp (fun _ _ l => l.1 hs.2) (fun _ _ l => l.1 hs.2)
  random random hs := ⟨h.random random hs.1, hs.2⟩
  rule hs hr := ⟨h.rule hs.1 hr, k.observe rfl hs.2⟩
  define hs hr := ⟨h.define hs.1 hr, k.observe rfl hs.2⟩
  publish {s place} name hs e := by
    refine ⟨h.publish name hs.1 e, ?_⟩
    obtain ⟨captures, e⟩ :=
      (s.noted (.exported name place.node s.captures.length)).publish_eq name place.node
    rw [e]
    exact k.observe rfl hs.2
  adjust offset hs e := ⟨h.adjust offset hs.1 e, hs.2⟩
  copySiblings name mirror hs e :=
    (h.copySiblings name mirror hs.1 e).leaves (k.copySiblings name mirror hs.1 hs.2 e)
  addLink name hs e := (h.addLink name hs.1 e).leaves (k.addLink name hs.1 hs.2 e)
  goTo hs e := (h.goTo hs.1 e).leaves (k.enterLink _ hs.2)
  push hs := ⟨h.push hs.1, hs.2⟩
  pop {o s t} hs hst := by
    refine ⟨h.pop hs.1 hst.1, ?_⟩
    obtain ⟨cursor, scopes, e⟩ := t.popScope_eq
    rw [e]
    exact hst.2
  visit hs hst hl := (h.visit hs.1 hst.1 hl).leaves (k.enterLink _ hst.2)
  placeTemplate hs none e := (h.placeTemplate hs.1 none e).leaves (k.placeTemplate hs.1 hs.2 e)
  visitLeaf hs hst e hl := by
    obtain ⟨mark, enter⟩ := h.visitLeaf hs.1 hst.1 e hl
    have marked := k.mark hs.1 (h.keeps hs.1 hst.1) e hl hst.2
    exact ⟨⟨mark, marked⟩, enter.leaves (k.enterLink _ marked)⟩
  named hs hv e := ⟨h.named hs.1 (hv.mono fun _ => And.left) e, k.directive hv hs.2⟩
  read {s leaf text grammar rules fresh} hs hv e er := by
    have told : P (Host.observe (.directive leaf text) s.scene) s.expanded := k.directive hv hs.2
    have read := h.read hs.1 (hv.mono fun _ => And.left) e er
    refine (read.and (k.preparing.prepareAll rules _)).imp ?_ ?_
    · exact fun _ t l => ⟨⟨l.1.1, l.2.1 told⟩, l.1.2⟩
    · rintro f t ⟨ht, l, -⟩
      obtain ⟨errors, e⟩ := record_eq settings t f
      rw [e] at ht ⊢
      exact ⟨ht, l told⟩
  descend hs hd := ⟨h.descend hs.1 hd, k.atLevel hs.2⟩
  ascend hs hd hst := ⟨h.ascend hs.1 hd hst.1, k.atLevel hst.2⟩
  expanded hs e := ⟨h.expanded hs.1 e, k.observe rfl hs.2⟩
  openCapture hs := ⟨h.openCapture hs.1, k.atLevel hs.2⟩
  closeCapture hs hst := ⟨h.closeCapture hs.1 hst.1, k.closeCapture hst.2⟩
  expand hs hd hst htu huv := ⟨h.expand hs.1 hd hst.1 htu.1 huv.1, k.atLevel huv.2⟩
  abort hs hd hst htu := ⟨h.abort hs.1 hd hst.1 htu.1, k.atLevel (k.closeCapture htu.2)⟩

end Derivation

end SceneGrammar
