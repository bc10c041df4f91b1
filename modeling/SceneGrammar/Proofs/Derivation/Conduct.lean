import SceneGrammar.Proofs.Derivation.Regime

/-!
# What every run obeys

A `Conduct` relates the states before and after a part of a run and the fault that ended it, if there
was one. It is a regime without an invariant and for rules of every kind (`Conduct.regime`), and asks
for the single effects of rules wherever they take place. Then every rule obeys it, however deep
instances nest: `Conduct.execute`, `Conduct.executeAll` and `Conduct.placeWithin`.
-/

namespace SceneGrammar.Derivation

variable {σ ρ α β γ : Type} [Scalar α] [Host σ α] [RandomSource ρ]

/-- A relation that the effects of rules satisfy and that what is around rules passes on. -/
structure Conduct (settings : Settings) (R : Option Fault → State σ ρ α → State σ ρ α → Prop) :
    Prop where
  refl : ∀ s, R none s s
  trans : ∀ {o s t u}, R none s t → R o t u → R o s u
  /-- A fault does not undo anything. -/
  stop : ∀ {s t} f, R none s t → R (some f) s t
  /-- A fault that is not fatal leaves no trace. -/
  tolerate : ∀ {f s t}, f.fatal = false → R (some f) s t → R none s t
  note : ∀ {o s t e}, t.Shows e → R o s t → R o s (t.noted e)
  book : ∀ s random definitions settled freshLabel expanded errors,
    R none s { s with random, definitions, settled, freshLabel, expanded, errors }
  publish : ∀ s name link, R none s (s.publish name link)
  adjust : ∀ {s place} offset, s.cursor = .link place →
    R none s { s with cursor := .link { place with offset } }
  scope : ∀ {o s t}, R o s.pushScope t → R o s t.popScope
  /-- An instance that is no definition. -/
  descend : ∀ {o s t}, s.depth ≤ settings.maxDepth.toNat → R o s.descend.atLevel t →
    R o s t.ascend.atLevel
  /-- An instance of a definition, and what follows the definition there. -/
  expand : ∀ {o s t u v}, s.depth ≤ settings.maxDepth.toNat → R none s.descend.atLevel t →
    R none t.openCapture.atLevel u → R o u.closeCapture.atLevel v → R o s v.ascend.atLevel
  /-- An instance of a definition that ends in a fault. -/
  abort : ∀ {f s t u}, s.depth ≤ settings.maxDepth.toNat → R none s.descend.atLevel t →
    R (some f) t.openCapture.atLevel u → R (some f) s u.closeCapture.atLevel.ascend.atLevel
  enter : ∀ s n, Obeys R (enterLink n) s
  copySiblings : ∀ s place name mirror, Obeys R (copySiblingChildren settings place name mirror) s
  addLink : ∀ {s n} name, s.cursor.object? = some n → Obeys R (addLinkTo settings n name) s
  placeTemplate : ∀ s collection members, Obeys R (placeTemplate settings collection members) s

namespace Conduct
variable {settings : Settings} {R : Option Fault → State σ ρ α → State σ ρ α → Prop}
  {s : State σ ρ α}

/-- Drawing and preparing obey a conduct. -/
lemma calm (h : Conduct settings R) : Calm (R none) where
  refl := h.refl
  trans := h.trans
  note e := h.note e (h.refl _)
  book := h.book

/-- Quiet actions are what a run may do. -/
lemma of_quiet (h : Conduct settings R) {act : Action σ ρ α β} (ha : Quiet (R none) act) :
    Obeys R act s :=
  (ha s).imp (fun _ _ => id) (fun f _ => h.stop f)

/-- One action after another is what a run may do. -/
lemma bind (h : Conduct settings R) {act : Action σ ρ α β} {k : β → Action σ ρ α γ}
    (ha : Obeys R act s) (hk : ∀ b t, Obeys R (k b) t) : Obeys R (act >>= k) s :=
  Obeys.bind h.trans ha fun b t _ => hk b t

/-- Recording a fault is what a run may do. -/
lemma record (h : Conduct settings R) (s : State σ ρ α) (f : Fault) :
    R none s (s.record settings f) := by
  obtain ⟨errors, e⟩ := record_eq settings s f
  rw [e]
  exact h.book s s.random s.definitions s.settled s.freshLabel s.expanded errors

/-- Preparing the grammar of a directive obeys a conduct. -/
lemma read (h : Conduct settings R) (leaf : NodeId) (text : String) (rules : List (Rule Nat))
    (fresh : Nat) : Ends (prepareAll rules) { s.noted (.directive leaf text) with freshLabel := fresh }
      (fun _ t => R none s t ∧ ∀ r ∈ rules, True) (fun f t => R none s (t.record settings f)) := by
  have told := h.note (e := .directive leaf text) trivial (h.refl s)
  have labelled := h.trans told
    (h.book _ s.random s.definitions s.settled fresh s.expanded s.errors)
  refine (h.calm.prepareAll rules _).imp ?_ ?_
  · exact fun _ t ht => ⟨h.trans labelled ht, fun _ _ => trivial⟩
  · exact fun f t ht => h.trans labelled (h.trans ht (h.record t f))

/-- A conduct is a regime under an invariant that it keeps and that scopes, instances and definitions
keep. -/
lemma under (h : Conduct settings R) {I : State σ ρ α → Prop}
    (keeps : ∀ {o s t}, I s → R o s t → I t) (push : ∀ {s}, I s → I s.pushScope)
    (descend : ∀ {s}, I s → I s.descend.atLevel) (openCapture : ∀ {s}, I s → I s.openCapture.atLevel)
    (closeCapture : ∀ {t}, I t → I t.closeCapture.atLevel) :
    Regime settings (fun _ _ => True) I R where
  refl _ := h.refl _
  trans := h.trans
  keeps := keeps
  body _ _ _ := trivial
  known _ _ _ _ := trivial
  tolerate _ hf k := h.trans (h.tolerate hf k) (h.record _ _)
  misplaced _ _ _ := h.stop _ (h.refl _)
  draw _ _ _ := h.of_quiet (h.calm.resolveAs _ _ _)
  compile _ _ := h.of_quiet (h.calm.compile _)
  random _ _ := h.book _ _ _ _ _ _ _
  rule _ _ := h.note ⟨rfl, rfl, rfl, rfl⟩ (h.refl _)
  define {s name body} _ _ := by
    have told := h.note (e := .defined name body) trivial (h.refl s)
    exact h.trans told (h.book _ _ _ _ _ _ _)
  publish {s place} name _ _ := by
    have told := h.note (e := .exported name place.node s.captures.length) rfl (h.refl s)
    exact h.trans told (h.publish _ name place.node)
  adjust offset _ e := h.adjust offset e
  copySiblings name mirror _ _ := h.copySiblings _ _ name mirror
  addLink name _ e := h.addLink name e
  goTo _ _ := h.enter _ _
  push := push
  pop _ := h.scope
  visit _ _ _ := h.enter _ _
  placeTemplate _ _ _ := h.placeTemplate _ _ _
  visitLeaf _ _ _ _ := ⟨h.book _ _ _ _ _ _ _, h.enter _ _⟩
  named _ _ _ := h.note trivial (h.refl _)
  read _ _ _ _ := h.read _ _ _ _
  descend hs _ := descend hs
  ascend _ := h.descend
  expanded _ _ := h.note trivial (h.refl _)
  openCapture := openCapture
  closeCapture hs hst := closeCapture (keeps (openCapture hs) hst)
  expand _ := h.expand
  abort _ := h.abort

/-- A conduct is a regime without an invariant. -/
lemma regime (h : Conduct settings R) : Regime settings (fun _ _ => True) (fun _ => True) R :=
  h.under (fun _ _ => trivial) (fun _ => trivial) (fun _ => trivial) (fun _ => trivial)
    (fun _ => trivial)

/-- What an instance is placed in obeys the conduct. -/
abbrev Inner (R : Option Fault → State σ ρ α → State σ ρ α → Prop)
    (place : String → Action σ ρ α Unit) : Prop := ∀ name s, Obeys R (place name) s

/-- Repeating what a run may do is so too. -/
lemma iterate (h : Conduct settings R) {act : Action σ ρ α Unit} (ha : ∀ t, Obeys R act t) (n : Nat)
    (s : State σ ρ α) : Obeys R (Derivation.iterate n act) s :=
  h.regime.iterate trivial (fun t _ _ => ha t) n

/-- Every rule obeys the conduct if placing a name does. -/
theorem execute (h : Conduct settings R) {place : String → Action σ ρ α Unit} (hp : Inner R place)
    (r : Rule Nat) (s : State σ ρ α) : Obeys R (Derivation.execute ⟨settings, place⟩ r) s :=
  h.regime.execute (fun name s _ => hp name s) r s trivial trivial

/-- So do sequences of rules. -/
theorem executeAll (h : Conduct settings R) {place : String → Action σ ρ α Unit} (hp : Inner R place)
    (rs : List (Rule Nat)) (s : State σ ρ α) :
    Obeys R (Derivation.executeAll ⟨settings, place⟩ rs) s :=
  h.regime.executeAll (fun name s _ => hp name s) rs s (fun _ _ => trivial) trivial

/-- A directive obeys the conduct wherever it is carried out. -/
lemma runDirective (h : Conduct settings R) {place : String → Action σ ρ α Unit} (hp : Inner R place)
    (leaf : NodeId) (text : String) (s : State σ ρ α) :
    Obeys R (Derivation.runDirective ⟨settings, place⟩ leaf text) s :=
  h.regime.runDirective (fun name s _ => hp name s) trivial (fun _ => h.note trivial (h.refl s))
    (fun _ _ => h.read leaf text _ _)

/-- Placing a name, however deep instances nest. -/
theorem placeWithin (h : Conduct settings R) (levels : Nat) :
    Inner R (Derivation.placeWithin settings levels) :=
  fun name s => h.regime.placeWithin levels name s trivial

end Conduct

end SceneGrammar.Derivation
