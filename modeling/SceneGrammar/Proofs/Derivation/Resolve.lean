import SceneGrammar.Proofs.Derivation.Diary
import SceneGrammar.Proofs.Derivation.Directive
import SceneGrammar.Proofs.Grammar.Definitions

/-!
# What names stand for

A diary tells which definitions have been carried out, and when. The definitions of a run are `Resolved` by
it if each name stands for the last one that was carried out, or else for the last one of the rules that were
prepared, and if this was what every name was placed by so far. Carrying out a definition keeps this, and
nothing else defines anything as long as the directives of leaves do not, so it is a part of the invariant
of every regime (`Regime.resolving`).
-/

namespace SceneGrammar

variable {σ ρ α β : Type}

/-- The definition that is about to be carried out. -/
def Event.definition? : Event α → Option (String × List (Rule Nat))
  | .defined name body => some (name, body)
  | _ => none

/-- The definitions that have been carried out, the last first. -/
def Diary.defined (entries : List (Event α × σ)) : List (String × List (Rule Nat)) :=
  entries.filterMap (·.1.definition?)

namespace Derivation

/-- What a name stands for after rules were prepared and definitions carried out: the last one that was
carried out, or else the last one of the rules. -/
def meaning? (rules : List (Rule Nat)) (entries : List (Event α × σ)) (name : String) :
    Option (List (Rule Nat)) :=
  ((Diary.defined entries).lookup name).or (Rule.lastDefinition? rules name)

/-- A name that stands for no definition is defined nowhere in the rules. -/
lemma meaning?_eq_none {rules : List (Rule Nat)} {entries : List (Event α × σ)} {name : String}
    (h : meaning? rules entries name = none) (body : List (Rule Nat)) :
    (name, body) ∉ Rule.definitionsOf rules := by
  intro hm
  have absent := List.lookup_eq_none_iff.mp (Option.or_eq_none_iff.mp h).2 _ (List.mem_reverse.mpr hm)
  exact absurd absent (by simp)

end Derivation

/-- A name is expanded to what it stands for, and a template is chosen for a name that stands for no
definition. -/
def Event.Resolves (rules : List (Rule Nat)) (past : List (Event α × σ)) : Event α → Prop
  | .expanded name body => Derivation.meaning? rules past name = some body
  | .choice name _ _ => Derivation.meaning? rules past name = none
  | _ => True

/-- Each event of a diary resolves names by what had been entered before it. -/
def Diary.Resolves (rules : List (Rule Nat)) : List (Event α × σ) → Prop
  | [] => True
  | (e, _) :: past => e.Resolves rules past ∧ Resolves rules past

/-- An event and those before it. -/
lemma Diary.Resolves.of_suffix {rules : List (Rule Nat)} {entries past : List (Event α × σ)}
    {e : Event α} {form : σ} (h : Diary.Resolves rules entries) (suffix : (e, form) :: past <:+ entries) :
    e.Resolves rules past := by
  induction entries with
  | nil => exact absurd (List.suffix_nil.mp suffix) (List.cons_ne_nil _ _)
  | cons entry entries ih =>
    rcases List.suffix_cons_iff.mp suffix with same | inside
    · cases same
      exact h.1
    · exact ih h.2 inside

namespace Derivation

variable {rules : List (Rule Nat)}

/-- The definitions are what the rules and the diary make of them, and so they were whenever a name was
placed. -/
abbrev Resolved (rules : List (Rule Nat)) (s : State (Diary σ α) ρ α) : Prop :=
  (∀ name, s.definitions.get? name = meaning? rules s.scene.entries name) ∧
    Diary.Resolves rules s.scene.entries

/-! ## Where nothing is defined -/

/-- A diary at two points between which nothing was defined and names were resolved. -/
structure Unfolds (rules : List (Rule Nat)) (before after : List (Event α × σ)) : Prop where
  defined : Diary.defined after = Diary.defined before
  resolves : Diary.Resolves rules before → Diary.Resolves rules after

namespace Unfolds
variable {before after later : List (Event α × σ)}

lemma refl (entries : List (Event α × σ)) : Unfolds rules entries entries := ⟨rfl, id⟩

/-- Parts of a diary without definitions make one without any. -/
lemma trans (h : Unfolds rules before after) (k : Unfolds rules after later) :
    Unfolds rules before later :=
  ⟨k.defined.trans h.defined, k.resolves ∘ h.resolves⟩

/-- An event that defines nothing may be entered if it resolves its name. -/
lemma entry {e : Event α} {form : σ} (he : e.definition? = none)
    (resolves : e.Resolves rules before := by trivial) : Unfolds rules before ((e, form) :: before) :=
  ⟨List.filterMap_cons_none he, fun past => ⟨resolves, past⟩⟩

end Unfolds

/-- Two states between which nothing was defined. -/
structure Mute (rules : List (Rule Nat)) (s t : State (Diary σ α) ρ α) : Prop where
  definitions : t.definitions = s.definitions
  unfolds : Unfolds rules s.scene.entries t.scene.entries

namespace Mute
variable {s t u : State (Diary σ α) ρ α}

/-- Neither definitions nor entries have changed. -/
lemma of_eq (definitions : t.definitions = s.definitions) (entries : t.scene.entries = s.scene.entries) :
    Mute rules s t :=
  ⟨definitions, entries ▸ .refl _⟩

lemma refl (s : State (Diary σ α) ρ α) : Mute rules s s := .of_eq rfl rfl

/-- Parts of a run without definitions make one without any. -/
lemma trans (h : Mute rules s t) (k : Mute rules t u) : Mute rules s u :=
  ⟨k.definitions.trans h.definitions, h.unfolds.trans k.unfolds⟩

/-- Without definitions the names stay resolved. -/
lemma resolved (h : Mute rules s t) (hs : Resolved rules s) : Resolved rules t := by
  refine ⟨fun name => ?_, h.unfolds.resolves hs.2⟩
  rw [h.definitions, hs.1 name]
  unfold meaning?
  rw [h.unfolds.defined]

/-- Leaving a scope defines nothing. -/
lemma popScope (s : State (Diary σ α) ρ α) : Mute rules s s.popScope := by
  obtain ⟨cursor, scopes, e⟩ := s.popScope_eq
  rw [e]
  exact .of_eq rfl rfl

/-- Publishing a link defines nothing. -/
lemma publish (s : State (Diary σ α) ρ α) (name : String) (link : NodeId) :
    Mute rules s (s.publish name link) := by
  obtain ⟨captures, e⟩ := s.publish_eq name link
  rw [e]
  exact .of_eq rfl rfl

/-- Recording a fault defines nothing. -/
lemma record (settings : Settings) (s : State (Diary σ α) ρ α) (f : Fault) :
    Mute rules s (s.record settings f) := by
  obtain ⟨errors, e⟩ := record_eq settings s f
  rw [e]
  exact .of_eq rfl rfl

variable [Host σ α]

/-- A note of something else than a definition. -/
lemma noted {e : Event α} (he : e.definition? = none)
    (resolves : e.Resolves rules s.scene.entries := by trivial) : Mute rules s (s.noted e) :=
  ⟨rfl, .entry he resolves⟩

/-- Telling the depth defines nothing. -/
lemma atLevel (s : State (Diary σ α) ρ α) : Mute rules s s.atLevel := noted rfl

/-- Closing a definition defines nothing. -/
lemma closeLevel (s : State (Diary σ α) ρ α) : Mute rules s s.closeCapture.atLevel := by
  obtain ⟨cursor, captures, e⟩ := s.closeCapture_eq
  rw [e]
  exact ⟨rfl, .entry rfl⟩

end Mute

section
variable [Host σ α]

/-- Requests define nothing. -/
lemma mute_asks : Asks (fun _ => Mute rules :
    Option Fault → State (Diary σ α) ρ α → State (Diary σ α) ρ α → Prop) := by
  have keeps : ∀ {β} {act : Edit (Diary σ α) β},
      (∀ entries d, d.entries = entries →
        Ends act d (fun _ d' => d'.entries = entries) (fun _ d' => d'.entries = entries)) →
      ∀ s : State (Diary σ α) ρ α, Obeys (fun _ => Mute rules) (request act) s := fun h s =>
    request_ends ((h _ s.scene rfl).imp (fun _ _ e => .of_eq rfl e) (fun _ _ e => .of_eq rfl e))
  have lasts := fun entries => Diary.entries_lasts (σ := σ) (α := α) (· = entries)
  exact {
    refl := .refl
    trans := .trans
    offer := fun ha => keeps fun entries => (lasts entries).offer ha
    moveAll := fun n origin target => keeps fun entries => (lasts entries).moveAll n origin target
    addGenerated := fun _ _ => .of_eq rfl rfl }

variable [RandomSource ρ]

/-- Drawing and settling values defines nothing. -/
lemma mute_fixing :
    Fixing (Mute rules : State (Diary σ α) ρ α → State (Diary σ α) ρ α → Prop) where
  refl := .refl
  trans := .trans
  uniform _ := .of_eq rfl rfl
  intRange _ _ _ := .of_eq rfl rfl
  settle _ _ _ h := h.trans (.of_eq rfl rfl)
  reuse _ _ _ := .noted rfl
  fix _ _ _ := ⟨rfl, .entry rfl⟩

/-- Preparing carries out no definition. -/
lemma unfolds_preparing (rules : List (Rule Nat)) : Preparing fun s t : State (Diary σ α) ρ α =>
    Unfolds rules s.scene.entries t.scene.entries where
  refl _ := .refl _
  trans := .trans
  uniform _ := .refl _
  intRange _ _ _ := .refl _
  settle _ _ _ h := h
  reuse _ _ _ := .entry rfl
  fix _ _ _ := .entry rfl
  define _ _ _ _ := .refl _

/-- Preparing rules without definitions defines nothing. -/
lemma prepareAll_mute (rules : List (Rule Nat)) {read : List (Rule Nat)} (none : Rule.definitionsOf read = [])
    (s : State (Diary σ α) ρ α) :
    Ends (prepareAll read) s (fun _ => Mute rules s) (fun _ => Mute rules s) := by
  have registers := prepareAll_registers read s
  rw [Rule.registeredAll_eq_nil none] at registers
  have unfolds := (unfolds_preparing rules).prepareAll read s
  exact (registers.and unfolds).imp (fun _ _ h => ⟨h.1, h.2.1⟩) (fun _ _ h => ⟨h.1, h.2.1⟩)

end

/-! ## Where something is defined -/

/-- Carrying out a definition makes its name stand for its body. -/
lemma Resolved.define [Host σ α] {s : State (Diary σ α) ρ α} (hs : Resolved rules s) (name : String)
    (body : List (Rule Nat)) :
    Resolved rules { s.noted (.defined name body) with
      definitions := s.definitions.insert name body } := by
  refine ⟨fun name' => ?_, trivial, hs.2⟩
  show (s.definitions.insert name body).get? name' =
    (((name, body) :: Diary.defined s.scene.entries).lookup name').or (Rule.lastDefinition? rules name')
  rw [Bindings.get?_insert, hs.1 name', List.lookup_cons]
  by_cases e : name = name'
  · simp [e]
  · simp [e, beq_eq_false_iff_ne.mpr (Ne.symm e), meaning?]

/-! ## Regimes -/

variable [Scalar α] [Host σ α] [RandomSource ρ] {settings : Settings}
  {G : Bindings Nat Literal → Rule Nat → Prop} {I : State (Diary σ α) ρ α → Prop}
  {R : Option Fault → State (Diary σ α) ρ α → State (Diary σ α) ρ α → Prop}

/-- A part of a run that obeys a relation and keeps the definitions resolved. -/
def Resolving (rules : List (Rule Nat))
    (R : Option Fault → State (Diary σ α) ρ α → State (Diary σ α) ρ α → Prop) (o : Option Fault)
    (s t : State (Diary σ α) ρ α) : Prop :=
  R o s t ∧ (Resolved rules s → Resolved rules t)

omit [Scalar α] [Host σ α] [RandomSource ρ] in
/-- A part of a run in which nothing is defined. -/
lemma Obeys.resolving {act : Action (Diary σ α) ρ α β}
    {s : State (Diary σ α) ρ α} (h : Obeys R act s) (k : Obeys (fun _ => Mute rules) act s) :
    Obeys (Resolving rules R) act s :=
  (h.and k).imp (fun _ _ h => ⟨h.1, h.2.resolved⟩) (fun _ _ h => ⟨h.1, h.2.resolved⟩)

/-- Definitions stay resolved under a regime, if no directive that is carried out defines anything. -/
theorem Regime.resolving (h : Regime settings G I R) (rules : List (Rule Nat))
    (plain : ∀ {s leaf text grammar}, Visiting settings I leaf text s →
      Grammar.parse? text = some grammar → Rule.definitionsOf grammar = []) :
    Regime settings G (fun s => I s ∧ Resolved rules s) (Resolving rules R) where
  refl hs := ⟨h.refl hs.1, id⟩
  trans h₁ h₂ := ⟨h.trans h₁.1 h₂.1, h₂.2 ∘ h₁.2⟩
  keeps hs hst := ⟨h.keeps hs.1 hst.1, hst.2 hs.2⟩
  stays hs hst := h.stays hs.1 hst.1
  body := h.body
  known hs := h.known hs.1
  tolerate {f s t} hs hf hst :=
    ⟨h.tolerate hs.1 hf hst.1, fun k => (Mute.record settings t f).resolved (hst.2 k)⟩
  misplaced subject expected hs := ⟨h.misplaced subject expected hs.1, id⟩
  draw {s r shape e} hs hr he := by
    refine (h.draw hs.1 hr he).resolving ?_
    exact (mute_fixing.resolveAs shape r.word e s).imp (fun _ _ => id) (fun _ _ k => k.1)
  compile {s source body} hs hr := by
    refine (h.compile hs.1 hr).resolving ?_
    exact (mute_fixing.compile source).imp (fun _ _ k => k.1) (fun _ _ k => k.1)
  random random hs := ⟨h.random random hs.1, id⟩
  rule {s r} hs hr := ⟨h.rule hs.1 hr, (Mute.noted rfl).resolved⟩
  define {s name body} hs hr := ⟨h.define hs.1 hr, fun k => k.define name body⟩
  publish {s place} name hs e :=
    ⟨h.publish name hs.1 e, ((Mute.noted rfl).trans (.publish _ name place.node)).resolved⟩
  adjust offset hs e := ⟨h.adjust offset hs.1 e, id⟩
  copySiblings {s place} name mirror hs e :=
    (h.copySiblings name mirror hs.1 e).resolving (mute_asks.copySiblings settings place name mirror s)
  addLink {s n} name hs e := (h.addLink name hs.1 e).resolving (mute_asks.addLink settings n name s)
  goTo hs e := (h.goTo hs.1 e).resolving (mute_asks.enterLink (fun _ _ => .of_eq rfl rfl) _ _)
  push hs := ⟨h.push hs.1, hs.2⟩
  pop {o s t} hs hst := ⟨h.pop hs.1 hst.1, fun k => (Mute.popScope t).resolved (hst.2 k)⟩
  visit hs hst hl := (h.visit hs.1 hst.1 hl).resolving (mute_asks.enterLink (fun _ _ => .of_eq rfl rfl) _ _)
  placeTemplate {s collection members} hs none e := by
    refine (h.placeTemplate hs.1 none e).resolving (mute_asks.placeTemplate ?_ ?_ ?_ ?_)
    · exact (requireLink_ends _ s).imp (fun _ _ k => k.1 ▸ .refl _) (fun _ _ k => k.1 ▸ .refl _)
    · exact .noted rfl ((hs.2.1 collection).symm.trans none)
    · exact fun _ _ => .of_eq rfl rfl
    · exact fun s n => ⟨rfl, .entry rfl⟩
  visitLeaf hs hst e hl := by
    obtain ⟨mark, enter⟩ := h.visitLeaf hs.1 hst.1 e hl
    exact ⟨⟨mark, id⟩, enter.resolving (mute_asks.enterLink (fun _ _ => .of_eq rfl rfl) _ _)⟩
  named {s leaf text} hs hv e :=
    ⟨h.named hs.1 (hv.mono fun _ => And.left) e, (Mute.noted rfl).resolved⟩
  read {s leaf text grammar numbered fresh} hs hv e er := by
    have visiting := hv.mono fun _ => And.left
    have none : Rule.definitionsOf numbered = [] := by
      have none := Rule.definitionsOf_numberAll (plain visiting e) s.freshLabel
      rwa [er] at none
    have told : Mute rules s { s.noted (.directive leaf text) with freshLabel := fresh } :=
      ⟨rfl, .entry rfl⟩
    refine ((h.read hs.1 visiting e er).and (prepareAll_mute rules none _)).imp ?_ ?_
    · exact fun _ t k => ⟨⟨k.1.1, (told.trans k.2).resolved⟩, k.1.2⟩
    · exact fun f t k => ⟨k.1, ((told.trans k.2).trans (.record settings t f)).resolved⟩
  descend {s} hs hd := ⟨h.descend hs.1 hd, (Mute.atLevel s.descend).resolved hs.2⟩
  ascend {o s t} hs hd hst := by
    refine ⟨h.ascend hs.1 hd hst.1, fun k => (Mute.atLevel t.ascend).resolved (hst.2 ?_)⟩
    exact (Mute.atLevel s.descend).resolved k
  expanded {s name body} hs e := by
    have told : Mute rules s (s.noted (.expanded name body)) := .noted rfl ((hs.2.1 name).symm.trans e)
    exact ⟨h.expanded hs.1 e, told.resolved⟩
  openCapture {s} hs := ⟨h.openCapture hs.1, (Mute.atLevel s.openCapture).resolved hs.2⟩
  closeCapture {s t} hs hst := by
    have opened := hst.2 ((Mute.atLevel s.openCapture).resolved hs.2)
    exact ⟨h.closeCapture hs.1 hst.1, (Mute.closeLevel t).resolved opened⟩
  expand {o s t u v} hs hd h₁ h₂ h₃ := by
    refine ⟨h.expand hs.1 hd h₁.1 h₂.1 h₃.1, fun k => ?_⟩
    have descended := h₁.2 ((Mute.atLevel s.descend).resolved k)
    have opened := h₂.2 ((Mute.atLevel t.openCapture).resolved descended)
    have closed := h₃.2 ((Mute.closeLevel u).resolved opened)
    exact (Mute.atLevel v.ascend).resolved closed
  abort {f s t u} hs hd h₁ h₂ := by
    refine ⟨h.abort hs.1 hd h₁.1 h₂.1, fun k => ?_⟩
    have descended := h₁.2 ((Mute.atLevel s.descend).resolved k)
    have opened := h₂.2 ((Mute.atLevel t.openCapture).resolved descended)
    exact ((Mute.closeLevel u).trans (.atLevel _)).resolved opened

end Derivation

end SceneGrammar
