import SceneGrammar.Proofs.Derivation.Anchor
import SceneGrammar.Proofs.Derivation.Chronicle

/-!
# What a run records

Rules without defects raise no fault of the grammar: what ends one of them is a fault that is not fatal
or a refusal of the host. Faults of the grammar are recorded all the same, one for each directive of a
leaf that is a grammar with a defect, and in the order in which these directives are carried out
(`rejects_regime`).
-/

namespace SceneGrammar

/-- The fault that is recorded in place of a directive: the first defect, where the directive is a grammar
with one. -/
def Event.rejection? {α : Type} : Event α → Option Fault
  | .directive _ text => (Grammar.parse? text).bind fun g => (Rule.defectOf? g).map Defect.fault
  | _ => none

/-- Faults that are recorded while a host is told of events. -/
structure Recorded {α : Type} (during : List (Event α)) (faults : List Fault) : Prop where
  structural : faults.filter (·.category = .structural) = during.filterMap Event.rejection?
  categories : ∀ f ∈ faults, f.category = .structural ∨ f.category = .precondition

namespace Recorded
variable {α : Type} {during : List (Event α)} {faults : List Fault} {f : Fault}

/-- Events that reject nothing. -/
lemma silent (h : during.filterMap Event.rejection? = []) : Recorded during [] := ⟨h.symm, by simp⟩

/-- What is recorded in two parts is recorded in the whole. -/
lemma append (h : Recorded during faults) {during' : List (Event α)} {faults' : List Fault}
    (k : Recorded during' faults') : Recorded (during ++ during') (faults ++ faults') where
  structural := by rw [List.filter_append, List.filterMap_append, h.structural, k.structural]
  categories := List.forall_mem_append.mpr ⟨h.categories, k.categories⟩

/-- A fault that is not fatal. -/
lemma single (hf : f.fatal = false) : Recorded ([] : List (Event α)) [f] := by
  have hc : f.category = .precondition := by simpa [Fault.fatal] using hf
  exact ⟨by simp [hc], by simp [hc]⟩

/-- The defect of a directive. -/
lemma rejection {e : Event α} (he : e.rejection? = some f)
    (h : during.filterMap Event.rejection? = []) : Recorded (e :: during) [f] := by
  have hc : f.category = .structural := by
    unfold Event.rejection? at he
    split at he
    · obtain ⟨g, -, hg⟩ := Option.bind_eq_some_iff.mp he
      obtain ⟨d, -, rfl⟩ := Option.map_eq_some_iff.mp hg
      cases d <;> rfl
    · cases he
  exact ⟨by simp [hc, he, h], by simp [hc]⟩

end Recorded

namespace Derivation

variable {σ ρ α : Type}

namespace State
variable (s : State σ ρ α)

@[simp] lemma errors_popScope : s.popScope.errors = s.errors := by
  obtain ⟨_, _, e⟩ := s.popScope_eq
  rw [e]

@[simp] lemma errors_closeCapture : s.closeCapture.errors = s.errors := by
  obtain ⟨_, _, e⟩ := s.closeCapture_eq
  rw [e]

@[simp] lemma errors_publish (name : String) (link : NodeId) :
    (s.publish name link).errors = s.errors := by
  obtain ⟨_, e⟩ := s.publish_eq name link
  rw [e]

end State

/-- A part of a run in which nothing is recorded, no directive is rejected and nothing with a defect is
defined. -/
structure Silent (s t : State (Watched σ α) ρ α) : Prop where
  sound : s.Sound → t.Sound
  errors : t.errors = s.errors
  told : ∃ during : List (Event α), t.scene.told = during.reverse ++ s.scene.told ∧
    during.filterMap Event.rejection? = []

/-- A part of a run that records the rejected directives and faults that are not fatal, and ends in one
of these or in a refusal of the host. -/
structure Rejects (o : Option Fault) (s t : State (Watched σ α) ρ α) : Prop where
  sound : s.Sound → t.Sound
  recorded : ∃ (during : List (Event α)) (faults : List Fault),
    t.scene.told = during.reverse ++ s.scene.told ∧
      t.errors.toList = s.errors.toList ++ faults ∧ Recorded during faults
  ending : ∀ f, o = some f → f.fatal = false ∨ ∃ g, f = .scene g

section
variable {s t u : State (Watched σ α) ρ α} {o : Option Fault}

namespace Silent

/-- Nothing is told. -/
lemma of_eq (hdefinitions : t.definitions = s.definitions) (herrors : t.errors = s.errors)
    (htold : t.scene.told = s.scene.told) : Silent s t where
  sound h := by
    unfold State.Sound
    rw [hdefinitions]
    exact h
  errors := herrors
  told := ⟨[], htold, rfl⟩

/-- Silent parts of a run are silent one after the other. -/
lemma trans (h : Silent s t) (k : Silent t u) : Silent s u where
  sound := k.sound ∘ h.sound
  errors := k.errors.trans h.errors
  told := by
    obtain ⟨d, ht, hd⟩ := h.told
    obtain ⟨e, hu, he⟩ := k.told
    exact ⟨d ++ e, by simp [hu, ht], by rw [List.filterMap_append, hd, he]; rfl⟩

/-- Telling an event that rejects no directive is silent. -/
lemma noted [Host σ α] {e : Event α} (he : e.rejection? = none) (s : State (Watched σ α) ρ α) :
    Silent s (s.noted e) := ⟨id, rfl, [e], rfl, by simp [he]⟩

/-- Telling the depth is silent. -/
lemma atLevel [Host σ α] (s : State (Watched σ α) ρ α) : Silent s s.atLevel := .noted rfl s

/-- Going down one instance is silent. -/
lemma descend [Host σ α] (s : State (Watched σ α) ρ α) : Silent s s.descend.atLevel :=
  (of_eq rfl rfl rfl : Silent s s.descend).trans (atLevel s.descend)

/-- Coming up from an instance is silent. -/
lemma ascend [Host σ α] (s : State (Watched σ α) ρ α) : Silent s s.ascend.atLevel :=
  (of_eq rfl rfl rfl : Silent s s.ascend).trans (atLevel s.ascend)

end Silent

namespace Rejects

/-- A silent part of a run records the rejected directives: none. -/
lemma of_silent (h : Silent s t) : Rejects none s t where
  sound := h.sound
  recorded := by
    obtain ⟨d, ht, hd⟩ := h.told
    exact ⟨d, [], ht, by rw [h.errors, List.append_nil], .silent hd⟩
  ending := by simp

/-- Two parts of a run record the rejected directives of both. -/
lemma trans (h : Rejects none s t) (k : Rejects o t u) : Rejects o s u where
  sound := k.sound ∘ h.sound
  recorded := by
    obtain ⟨d, f, ht, hf, hd⟩ := h.recorded
    obtain ⟨d', f', ht', hf', hd'⟩ := k.recorded
    exact ⟨d ++ d', f ++ f', by simp [ht', ht], by simp [hf', hf], hd.append hd'⟩
  ending := k.ending

/-- A part of a run, and what is silent after it. -/
lemma follow (h : Rejects o s t) (k : Silent t u) : Rejects o s u := by
  have all : Rejects none s u := Rejects.trans ⟨h.sound, h.recorded, by simp⟩ (.of_silent k)
  exact ⟨all.sound, all.recorded, h.ending⟩

/-- A step that fails. -/
lemma ended (h : Silent s t) {f : Fault} (hf : f.fatal = false ∨ ∃ g, f = .scene g) :
    Rejects (some f) s t := by
  have all := of_silent h
  exact ⟨all.sound, all.recorded, fun g e => Option.some.inj e ▸ hf⟩

/-- A fault that is not fatal is recorded, or passed over. -/
lemma tolerate (settings : Settings) {f : Fault} (hf : f.fatal = false) (h : Rejects (some f) s t) :
    Rejects none s (t.record settings f) := by
  refine Rejects.trans ⟨h.sound, h.recorded, by simp⟩ (u := t.record settings f) ?_
  unfold State.record
  split
  · exact of_silent (.of_eq rfl rfl rfl)
  · exact ⟨id, ⟨[], [f], rfl, by simp, .single hf⟩, by simp⟩

/-- What was recorded in a scope is so after the scope is left. -/
lemma pop (h : Rejects o s.pushScope t) : Rejects o s t.popScope := by
  have down : Silent s s.pushScope := .of_eq rfl rfl rfl
  have up : Silent t t.popScope :=
    .of_eq t.definitions_popScope t.errors_popScope (by rw [t.scene_popScope])
  exact ((of_silent down).trans h).follow up

variable [Host σ α]

/-- What was recorded an instance deeper is so when the run has come up. -/
lemma ascend (h : Rejects o s.descend.atLevel t) : Rejects o s t.ascend.atLevel :=
  ((of_silent (.descend s)).trans h).follow (.ascend t)

/-- What was recorded inside a definition is so after it is closed. -/
lemma close (h : Rejects o s.openCapture.atLevel t) : Rejects o s t.closeCapture.atLevel := by
  have begun : Silent s s.openCapture := .of_eq rfl rfl rfl
  have ended : Silent t t.closeCapture :=
    .of_eq t.definitions_closeCapture t.errors_closeCapture (by rw [t.scene_closeCapture])
  exact ((of_silent (begun.trans (.atLevel s.openCapture))).trans h).follow
    (ended.trans (.atLevel t.closeCapture))

end Rejects

end

variable [Host σ α]

/-- Requests record nothing, and what ends them is a refusal. -/
lemma rejects_asks :
    Asks (Rejects : Option Fault → State (Watched σ α) ρ α → State (Watched σ α) ρ α → Prop) :=
  asks_of_unheard .trans (fun h => .of_silent (.of_eq h.definitions h.errors h.told))
    (fun h => .ended (.of_eq h.definitions h.errors h.told) (.inr ⟨_, rfl⟩))

variable [RandomSource ρ]

/-- Preparations are silent. -/
lemma silent_preparing :
    Preparing (Silent : State (Watched σ α) ρ α → State (Watched σ α) ρ α → Prop) where
  refl _ := .of_eq rfl rfl rfl
  trans := .trans
  uniform _ := .of_eq rfl rfl rfl
  intRange _ _ _ := .of_eq rfl rfl rfl
  settle _ _ _ h := h.trans (.of_eq rfl rfl rfl)
  reuse s _ _ := .noted rfl s
  fix _ label v := ⟨id, rfl, [.settled label v], rfl, rfl⟩
  define _ _ _ hbody := ⟨fun h => h.define hbody, rfl, [], rfl, rfl⟩

/-- A directive that is a grammar is prepared, or its first defect is recorded. -/
lemma read_rejects (settings : Settings) {s : State (Watched σ α) ρ α} {leaf : NodeId} {text : String}
    {grammar : Grammar} {rules : List (Rule Nat)} {fresh : Nat} (h : Grammar.parse? text = some grammar)
    (hn : Rule.numberAll grammar s.freshLabel = (rules, fresh)) :
    Ends (prepareAll rules) { s.noted (.directive leaf text) with freshLabel := fresh }
      (fun _ t => Rejects none s t ∧ ∀ r ∈ rules, r.defect? = none)
      (fun f t => Rejects none s (t.record settings f)) := by
  have numbered : Rule.defectOf? rules = Rule.defectOf? grammar := by
    rw [← Rule.defectOf?_numberAll grammar s.freshLabel, hn]
  have he : (Event.directive leaf text : Event α).rejection?
      = (Rule.defectOf? rules).map Defect.fault := by simp [Event.rejection?, h, numbered]
  refine (silent_preparing.prepareAll rules _).imp ?_ ?_
  · rintro _ t ⟨ht, hd⟩
    rw [hd] at he
    have told : Silent s { s.noted (.directive leaf text) with freshLabel := fresh } :=
      (Silent.noted he s).trans (.of_eq rfl rfl rfl)
    exact ⟨.of_silent (told.trans ht), Rule.defectOf?_eq_none_iff.mp hd⟩
  · rintro f t ⟨ht, d, hd, rfl⟩
    rw [hd] at he
    have e := record_defect settings t d
    obtain ⟨during, told, hnone⟩ := ht.told
    have herrors : (t.record settings d.fault).errors.toList = s.errors.toList ++ [d.fault] := by
      simp [e, ht.errors, State.noted]
    -- The directive is told first, and nothing that preparing tells rejects another one.
    refine ⟨fun hs => ?_, ⟨.directive leaf text :: during, [d.fault], ?_, herrors,
      .rejection he hnone⟩, by simp⟩
    · rw [e]
      exact ht.sound hs
    · rw [e]
      simp [told, State.noted, Host.observe]

variable [Scalar α]

/-- Rules without defects record what they should, where the definitions have no defects either. -/
lemma rejects_regime (settings : Settings) :
    Regime settings (fun _ r => r.defect? = none) State.Sound
      (Rejects : Option Fault → State (Watched σ α) ρ α → State (Watched σ α) ρ α → Prop) where
  refl _ := .of_silent (.of_eq rfl rfl rfl)
  trans := .trans
  keeps hs h := h.sound hs
  body h _ hq := Rule.defect?_of_mem_body h hq
  known hs h := Rule.defectOf?_eq_none_iff.mp (hs _ _ h)
  tolerate _ hf h := h.tolerate settings hf
  misplaced _ _ _ := .ended (.of_eq rfl rfl rfl) (.inl rfl)
  draw {s r shape e} hs hr he := by
    refine (silent_preparing.resolveAs shape r.word e s).imp (fun _ _ => .of_silent) ?_
    rintro f t ⟨h, ⟨v, rfl⟩ | ⟨-, hd⟩⟩
    · exact .ended h (.inl rfl)
    · exact absurd (Rule.defect?_of_argument? hr he) hd
  compile {s source body} hs hr := by
    refine (silent_preparing.compile source).imp (fun _ _ h => .of_silent h.1) ?_
    rintro f t ⟨-, d, hd, -⟩
    rw [(Option.or_eq_none_iff.mp hr).1] at hd
    cases hd
  random _ _ := .of_silent (.of_eq rfl rfl rfl)
  rule {s _} _ _ := .of_silent (.noted rfl s)
  define {s name body} _ hr := by
    have hbody : Rule.defectOf? body = none := Rule.defectOf?_eq_none_iff.mpr fun _ hq =>
      Rule.defect?_of_mem_body hr hq
    exact .of_silent ⟨fun h => h.define hbody, rfl, [.defined name body], rfl, rfl⟩
  publish {s place} name _ _ := by
    have told := Silent.noted (e := .exported name place.node s.captures.length) rfl s
    refine .of_silent (told.trans (.of_eq (State.definitions_publish _ _ _) (State.errors_publish _ _ _) ?_))
    rw [State.scene_publish]
  adjust _ _ _ := .of_silent (.of_eq rfl rfl rfl)
  copySiblings name mirror _ _ := rejects_asks.copySiblings settings _ name mirror _
  addLink name _ _ := rejects_asks.addLink settings _ name _
  goTo _ _ := rejects_asks.enterLink (fun _ _ => .of_silent (.of_eq rfl rfl rfl)) _ _
  push hs := hs
  pop _ h := h.pop
  visit _ _ _ := rejects_asks.enterLink (fun _ _ => .of_silent (.of_eq rfl rfl rfl)) _ _
  placeTemplate {s _ _} _ _ _ := by
    refine rejects_asks.placeTemplate ?_ (.of_silent (.noted rfl s)) ?_ ?_
    · refine (requireLink_ends "instance" s).imp ?_ ?_
      · rintro _ _ ⟨rfl, -⟩
        exact .of_silent (.of_eq rfl rfl rfl)
      · rintro _ _ ⟨rfl, rfl⟩
        exact .ended (.of_eq rfl rfl rfl) (.inl rfl)
    · exact fun _ _ => .of_silent (.of_eq rfl rfl rfl)
    · exact fun s n => .of_silent ⟨id, rfl, [.placed n s.captures.length], rfl, rfl⟩
  visitLeaf _ _ _ _ := ⟨.of_silent (.of_eq rfl rfl rfl),
    rejects_asks.enterLink (fun _ _ => .of_silent (.of_eq rfl rfl rfl)) _ _⟩
  named {s leaf text} _ _ h := by
    have he : (Event.directive leaf text : Event α).rejection? = none := by simp [Event.rejection?, h]
    exact .of_silent (.noted he s)
  read _ _ h hn := read_rejects settings h hn
  descend hs _ := hs
  ascend _ _ h := h.ascend
  expanded {s _ _} _ _ := .of_silent (.noted rfl s)
  openCapture hs := hs
  closeCapture {s t} hs h := h.close.sound hs
  expand _ _ h k l := (h.trans (k.close.trans l)).ascend
  abort _ _ h k := (h.trans k.close).ascend

end Derivation

end SceneGrammar
