import SceneGrammar.Proofs.Derivation.Request
import SceneGrammar.Proofs.Derivation.View
import SceneGrammar.Proofs.Derivation.Whole
import SceneGrammar.Proofs.Scene.Diary

/-!
# The diary of a run

A regime says what holds before and after parts of a run. If the host keeps a diary, the run obeys the
regime all the same, and at every rule and every choice that the diary has the invariant held: that the
diary shows what follows from it is part of the invariant of the regime with a diary (`Regime.diary`).
-/

namespace SceneGrammar

variable {σ ρ α β : Type}

open SceneGrammar.Derivation

/-- Whether an event is the beginning of a rule or the choice of a template. -/
def Event.Marks : Event α → Prop
  | .rule .. | .choice .. => True
  | _ => False

/-- What holds of every entry of a diary. -/
def Diary.Shows (J : Event α → σ → Prop) (d : Diary σ α) : Prop :=
  ∀ e form, (e, form) ∈ d.entries → J e form

/-- At every rule in the diary, the run was in a state of some kind. -/
def Diary.Attests (I : State σ ρ α → Prop) (d : Diary σ α) : Prop :=
  ∀ depth r cursor scopes captures form,
    (.rule depth r cursor scopes captures, form) ∈ d.entries →
      ∃ s, I s ∧ s.scene = form ∧ s.depth = depth ∧ s.cursor = cursor ∧ s.scopes = scopes ∧
        s.captures = captures

/-- What a diary that attests a kind of states shows of an event. -/
def Event.Attested (I : State σ ρ α → Prop) : Event α → σ → Prop
  | .rule depth _ cursor scopes captures, form =>
    ∃ s, I s ∧ s.scene = form ∧ s.depth = depth ∧ s.cursor = cursor ∧ s.scopes = scopes ∧
      s.captures = captures
  | _, _ => True

section
variable {I : State σ ρ α → Prop} {J : Event α → σ → Prop}

/-- A diary that shows attested events attests the states. -/
lemma Diary.Shows.attests {d : Diary σ α} (h : d.Shows (Event.Attested I)) : d.Attests I :=
  fun _ _ _ _ _ _ hm => h _ _ hm

variable [Host σ α]

/-- An event may be entered if the diary may show it. -/
lemma Diary.Shows.observe {d : Diary σ α} (h : d.Shows J) {e : Event α} (he : J e d.host) :
    Diary.Shows J (Host.observe e d) := by
  intro e' form hm
  cases hm with
  | head => exact he
  | tail _ hm => exact h e' form hm

/-- Requests enter nothing. -/
lemma Diary.shows_lasts : Host.Lasts (Diary.Shows J) :=
  Diary.entries_lasts fun entries => ∀ e form, (e, form) ∈ entries → J e form

/-- What may be entered in a diary: what an invariant says of a rule that begins and of a choice, and all
other events. -/
structure Diary.Admits (settings : Settings) (I : State σ ρ α → Prop) (J : Event α → σ → Prop) :
    Prop where
  rule : ∀ {s} r, I s → J (.rule s.depth r s.cursor s.scopes s.captures) s.scene
  choice : ∀ {s collection members}, I s → Host.topLevel? s.scene collection = some members →
    J (.choice collection members (members.map (templateWeight settings s.scene))) s.scene
  other : ∀ e form, ¬ e.Marks → J e form

/-- What may be entered in a diary, if what is known of a rule that begins may be entered as well. -/
structure Diary.Learns (settings : Settings) (G : Bindings Nat Literal → Rule Nat → Prop)
    (I : State σ ρ α → Prop) (J : Event α → σ → Prop) : Prop where
  rule : ∀ {s r}, I s → G s.settled r → J (.rule s.depth r s.cursor s.scopes s.captures) s.scene
  choice : ∀ {s collection members}, I s → Host.topLevel? s.scene collection = some members →
    J (.choice collection members (members.map (templateWeight settings s.scene))) s.scene
  other : ∀ e form, ¬ e.Marks → J e form

/-- What an invariant admits may be entered whatever is known. -/
lemma Diary.Admits.learns {settings : Settings} (h : Diary.Admits settings I J)
    (G : Bindings Nat Literal → Rule Nat → Prop) : Diary.Learns settings G I J where
  rule hs _ := h.rule _ hs
  choice := h.choice
  other := h.other

/-- States of a kind may be attested. -/
lemma Diary.admits_attested (settings : Settings) : Diary.Admits settings I (Event.Attested I) where
  rule _ hs := ⟨_, hs, rfl, rfl, rfl, rfl, rfl⟩
  choice _ _ := trivial
  other e _ he := by
    cases e with
    | rule => exact absurd trivial he
    | _ => trivial

end

namespace Derivation

/-! ## Parts of a run without rules -/

section
variable {J : Event α → σ → Prop}

/-- A part of a run after which the diary still shows what it showed. -/
def Honest (J : Event α → σ → Prop) (s t : State (Diary σ α) ρ α) : Prop :=
  s.scene.Shows J → t.scene.Shows J

variable [Host σ α] (hJ : ∀ e form, ¬ e.Marks → J e form)

/-- A diary is honest of all requests. -/
lemma honest_asks :
    Asks (fun _ => Honest J : Option Fault → State (Diary σ α) ρ α → State (Diary σ α) ρ α → Prop) where
  refl _ := id
  trans h k := k ∘ h
  offer ha := request_keeps (Diary.shows_lasts.offer ha)
  moveAll n origin target := request_keeps (Diary.shows_lasts.moveAll n origin target)
  addGenerated _ _ := id

include hJ

/-- A diary is honest of events that begin no rule and choose no template. -/
lemma honest_noted {e : Event α} (he : ¬ e.Marks) (s : State (Diary σ α) ρ α) :
    Honest J s (s.noted e) := fun h => h.observe (hJ e _ he)

/-- The host is told how deep the run is. -/
lemma honest_level (s : State (Diary σ α) ρ α) : Honest J s s.atLevel :=
  honest_noted hJ (e := .level s.depth s.captures.length) id s

/-- A diary is honest of the end of a definition. -/
lemma honest_closeCapture (s : State (Diary σ α) ρ α) : Honest J s s.closeCapture.atLevel := by
  intro past
  refine honest_level hJ s.closeCapture ?_
  rwa [s.scene_closeCapture]

/-- A diary is honest of what is prepared. -/
lemma honest_preparing [RandomSource ρ] : Preparing (Honest (ρ := ρ) J) where
  refl _ := id
  trans h k := k ∘ h
  uniform _ := id
  intRange _ _ _ := id
  settle _ _ _ h := h
  reuse s label v := honest_noted hJ (e := .recalled label v) id s
  fix s label v :=
    honest_noted hJ (e := .settled label v) id { s with settled := s.settled.insert label v }
  define _ _ _ _ := id

end

/-! ## Parts of a run and their twins -/

/-- An action on a host obeys what its twin on a view of the host obeys. -/
lemma Twin.obeys {τ : Type} {view : σ → τ} {d : Nat} {act : Action σ ρ α β} {act' : Action τ ρ α β}
    {s : State σ ρ α} {R : Option Fault → State τ ρ α → State τ ρ α → Prop}
    (h : Twin (.view view) d Eq act act' s (s.map view)) (ha : Obeys R act' (s.map view)) :
    Obeys (fun o s t => R o (s.map view) (t.map view)) act s := by
  refine h.view_ends.imp ?_ ?_
  · rintro b t ⟨-, e⟩
    exact ha.ok e
  · rintro f t ⟨-, e⟩
    exact ha.error e

/-- A state of a kind whose diary shows that it was so before. -/
structure Attested (I : State σ ρ α → Prop) (J : Event α → σ → Prop) (s : State (Diary σ α) ρ α) :
    Prop where
  now : I (s.map Diary.host)
  past : s.scene.Shows J

/-- A part of a run that obeys a regime and of which the diary is honest. -/
structure Entered (J : Event α → σ → Prop) (R : Option Fault → State σ ρ α → State σ ρ α → Prop)
    (o : Option Fault) (s t : State (Diary σ α) ρ α) : Prop where
  obeys : R o (s.map Diary.host) (t.map Diary.host)
  honest : Honest J s t

/-- What obeys a regime and is entered honestly does both. -/
lemma entered {J : Event α → σ → Prop} {R : Option Fault → State σ ρ α → State σ ρ α → Prop}
    {act : Action (Diary σ α) ρ α β} {s : State (Diary σ α) ρ α}
    (h : Obeys (fun o s t => R o (s.map Diary.host) (t.map Diary.host)) act s)
    (k : Obeys (fun _ => Honest J) act s) : Obeys (Entered J R) act s :=
  (h.and k).imp (fun _ _ h => ⟨h.1, h.2⟩) (fun _ _ h => ⟨h.1, h.2⟩)

/-! ## Regimes -/

namespace State
variable (s : State (Diary σ α) ρ α)

/-- A run with a diary is like the run without. -/
lemma alike_map : s.Alike (.view Diary.host) s.depth (s.map Diary.host) :=
  State.alike_view_iff.mpr ⟨rfl, rfl⟩

/-- Recording a fault is the same without the diary. -/
lemma map_record (settings : Settings) (f : Fault) :
    (s.record settings f).map Diary.host = (s.map Diary.host).record settings f := by
  unfold record
  split <;> rfl

/-- Leaving a scope is the same without the diary. -/
lemma map_popScope : s.popScope.map Diary.host = (s.map Diary.host).popScope :=
  (State.alike_view_iff.mp s.alike_map.popScope).1.symm

/-- Closing a definition is the same without the diary. -/
lemma map_closeCapture : s.closeCapture.map Diary.host = (s.map Diary.host).closeCapture :=
  (State.alike_view_iff.mp s.alike_map.closeCapture).1.symm

/-- Publishing a link is the same without the diary. -/
lemma map_publish (name : String) (link : NodeId) :
    (s.publish name link).map Diary.host = (s.map Diary.host).publish name link :=
  (State.alike_view_iff.mp (s.alike_map.publish name link)).1.symm

end State

variable [Scalar α] [Host σ α] [RandomSource ρ] {settings : Settings}
  {G : Bindings Nat Literal → Rule Nat → Prop} {I : State σ ρ α → Prop} {J : Event α → σ → Prop}
  {R : Option Fault → State σ ρ α → State σ ρ α → Prop}

omit [Scalar α] [RandomSource ρ] in
/-- A host with a diary answers as the host does. -/
lemma diary_fits (settings : Settings) :
    (Likeness.view Diary.host : Likeness (Diary σ α) σ α).Fits settings settings :=
  view_fits Diary.view

omit [RandomSource ρ] in
/-- Entering a link is honest, and obeys what it obeys without the diary. -/
lemma Obeys.enterLink_entered {n : NodeId} {s : State (Diary σ α) ρ α}
    (h : Obeys R (enterLink n) (s.map Diary.host)) : Obeys (Entered J R) (enterLink n) s := by
  refine entered (Twin.obeys (Twin.enterLink (diary_fits {}).toLasts n s.alike_map) h) ?_
  exact honest_asks.enterLink (fun _ _ => id) n s

omit [RandomSource ρ] in
/-- A leaf that is visited on a host with a diary is visited on the host. -/
lemma Visiting.map_host {leaf : NodeId} {text : String} {s : State (Diary σ α) ρ α}
    (h : Visiting settings (Attested I J) leaf text s) :
    Visiting settings I leaf text (s.map Diary.host) := by
  obtain ⟨⟨u, object, hu, hl⟩, t, ht, unmarked, e⟩ := h
  have twin := Twin.enterLink (diary_fits {}).toLasts leaf
    (State.pushScope { t with expanded := leaf :: t.expanded }).alike_map
  exact ⟨⟨u.map Diary.host, object, hu.now, hl⟩, t.map Diary.host, ht.now, unmarked,
    (twin.view_ends.ok e).2⟩

/-- A regime is obeyed by runs that are entered in a diary, and its invariant held at every rule and
choice that is entered, where the rule was of the kind. -/
theorem Regime.learning (h : Regime settings G I R) (hJ : Diary.Learns settings G I J) :
    Regime settings G (Attested I J) (Entered J R) where
  refl hs := ⟨h.refl hs.now, id⟩
  trans h₁ h₂ := ⟨h.trans h₁.obeys h₂.obeys, h₂.honest ∘ h₁.honest⟩
  keeps hs hst := ⟨h.keeps hs.now hst.obeys, hst.honest hs.past⟩
  stays hs hst := h.stays hs.now hst.obeys
  body := h.body
  known hs := h.known hs.now
  tolerate {f s t} hs hf hst := by
    refine ⟨t.map_record settings f ▸ h.tolerate hs.now hf hst.obeys, fun past => ?_⟩
    exact t.scene_record settings f ▸ hst.honest past
  misplaced subject expected hs := ⟨h.misplaced subject expected hs.now, id⟩
  draw {s r shape e} hs hr he := by
    have twin := Twin.resolveAs (diary_fits settings).toLasts shape r.word e s.alike_map
    refine entered (twin.obeys (h.draw hs.now hr he)) ?_
    exact ((honest_preparing hJ.other).resolveAs shape r.word e s).imp (fun _ _ => id) (fun _ _ k => k.1)
  compile {s source body} hs hr := by
    refine entered ((Twin.compile source s.alike_map).obeys (h.compile hs.now hr)) ?_
    exact ((honest_preparing hJ.other).compile source).imp (fun _ _ k => k.1) (fun _ _ k => k.1)
  random random hs := ⟨h.random random hs.now, id⟩
  rule {s r} hs hr := ⟨h.rule hs.now hr, fun past => past.observe (hJ.rule hs.now hr)⟩
  define {s name body} hs hr := ⟨h.define hs.now hr, honest_noted hJ.other (e := .defined name body) id s⟩
  publish {s place} name hs e := by
    refine ⟨?_, ?_⟩
    · rw [State.map_publish]
      exact h.publish name hs.now e
    · unfold Honest
      rw [State.scene_publish]
      exact honest_noted hJ.other (e := .exported name place.node s.captures.length) id s
  adjust offset hs e := ⟨h.adjust offset hs.now e, id⟩
  copySiblings {s place} name mirror hs e := by
    have alike : place.Alike Eq place := ⟨rfl, rfl, rfl⟩
    have twin := Twin.copySiblingChildren (diary_fits settings) alike name mirror
      s.alike_map
    refine entered (twin.obeys (h.copySiblings name mirror hs.now e)) ?_
    exact honest_asks.copySiblings settings place name mirror s
  addLink {s n} name hs e := by
    have twin := Twin.addLinkTo (diary_fits settings) n name s.alike_map
    refine entered (twin.obeys (h.addLink name hs.now e)) ?_
    exact honest_asks.addLink settings n name s
  goTo hs e := (h.goTo hs.now e).enterLink_entered
  push hs := ⟨h.push hs.now, hs.past⟩
  pop {o s t} hs hst := by
    refine ⟨?_, ?_⟩
    · rw [State.map_popScope]
      exact h.pop hs.now hst.obeys
    · unfold Honest
      rw [State.scene_popScope]
      exact hst.honest
  visit hs hst hl := (h.visit hs.now hst.obeys hl).enterLink_entered
  placeTemplate {s collection members} hs none e := by
    have twin := Twin.placeTemplate (diary_fits settings) collection members
      s.alike_map
    refine entered (twin.obeys (h.placeTemplate hs.now none e)) ?_
    refine honest_asks.placeTemplate ?_ ?_ (fun _ _ => id) ?_
    · exact (requireLink_ends _ s).imp (fun _ _ k => k.1 ▸ id) (fun _ _ k => k.1 ▸ id)
    · exact fun past => past.observe (hJ.choice hs.now e)
    · exact fun s n => honest_noted hJ.other (e := .placed n s.captures.length) id { s with cursor := .object n }
  visitLeaf hs hst e hl := by
    obtain ⟨mark, enter⟩ := h.visitLeaf hs.now hst.obeys e hl
    exact ⟨⟨mark, id⟩, Obeys.enterLink_entered enter⟩
  named {s leaf text} hs hv e :=
    ⟨h.named hs.now hv.map_host e, honest_noted hJ.other (e := .directive leaf text) id s⟩
  read {s leaf text grammar rules fresh} hs hv e er := by
    let s' : State (Diary σ α) ρ α := { s.noted (.directive leaf text) with freshLabel := fresh }
    have told : Honest J s s' := honest_noted hJ.other (e := .directive leaf text) id s
    have twin := Twin.prepareAll (diary_fits settings).toLasts rules s' _ s'.alike_map
    have read : Ends (prepareAll rules) (s'.map Diary.host) _ _ := h.read hs.now hv.map_host e er
    refine (twin.view_ends.and ((honest_preparing hJ.other).prepareAll rules s')).imp ?_ ?_
    · rintro _ t ⟨⟨-, et⟩, ht, -⟩
      obtain ⟨hst, hrules⟩ := read.ok et
      exact ⟨⟨hst, ht ∘ told⟩, hrules⟩
    · rintro f t ⟨⟨-, et⟩, ht, -⟩
      refine ⟨t.map_record settings f ▸ read.error et, fun past => ?_⟩
      exact t.scene_record settings f ▸ ht (told past)
  descend {s} hs hd := ⟨h.descend hs.now hd, honest_level hJ.other s.descend hs.past⟩
  ascend {o s t} hs hd hst := by
    refine ⟨h.ascend hs.now hd hst.obeys, fun past => honest_level hJ.other t.ascend (hst.honest ?_)⟩
    exact honest_level hJ.other s.descend past
  expanded {s name body} hs e := ⟨h.expanded hs.now e, honest_noted hJ.other (e := .expanded name body) id s⟩
  openCapture {s} hs := ⟨h.openCapture hs.now, honest_level hJ.other s.openCapture hs.past⟩
  closeCapture {s t} hs hst := by
    have closed := h.closeCapture hs.now hst.obeys
    rw [← State.map_closeCapture] at closed
    exact ⟨closed, honest_closeCapture hJ.other t (hst.honest (honest_level hJ.other s.openCapture hs.past))⟩
  expand {o s t u v} hs hd h₁ h₂ h₃ := by
    have closed := h₃.obeys
    rw [show u.closeCapture.atLevel.map Diary.host = (u.closeCapture.map Diary.host).atLevel from rfl,
      State.map_closeCapture] at closed
    refine ⟨h.expand hs.now hd h₁.obeys h₂.obeys closed, fun past => ?_⟩
    have opened := honest_level hJ.other t.openCapture (h₁.honest (honest_level hJ.other s.descend past))
    exact honest_level hJ.other v.ascend (h₃.honest (honest_closeCapture hJ.other u (h₂.honest opened)))
  abort {f s t u} hs hd h₁ h₂ := by
    have aborted := h.abort hs.now hd h₁.obeys h₂.obeys
    rw [← State.map_closeCapture] at aborted
    refine ⟨aborted, fun past => ?_⟩
    have opened := honest_level hJ.other t.openCapture (h₁.honest (honest_level hJ.other s.descend past))
    exact honest_level hJ.other u.closeCapture.atLevel.ascend (honest_closeCapture hJ.other u (h₂.honest opened))

/-- A regime is obeyed by runs that are entered in a diary, and its invariant held at every rule and
choice that is entered. -/
theorem Regime.diary (h : Regime settings G I R) (hJ : Diary.Admits settings I J) :
    Regime settings G (Attested I J) (Entered J R) :=
  h.learning (hJ.learns G)

/-! ## Whole runs -/

/-- A diary of a run shows what follows from an invariant, and the run ends in a state of the kind, if it
begins in one once its rules have been prepared. -/
lemma Regime.derive_diary (h : Regime settings G I R) (hJ : Diary.Learns settings G I J)
    (record : ∀ s f, I s → I (State.record settings s f)) {rules : List (Rule Nat)}
    {s : State (Diary σ α) ρ α} (hs : s.scene.Shows J)
    (now : I (prepareEach settings rules (s.map Diary.host)))
    (hrules : let prepared := prepareEach settings rules (s.map Diary.host)
      prepared.errors.isEmpty → ∀ r ∈ rules, G prepared.settled r) :
    Attested I J (Derivation.derive (outermost settings) rules s) := by
  have alike := prepareEach_alike (diary_fits settings) rules s.alike_map
  obtain ⟨e, -⟩ := State.alike_view_iff.mp alike
  dsimp only at hrules
  rw [e] at now hrules
  have past : Honest J s (prepareEach settings rules s) := by
    refine (honest_preparing hJ.other).prepareEach (fun s f past => ?_) rules s
    exact s.scene_record settings f ▸ past
  have prepared : Attested I J (prepareEach settings rules s) := ⟨now, past hs⟩
  have diary := h.learning hJ
  refine diary.derive (fun t f ht => ?_) (diary.placeWithin _) prepared hrules
  exact ⟨t.map_record settings f ▸ record _ f ht.now, t.scene_record settings f ▸ ht.past⟩

omit [Scalar α] [RandomSource ρ] in
/-- Clearing enters nothing in an empty diary. -/
lemma clearStart_diary (settings : Settings) (start : NodeId) (scene : σ) :
    Ends (clearStart settings start) ({ host := scene } : Diary σ α)
      (fun _ base => clearStart settings start scene = .ok () base.host ∧ base.entries = [])
      (fun _ base => base.entries = []) := by
  have lasts := (diary_fits (σ := σ) (α := α) settings).toLasts
  have unentered : Ends (clearStart settings start) ({ host := scene } : Diary σ α)
      (fun _ d => d.entries = []) (fun _ d => d.entries = []) :=
    clearStart_keeps (fun n d hd => Diary.entries_request (· = []) (Host.remove n) d hd) settings start rfl
  exact ((Likeness.view_ends (clearStart_alike lasts rfl start rfl)).and unentered).imp
    (fun _ _ => id) (fun _ _ h => h.2)

omit [Scalar α] [RandomSource ρ] in
/-- Nor does entering the start. -/
lemma world_diary (start : NodeId) {base : Diary σ α} (h : base.entries = []) :
    Ends (Host.world start) base
      (fun world d => Host.world start base.host = .ok world d.host ∧ d.entries = [])
      (fun _ d => d.entries = []) := by
  have lasts := (diary_fits (σ := σ) (α := α) {}).toLasts
  have unentered := Diary.entries_request (· = []) (Host.world (α := α) start) base h
  exact ((Likeness.view_ends (lasts.world (s := base) start rfl)).and unentered).imp
    (fun _ _ => id) (fun _ _ h => h.2)

/-- What is entered in the diary of a run is what carrying out the grammar enters in an empty diary, once
the start is cleared and entered. -/
lemma generateIn_entries {P : List (Event α × σ) → Prop} (nil : P [])
    {env : Surroundings (Diary σ α) ρ α} {grammar : Grammar} {start : NodeId} {scene : σ} {random : ρ}
    (carry : ∀ base world (d : Diary σ α), clearStart env.settings start scene = .ok () base →
      Host.world start base = .ok world d.host → d.entries = [] →
        P (Derivation.derive env (Rule.numberAll grammar 0).1
          (State.started random (Rule.numberAll grammar 0).2 start world d)).scene.entries) :
    P (generateIn env grammar start { host := scene } random).2.1.entries := by
  have hc := generateIn_cases env grammar start ({ host := scene } : Diary σ α) random
  have cleared := clearStart_diary (α := α) env.settings start scene
  cases e : clearStart env.settings start ({ host := scene } : Diary σ α) with
  | error f d =>
    rw [hc.error e, cleared.error e]
    exact nil
  | ok _ base =>
    obtain ⟨ebase, hbase⟩ := cleared.ok e
    have entered := world_diary start hbase
    cases e' : (Host.world start base : EStateM.Result SceneFault (Diary σ α) (Matrix4 α)) with
    | error f d =>
      rw [(hc.ok e).error e', entered.error e']
      exact nil
    | ok world d =>
      obtain ⟨s, rfl, run⟩ := (hc.ok e).ok e'
      obtain ⟨eworld, hd⟩ := entered.ok e'
      rw [run]
      exact carry base.host world d ebase eworld hd

/-- The diary of a run on a host shows what follows from an invariant and what is known of
rules, if the run begins in a state of the kind once its rules have been prepared. -/
theorem Regime.generate_learns (h : Regime settings G I R) (hJ : Diary.Learns settings G I J)
    (record : ∀ s f, I s → I (State.record settings s f)) {grammar : Grammar} {start : NodeId}
    {scene : σ} {random : ρ}
    (begins : ∀ base world t, clearStart settings start scene = .ok () base →
      Host.world start base = .ok world t →
        let prepared := prepareEach settings (Rule.numberAll grammar 0).1
          (State.started random (Rule.numberAll grammar 0).2 start world t)
        I prepared ∧
          (prepared.errors.isEmpty → ∀ r ∈ (Rule.numberAll grammar 0).1, G prepared.settled r)) :
    Diary.Shows J
      (generate settings grammar start ({ host := scene } : Diary σ α) random).2.1 := by
  refine generateIn_entries (P := fun entries => ∀ e form, (e, form) ∈ entries → J e form) nofun ?_
  intro base world d eclear eworld empty
  have shows : d.Shows J := by
    intro e form hm
    rw [empty] at hm
    cases hm
  obtain ⟨now, hrules⟩ := begins base world d.host eclear eworld
  exact (h.derive_diary hJ record shows now hrules).past

/-- The diary of a run on a host shows what follows from an invariant, if the run begins in a state of
the kind once its rules have been prepared. -/
theorem Regime.generate_shows (h : Regime settings G I R) (hJ : Diary.Admits settings I J)
    (record : ∀ s f, I s → I (State.record settings s f)) {grammar : Grammar} {start : NodeId}
    {scene : σ} {random : ρ}
    (begins : ∀ base world t, clearStart settings start scene = .ok () base →
      Host.world start base = .ok world t →
        let prepared := prepareEach settings (Rule.numberAll grammar 0).1
          (State.started random (Rule.numberAll grammar 0).2 start world t)
        I prepared ∧
          (prepared.errors.isEmpty → ∀ r ∈ (Rule.numberAll grammar 0).1, G prepared.settled r)) :
    Diary.Shows J
      (generate settings grammar start ({ host := scene } : Diary σ α) random).2.1 :=
  h.generate_learns (hJ.learns G) record begins

/-- The diary of a run on a host attests states of the kind, if the run begins in one once its rules have
been prepared. -/
theorem Regime.generate_diary (h : Regime settings G I R)
    (record : ∀ s f, I s → I (State.record settings s f)) {grammar : Grammar} {start : NodeId}
    {scene : σ} {random : ρ}
    (begins : ∀ base world t, clearStart settings start scene = .ok () base →
      Host.world start base = .ok world t →
        let prepared := prepareEach settings (Rule.numberAll grammar 0).1
          (State.started random (Rule.numberAll grammar 0).2 start world t)
        I prepared ∧
          (prepared.errors.isEmpty → ∀ r ∈ (Rule.numberAll grammar 0).1, G prepared.settled r)) :
    Diary.Attests I
      (generate settings grammar start ({ host := scene } : Diary σ α) random).2.1 :=
  (h.generate_shows (Diary.admits_attested settings) record begins).attests

end Derivation

end SceneGrammar
