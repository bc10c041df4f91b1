import SceneGrammar.Proofs.Derivation.Request
import SceneGrammar.Proofs.Scene.Refusal

/-!
# What a run holds on to

A run on a forest is `Anchored`: the nodes that its cursors, its open definitions and their published
links name are there, and its definitions have no defects. It stays so, and the scene refuses it nothing
but to place a node under a parent whose frame has no inverse (`anchors_regime`). A copy never has to be
put below itself, as what is below it is new.
-/

namespace SceneGrammar

/-- A fault that ends a rule only, or the refusal to place a node under a parent without an inverse. -/
def Fault.Tame (f : Fault) : Prop := f.fatal = false ∨ ∃ g : SceneFault, f = .scene g ∧ g.Singular

/-! ## Named nodes -/

section
variable {α : Type}

/-- The links that have been published. -/
def Aliases.nodes (aliases : Aliases) : List NodeId := aliases.toList.map (·.2)

/-- The nodes that a cursor names. -/
def Cursor.nodes : Cursor α → List NodeId
  | .object n => [n]
  | .aliased n aliases => n :: aliases.nodes
  | .link place => [place.node]

/-- The nodes that the expansion of a definition names. -/
def Capture.nodes (c : Capture α) : List NodeId :=
  c.entry.nodes ++ (c.object.toList ++ c.aliases.nodes)

/-- Publishing a link adds it to the published nodes and no other. -/
lemma Aliases.nodes_insert (aliases : Aliases) (name : String) (n : NodeId) :
    Aliases.nodes (aliases.insert name n) ⊆ n :: aliases.nodes := by
  obtain ⟨l⟩ := aliases
  show (Bindings.insertEntry name n l).map (·.2) ⊆ n :: l.map (·.2)
  induction l with
  | nil => simp [Bindings.insertEntry]
  | cons entry rest ih =>
    unfold Bindings.insertEntry
    split
    · exact List.cons_subset_cons n (List.subset_cons_self _ _)
    · intro m hm
      cases List.mem_cons.mp hm with
      | inl e => simp [e]
      | inr hm =>
        have h := ih hm
        simp only [List.map_cons, List.mem_cons] at h ⊢
        exact h.imp_right .inr

/-- A link that is found under an alias is one of the published nodes. -/
lemma Aliases.get?_mem {aliases : Aliases} {name : String} {n : NodeId}
    (h : aliases.get? name = some n) : n ∈ aliases.nodes := by
  obtain ⟨entry, he, rfl⟩ := Option.map_eq_some_iff.mp h
  exact List.mem_map_of_mem (List.mem_of_find?_eq_some he)

/-- The object at the cursor is one of the nodes that the cursor names. -/
lemma Cursor.object?_mem {c : Cursor α} {n : NodeId} (h : c.object? = some n) : n ∈ c.nodes := by
  cases c with
  | object m => exact List.mem_singleton.mpr (Option.some.inj h).symm
  | aliased m aliases => exact List.mem_cons.mpr (.inl (Option.some.inj h).symm)
  | link place => cases h

end

/-- A search finds nodes with tags only. -/
lemma Walk.exists_tag {children : NodeId → List NodeId}
    {tag : NodeId → Option String} {accept : String → Bool} {m : NodeId} :
    ∀ (bound : Nat) (waiting : List NodeId), m ∈ Walk.tagged children tag accept bound waiting →
      ∃ t, tag m = some t
  | 0, _, h => absurd h List.not_mem_nil
  | _ + 1, [], h => absurd h List.not_mem_nil
  | bound + 1, n :: waiting, h => by
    unfold Walk.tagged at h
    cases e : tag n with
    | none =>
      rw [e] at h
      exact exists_tag bound _ h
    | some t =>
      rw [e] at h
      dsimp only at h
      split at h
      · cases List.mem_cons.mp h with
        | inl hm => exact ⟨t, hm ▸ e⟩
        | inr hm => exact exists_tag bound waiting hm
      · exact exists_tag bound waiting h

namespace Derivation

namespace State
variable {σ ρ α : Type}

/-- The nodes that a run names where it stands and wherever it will go back to. -/
def nodes (s : State σ ρ α) : List NodeId :=
  s.cursor.nodes ++ (s.scopes.flatMap Cursor.nodes ++ s.captures.flatMap Capture.nodes)

/-- The definitions have no defects. -/
def Sound (s : State σ ρ α) : Prop :=
  ∀ name body, s.definitions.get? name = some body → Rule.defectOf? body = none

/-- A definition without defects keeps the definitions so. -/
lemma Sound.define {s : State σ ρ α} (h : s.Sound) {name : String} {body : List (Rule Nat)}
    (hbody : Rule.defectOf? body = none) :
    State.Sound { s with definitions := s.definitions.insert name body } := by
  intro key found e
  rw [Bindings.get?_insert] at e
  split at e
  · exact Option.some.inj e ▸ hbody
  · exact h key found e

variable (s : State σ ρ α)

@[simp] lemma definitions_popScope : s.popScope.definitions = s.definitions := by
  obtain ⟨_, _, e⟩ := s.popScope_eq
  rw [e]

@[simp] lemma definitions_closeCapture : s.closeCapture.definitions = s.definitions := by
  obtain ⟨_, _, e⟩ := s.closeCapture_eq
  rw [e]

@[simp] lemma definitions_publish (name : String) (link : NodeId) :
    (s.publish name link).definitions = s.definitions := by
  obtain ⟨_, e⟩ := s.publish_eq name link
  rw [e]

/-- A run names the nodes of its cursor. -/
lemma nodes_cursor : s.cursor.nodes ⊆ s.nodes := List.subset_append_left _ _

/-- A cursor that names one node only. -/
lemma nodes_withCursor {cursor : Cursor α} {n : NodeId} (h : cursor.nodes = [n]) :
    State.nodes { s with cursor } ⊆ n :: s.nodes := by
  intro m hm
  simp only [nodes, h, List.mem_append, List.mem_cons, List.not_mem_nil] at hm ⊢
  tauto

/-- A new scope names no new nodes. -/
lemma nodes_pushScope : s.pushScope.nodes ⊆ s.nodes := by
  intro n hn
  simp only [nodes, pushScope, List.flatMap_cons, List.mem_append] at hn ⊢
  tauto

/-- Leaving a scope names no new nodes. -/
lemma nodes_popScope : s.popScope.nodes ⊆ s.nodes := by
  unfold popScope
  split
  · next c cs e =>
    intro n hn
    simp only [nodes, e, List.flatMap_cons, List.mem_append] at hn ⊢
    tauto
  · exact List.Subset.refl _

/-- Opening a definition names no new nodes. -/
lemma nodes_openCapture : s.openCapture.nodes ⊆ s.nodes := by
  intro n hn
  simp only [nodes, openCapture, List.flatMap_cons, Capture.nodes, Option.toList_none,
    List.mem_append, List.not_mem_nil] at hn ⊢
  have none : n ∉ Aliases.nodes ∅ := List.not_mem_nil
  tauto

/-- Closing a definition names no new nodes. -/
lemma nodes_closeCapture : s.closeCapture.nodes ⊆ s.nodes := by
  unfold closeCapture
  split
  · next c cs e =>
    split
    · next m hm =>
      intro n hn
      simp only [nodes, e, List.flatMap_cons, Capture.nodes, hm, Cursor.nodes, Option.toList_some,
        List.mem_append, List.mem_cons, List.not_mem_nil] at hn ⊢
      tauto
    · intro n hn
      simp only [nodes, e, List.flatMap_cons, Capture.nodes, List.mem_append] at hn ⊢
      tauto
  · exact List.Subset.refl _

/-- Publishing a link names it and no other new node. -/
lemma nodes_publish (name : String) (link : NodeId) :
    (s.publish name link).nodes ⊆ link :: s.nodes := by
  unfold publish
  split
  · next c cs e =>
    intro n hn
    have published := @Aliases.nodes_insert c.aliases name link n
    simp only [nodes, e, List.flatMap_cons, Capture.nodes, List.mem_append, List.mem_cons]
      at hn published ⊢
    tauto
  · exact List.subset_cons_self _ _

/-- A placed object is offered to the definitions that have none yet. -/
lemma nodes_addPlaced (n : NodeId) : (s.addPlaced n).nodes ⊆ n :: s.nodes := by
  intro m hm
  have key : ∀ l : List (Capture α),
      m ∈ (l.map fun c => { c with object := c.object <|> some n }).flatMap Capture.nodes →
        m = n ∨ m ∈ l.flatMap Capture.nodes := by
    intro l
    induction l with
    | nil => simp
    | cons c l ih =>
      cases h : c.object <;>
        · simp only [List.map_cons, List.flatMap_cons, Capture.nodes, h, Option.orElse_eq_orElse,
            Option.orElse_none, Option.orElse_some, Option.toList_none, Option.toList_some,
            List.mem_append, List.mem_cons, List.not_mem_nil] at ih ⊢
          tauto
  have hcaptures := key s.captures
  simp only [nodes, addPlaced, addGenerated, List.mem_append, List.mem_cons] at hm ⊢
  tauto

end State

/-! ## Anchored runs -/

variable {ρ α : Type} {s t u : State (Scene α) ρ α} {o : Option Fault} {n : NodeId}

/-- A run on a forest whose nodes are there and whose definitions have no defects. -/
structure Anchored (s : State (Scene α) ρ α) : Prop where
  wellFormed : s.scene.WellFormed
  live : ∀ n ∈ s.nodes, s.scene.Live n
  sound : s.Sound

/-- A part of a run that leads to an anchored state, loses no nodes and fails for tame reasons only. -/
structure Anchors (o : Option Fault) (s t : State (Scene α) ρ α) : Prop where
  anchored : Anchored t
  live : ∀ n, s.scene.Live n → t.scene.Live n
  tame : ∀ f, o = some f → f.Tame

/-- The nodes at the cursor of an anchored run are there. -/
lemma Anchored.cursor (hs : Anchored s) (h : n ∈ s.cursor.nodes) : s.scene.Live n :=
  hs.live n (s.nodes_cursor h)

/-- The node of the link at the cursor of an anchored run is there. -/
lemma Anchored.link (hs : Anchored s) {place : LinkPlace α} (h : s.cursor = .link place) :
    s.scene.Live place.node := by
  refine hs.cursor ?_
  rw [h]
  exact List.mem_singleton_self _

/-- A state that names no other nodes. -/
lemma Anchored.narrow (hs : Anchored s) (hscene : t.scene = s.scene)
    (hdefinitions : t.definitions = s.definitions) (hnodes : t.nodes ⊆ s.nodes) : Anchored t where
  wellFormed := hscene ▸ hs.wellFormed
  live n hn := hscene ▸ hs.live n (hnodes hn)
  sound := by
    unfold State.Sound
    rw [hdefinitions]
    exact hs.sound

/-- A state that names one more node, which is there. -/
lemma Anchored.widen (hs : Anchored s) (hn : s.scene.Live n) (hscene : t.scene = s.scene)
    (hdefinitions : t.definitions = s.definitions) (hnodes : t.nodes ⊆ n :: s.nodes) :
    Anchored t where
  wellFormed := hscene ▸ hs.wellFormed
  live m hm := by
    rw [hscene]
    cases List.mem_cons.mp (hnodes hm) with
    | inl e => exact e ▸ hn
    | inr hm => exact hs.live m hm
  sound := by
    unfold State.Sound
    rw [hdefinitions]
    exact hs.sound

namespace Anchors

lemma refl (hs : Anchored s) : Anchors none s s := ⟨hs, fun _ => id, by simp⟩

/-- Parts of a run that lead to anchored states do so one after the other. -/
lemma trans (h : Anchors none s t) (k : Anchors o t u) : Anchors o s u :=
  ⟨k.anchored, fun n hn => k.live n (h.live n hn), k.tame⟩

/-- A step that leaves the scene as it is. -/
lemma stay (ht : Anchored t) (hscene : t.scene = s.scene) : Anchors none s t :=
  ⟨ht, fun _ hn => hscene ▸ hn, by simp⟩

/-- A part of a run, and a step after it that leaves the scene as it is. -/
lemma follow (h : Anchors o s t) (hu : Anchored u) (hscene : u.scene = t.scene) : Anchors o s u :=
  ⟨hu, fun n hn => hscene ▸ h.live n hn, h.tame⟩

end Anchors

/-! ## Scopes, definitions and instances -/

/-- A new scope leaves a run anchored. -/
lemma Anchored.push (hs : Anchored s) : Anchored s.pushScope :=
  hs.narrow rfl rfl s.nodes_pushScope

/-- A part of a run within a scope of its own leads to an anchored state after the scope is left. -/
lemma Anchors.pop (h : Anchors o s.pushScope t) : Anchors o s t.popScope where
  anchored := h.anchored.narrow t.scene_popScope t.definitions_popScope t.nodes_popScope
  live n hn := by
    rw [t.scene_popScope]
    exact h.live n hn
  tame := h.tame

section
variable [Scalar α]

/-- So does a part that is carried out one instance deeper. -/
lemma Anchors.ascend (h : Anchors o s.descend.atLevel t) : Anchors o s t.ascend.atLevel :=
  ⟨h.anchored.narrow rfl rfl (List.Subset.refl _), h.live, h.tame⟩

/-- So does the body of a definition once the definition is closed. -/
lemma Anchors.close (h : Anchors o s.openCapture.atLevel t) :
    Anchors o s t.closeCapture.atLevel where
  anchored := h.anchored.narrow t.scene_closeCapture t.definitions_closeCapture t.nodes_closeCapture
  live n hn := by
    show t.closeCapture.scene.Live n
    rw [t.scene_closeCapture]
    exact h.live n hn
  tame := h.tame

end

/-! ## Drawing and preparing -/

/-- A part of a run that leaves the scene and the named nodes, and defines nothing with a defect. -/
structure Idle {σ : Type} (s t : State σ ρ α) : Prop where
  scene : t.scene = s.scene
  nodes : t.nodes = s.nodes
  sound : s.Sound → t.Sound

/-- An idle part of a run leaves it anchored. -/
lemma Anchored.idle (hs : Anchored s) (h : Idle s t) : Anchored t where
  wellFormed := h.scene ▸ hs.wellFormed
  live n hn := by
    rw [h.scene]
    exact hs.live n (h.nodes ▸ hn)
  sound := h.sound hs.sound

/-- An idle part of a run leads to an anchored state. -/
lemma Anchors.idle (hs : Anchored s) (h : Idle s t) : Anchors none s t :=
  .stay (hs.idle h) h.scene

variable [Scalar α]

/-- Whatever is prepared is an idle part of a run. -/
lemma idle_preparing [RandomSource ρ] :
    Preparing (Idle : State (Scene α) ρ α → State (Scene α) ρ α → Prop) where
  refl _ := ⟨rfl, rfl, id⟩
  trans h k := ⟨k.scene.trans h.scene, k.nodes.trans h.nodes, k.sound ∘ h.sound⟩
  uniform _ := ⟨rfl, rfl, id⟩
  intRange _ _ _ := ⟨rfl, rfl, id⟩
  settle _ _ _ h := ⟨h.scene, h.nodes, h.sound⟩
  reuse _ _ _ := ⟨rfl, rfl, id⟩
  fix _ _ _ := ⟨rfl, rfl, id⟩
  define _ _ _ hbody := ⟨rfl, rfl, fun hs => hs.define hbody⟩

/-! ## Links and leaves -/

namespace Anchored
variable {settings : Settings} {accept : String → Bool} {scene : Scene α} {root link : NodeId}

/-- The links that are found below a node are there. -/
lemma live_linksBelow (h : link ∈ linksBelow settings scene root accept) : scene.Live link := by
  obtain ⟨t, ht⟩ := Walk.exists_tag _ _ h
  obtain ⟨v, hv, -⟩ := Option.bind_eq_some_iff.mp ht
  exact Scene.live_of_property? hv

/-- A link that is found by its name from the cursor is there. -/
lemma live_findLink? (hs : Anchored s) {name : String}
    (h : findLink? settings s.scene s.cursor name = some link) : s.scene.Live link := by
  unfold findLink? at h
  split at h
  · next m aliases e =>
    refine hs.cursor ?_
    rw [e]
    exact List.mem_cons_of_mem m (Aliases.get?_mem h)
  · exact live_linksBelow (List.mem_of_head? h)
  · exact live_linksBelow (List.mem_of_head? h)

/-- The links that are seen from the cursor are there. -/
lemma live_visibleLinks (hs : Anchored s)
    (h : link ∈ visibleLinks settings s.scene s.cursor accept) : s.scene.Live link := by
  unfold visibleLinks at h
  split at h
  · next m aliases e =>
    obtain ⟨entry, he, rfl⟩ := List.mem_map.mp h
    refine hs.cursor ?_
    rw [e]
    exact List.mem_cons_of_mem m (List.mem_map_of_mem (List.mem_filter.mp he).1)
  · exact live_linksBelow h
  · exact live_linksBelow h

/-- The leaves below a node that have a directive are there. -/
lemma live_directives {leaf : NodeId} {text : String}
    (h : (leaf, text) ∈ directives settings scene root) : scene.Live leaf := by
  obtain ⟨m, -, e⟩ := List.mem_filterMap.mp h
  split at e
  · obtain ⟨v, hv, ht⟩ := Option.bind_eq_some_iff.mp e
    obtain ⟨_, -, hp⟩ := Option.map_eq_some_iff.mp ht
    cases hp
    exact Scene.live_of_property? hv
  · cases e

end Anchored

/-! ## Copies -/

/-- A copy that has been made since a state and is being brought to its place. -/
structure Carried (copy : NodeId) (s t : State (Scene α) ρ α) : Prop where
  grown : Scene.Grown s.scene t.scene
  new : s.scene.lastId < copy
  live : t.scene.Live copy
  rest : t = { s with scene := t.scene }

/-- A step that brings a copy further to its place. -/
abbrev Carries {β : Type} (copy : NodeId) (act : Action (Scene α) ρ α β)
    (s t : State (Scene α) ρ α) : Prop :=
  Ends act t (fun _ => Carried copy s) (fun f => Anchors (some f) s)

section
variable {b : Scene α} {copy link : NodeId} {β γ : Type}

omit [Scalar α] in
/-- A state whose scene has grown names what it named. -/
lemma Anchored.grown (hs : Anchored s) {scene : Scene α} (h : Scene.Grown s.scene scene) :
    Anchors none s { s with scene } :=
  ⟨⟨h.wellFormed, fun n hn => h.toExtends.live (hs.live n hn), hs.sound⟩,
    fun _ hn => h.toExtends.live hn, by simp⟩

omit [Scalar α] in
/-- The scene refuses over a parent without an inverse. -/
lemma Anchors.refused (h : Anchors none s t) {f : SceneFault} (hf : f.Singular) :
    Anchors (some (.scene f)) s t := by
  refine ⟨h.anchored, h.live, fun g e => ?_⟩
  exact .inr ⟨f, (Option.some.inj e).symm, hf⟩

namespace Carried

omit [Scalar α] in
/-- A request for the copy, which the scene grants. -/
lemma request (hs : Anchored s) (h : Carried copy s t) {act : Edit (Scene α) β}
    (tends : Ends act t.scene (fun _ => Scene.Tends s.scene (fun _ => True) t.scene)
      (fun _ => Scene.Tends s.scene (fun _ => True) t.scene))
    (granted : t.scene.Grants act) : Carries copy (Derivation.request act) s t := by
  apply request_ends
  refine (tends.and granted).imp ?_ ?_
  · rintro _ scene ⟨k, -⟩
    exact ⟨k.grown, h.new, k.live copy h.live, by rw [h.rest]⟩
  · rintro f scene ⟨k, hf⟩
    rw [h.rest]
    exact (hs.grown k.grown).refused hf

omit [Scalar α] in
/-- A step with the copy on its way may be followed by one that ends the way. -/
lemma bind {act : Action (Scene α) ρ α β} {k : β → Action (Scene α) ρ α γ}
    {Q : γ → State (Scene α) ρ α → Prop} (ha : Carries copy act s t)
    (hk : ∀ x u, Carried copy s u → Ends (k x) u Q (fun f => Anchors (some f) s)) :
    Ends (act >>= k) t Q (fun f => Anchors (some f) s) := by
  apply Ends.bind
  exact Ends.imp ha hk (fun _ _ => id)

/-- Asking for a place leaves the copy on its way. -/
lemma world (hs : Anchored s) (h : Carried copy s t) (hn : t.scene.Live n) :
    Carries copy (Derivation.request (Host.world n)) s t :=
  h.request hs (h.grown.world n) (Scene.world_granted h.grown.wellFormed hn)

/-- Setting the place of the copy leaves it on its way. -/
lemma setWorld (hs : Anchored s) (h : Carried copy s t) (w : Matrix4 α) :
    Carries copy (Derivation.request (Host.setWorld copy w)) s t :=
  h.request hs (h.grown.setWorld h.new w) (Scene.setWorld_granted h.grown.wellFormed h.live w)

/-- A link that was there before the copy is not below it. -/
lemma adopt (hs : Anchored s) (h : Carried copy s t) (hlink : s.scene.Live link) :
    Carries copy (Derivation.adopt copy link) s t := by
  unfold Derivation.adopt
  apply Ends.get
  have moved := Scene.moveAll_granted h.grown.wellFormed h.live (Host.container? t.scene copy)
    (Host.container? t.scene link)
  refine bind (h.request hs (h.grown.moveAll hs.wellFormed h.new _ _) moved) fun _ u hu => ?_
  -- What is below the copy is new, and the link is not.
  have above : ¬ u.scene.Under link copy := fun hunder =>
    Nat.not_lt_of_le hlink.le_lastId (hu.grown.fresh_under hs.wellFormed hu.new hunder)
  refine hu.request hs (hu.grown.reparent hs.wellFormed hu.new trivial link) ?_
  exact Scene.reparent_granted hu.grown.wellFormed hu.live (hu.grown.toExtends.live hlink) above

/-- Mirroring the copy at a link leaves it on its way. -/
lemma mirrorAt (hs : Anchored s) (h : Carried copy s t) (hlink : s.scene.Live link) (axis : Axis) :
    Carries copy (Derivation.mirrorAt link axis copy) s t := by
  unfold Derivation.mirrorAt
  refine bind (h.world hs (h.grown.toExtends.live hlink)) fun frame t ht => ?_
  refine bind (ht.world hs ht.live) fun world t ht => ?_
  dsimp only
  refine bind (ht.setWorld hs _) fun _ t ht => ?_
  have baked : Carries copy (Derivation.request (Host.bake copy)) s t :=
    ht.request hs (ht.grown.update ht.new (fun _ => rfl) (fun _ => rfl))
      (Scene.update_granted ht.live _)
  refine bind baked fun _ t ht => ?_
  exact ht.request hs (ht.grown.update ht.new (fun _ => rfl) (fun _ => rfl))
    (Scene.update_granted ht.live _)

/-- Making a copy and bringing it under a link. -/
lemma settle (hs : Anchored s) {source : NodeId} (hsource : s.scene.Live source)
    {place : LinkPlace α} (hplace : s.scene.Live place.node)
    {k : NodeId → Action (Scene α) ρ α γ} {Q : γ → State (Scene α) ρ α → Prop}
    (hk : ∀ copy t, Carried copy s t → Ends (k copy) t Q (fun f => Anchors (some f) s)) :
    Ends (do
      let copy ← Derivation.request (Host.duplicate source)
      Derivation.request (Host.setWorld copy place.composed)
      Derivation.adopt copy place.node
      k copy) s Q (fun f => Anchors (some f) s) := by
  have start := Scene.Grown.refl hs.wellFormed
  have made := (start.duplicate (S := fun _ => True) trivial source).and
    (Scene.duplicate_granted hs.wellFormed hsource)
  apply Ends.bind
  refine request_ends (made.imp ?_ ?_)
  · rintro copy scene ⟨⟨hcopy, hlive, hd⟩, -⟩
    have h : Carried copy s { s with scene } :=
      ⟨hd.grown, hcopy ▸ Nat.lt_succ_self _, hlive, rfl⟩
    refine bind (h.setWorld hs _) fun _ t ht => ?_
    exact bind (ht.adopt hs hplace) fun _ u hu => hk copy u hu
  · rintro f scene ⟨hd, hf⟩
    exact (hs.grown hd.grown).refused hf

omit [Scalar α] in
/-- A copy that has come to its place leaves the run anchored. -/
lemma anchors (hs : Anchored s) (h : Carried copy s t) : Anchors none s t := by
  rw [h.rest]
  exact hs.grown h.grown

end Carried

end

/-! ## Rules -/

namespace Anchored
variable (hs : Anchored s)
include hs

/-- Entering a link that is there leads to an anchored state. -/
lemma enterLink (hn : s.scene.Live n) : Obeys Anchors (Derivation.enterLink n) s := by
  obtain ⟨w, -, e⟩ := hs.wellFormed.world_ok hn
  unfold Derivation.enterLink
  apply Ends.bind
  refine request_ends (Ends.of_ok e (Ends.modify ?_))
  exact .stay (hs.widen hn rfl rfl (s.nodes_withCursor rfl)) rfl

/-- Copying a child of a node to a link leads to an anchored state. -/
lemma copyChild {place : LinkPlace α} (hplace : s.scene.Live place.node) (mirror : Option Axis)
    {child : NodeId} (hchild : s.scene.Live child) :
    Obeys Anchors (Derivation.copyChild place mirror child) s := by
  unfold Derivation.copyChild
  refine Carried.settle hs hchild hplace fun copy t ht => ?_
  have listed : ∀ u, Carried copy s u → Anchors none s (u.addGenerated copy) := by
    intro u hu
    have h := hu.anchors hs
    exact h.follow (h.anchored.narrow rfl rfl (List.Subset.refl _)) rfl
  cases mirror with
  | some axis =>
    exact Carried.bind (ht.mirrorAt hs hplace axis) fun _ u hu => Ends.modify (listed u hu)
  | none => exact Ends.bind (Ends.pure (Ends.modify (listed t ht)))

/-- Copying the children of a sibling link leads to an anchored state. -/
lemma copySiblings (settings : Settings) {place : LinkPlace α} (hplace : s.scene.Live place.node)
    (name : String) (mirror : Option Axis) :
    Obeys Anchors (copySiblingChildren settings place name mirror) s := by
  unfold copySiblingChildren
  apply Ends.get
  dsimp only
  split
  · exact Ends.pure (.refl hs)
  · split
    · exact Ends.pure (.refl hs)
    · refine Obeys.forM (.refl hs) .trans fun child hchild t hst => ?_
      have hchild := hst.live child (hs.wellFormed.live_child hchild)
      exact hst.anchored.copyChild (hst.live _ hplace) mirror hchild

/-- Creating a link below an object leads to an anchored state. -/
lemma addLink (settings : Settings) {object : NodeId} (hobject : s.scene.Live object)
    (name : String) : Obeys Anchors (addLinkTo settings object name) s := by
  obtain ⟨w, -, e⟩ := hs.wellFormed.world_ok hobject
  have start := Scene.Grown.refl hs.wellFormed
  have made := (start.addMarker (S := fun _ => True) w (.inl trivial)).and
    (Scene.addMarker_granted hs.wellFormed hobject w)
  unfold addLinkTo
  apply Ends.bind
  refine request_ends (Ends.of_ok e ?_)
  apply Ends.bind
  refine request_ends (made.imp ?_ ?_)
  · rintro marker scene ⟨⟨hnew, hlive, hd⟩, -⟩
    have h : Carried marker s { s with scene } := ⟨hd.grown, hnew, hlive, rfl⟩
    have hset := h.request hs (h.grown.setProperty hnew settings.linkKey (.str name))
      (Scene.update_granted hlive _)
    exact hset.imp (fun _ _ hu => hu.anchors hs) (fun _ _ => id)
  · rintro f scene ⟨hd, hf⟩
    exact (hs.grown hd.grown).refused hf

/-- Placing one of some templates that are there leads to an anchored state. -/
lemma placeTemplate [RandomSource ρ] (settings : Settings) (collection : String)
    {members : List NodeId} (hmembers : ∀ m ∈ members, s.scene.Live m) :
    Obeys Anchors (Derivation.placeTemplate settings collection members) s := by
  unfold Derivation.placeTemplate
  apply Ends.bind
  refine (requireLink_ends "instance" s).imp ?_ ?_
  · rintro place _ ⟨rfl, hplace⟩
    apply Ends.get
    dsimp only
    refine Obeys.bind .trans (Ends.modify (.refl hs)) fun _ t ht => ?_
    refine Obeys.bind .trans (Ends.modifyGet (.idle ht.anchored ⟨rfl, rfl, id⟩)) fun x u hu => ?_
    have hu := ht.trans hu
    split
    · exact Ends.pure (.refl hu.anchored)
    · next template htemplate =>
      obtain ⟨i, -, hi⟩ := Option.bind_eq_some_iff.mp htemplate
      have hlive := hu.live _ (hmembers template (List.mem_of_getElem? hi))
      refine Carried.settle hu.anchored hlive (hu.live _ (hs.link hplace)) fun copy v hv => ?_
      refine Ends.bind (Ends.modify (Ends.get (Ends.bind (Ends.modify (Ends.modify ?_)))))
      have h := hv.anchors hu.anchored
      -- The copy is named by the cursor first, and then by definitions without an object, too.
      have atCopy : Anchored { v with cursor := .object copy } :=
        h.anchored.widen hv.live rfl rfl (v.nodes_withCursor rfl)
      exact h.follow (atCopy.widen hv.live rfl rfl (State.nodes_addPlaced _ copy)) rfl
  · rintro f _ ⟨rfl, rfl⟩
    exact ⟨hs, fun _ => id, fun _ e => Option.some.inj e ▸ .inl rfl⟩

end Anchored

variable [RandomSource ρ]

omit [Scalar α] in
/-- The members of a collection are there. -/
lemma live_topLevel? {scene : Scene α} {collection : String} {members : List NodeId}
    (h : scene.topLevel? collection = some members) : ∀ m ∈ members, scene.Live m := by
  unfold Scene.topLevel? at h
  split at h
  · cases h
    intro m hm
    have hids := (List.mem_filter.mp (List.mem_filter.mp hm).1).2
    exact Option.isSome_iff_exists.mp hids
  · cases h

/-- Rules without defects lead from anchored states to anchored states. -/
lemma anchors_regime (settings : Settings) :
    Regime settings (fun _ r => r.defect? = none) Anchored
      (Anchors : Option Fault → State (Scene α) ρ α → State (Scene α) ρ α → Prop) where
  refl hs := .refl hs
  trans h k := h.trans k
  keeps _ h := h.anchored
  body h _ hq := Rule.defect?_of_mem_body h hq
  known hs h := Rule.defectOf?_eq_none_iff.mp (hs.sound _ _ h)
  tolerate {f s t} _ _ h := by
    obtain ⟨errors, e⟩ := record_eq settings t f
    rw [e]
    exact ⟨h.anchored.narrow rfl rfl (List.Subset.refl _), h.live, by simp⟩
  misplaced _ _ hs := ⟨hs, fun _ => id, fun _ e => Option.some.inj e ▸ .inl rfl⟩
  draw {s r shape e} hs hr he := by
    refine (idle_preparing.resolveAs shape r.word e s).imp (fun _ _ h => .idle hs h) ?_
    rintro f t ⟨h, hf⟩
    have ht := Anchors.idle hs h
    obtain ⟨v, rfl⟩ | ⟨-, hd⟩ := hf
    · exact ⟨ht.anchored, ht.live, fun _ e => Option.some.inj e ▸ .inl rfl⟩
    · exact absurd (Rule.defect?_of_argument? hr he) hd
  compile {s source body} hs hr := by
    refine (idle_preparing.compile source).imp (fun _ _ h => .idle hs h.1) ?_
    rintro f t ⟨-, d, hd, -⟩
    rw [(Option.or_eq_none_iff.mp hr).1] at hd
    cases hd
  random _ hs := .idle hs ⟨rfl, rfl, id⟩
  rule hs _ := .refl hs
  define hs hr := .idle hs ⟨rfl, rfl, fun h => h.define (Rule.defectOf?_eq_none_iff.mpr
    fun _ hq => Rule.defect?_of_mem_body hr hq)⟩
  publish {s place} name hs h := by
    have nodes := s.nodes_publish name place.node
    have hscene := s.scene_publish name place.node
    exact .stay (hs.widen (hs.link h) hscene (s.definitions_publish name place.node) nodes) hscene
  adjust offset hs h := .stay (hs.widen (hs.link h) rfl rfl (State.nodes_withCursor _ rfl)) rfl
  copySiblings name mirror hs h := hs.copySiblings settings (hs.link h) name mirror
  addLink name hs h := hs.addLink settings (hs.cursor (Cursor.object?_mem h)) name
  goTo hs h := hs.enterLink (hs.live_findLink? h)
  push hs := hs.push
  pop _ h := h.pop
  visit hs h hl := h.anchored.push.enterLink (h.live _ (hs.live_visibleLinks hl))
  placeTemplate {_ collection _} hs _ h := hs.placeTemplate settings collection (live_topLevel? h)
  visitLeaf {s t object leaf text} hs h _ hl := by
    have ht : Anchored { t with expanded := leaf :: t.expanded } :=
      h.anchored.narrow rfl rfl (List.Subset.refl _)
    exact ⟨.stay ht rfl, ht.push.enterLink (h.live leaf (Anchored.live_directives hl))⟩
  named hs _ _ := .refl hs
  read {s leaf text grammar rules fresh} hs _ _ _ := by
    refine (idle_preparing.prepareAll rules _).imp ?_ ?_
    · rintro _ t ⟨h, hd⟩
      exact ⟨.idle hs ⟨h.scene, h.nodes, h.sound⟩, Rule.defectOf?_eq_none_iff.mp hd⟩
    · rintro f t ⟨h, -⟩
      obtain ⟨errors, e⟩ := record_eq settings t f
      rw [e]
      exact .idle hs ⟨h.scene, h.nodes, h.sound⟩
  descend hs _ := hs.narrow rfl rfl (List.Subset.refl _)
  ascend _ _ h := h.ascend
  expanded hs _ := .refl hs
  openCapture {s} hs := hs.narrow rfl rfl s.nodes_openCapture
  closeCapture _ h := h.close.anchored
  expand _ _ h k l := (h.trans (k.close.trans l)).ascend
  abort _ _ h k := (h.trans k.close).ascend

end Derivation

end SceneGrammar
