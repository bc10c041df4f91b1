import SceneGrammar.Proofs.Derivation.Anchor
import SceneGrammar.Proofs.Derivation.Diary
import SceneGrammar.Proofs.Derivation.Faults
import SceneGrammar.Proofs.Derivation.Tidy
import SceneGrammar.Proofs.Scene.Refusal

/-!
# Links stay where they were entered

A run remembers the place that a link had in the world when it was entered. On a forest that place is
the present one for as long as the run remembers it, and all nodes that the run holds on to are there: a
run is `Current` at every rule (`generate_current`). New nodes alone are moved, and no link that a run
holds is below a node that is still being brought to its place.
-/

namespace SceneGrammar

namespace Derivation

/-! ## What a run holds on to -/

namespace State
variable {σ ρ α : Type} (s : State σ ρ α) {place : LinkPlace α}

/-- The cursor and those that a run may go back to. -/
def cursors : List (Cursor α) := s.cursor :: (s.scopes ++ s.captures.map (·.entry))

/-- A new scope holds no new link. -/
lemma link_pushScope (h : .link place ∈ s.pushScope.cursors) : .link place ∈ s.cursors := by
  simp only [cursors, pushScope, List.mem_cons, List.mem_append] at h ⊢
  tauto

/-- Leaving a scope holds no new link. -/
lemma link_popScope (h : .link place ∈ s.popScope.cursors) : .link place ∈ s.cursors := by
  unfold popScope at h
  split at h
  · next c cs e =>
    simp only [cursors, e, List.mem_cons, List.mem_append] at h ⊢
    tauto
  · exact h

/-- Opening a definition holds no new link. -/
lemma link_openCapture (h : .link place ∈ s.openCapture.cursors) : .link place ∈ s.cursors := by
  simp only [cursors, openCapture, List.map_cons, List.mem_cons, List.mem_append] at h ⊢
  tauto

/-- Closing a definition holds no new link. -/
lemma link_closeCapture (h : .link place ∈ s.closeCapture.cursors) : .link place ∈ s.cursors := by
  unfold closeCapture at h
  split at h
  · next c cs e =>
    split at h
    · simp only [cursors, e, List.map_cons, List.mem_cons, List.mem_append, reduceCtorEq] at h ⊢
      tauto
    · simp only [cursors, e, List.map_cons, List.mem_cons, List.mem_append] at h ⊢
      tauto
  · exact h

/-- Publishing a link leaves the cursors. -/
lemma cursors_publish (name : String) (link : NodeId) : (s.publish name link).cursors = s.cursors := by
  unfold publish
  split
  · next c cs e => simp [cursors, e]
  · rfl

/-- So does offering an object to definitions. -/
lemma cursors_addPlaced (n : NodeId) : (s.addPlaced n).cursors = s.cursors := by
  simp [cursors, addPlaced, addGenerated]

end State

variable {ρ α : Type} {s t u : State (Scene α) ρ α} {o : Option Fault} {n : NodeId}

open Scene (Grown)

/-- A run on a forest whose nodes are there and whose links are where they were entered. -/
structure Current [Scalar α] (s : State (Scene α) ρ α) : Prop where
  wellFormed : s.scene.WellFormed
  live : ∀ n ∈ s.nodes, s.scene.Live n
  world : ∀ place, .link place ∈ s.cursors → s.scene.worldOf place.node = .ok place.world
  generated : ∀ n ∈ s.generated.toList, s.scene.Live n

/-- A step that does nothing tends the scene. -/
lemma Tending.refl {b : Scene α} {S : NodeId → Prop} (s : State (Scene α) ρ α) :
    Tending b S none s s := ⟨.refl s, fun h => .refl h, by simp⟩

/-- A change of the scene alone. -/
lemma Tending.of_tends {b : Scene α} {S : NodeId → Prop} (s : State (Scene α) ρ α) {scene : Scene α}
    (h : Scene.Tends b S s.scene scene) : Tending b S none s { s with scene } :=
  ⟨⟨rfl, rfl, rfl, rfl, rfl⟩, fun _ => h, by simp⟩

namespace Current
variable [Scalar α]

/-- The scene grows, and what the run holds on to it held before, or it is there now. -/
lemma advance (hs : Current s) (grown : Grown s.scene t.scene)
    (nodes : ∀ n ∈ t.nodes, n ∈ s.nodes ∨ t.scene.Live n)
    (cursors : ∀ place, .link place ∈ t.cursors →
      .link place ∈ s.cursors ∨ t.scene.worldOf place.node = .ok place.world)
    (generated : ∀ n ∈ t.generated.toList, n ∈ s.generated.toList ∨ t.scene.Live n) : Current t where
  wellFormed := grown.wellFormed
  live n hn := (nodes n hn).elim (fun h => grown.toExtends.live (hs.live n h)) id
  world place h := (cursors place h).elim (fun h => grown.toExtends.worldOf_ok (hs.world place h)) id
  generated n hn := (generated n hn).elim (fun h => grown.toExtends.live (hs.generated n h)) id

/-- A state that holds on to nothing else. -/
lemma narrow (hs : Current s) (scene : t.scene = s.scene) (nodes : t.nodes ⊆ s.nodes)
    (cursors : ∀ place, .link place ∈ t.cursors → .link place ∈ s.cursors)
    (generated : t.generated = s.generated) : Current t := by
  have grown : Grown s.scene t.scene := by
    rw [scene]
    exact .refl hs.wellFormed
  refine hs.advance grown (fun n hn => .inl (nodes hn)) (fun place h => .inl (cursors place h)) ?_
  exact fun n hn => .inl (generated ▸ hn)

/-- A new scope leaves all links where they were entered. -/
lemma pushScope (hs : Current s) : Current s.pushScope :=
  hs.narrow rfl s.nodes_pushScope (fun _ => s.link_pushScope) rfl

/-- Leaving a scope leaves all links where they were entered. -/
lemma popScope (hs : Current s) : Current s.popScope := by
  have generated : s.popScope.generated = s.generated := by
    obtain ⟨_, _, e⟩ := s.popScope_eq
    rw [e]
  exact hs.narrow s.scene_popScope s.nodes_popScope (fun _ => s.link_popScope) generated

/-- Opening a definition leaves all links where they were entered. -/
lemma openCapture (hs : Current s) : Current s.openCapture :=
  hs.narrow rfl s.nodes_openCapture (fun _ => s.link_openCapture) rfl

/-- Closing a definition leaves all links where they were entered. -/
lemma closeCapture (hs : Current s) : Current s.closeCapture := by
  have generated : s.closeCapture.generated = s.generated := by
    obtain ⟨_, _, e⟩ := s.closeCapture_eq
    rw [e]
  exact hs.narrow s.scene_closeCapture s.nodes_closeCapture (fun _ => s.link_closeCapture) generated

/-- A state that differs in a run's own books only. -/
lemma book (hs : Current s) (random : ρ) (definitions settled freshLabel expanded errors) :
    Current { s with random, definitions, settled, freshLabel, expanded, errors } :=
  hs.narrow rfl (List.Subset.refl _) (fun _ => id) rfl

/-- Publishing a link at which the run stands. -/
lemma publish (hs : Current s) {place : LinkPlace α} (h : s.cursor = .link place) (name : String) :
    Current (s.publish name place.node) := by
  have scene := s.scene_publish name place.node
  have generated : (s.publish name place.node).generated = s.generated := by
    obtain ⟨_, e⟩ := s.publish_eq name place.node
    rw [e]
  refine hs.narrow scene (fun n hn => ?_) (fun _ hc => s.cursors_publish name place.node ▸ hc) generated
  cases List.mem_cons.mp (s.nodes_publish name place.node hn) with
  | inl e =>
    subst e
    refine s.nodes_cursor ?_
    rw [h]
    exact List.mem_singleton_self _
  | inr hn => exact hn

/-- An offset does not move the link to which it belongs. -/
lemma adjust (hs : Current s) {place : LinkPlace α} (h : s.cursor = .link place) (offset : Offset α) :
    Current { s with cursor := .link { place with offset } } := by
  have held : Cursor.link place ∈ s.cursors := h ▸ List.mem_cons_self
  refine hs.advance (.refl hs.wellFormed) (fun n hn => .inl ?_) (fun p hp => ?_) (fun n hn => .inl hn)
  · simpa [State.nodes, h, Cursor.nodes] using hn
  · cases List.mem_cons.mp hp with
    | inl e =>
      cases e
      exact .inr (hs.world place held)
    | inr hp => exact .inl (List.mem_cons_of_mem _ hp)

/-- Entering a link, which has to be there. -/
lemma enterLink (hs : Current s) (n : NodeId) :
    Ends (Derivation.enterLink n) s (fun _ => Current) (fun _ => Current) := by
  unfold Derivation.enterLink
  apply Ends.bind
  refine request_ends ((Scene.ask_ends s.scene _).imp ?_ ?_)
  · rintro w _ ⟨rfl, e⟩
    refine Ends.modify (hs.advance (.refl hs.wellFormed) ?_ ?_ (fun n hn => .inl hn))
    · intro m hm
      cases List.mem_cons.mp (s.nodes_withCursor rfl hm) with
      | inl em => exact .inr (em ▸ Scene.live_of_worldOf e)
      | inr hm => exact .inl hm
    · intro place hp
      cases List.mem_cons.mp hp with
      | inl ep =>
        cases ep
        exact .inr e
      | inr hp => exact .inl (List.mem_cons_of_mem _ hp)
  · rintro f _ rfl
    exact hs

/-! ## Copies -/

/-- New nodes may be added and moved at will. -/
lemma tend {S : NodeId → Prop} (hs : Current s) (h : Tending s.scene S o s t) : Current t := by
  refine hs.advance (h.tends (.refl hs.wellFormed)).grown (fun n hn => .inl ?_) (fun p hp => .inl ?_)
    (fun n hn => .inl (h.steady.generated ▸ hn))
  · simpa [State.nodes, h.steady.cursor, h.steady.scopes, h.steady.captures] using hn
  · simpa [State.cursors, h.steady.cursor, h.steady.scopes, h.steady.captures] using hp

/-- What follows requests that tend the scene. -/
lemma follow {S : NodeId → Prop} {β γ : Type} (hs : Current s) (h : Tending s.scene S none s t)
    {act : Action (Scene α) ρ α β} {k : β → Action (Scene α) ρ α γ}
    (ha : Obeys (Tending s.scene S) act t)
    (hk : ∀ x u, Tending s.scene S none s u → (∀ m, t.scene.Live m → u.scene.Live m) →
      Ends (k x) u (fun _ => Current) (fun _ => Current)) :
    Ends (act >>= k) t (fun _ => Current) (fun _ => Current) := by
  have grown := (h.tends (.refl hs.wellFormed)).grown
  refine (Tending.refl t).bind ha (fun x u hu => ?_) (fun f u hu => hs.tend (h.trans hu))
  exact hk x u (h.trans hu) (hu.tends grown).live

/-- Making a copy and bringing it to its place. -/
lemma copy {β : Type} (hs : Current s) (source : NodeId) (place : LinkPlace α)
    {k : NodeId → Action (Scene α) ρ α β}
    (hk : ∀ copy t, Tending s.scene (fun _ => True) none s t → t.scene.Live copy →
      Handles (Tending (ρ := ρ) s.scene fun _ => True) copy →
        Ends (k copy) t (fun _ => Current) (fun _ => Current)) :
    Ends (do
      let copy ← request (Host.duplicate source)
      request (Host.setWorld copy place.composed)
      adopt copy place.node
      k copy) s (fun _ => Current) (fun _ => Current) := by
  have start := Grown.refl hs.wellFormed
  apply Ends.bind
  refine request_ends ((start.duplicate (S := fun _ => True) trivial source).imp ?_ ?_)
  · rintro copy scene ⟨hcopy, hlive, hd⟩
    have made := Tending.of_tends s hd
    have new : s.scene.lastId < copy := hcopy ▸ Nat.lt_succ_self _
    have handles := tending_handles (ρ := ρ) (S := fun _ => True) hs.wellFormed new trivial
    refine hs.follow made (handles.setWorld _ _) fun _ t ht live => ?_
    refine hs.follow ht (handles.adopt _ t) fun _ u hu live' => ?_
    exact hk copy u hu (live' copy (live copy hlive)) handles
  · intro f scene hd
    exact hs.tend (.of_tends s hd)

/-- A copy is listed. -/
lemma addGenerated (hs : Current s) (h : s.scene.Live n) : Current (s.addGenerated n) := by
  refine hs.advance (.refl hs.wellFormed) (fun _ hn => .inl hn) (fun _ hp => .inl hp) ?_
  intro m hm
  have hm : m ∈ s.generated.toList ∨ m = n := by simpa [State.addGenerated] using hm
  cases hm with
  | inl hm => exact .inl hm
  | inr e => exact .inr (e ▸ h)

/-- A copy is listed, and offered to definitions. -/
lemma addPlaced (hs : Current s) (h : s.scene.Live n) : Current (s.addPlaced n) := by
  refine (hs.addGenerated h).advance (.refl hs.wellFormed) (fun m hm => ?_) (fun p hp => .inl ?_)
    (fun _ hn => .inl hn)
  · cases List.mem_cons.mp (s.nodes_addPlaced n hm) with
    | inl e => exact .inr (e ▸ h)
    | inr hm => exact .inl hm
  · exact s.cursors_addPlaced n ▸ hp

/-- The cursor goes to an object that is there. -/
lemma stand (hs : Current s) (h : s.scene.Live n) : Current { s with cursor := .object n } := by
  refine hs.advance (.refl hs.wellFormed) (fun m hm => ?_) (fun p hp => ?_) (fun _ hn => .inl hn)
  · cases List.mem_cons.mp (s.nodes_withCursor rfl hm) with
    | inl e => exact .inr (e ▸ h)
    | inr hm => exact .inl hm
  · cases List.mem_cons.mp hp with
    | inl e => cases e
    | inr hp => exact .inl (List.mem_cons_of_mem _ hp)

/-- Copying a child of a node leaves all links where they were entered. -/
lemma copyChild (hs : Current s) (place : LinkPlace α) (mirror : Option Axis) (child : NodeId) :
    Ends (Derivation.copyChild place mirror child) s (fun _ => Current) (fun _ => Current) := by
  unfold Derivation.copyChild
  refine hs.copy child place fun copy t ht hlive handles => ?_
  cases mirror with
  | some axis =>
    refine hs.follow ht (handles.mirrorAt place.node axis t) fun _ u hu live => ?_
    exact Ends.modify ((hs.tend hu).addGenerated (live copy hlive))
  | none => exact Ends.bind (Ends.pure (Ends.modify ((hs.tend ht).addGenerated hlive)))

/-- Copying the children of a sibling leaves all links where they were entered. -/
lemma copySiblings (hs : Current s) (settings : Settings) (place : LinkPlace α) (name : String)
    (mirror : Option Axis) :
    Ends (copySiblingChildren settings place name mirror) s (fun _ => Current) (fun _ => Current) := by
  unfold copySiblingChildren
  apply Ends.get
  dsimp only
  split
  · exact Ends.pure hs
  · split
    · exact Ends.pure hs
    · exact Ends.forM hs fun child _ t ht => ht.copyChild place mirror child

/-- Creating a link leaves all links where they were entered. -/
lemma addLink (hs : Current s) (settings : Settings) (object : NodeId) (name : String) :
    Ends (addLinkTo settings object name) s (fun _ => Current) (fun _ => Current) := by
  have start := Grown.refl hs.wellFormed
  unfold addLinkTo
  refine hs.follow (S := fun _ => True) (.refl s) (tending_request (fun _ h => h.world object) s) ?_
  intro w t ht _
  apply Ends.bind
  refine request_ends (((ht.tends start).grown.addMarker (S := fun _ => True) w (.inl trivial)).imp ?_ ?_)
  · rintro marker scene ⟨hm, -, hd⟩
    have added := ht.trans (.of_tends t hd)
    have named : Obeys (Tending s.scene fun _ => True)
        (request (Host.setProperty marker settings.linkKey (.str name))) { t with scene } :=
      tending_request (fun _ h => h.setProperty hm _ _) _
    exact named.imp (fun _ _ hu => hs.tend (added.trans hu)) (fun _ _ hu => hs.tend (added.trans hu))
  · intro f scene hd
    exact hs.tend (ht.trans (.of_tends t hd))

/-- Placing a template leaves all links where they were entered. -/
lemma placeTemplate [RandomSource ρ] (hs : Current s) (settings : Settings) (collection : String)
    (members : List NodeId) :
    Ends (Derivation.placeTemplate settings collection members) s (fun _ => Current)
      (fun _ => Current) := by
  unfold Derivation.placeTemplate
  apply Ends.bind
  refine (requireLink_ends "instance" s).imp ?_ ?_
  · rintro place t ⟨rfl, -⟩
    have drawn : Current { t with random := (RandomSource.uniform t.random).2 } :=
      hs.narrow rfl (List.Subset.refl _) (fun _ => id) rfl
    apply Ends.get
    refine Ends.bind (Ends.modify (Ends.bind (Ends.modifyGet ?_)))
    dsimp only
    split
    · exact Ends.pure drawn
    · next template _ =>
      refine drawn.copy template place fun copy t ht hlive _ => ?_
      refine Ends.bind (Ends.modify (Ends.get (Ends.bind (Ends.modify (Ends.modify ?_)))))
      exact ((drawn.tend ht).stand hlive).addPlaced hlive
  · rintro f _ ⟨rfl, -⟩
    exact hs

end Current

variable [Scalar α] [RandomSource ρ]

/-- Drawing and preparing leave a run current. -/
lemma current_preparing :
    Preparing (fun s t : State (Scene α) ρ α => Current s → Current t) where
  refl _ := id
  trans h k := k ∘ h
  uniform _ hs := hs.book _ _ _ _ _ _
  intRange _ _ _ hs := hs.book _ _ _ _ _ _
  settle _ _ _ h hs := (h hs).book _ _ _ _ _ _
  reuse _ _ _ hs := hs
  fix _ _ _ hs := hs.book _ _ _ _ _ _
  define _ _ _ _ hs := hs.book _ _ _ _ _ _

omit [RandomSource ρ] in
/-- Recording a fault leaves all links where they were entered. -/
lemma current_record (settings : Settings) (s : State (Scene α) ρ α) (f : Fault) (hs : Current s) :
    Current (s.record settings f) := by
  obtain ⟨errors, e⟩ := record_eq settings s f
  rw [e]
  exact hs.book _ _ _ _ _ _

/-- Every rule leaves a run current, whether it fails or not. -/
theorem current_regime (settings : Settings) :
    Regime settings (fun _ _ => True) Current
      (fun _ _ t => Current t : Option Fault → State (Scene α) ρ α → State (Scene α) ρ α → Prop) where
  refl hs := hs
  trans _ k := k
  keeps _ h := h
  body _ _ _ := trivial
  known _ _ _ _ := trivial
  tolerate _ _ h := current_record settings _ _ h
  misplaced _ _ hs := hs
  draw {s r shape e} hs _ _ := by
    exact (current_preparing.resolveAs shape r.word e s).imp (fun _ _ h => h hs) (fun _ _ h => h.1 hs)
  compile {s source body} hs _ := by
    exact (current_preparing.compile source).imp (fun _ _ h => h.1 hs) (fun _ _ h => h.1 hs)
  random _ hs := hs.book _ _ _ _ _ _
  rule hs _ := hs
  define hs _ := hs.book _ _ _ _ _ _
  publish name hs e := hs.publish e name
  adjust offset hs e := hs.adjust e offset
  copySiblings name mirror hs _ := hs.copySiblings settings _ name mirror
  addLink name hs _ := hs.addLink settings _ name
  goTo hs _ := hs.enterLink _
  push hs := hs.pushScope
  pop _ h := h.popScope
  visit _ h _ := h.pushScope.enterLink _
  placeTemplate hs _ _ := hs.placeTemplate settings _ _
  visitLeaf {s t object leaf text} _ h _ _ := by
    have marked : Current { t with expanded := leaf :: t.expanded } :=
      h.book _ _ _ _ _ _
    exact ⟨marked, marked.pushScope.enterLink leaf⟩
  named hs _ _ := hs
  read {s leaf text grammar rules fresh} hs _ _ _ := by
    have labelled : Current { s with freshLabel := fresh } := hs.book _ _ _ _ _ _
    refine (current_preparing.prepareAll rules _).imp ?_ ?_
    · exact fun _ t h => ⟨h.1 labelled, fun _ _ => trivial⟩
    · exact fun f t h => current_record settings t f (h.1 labelled)
  descend hs _ := hs.narrow rfl (List.Subset.refl _) (fun _ => id) rfl
  ascend _ _ h := h.narrow rfl (List.Subset.refl _) (fun _ => id) rfl
  expanded hs _ := hs
  openCapture hs := hs.openCapture
  closeCapture _ h := h.closeCapture
  expand _ _ _ _ h := h.narrow rfl (List.Subset.refl _) (fun _ => id) rfl
  abort _ _ _ h := h.closeCapture.narrow rfl (List.Subset.refl _) (fun _ => id) rfl

/-! ## Whole runs -/

/-- Preparing a grammar leaves all links where they were entered. -/
lemma prepareEach_current (settings : Settings) (rules : List (Rule Nat)) (hs : Current s) :
    Current (prepareEach settings rules s) :=
  current_preparing.prepareEach (current_record settings) rules s hs

/-- A grammar leaves a run current. -/
lemma derive_current (settings : Settings) (rules : List (Rule Nat)) (hs : Current s) :
    Current (derive (outermost settings) rules s) :=
  have regime := current_regime (ρ := ρ) (α := α) settings
  regime.derive (current_record settings) (regime.placeWithin _) (prepareEach_current settings rules hs)
    fun _ _ _ => trivial

omit [RandomSource ρ] in
/-- A run begins at a link that it enters where it is. -/
lemma started_current {scene : Scene α} {start : NodeId} {world : Matrix4 α} (hs : scene.WellFormed)
    (hstart : scene.Live start) (hworld : scene.worldOf start = .ok world) (random : ρ) (fresh : Nat) :
    Current (State.started random fresh start world scene) where
  wellFormed := hs
  live := (started_anchored hs hstart random fresh world).live
  world place h := by
    cases h with
    | head => exact hworld
    | tail _ h => cases h
  generated _ h := by cases h

/-- At every rule of a run on a forest all nodes that the run holds are there, and each link that it holds
has the place in the world at which it was entered. -/
theorem generate_current (settings : Settings) (grammar : Grammar) (start : NodeId) (scene : Scene α)
    (random : ρ) (hs : scene.WellFormed) (hstart : scene.Live start) :
    let run := generate settings grammar start scene random
    let diary := generate settings grammar start ({ host := scene } : Diary (Scene α) α) random
    run = (diary.1, diary.2.1.host, diary.2.2) ∧
      (∀ depth r cursor scopes captures form,
        (Event.rule depth r cursor scopes captures, form) ∈ diary.2.1.entries →
          (∀ n ∈ cursor.nodes ++ (scopes.flatMap Cursor.nodes ++ captures.flatMap Capture.nodes),
            form.Live n) ∧
          ∀ place, .link place ∈ cursor :: (scopes ++ captures.map (·.entry)) →
            form.worldOf place.node = .ok place.world ∧
              (form.worldOf place.node).map (· * place.offset.matrix) = .ok place.composed) ∧
      -- So it is after every rule that begins so, and at the end of the run.
      (∀ levels r (s : State (Scene α) ρ α), Current s →
        Current (after (execute ⟨settings, placeWithin settings levels⟩ r) s)) ∧
      ∃ base world, clearStart settings start scene = .ok () base ∧ base.worldOf start = .ok world ∧
        let ended := derive (outermost settings) (Rule.numberAll grammar 0).1
          (State.started random (Rule.numberAll grammar 0).2 start world base)
        Current ended ∧ run = (ended.generation, ended.scene, ended.random) := by
  obtain ⟨base, ebase, hbase, hlive⟩ := clearStart_ok settings hs hstart
  obtain ⟨world, hworld, eworld⟩ := hbase.world_ok hlive
  have started := started_current hbase hlive hworld random (Rule.numberAll grammar 0).2
  have regime := current_regime (ρ := ρ) (α := α) settings
  intro run diary
  refine ⟨?view, ?entries, ?steps, base, world, ebase, hworld, ?ended⟩
  case view => exact generate_view Diary.view settings grammar start { host := scene } random
  case entries =>
    have attests : diary.2.1.Attests (Current : State (Scene α) ρ α → Prop) := by
      refine regime.generate_diary (current_record settings) fun base' world' t e e' => ?_
      obtain ⟨-, rfl⟩ := EStateM.Result.ok.inj (ebase.symm.trans e)
      obtain ⟨rfl, rfl⟩ := EStateM.Result.ok.inj (eworld.symm.trans e')
      exact ⟨prepareEach_current settings _ started, fun _ _ _ => trivial⟩
    intro depth r cursor scopes captures form hm
    obtain ⟨s, hs, rfl, -, rfl, rfl, rfl⟩ := attests depth r cursor scopes captures form hm
    refine ⟨hs.live, fun place h => ?_⟩
    rw [hs.world place h]
    exact ⟨rfl, rfl⟩
  case steps =>
    intro levels r s hs
    exact (regime.execute (regime.placeWithin levels) r s trivial hs).after
  case ended =>
    have hrun := ((generateIn_cases (outermost settings) grammar start scene random).ok ebase).ok eworld
    obtain ⟨s, rfl, hrun⟩ := hrun
    exact ⟨derive_current settings _ started, hrun⟩

/-- The link at which a run begins an empty block, outside of all scopes, definitions and instances. -/
def blockLink? {α : Type} : Event α → Option (LinkPlace α)
  | .rule 0 (.block []) (.link place) [] [] => some place
  | _ => none

/-- The link of an empty block is that of the rule that begins at it. -/
lemma eq_of_blockLink? {α : Type} {e : Event α} {place : LinkPlace α}
    (h : blockLink? e = some place) : e = .rule 0 (.block []) (.link place) [] [] := by
  unfold blockLink? at h
  split at h
  case h_1 => cases h; rfl
  case h_2 => cases h

/-- A run that places a tree in the orchard by a definition and goes back to the root by a link that the
definition published. -/
theorem generate_current_orchard :
    let grammar : Grammar :=
      [.define "grove" [.exportLink (.literal (.str "gate")), .place (.literal (.str "trees"))],
        .place (.literal (.str "grove")), .goTo (.literal (.str "gate")), .block []]
    let scene : Scene Float := Scene.orchard
    let diary := generate {} grammar 2 ({ host := scene } : Diary (Scene Float) Float)
      ({ uniforms := #[] } : Random.Scripted)
    scene.WellFormed ∧ scene.Live 2 ∧
      ∃ place form, (Event.rule 0 (.block []) (.link place) [] [], form) ∈ diary.2.1.entries ∧
        place.node = 2 ∧ form.lastId = 3 ∧ form.worldOf 2 = .ok place.world := by
  intro grammar scene diary
  have hs : scene.WellFormed := Scene.orchard_wellFormed
  have hstart : scene.Live 2 := ⟨_, rfl⟩
  have last : (diary.2.1.entries.head?.any fun entry =>
      (blockLink? entry.1).any (·.node == 2) && entry.2.lastId == 3) = true := by decide +kernel
  obtain ⟨-, current, -⟩ := generate_current {} grammar 2 scene
    ({ uniforms := #[] } : Random.Scripted) hs hstart
  refine ⟨hs, hstart, ?_⟩
  obtain ⟨⟨e, form⟩, first, last⟩ := (Option.any_eq_true _ _).1 last
  obtain ⟨last, hl⟩ := (Bool.and_eq_true _ _).mp last
  obtain ⟨place, link, hn⟩ := (Option.any_eq_true _ _).1 last
  have hn : place.node = 2 := eq_of_beq hn
  have hm : (Event.rule 0 (.block []) (.link place) [] [], form) ∈ diary.2.1.entries :=
    eq_of_blockLink? link ▸ List.mem_of_head? first
  have hw := ((current _ _ _ _ _ _ hm).2 place List.mem_cons_self).1
  exact ⟨place, form, hm, hn, eq_of_beq hl, hn ▸ hw⟩

end Derivation

end SceneGrammar
