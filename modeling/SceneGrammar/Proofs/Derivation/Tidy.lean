import SceneGrammar.Proofs.Derivation.Conduct
import SceneGrammar.Proofs.Derivation.Request
import SceneGrammar.Proofs.Scene.Growth

/-!
# What a run adds

On a forest `b`, a run is `Tidy` at every point: the scene has grown from `b`, the generated nodes are
new nodes in ascending order, and the run stands at new objects only, now and wherever it will go back to
(`Standing`). As long as the scene refuses nothing, the run is also `Complete`: every new node is
generated or below a new node. `tidies_conduct` shows that every rule keeps both.
-/

namespace SceneGrammar

/-- A cursor at no object, or at a new one. -/
def Cursor.Fresh {α : Type} (b : Scene α) (c : Cursor α) : Prop :=
  ∀ n, c.object? = some n → b.lastId < n

namespace Derivation

open Scene (Grown Rooted Tends)

variable {ρ α : Type} {b : Scene α} {s t u : State (Scene α) ρ α} {o : Option Fault}

/-- The objects of cursors and definitions are new. -/
structure Standing (b : Scene α) (s : State (Scene α) ρ α) : Prop where
  cursor : s.cursor.Fresh b
  scopes : ∀ c ∈ s.scopes, c.Fresh b
  entries : ∀ c ∈ s.captures, c.entry.Fresh b
  objects : ∀ c ∈ s.captures, ∀ n, c.object = some n → b.lastId < n

/-- The scene has grown, what was generated is there, new and in order, and nothing old is taken for
new. -/
structure Tidy (b : Scene α) (s : State (Scene α) ρ α) : Prop where
  grown : Grown b s.scene
  sorted : s.generated.toList.Pairwise (· < ·)
  fresh : ∀ g ∈ s.generated.toList, b.lastId < g
  live : ∀ g ∈ s.generated.toList, s.scene.Live g
  standing : Standing b s

/-- Nothing new escapes. -/
def Complete (b : Scene α) (s : State (Scene α) ρ α) : Prop :=
  Rooted b (· ∈ s.generated.toList) s.scene

/-- A tidy run stays tidy, and a complete one complete unless the scene refused something. -/
def Tidies (b : Scene α) (o : Option Fault) (s t : State (Scene α) ρ α) : Prop :=
  Tidy b s → Tidy b t ∧ ((∀ f, o ≠ some (.scene f)) → Complete b s → Complete b t)

/-- Where a run stands, if it stands where another one does. -/
lemma Standing.steady (h : Standing b s) (k : Steady s t) : Standing b t where
  cursor := k.cursor ▸ h.cursor
  scopes := k.scopes ▸ h.scopes
  entries := k.captures ▸ h.entries
  objects := k.captures ▸ h.objects

/-- A part of a run that is tidy is so too where it is ended by a fault. -/
lemma Tidies.stop (h : Tidies b none s t) : Tidies b o s t :=
  fun hs => ⟨(h hs).1, fun _ => (h hs).2 (by simp)⟩

/-- Two parts of a run, of which the second one does not end it. -/
lemma Tidies.follow (h : Tidies b o s t) (k : Tidies b o t u) : Tidies b o s u := by
  intro hs
  obtain ⟨ht, hc⟩ := h hs
  obtain ⟨hu, kc⟩ := k ht
  exact ⟨hu, fun ho c => kc ho (hc ho c)⟩

/-- Tidy parts of a run are tidy one after the other. -/
lemma Tidies.trans (h : Tidies b none s t) (k : Tidies b o t u) : Tidies b o s u :=
  Tidies.follow h.stop k

/-- A change of neither the scene nor what was generated. -/
lemma Tidies.of_eq (hscene : t.scene = s.scene) (hgenerated : t.generated = s.generated)
    (hc : Standing b s → Standing b t) : Tidies b o s t := by
  intro hs
  refine ⟨⟨?_, ?_, ?_, ?_, hc hs.standing⟩, fun _ c => ?_⟩
  · exact hscene ▸ hs.grown
  · exact hgenerated ▸ hs.sorted
  · exact hgenerated ▸ hs.fresh
  · exact hgenerated ▸ hscene ▸ hs.live
  · unfold Complete
    exact hgenerated ▸ hscene ▸ c

/-- A change of nothing that matters. -/
lemma Tidies.of_steady (hscene : t.scene = s.scene) (h : Steady s t) : Tidies b o s t :=
  .of_eq hscene h.generated fun k => k.steady h

/-! ## Cursors and definitions -/

/-- Publishing a link is tidy. -/
lemma tidies_publish (s : State (Scene α) ρ α) (name : String) (link : NodeId) :
    Tidies b o s (s.publish name link) := by
  unfold State.publish
  split
  · next c cs e =>
    refine .of_eq rfl rfl fun k => ⟨k.cursor, k.scopes, ?_, ?_⟩
    · intro d hd
      cases List.mem_cons.mp hd with
      | inl hd => exact hd ▸ k.entries c (e ▸ List.mem_cons_self)
      | inr hd => exact k.entries d (e ▸ List.mem_cons_of_mem c hd)
    · intro d hd
      cases List.mem_cons.mp hd with
      | inl hd => exact hd ▸ k.objects c (e ▸ List.mem_cons_self)
      | inr hd => exact k.objects d (e ▸ List.mem_cons_of_mem c hd)
  · exact .of_steady rfl ⟨rfl, rfl, rfl, rfl, rfl⟩

/-- Entering a scope is tidy. -/
lemma tidies_pushScope (s : State (Scene α) ρ α) : Tidies b none s s.pushScope := by
  refine .of_eq rfl rfl fun k => ⟨k.cursor, ?_, k.entries, k.objects⟩
  intro c hc
  cases List.mem_cons.mp hc with
  | inl hc => exact hc ▸ k.cursor
  | inr hc => exact k.scopes c hc

/-- Leaving a scope is tidy. -/
lemma tidies_popScope (s : State (Scene α) ρ α) : Tidies b o s s.popScope := by
  unfold State.popScope
  split
  · next c cs e =>
    refine .of_eq rfl rfl fun k => ⟨?_, ?_, k.entries, k.objects⟩
    · exact k.scopes c (e ▸ List.mem_cons_self)
    · exact fun d hd => k.scopes d (e ▸ List.mem_cons_of_mem c hd)
  · exact .of_steady rfl ⟨rfl, rfl, rfl, rfl, rfl⟩

/-- Opening a definition is tidy. -/
lemma tidies_openCapture [Scalar α] (s : State (Scene α) ρ α) :
    Tidies b none s s.openCapture.atLevel := by
  refine .of_eq rfl rfl fun k => ⟨k.cursor, k.scopes, ?_, ?_⟩
  · intro c hc
    cases List.mem_cons.mp hc with
    | inl hc => exact hc ▸ k.cursor
    | inr hc => exact k.entries c hc
  · intro c hc n hn
    cases List.mem_cons.mp hc with
    | inl hc =>
      subst hc
      cases hn
    | inr hc => exact k.objects c hc n hn

/-- Closing a definition is tidy. -/
lemma tidies_closeCapture [Scalar α] (s : State (Scene α) ρ α) :
    Tidies b o s s.closeCapture.atLevel := by
  unfold State.closeCapture
  split
  · next c cs e =>
    have below : ∀ d ∈ cs, d ∈ s.captures := fun d hd => e ▸ List.mem_cons_of_mem c hd
    have first : c ∈ s.captures := e ▸ List.mem_cons_self
    split
    · next n hn =>
      refine .of_eq rfl rfl fun k => ⟨?_, k.scopes, ?_, ?_⟩
      · intro m hm
        obtain rfl := Option.some.inj hm
        exact k.objects c first n hn
      · exact fun d hd => k.entries d (below d hd)
      · exact fun d hd => k.objects d (below d hd)
    · refine .of_eq rfl rfl fun k => ⟨k.entries c first, k.scopes, ?_, ?_⟩
      · exact fun d hd => k.entries d (below d hd)
      · exact fun d hd => k.objects d (below d hd)
  · exact .of_steady rfl ⟨rfl, rfl, rfl, rfl, rfl⟩

/-- Going down one instance is tidy. -/
lemma tidies_descend [Scalar α] (s : State (Scene α) ρ α) : Tidies b none s s.descend.atLevel :=
  .of_eq rfl rfl fun k => ⟨k.cursor, k.scopes, k.entries, k.objects⟩

/-- Coming up from an instance is tidy. -/
lemma tidies_ascend [Scalar α] (s : State (Scene α) ρ α) : Tidies b o s s.ascend.atLevel :=
  .of_eq rfl rfl fun k => ⟨k.cursor, k.scopes, k.entries, k.objects⟩

/-! ## Requests -/

/-- A step that tends the scene and changes nothing else. It fails only if the scene refuses it. -/
structure Tending (b : Scene α) (S : NodeId → Prop) (o : Option Fault) (s t : State (Scene α) ρ α) :
    Prop where
  steady : Steady s t
  tends : Grown b s.scene → Tends b S s.scene t.scene
  fault : ∀ f, o = some f → ∃ g, f = .scene g

section
variable {S : NodeId → Prop} {β γ : Type}

/-- Steps that tend the scene do so one after the other. -/
lemma Tending.trans (h : Tending b S none s t) (k : Tending b S o t u) : Tending b S o s u where
  steady := h.steady.trans k.steady
  tends hs := (h.tends hs).trans (k.tends (h.tends hs).grown)
  fault := k.fault

/-- A step after others. -/
lemma Tending.bind {act : Action (Scene α) ρ α β} {k : β → Action (Scene α) ρ α γ}
    {Q : γ → State (Scene α) ρ α → Prop} {E : Fault → State (Scene α) ρ α → Prop}
    (h : Tending b S none s t) (ha : Obeys (Tending b S) act t)
    (hk : ∀ x u, Tending b S none s u → Ends (k x) u Q E)
    (hE : ∀ f u, Tending b S (some f) s u → E f u) : Ends (act >>= k) t Q E := by
  apply Ends.bind
  exact Ends.imp ha (fun x u hu => hk x u (h.trans hu)) (fun f u hu => hE f u (h.trans hu))

/-- A request that tends grown scenes. -/
lemma tending_request {act : Edit (Scene α) β}
    (h : ∀ s, Grown b s → Ends act s (fun _ => Tends b S s) (fun _ => Tends b S s))
    (s : State (Scene α) ρ α) : Obeys (Tending b S) (request act) s := by
  have steady : ∀ scene, Steady s { s with scene } := fun _ => ⟨rfl, rfl, rfl, rfl, rfl⟩
  apply request_ends
  by_cases hs : Grown b s.scene
  · refine (h s.scene hs).imp ?_ ?_
    · exact fun _ scene ht => ⟨steady scene, fun _ => ht, by simp⟩
    · exact fun f scene ht => ⟨steady scene, fun _ => ht, fun _ e => ⟨f, (Option.some.inj e).symm⟩⟩
  · unfold Ends
    split
    · exact ⟨steady _, fun h => absurd h hs, by simp⟩
    · exact ⟨steady _, fun h => absurd h hs, fun _ e => ⟨_, (Option.some.inj e).symm⟩⟩

/-- New nodes that need not stand below new nodes can be brought to any place. -/
lemma tending_handles [Scalar α] (hb : b.WellFormed) {n : NodeId} (hn : b.lastId < n) (hS : S n) :
    Handles (Tending b S : Option Fault → State (Scene α) ρ α → State (Scene α) ρ α → Prop) n where
  trans h k := h.trans k
  world m := tending_request fun _ h => h.world m
  setWorld w := tending_request fun _ h => h.setWorld hn w
  moveAll origin target := tending_request fun _ h => h.moveAll hb hn origin target
  reparent p := tending_request fun _ h => h.reparent hb hn hS p
  flip := tending_request fun _ h => h.update hn (fun _ => rfl) (fun _ => rfl)
  bake := tending_request fun _ h => h.update hn (fun _ => rfl) (fun _ => rfl)

/-- What was generated is still there after a scene was tended. -/
lemma Tidy.tend (hs : Tidy b s) (h : Tends b S s.scene t.scene) (k : Steady s t) : Tidy b t := by
  refine ⟨h.grown, ?_, ?_, ?_, hs.standing.steady k⟩
  · exact k.generated ▸ hs.sorted
  · exact k.generated ▸ hs.fresh
  · intro g hg
    exact h.live g (hs.live g (k.generated ▸ hg))

/-- A refusal of the scene. -/
lemma Tidy.refused (hs : Tidy b s) (h : Tends b S s.scene t.scene) (k : Steady s t)
    (ho : ∃ f, o = some (.scene f)) : Tidies b o s t := by
  intro _
  refine ⟨hs.tend h k, fun hf _ => ?_⟩
  obtain ⟨f, e⟩ := ho
  exact absurd e (hf f)

end

/-! ## Copies -/

/-- The generated nodes and the next one. -/
def State.Rooting (s : State (Scene α) ρ α) (m : NodeId) : Prop :=
  m ∈ s.generated.toList ∨ m = s.scene.lastId + 1

/-- A copy has been made, and is not listed yet. -/
structure Copying (b : Scene α) (copy : NodeId) (s t : State (Scene α) ρ α) : Prop where
  new : copy = s.scene.lastId + 1
  live : t.scene.Live copy
  steady : Steady s t
  tends : Tends b s.Rooting s.scene t.scene

section
variable {copy : NodeId} {β : Type}

/-- A copy that is not listed yet may be tended. -/
lemma Copying.then (h : Copying b copy s t) (k : Tending b s.Rooting none t u) :
    Copying b copy s u where
  new := h.new
  live := (k.tends h.tends.grown).live copy h.live
  steady := h.steady.trans k.steady
  tends := h.tends.trans (k.tends h.tends.grown)

/-- A step that tends the scene while a copy is not listed yet. -/
lemma Copying.bind (h : Copying b copy s t) (hs : Tidy b s) {act : Action (Scene α) ρ α β}
    {k : β → Action (Scene α) ρ α Unit} (ha : Obeys (Tending b s.Rooting) act t)
    (hk : ∀ x u, Copying b copy s u →
      Ends (k x) u (fun _ => Tidies b none s) (fun f => Tidies b (some f) s)) :
    Ends (act >>= k) t (fun _ => Tidies b none s) (fun f => Tidies b (some f) s) := by
  apply Ends.bind
  refine Ends.imp ha (fun x u hu => hk x u (h.then hu)) ?_
  intro f u hu
  have k := h.tends.trans (hu.tends h.tends.grown)
  exact hs.refused k (h.steady.trans hu.steady) ((hu.fault f rfl).imp fun _ => congrArg some)

/-- A copy is listed. -/
lemma Copying.listed (h : Copying b copy s t) (hs : Tidy b s) (hscene : u.scene = t.scene)
    (hgenerated : u.generated = t.generated.push copy) (hc : Standing b t → Standing b u) :
    Tidies b none s u := by
  intro _
  have hlist : u.generated.toList = s.generated.toList ++ [copy] := by
    rw [hgenerated, h.steady.generated, Array.toList_push]
  refine ⟨⟨?grown, ?sorted, ?fresh, ?live, hc (hs.standing.steady h.steady)⟩, fun _ c => ?complete⟩
  case grown =>
    exact hscene ▸ h.tends.grown
  case sorted =>
    rw [hlist, List.pairwise_append]
    refine ⟨hs.sorted, List.pairwise_singleton _ _, ?_⟩
    intro g hg x hx
    obtain rfl := List.mem_singleton.mp hx
    exact h.new ▸ Nat.lt_succ_of_le (hs.live g hg).le_lastId
  case fresh =>
    intro g hg
    rw [hlist, List.mem_append, List.mem_singleton] at hg
    cases hg with
    | inl hg => exact hs.fresh g hg
    | inr hg => exact hg ▸ h.new ▸ Nat.lt_succ_of_le hs.grown.lastId
  case live =>
    intro g hg
    rw [hlist, List.mem_append, List.mem_singleton] at hg
    rw [hscene]
    cases hg with
    | inl hg => exact h.tends.live g (hs.live g hg)
    | inr hg => exact hg ▸ h.live
  case complete =>
    have hr := h.tends.rooted (c.mono fun _ => .inl)
    unfold Complete
    rw [hscene]
    refine hr.mono fun m hm => ?_
    rw [hlist, List.mem_append, List.mem_singleton]
    exact hm.imp_right fun e => e.trans h.new.symm

/-- Making a copy, bringing it to its place and what follows, which has to list it. -/
lemma copy_tidies [Scalar α] (hb : b.WellFormed) (hs : Tidy b s) (source : NodeId)
    (place : LinkPlace α) {k : NodeId → Action (Scene α) ρ α Unit}
    (hk : ∀ copy t, Copying b copy s t → Handles (Tending (ρ := ρ) b s.Rooting) copy →
      Ends (k copy) t (fun _ => Tidies b none s) (fun f => Tidies b (some f) s)) :
    Obeys (Tidies b) (do
      let copy ← request (Host.duplicate source)
      request (Host.setWorld copy place.composed)
      adopt copy place.node
      k copy) s := by
  apply Ends.bind
  refine request_ends ((hs.grown.duplicate (S := s.Rooting) (.inr rfl) source).imp ?_ ?_)
  · rintro copy scene ⟨hcopy, hlive, hd⟩
    -- Until it is adopted the copy may stand under an old node, and no list has it yet. Its number is
    -- known beforehand, so that it can count as rooted all the same.
    have hn : b.lastId < copy := hcopy ▸ Nat.lt_succ_of_le hs.grown.lastId
    have hh := tending_handles (ρ := ρ) (S := s.Rooting) hb hn (.inr hcopy)
    have start : Copying b copy s { s with scene } := ⟨hcopy, hlive, ⟨rfl, rfl, rfl, rfl, rfl⟩, hd⟩
    refine start.bind hs (hh.setWorld _ _) fun _ t ht => ?_
    exact ht.bind hs (hh.adopt _ t) fun _ u hu => hk copy u hu hh
  · intro f scene hd
    exact hs.refused hd ⟨rfl, rfl, rfl, rfl, rfl⟩ ⟨f, rfl⟩

end

/-! ## Rules -/

/-- Only what happens from a tidy state on matters. -/
lemma obeys_of_tidy {β : Type} {act : Action (Scene α) ρ α β} (h : Tidy b s → Obeys (Tidies b) act s) :
    Obeys (Tidies b) act s := by
  by_cases hs : Tidy b s
  · exact h hs
  · unfold Obeys Ends
    split <;> exact fun k => absurd k hs

/-- A part of a run that does nothing is tidy. -/
lemma Tidies.refl (s : State (Scene α) ρ α) : Tidies b none s s := .of_steady rfl (.refl s)

section
variable [Scalar α]

/-- Entering a link is tidy. -/
lemma enterLink_tidies (s : State (Scene α) ρ α) (n : NodeId) :
    Obeys (Tidies b) (enterLink n) s := by
  unfold enterLink
  apply Ends.bind
  refine request_ends ((Scene.world_ends s.scene n).imp ?_ ?_)
  · rintro w _ rfl
    refine Ends.modify (.of_eq rfl rfl fun k => ⟨?_, k.scopes, k.entries, k.objects⟩)
    intro m hm
    cases hm
  · rintro f _ rfl
    exact .of_steady rfl ⟨rfl, rfl, rfl, rfl, rfl⟩

/-- Copying a child of a node is tidy. -/
lemma copyChild_tidies (hb : b.WellFormed) (place : LinkPlace α) (mirror : Option Axis)
    (child : NodeId) (s : State (Scene α) ρ α) : Obeys (Tidies b) (copyChild place mirror child) s := by
  refine obeys_of_tidy fun hs => copy_tidies hb hs child place fun copy t ht hh => ?_
  have listed : ∀ u, Copying b copy s u → Tidies b none s (u.addGenerated copy) :=
    fun u hu => hu.listed hs rfl rfl fun k => ⟨k.cursor, k.scopes, k.entries, k.objects⟩
  cases mirror with
  | some axis =>
    exact ht.bind hs (hh.mirrorAt place.node axis t) fun _ u hu => Ends.modify (listed u hu)
  | none => exact Ends.bind (Ends.pure (Ends.modify (listed t ht)))

/-- Copying the children of a sibling is tidy. -/
lemma copySiblings_tidies (hb : b.WellFormed) (settings : Settings) (place : LinkPlace α)
    (name : String) (mirror : Option Axis) (s : State (Scene α) ρ α) :
    Obeys (Tidies b) (copySiblingChildren settings place name mirror) s := by
  unfold copySiblingChildren
  apply Ends.get
  dsimp only
  split
  · exact Ends.pure (.refl s)
  · split
    · exact Ends.pure (.refl s)
    · refine Ends.forM (.refl s) fun child _ t ht => ?_
      exact (copyChild_tidies hb place mirror child t).imp (fun _ _ => ht.trans) (fun _ _ => ht.trans)

/-- Creating a link is tidy. -/
lemma addLink_tidies (settings : Settings) {object : NodeId} (name : String)
    (hobject : s.cursor.object? = some object) :
    Obeys (Tidies b) (addLinkTo settings object name) s := by
  refine obeys_of_tidy fun hs => ?_
  -- A marker under an old object would escape, but a complete run is at no old object.
  let S := fun m => m ∈ s.generated.toList ∨ ¬ b.lastId < object
  have start : Tending b S none s s := ⟨.refl s, fun h => .refl h, by simp⟩
  have refused : ∀ f t, Tending b S (some f) s t → Tidies b (some f) s t := by
    intro f t k
    exact hs.refused (k.tends hs.grown) k.steady ((k.fault f rfl).imp fun _ => congrArg some)
  have kept : ∀ t, Tending b S none s t → Tidies b none s t := by
    intro t k _
    have hst := k.tends hs.grown
    refine ⟨hs.tend hst k.steady, fun _ c => ?_⟩
    refine (hst.rooted (c.mono fun _ => .inl)).mono fun m hm => ?_
    rw [k.steady.generated]
    exact hm.resolve_right fun hnot => hnot (hs.standing.cursor object hobject)
  unfold addLinkTo
  refine start.bind (tending_request (fun _ h => h.world object) s) (fun w t ht => ?_) refused
  have hS : ∀ m, S m ∨ b.lastId < object := by
    intro m
    by_cases ho : b.lastId < object
    · exact .inr ho
    · exact .inl (.inr ho)
  apply Ends.bind
  refine request_ends (((ht.tends hs.grown).grown.addMarker w (hS _)).imp ?_ ?_)
  · rintro marker scene ⟨hm, -, hd⟩
    have hu : Tending b S none s { t with scene } :=
      ht.trans ⟨⟨rfl, rfl, rfl, rfl, rfl⟩, fun _ => hd, by simp⟩
    have hset : Obeys (Tending b S) (request (Host.setProperty marker settings.linkKey (.str name)))
        { t with scene } :=
      tending_request (fun _ h => h.setProperty hm _ _) _
    exact Ends.imp hset (fun _ v hv => kept v (hu.trans hv)) (fun f v hv => refused f v (hu.trans hv))
  · intro f scene hd
    refine refused _ _ (ht.trans ⟨⟨rfl, rfl, rfl, rfl, rfl⟩, fun _ => hd, ?_⟩)
    exact fun _ e => ⟨f, (Option.some.inj e).symm⟩

/-- Placing a template is tidy. -/
lemma placeTemplate_tidies [RandomSource ρ] (hb : b.WellFormed) (settings : Settings)
    (collection : String) (members : List NodeId) (s : State (Scene α) ρ α) :
    Obeys (Tidies b) (placeTemplate settings collection members) s := by
  unfold placeTemplate
  apply Ends.bind
  refine (requireLink_ends "instance" s).imp ?_ ?_
  · rintro place _ ⟨rfl, -⟩
    apply Ends.get
    dsimp only
    refine Obeys.bind .trans (Ends.modify (.refl _)) fun _ s _ => ?_
    refine Obeys.bind .trans (Ends.modifyGet (.of_steady rfl ⟨rfl, rfl, rfl, rfl, rfl⟩)) fun x s _ => ?_
    split
    · exact Ends.pure (.refl s)
    · next template _ =>
      refine obeys_of_tidy fun hs => copy_tidies hb hs template place fun copy t ht _ => ?_
      refine Ends.bind (Ends.modify (Ends.get (Ends.bind (Ends.modify (Ends.modify ?_)))))
      have new : b.lastId < copy := ht.new ▸ Nat.lt_succ_of_le hs.grown.lastId
      refine ht.listed hs rfl rfl fun k => ⟨?cursor, k.scopes, ?entries, ?objects⟩
      case cursor =>
        intro m hm
        exact Option.some.inj hm ▸ new
      case entries =>
        intro d hd
        obtain ⟨d', hd', rfl⟩ := List.mem_map.mp hd
        exact k.entries d' hd'
      case objects =>
        intro d hd n hn
        -- A definition keeps the object that it had, and else takes the copy.
        obtain ⟨d', hd', rfl⟩ := List.mem_map.mp hd
        cases e : d'.object with
        | some m => exact k.objects d' hd' n (by simpa [e] using hn)
        | none =>
          obtain rfl : copy = n := by simpa [e] using hn
          exact new
  · rintro f _ ⟨rfl, -⟩
    exact .of_steady rfl (.refl _)

/-- Every rule keeps a run tidy, and complete unless the scene refuses something. -/
theorem tidies_conduct [RandomSource ρ] (hb : b.WellFormed) (settings : Settings) :
    Conduct settings (Tidies b : Option Fault → State (Scene α) ρ α → State (Scene α) ρ α → Prop) where
  refl := .refl
  trans := .trans
  stop _ h := h.stop
  tolerate hf h hs := by
    -- What the scene refuses is fatal, so the scene has refused nothing.
    refine ⟨(h hs).1, fun _ => (h hs).2 ?_⟩
    intro g e
    rw [Option.some.inj e] at hf
    cases hf
  note _ h := h
  book _ _ _ _ _ _ _ := .of_steady rfl ⟨rfl, rfl, rfl, rfl, rfl⟩
  publish s name link := tidies_publish s name link
  adjust _ _ := .of_eq rfl rfl fun k => ⟨fun _ hm => (nomatch hm), k.scopes, k.entries, k.objects⟩
  scope h := (Tidies.trans (tidies_pushScope _) h).follow (tidies_popScope _)
  descend _ h := (Tidies.trans (tidies_descend _) h).follow (tidies_ascend _)
  expand _ h k l := by
    have body := Tidies.trans (tidies_descend _) (h.trans (.trans (tidies_openCapture _) k))
    exact (body.trans (.trans (tidies_closeCapture _) l)).follow (tidies_ascend _)
  abort _ h k := by
    have body := Tidies.trans (tidies_descend _) (h.trans (.trans (tidies_openCapture _) k))
    exact (body.follow (tidies_closeCapture _)).follow (tidies_ascend _)
  enter := enterLink_tidies
  copySiblings s place name mirror := copySiblings_tidies hb settings place name mirror s
  addLink name hn := addLink_tidies settings name hn
  placeTemplate s collection members := placeTemplate_tidies hb settings collection members s

/-- Every rule leaves a tidy run tidy, whether it fails or not. -/
lemma tidy_regime [RandomSource ρ] (hb : b.WellFormed) (settings : Settings) :
    Regime settings (fun _ _ => True) (Tidy b : State (Scene α) ρ α → Prop) (Tidies b) :=
  (tidies_conduct hb settings).under (fun hs hst => (hst hs).1) (fun hs => (tidies_pushScope _ hs).1)
    (fun hs => (tidies_descend _ hs).1) (fun hs => (tidies_openCapture _ hs).1)
    (fun hs => (tidies_closeCapture (o := none) _ hs).1)

end

end Derivation

end SceneGrammar
