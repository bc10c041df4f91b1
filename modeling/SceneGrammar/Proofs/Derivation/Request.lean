import SceneGrammar.Proofs.Derivation.Conduct
import SceneGrammar.Proofs.Scene.Keep

/-!
# What rules ask of the host

The rules that change the scene do so by requests. A relation between states that lasts through the
requests for one node `Handles` it; one that lasts through all requests `Serves` what these rules are
made of: entering links, copying the children of links, adding links and placing templates. If it lasts
through scopes and instances as well, it is a conduct (`Serves.conduct`).
-/

namespace SceneGrammar

namespace Derivation

variable {σ ρ α β : Type}

/-- A request changes the host only, and its fault is a fault of the scene. -/
lemma request_ends {act : Edit σ β} {s : State σ ρ α} {Q : β → State σ ρ α → Prop}
    {E : Fault → State σ ρ α → Prop}
    (h : Ends act s.scene (fun b scene => Q b { s with scene })
      (fun f scene => E (.scene f) { s with scene })) :
    Ends (request act) s Q E := by
  unfold Ends at h ⊢
  unfold request
  cases e : act s.scene <;> rw [e] at h <;> exact h

/-! ## One node -/

/-- A relation that lasts through the requests which bring a copy to its place. -/
structure Handles [Host σ α] (R : Option Fault → State σ ρ α → State σ ρ α → Prop) (n : NodeId) :
    Prop where
  trans : ∀ {o s t u}, R none s t → R o t u → R o s u
  world : ∀ m s, Obeys R (request (Host.world m)) s
  setWorld : ∀ w s, Obeys R (request (Host.setWorld n w)) s
  moveAll : ∀ origin target s, Obeys R (request (Host.moveAll n origin target)) s
  reparent : ∀ p s, Obeys R (request (Host.reparent n p)) s
  flip : ∀ s, Obeys R (request (Host.flip n)) s
  bake : ∀ s, Obeys R (request (Host.bake n)) s

namespace Handles
variable [Host σ α] {R : Option Fault → State σ ρ α → State σ ρ α → Prop} {n : NodeId}

/-- A relation that handles a copy lasts while it is hung under a link. -/
lemma adopt (h : Handles R n) (link : NodeId) (s : State σ ρ α) :
    Obeys R (Derivation.adopt n link) s := by
  unfold Derivation.adopt
  apply Ends.get
  exact Obeys.bind h.trans (h.moveAll _ _ s) fun _ t _ => h.reparent link t

/-- A relation that handles a copy lasts while it is mirrored. -/
lemma mirrorAt [Scalar α] (h : Handles R n) (link : NodeId) (axis : Axis) (s : State σ ρ α) :
    Obeys R (Derivation.mirrorAt link axis n) s := by
  unfold Derivation.mirrorAt
  refine Obeys.bind h.trans (h.world link s) fun frame s _ => ?_
  refine Obeys.bind h.trans (h.world n s) fun world s _ => ?_
  dsimp only
  refine Obeys.bind h.trans (h.setWorld _ s) fun _ s _ => ?_
  exact Obeys.bind h.trans (h.bake s) fun _ s _ => h.flip s

/-- Putting a copy to a place under a link, and what follows. -/
lemma settle [Scalar α] (h : Handles R n) (place : LinkPlace α) (s : State σ ρ α)
    {k : Action σ ρ α β} (hk : ∀ t, R none s t → Obeys R k t) :
    Obeys R (do
      request (Host.setWorld n place.composed)
      Derivation.adopt n place.node
      k) s := by
  refine Obeys.bind h.trans (h.setWorld _ s) fun _ t ht => ?_
  exact Obeys.bind h.trans (h.adopt place.node t) fun _ u hu => hk u (h.trans ht hu)

end Handles

/-! ## All nodes -/

/-- A relation that lasts through all requests. -/
structure Asks [Host σ α] (R : Option Fault → State σ ρ α → State σ ρ α → Prop) : Prop where
  refl : ∀ s, R none s s
  trans : ∀ {o s t u}, R none s t → R o t u → R o s u
  offer : ∀ {β} {act : Edit σ β}, Host.Offers act → ∀ s, Obeys R (request act) s
  moveAll : ∀ n origin target s, Obeys R (request (Host.moveAll n origin target)) s
  addGenerated : ∀ s n, R none s (s.addGenerated n)

namespace Asks
variable [Host σ α] {R : Option Fault → State σ ρ α → State σ ρ α → Prop}

/-- A relation that lasts through all requests handles every copy. -/
lemma handles (h : Asks R) (n : NodeId) : Handles R n where
  trans := h.trans
  world m := h.offer (.world m)
  setWorld w := h.offer (.setWorld n w)
  moveAll := h.moveAll n
  reparent p := h.offer (.reparent n p)
  flip := h.offer (.flip n)
  bake := h.offer (.bake n)

/-- A relation that lasts through all requests lasts while a link is created. -/
lemma addLink (h : Asks R) (settings : Settings) (object : NodeId) (name : String)
    (s : State σ ρ α) : Obeys R (addLinkTo settings object name) s := by
  unfold addLinkTo
  refine Obeys.bind h.trans (h.offer (.world object) s) fun world t _ => ?_
  refine Obeys.bind h.trans (h.offer (.addMarker world object) t) fun marker u _ => ?_
  exact h.offer (.setProperty marker _ _) u

variable [Scalar α]

/-- A relation that lasts through all requests lasts while a link is entered. -/
lemma enterLink (h : Asks R) (goTo : ∀ s cursor, R none s { s with cursor }) (n : NodeId)
    (s : State σ ρ α) : Obeys R (Derivation.enterLink n) s := by
  unfold Derivation.enterLink
  exact Obeys.bind h.trans (h.offer (.world n) s) fun _ t _ => Ends.modify (goTo t _)

/-- A relation that lasts through all requests lasts while a child is copied. -/
lemma copyChild (h : Asks R) (place : LinkPlace α) (mirror : Option Axis) (child : NodeId)
    (s : State σ ρ α) : Obeys R (Derivation.copyChild place mirror child) s := by
  unfold Derivation.copyChild
  refine Obeys.bind h.trans (h.offer (.duplicate child) s) fun copy t _ => ?_
  refine (h.handles copy).settle place t fun u _ => ?_
  have listed : ∀ s, Obeys R (modify (·.addGenerated copy) : Action σ ρ α Unit) s :=
    fun s => Ends.modify (h.addGenerated s copy)
  cases mirror with
  | some axis =>
    exact Obeys.bind h.trans ((h.handles copy).mirrorAt place.node axis u) fun _ t _ => listed t
  | none => exact listed u

/-- A relation that lasts through all requests lasts while siblings are copied. -/
lemma copySiblings (h : Asks R) (settings : Settings) (place : LinkPlace α) (name : String)
    (mirror : Option Axis) (s : State σ ρ α) :
    Obeys R (copySiblingChildren settings place name mirror) s := by
  unfold copySiblingChildren
  apply Ends.get
  dsimp only
  split
  · exact Ends.pure (h.refl s)
  · split
    · exact Ends.pure (h.refl s)
    · exact Obeys.forM (h.refl s) h.trans fun child _ t _ => h.copyChild place mirror child t

variable [RandomSource ρ]

/-- Placing a template, where the host may hear of the choice and of the copy. -/
lemma placeTemplate (h : Asks R) {settings : Settings} {collection : String} {members : List NodeId}
    {s : State σ ρ α} (link : Obeys R (requireLink "instance") s)
    (choice : R none s
      (s.noted (.choice collection members (members.map (templateWeight settings s.scene)))))
    (random : ∀ s random, R none s { s with random })
    (place : ∀ s n, R none s
      ((State.noted (.placed n s.captures.length) { s with cursor := .object n }).addPlaced n)) :
    Obeys R (Derivation.placeTemplate settings collection members) s := by
  unfold Derivation.placeTemplate
  apply Ends.bind
  refine (link.and (requireLink_ends _ s)).imp ?_ (fun _ _ k => k.1)
  rintro at_ t ⟨-, rfl, -⟩
  apply Ends.get
  refine Obeys.bind h.trans (Ends.modify choice) fun _ t _ => ?_
  refine Obeys.bind h.trans (Ends.modifyGet (random t _)) fun x t _ => ?_
  dsimp only
  split
  · exact Ends.pure (h.refl t)
  · next template _ =>
    refine Obeys.bind h.trans (h.offer (.duplicate template) t) fun copy t _ => ?_
    refine (h.handles copy).settle at_ t fun u _ => ?_
    exact Ends.bind (Ends.modify (Ends.get (Ends.bind (Ends.modify (Ends.modify (place u copy))))))

end Asks

/-- A relation that lasts through requests and through drawing and preparing. -/
structure Serves [Host σ α] (R : State σ ρ α → State σ ρ α → Prop) : Prop extends Calm R where
  offer : ∀ {β} {act : Edit σ β}, Host.Offers act → Quiet R (request act)
  moveAll : ∀ n origin target, Quiet R (request (Host.moveAll n origin target))
  addGenerated : ∀ s n, R s (s.addGenerated n)

namespace Serves
variable [Host σ α] {R : State σ ρ α → State σ ρ α → Prop}

/-- Where faults do not matter. -/
lemma asks (h : Serves R) : Asks (fun _ => R) where
  refl := h.refl
  trans := h.trans
  offer := h.offer
  moveAll := h.moveAll
  addGenerated := h.addGenerated

/-- Asking for a link changes nothing. -/
lemma link (h : Serves R) (subject : String) : Quiet R (requireLink subject) := by
  intro s
  refine (requireLink_ends subject s).imp ?_ ?_
  · rintro _ _ ⟨rfl, -⟩
    exact h.refl _
  · rintro _ _ ⟨rfl, -⟩
    exact h.refl _

/-- Asking for an object changes nothing. -/
lemma object (h : Serves R) (subject : String) : Quiet R (requireObject subject) := by
  intro s
  refine (requireObject_ends subject s).imp ?_ ?_
  · rintro _ _ ⟨rfl, -⟩
    exact h.refl _
  · rintro _ _ ⟨rfl, -⟩
    exact h.refl _

variable [Scalar α] [RandomSource ρ]

/-- A relation that lasts through requests, scopes and instances, where faults do not matter. -/
lemma conduct (h : Serves R) {settings : Settings} (goTo : ∀ s cursor, R s { s with cursor })
    (addPlaced : ∀ s n, R s (s.addPlaced n)) (publish : ∀ s name link, R s (s.publish name link))
    (scope : ∀ {s t}, R s.pushScope t → R s t.popScope)
    (descend : ∀ {s t}, s.depth ≤ settings.maxDepth.toNat → R s.descend.atLevel t →
      R s t.ascend.atLevel)
    (expand : ∀ {s t u v}, s.depth ≤ settings.maxDepth.toNat → R s.descend.atLevel t →
      R t.openCapture.atLevel u → R u.closeCapture.atLevel v → R s v.ascend.atLevel) :
    Conduct settings (fun _ => R) where
  refl := h.refl
  trans := h.trans
  stop _ k := k
  tolerate _ k := k
  note he k := h.trans k (h.note he)
  book := h.book
  publish := publish
  adjust _ _ := goTo _ _
  scope := scope
  descend := descend
  expand := expand
  abort hd k l := expand hd k l (h.refl _)
  enter s n := h.asks.enterLink goTo n s
  copySiblings s place name mirror := h.asks.copySiblings settings place name mirror s
  addLink name _ := h.asks.addLink settings _ name _
  placeTemplate s collection members := by
    refine h.asks.placeTemplate (h.link _ s) (h.note trivial) ?_ ?_
    · exact fun s random => h.book s random s.definitions s.settled s.freshLabel s.expanded s.errors
    · exact fun s n => h.trans (h.trans (goTo s (.object n)) (h.note (e := .placed n _) rfl)) (addPlaced _ n)

end Serves

/-! ## What scopes and definitions leave alone -/

namespace State
variable (s : State σ ρ α)

/-- Leaving a scope changes the cursor and the scopes only. -/
lemma popScope_eq : ∃ cursor scopes, s.popScope = { s with cursor, scopes } := by
  unfold popScope
  split
  · exact ⟨_, _, rfl⟩
  · exact ⟨s.cursor, s.scopes, rfl⟩

/-- Closing a definition changes the cursor and the open definitions only. -/
lemma closeCapture_eq : ∃ cursor captures, s.closeCapture = { s with cursor, captures } := by
  unfold closeCapture
  split
  · split
    · exact ⟨_, _, rfl⟩
    · exact ⟨_, _, rfl⟩
  · exact ⟨s.cursor, s.captures, rfl⟩

/-- Publishing a link changes the open definitions only. -/
lemma publish_eq (name : String) (link : NodeId) :
    ∃ captures, s.publish name link = { s with captures } := by
  unfold publish
  split
  · exact ⟨_, rfl⟩
  · exact ⟨s.captures, rfl⟩

@[simp] lemma scene_popScope : s.popScope.scene = s.scene := by
  obtain ⟨_, _, e⟩ := s.popScope_eq
  rw [e]

@[simp] lemma scene_closeCapture : s.closeCapture.scene = s.scene := by
  obtain ⟨_, _, e⟩ := s.closeCapture_eq
  rw [e]

@[simp] lemma scene_publish (name : String) (link : NodeId) :
    (s.publish name link).scene = s.scene := by
  obtain ⟨_, e⟩ := s.publish_eq name link
  rw [e]

end State

/-! ## What the host keeps -/

section
variable [Host σ α] {P : σ → Prop}

omit [Host σ α] in
/-- A request that keeps a property of the host. -/
lemma request_keeps {act : Edit σ β} (h : ∀ s, P s → Ends act s (fun _ => P) (fun _ => P)) :
    Quiet (fun s t : State σ ρ α => P s.scene → P t.scene) (request act) := by
  intro s
  apply request_ends
  by_cases hs : P s.scene
  · exact (h s.scene hs).imp (fun _ _ ht _ => ht) (fun _ _ ht _ => ht)
  · unfold Ends
    split
    · exact fun k => absurd k hs
    · exact fun k => absurd k hs

/-- What a host keeps lasts through requests and preparations. -/
lemma keeps_serves (h : Host.Keeps P) :
    Serves (fun s t : State σ ρ α => P s.scene → P t.scene) where
  refl _ := id
  trans hst htu := htu ∘ hst
  note _ := h.observe _ _
  book _ _ _ _ _ _ _ := id
  offer ha := request_keeps (h.offer ha)
  moveAll n origin target := request_keeps (h.moveAll n origin target)
  addGenerated _ _ := id

/-- Rules keep what the host keeps. -/
lemma keeps_conduct [Scalar α] [RandomSource ρ] (h : Host.Keeps P) (settings : Settings) :
    Conduct settings (fun _ s t => P s.scene → P (State.scene (ρ := ρ) t)) := by
  have level : ∀ s : State σ ρ α, P s.scene → P s.atLevel.scene := fun s => h.observe _ s.scene
  refine (keeps_serves h).conduct (fun _ _ => id) (fun _ _ => id) ?_ ?_ ?_ ?_
  · intro s name link hs
    rwa [s.scene_publish]
  · intro s t k hs
    rw [t.scene_popScope]
    exact k hs
  · exact fun _ k hs => level _ (k (level _ hs))
  · intro s t u v _ k l m hs
    refine level _ (m (level _ ?_))
    rw [u.scene_closeCapture]
    exact l (level _ (k (level _ hs)))

end

end Derivation

end SceneGrammar
