import SceneGrammar.Derivation.Execute
import SceneGrammar.Proofs.Derivation.Twin.Prepare

/-!
# Rules of twin runs

A rule reads of the scene only the links that there are and how they are related, and of its settings the
keys of these. So a rule keeps alike runs alike. Only what its surroundings place may differ, and has to
keep runs alike at the depth of the rule: a rule does not change the depth.
-/

namespace SceneGrammar

variable {σ τ ρ α β : Type} [Host σ α] [Host τ α]

/-- The keys of the properties that a run reads. -/
def Settings.keys (settings : Settings) : List String :=
  [settings.linkKey, settings.weightKey, settings.directiveKey]

/-- A likeness that lasts under two settings, which read the same of a scene. -/
structure Likeness.Fits (L : Likeness σ τ α) (settings settings' : Settings) : Prop
    extends L.Lasts settings.keys where
  linkKey : settings'.linkKey = settings.linkKey
  weightKey : settings'.weightKey = settings.weightKey
  directiveKey : settings'.directiveKey = settings.directiveKey
  maxDepth : settings'.maxDepth = settings.maxDepth
  record : ∀ {ρ : Type} {d} {s : Derivation.State σ ρ α} {s' : Derivation.State τ ρ α} (f : Fault),
    s.Alike L d s' → (s.record settings f).Alike L d (s'.record settings' f)

variable {L : Likeness σ τ α} {settings settings' : Settings}

/-! ## What is read -/

namespace Likeness.Fits
variable {scene : σ} {scene' : τ}

/-- Hosts that fit give the same names to links. -/
lemma linkName? (h : L.Fits settings settings') (hs : L.host scene scene') :
    Derivation.linkName? settings' scene' = Derivation.linkName? settings scene := by
  funext n
  unfold Derivation.linkName?
  rw [h.linkKey, h.property? hs n _ List.mem_cons_self]

/-- Hosts that fit have the same links below a node. -/
lemma linksBelow (h : L.Fits settings settings') (hs : L.host scene scene') (root : NodeId)
    (accept : String → Bool) :
    Derivation.linksBelow settings' scene' root accept
      = Derivation.linksBelow settings scene root accept := by
  unfold Derivation.linksBelow
  rw [h.children hs, h.size hs, h.linkName? hs]

/-- The same links are seen from alike cursors. -/
lemma visibleLinks (h : L.Fits settings settings') (hs : L.host scene scene') {c c' : Cursor α}
    (hc : c.Alike L.place c') (accept : String → Bool) :
    Derivation.visibleLinks settings' scene' c' accept
      = Derivation.visibleLinks settings scene c accept := by
  cases hc with
  | aliased n aliases => rfl
  | object n => exact h.linksBelow hs n accept
  | link hp =>
    unfold Derivation.visibleLinks
    dsimp only
    rw [hp.node]
    exact h.linksBelow hs _ accept

/-- A name leads to the same link from alike cursors. -/
lemma findLink? (h : L.Fits settings settings') (hs : L.host scene scene') {c c' : Cursor α}
    (hc : c.Alike L.place c') (name : String) :
    Derivation.findLink? settings' scene' c' name = Derivation.findLink? settings scene c name := by
  cases hc with
  | aliased n aliases => rfl
  | object n =>
    unfold Derivation.findLink?
    simp only [h.linksBelow hs]
  | link hp =>
    unfold Derivation.findLink?
    simp only [h.linksBelow hs, hp.node]

/-- A parent has the same link of a name among its children. -/
lemma childLink? (h : L.Fits settings settings') (hs : L.host scene scene') (parent : NodeId)
    (name : String) :
    Derivation.childLink? settings' scene' parent name
      = Derivation.childLink? settings scene parent name := by
  unfold Derivation.childLink?
  rw [h.children hs, h.linkName? hs]

end Likeness.Fits

namespace Derivation

namespace Twin
variable {d : Nat} {keys : List String} {s : State σ ρ α} {s' : State τ ρ α}

/-! ## Requests -/

omit [Host σ α] [Host τ α] in
/-- Alike runs are at alike links, or both at none. -/
lemma requireLink (subject : String) (hs : s.Alike L d s') :
    Twin L d (LinkPlace.Alike L.place) (Derivation.requireLink subject : Action σ ρ α (LinkPlace α))
      (Derivation.requireLink subject) s s' := by
  unfold Derivation.requireLink
  apply Paired.get
  have hc := hs.cursor
  generalize s.cursor = c at hc ⊢
  generalize s'.cursor = c' at hc ⊢
  cases hc with
  | object n => exact .throw _ hs
  | aliased n aliases => exact .throw _ hs
  | link hp => exact .pure hp hs

omit [Host σ α] [Host τ α] in
/-- Alike runs are at the same object, or both at none. -/
lemma requireObject (subject : String) (hs : s.Alike L d s') :
    Twin L d Eq (Derivation.requireObject subject : Action σ ρ α NodeId)
      (Derivation.requireObject subject) s s' := by
  unfold Derivation.requireObject
  apply Paired.get
  dsimp only
  rw [hs.cursor.object?, hs.cursor.kind]
  cases s.cursor.object? with
  | some n => exact .pure rfl hs
  | none => exact .throw _ hs

/-- Alike runs enter a link alike. -/
lemma enterLink [Scalar α] (hL : L.Lasts keys) (n : NodeId) (hs : s.Alike L d s') :
    Twin L d Eq (Derivation.enterLink n : Action σ ρ α Unit) (Derivation.enterLink n) s s' :=
  .bind (request hs (hL.world n hs.host)) fun _ _ _ _ hw ht => .modify (ht.goTo (.link ⟨rfl, rfl, hw⟩))

/-- Alike runs publish a link alike. -/
lemma publish (hL : L.Lasts keys) (name : String) (link : NodeId) (hs : s.Alike L d s') :
    Twin L d Eq (Derivation.publish name link : Action σ ρ α Unit)
      (Derivation.publish name link) s s' := by
  unfold Derivation.publish
  apply Paired.get
  rw [← hs.captures.length_eq]
  exact .bind (note hL hs (.same _)) fun _ _ t t' _ ht => .modify (ht.publish name link)

/-- Alike runs hang a copy under a link alike. -/
lemma adopt (hL : L.Lasts keys) (copy link : NodeId) (hs : s.Alike L d s') :
    Twin L d Eq (Derivation.adopt copy link : Action σ ρ α Unit) (Derivation.adopt copy link) s s' := by
  unfold Derivation.adopt
  apply Paired.get
  dsimp only
  rw [hL.container? hs.host]
  refine .bind (request hs (hL.moveAll copy _ _ hs.host)) fun _ _ t t' _ ht => ?_
  exact request ht (hL.reparent copy link ht.host)

/-- Faults that are recorded keep runs alike. -/
lemma tolerate (h : L.Fits settings settings') {act : Action σ ρ α Unit} {act' : Action τ ρ α Unit}
    (ha : Twin L d Eq act act' s s') :
    Twin L d Eq (Derivation.tolerate settings act) (Derivation.tolerate settings' act') s s' := by
  refine Paired.elim ha ?_ ?_ ?_ ?_
  · intro _ _ t t' e e' _ ht
    exact .of_eq (by simp only [Derivation.tolerate, e]; rfl)
      (by simp only [Derivation.tolerate, e']; rfl) (.pure rfl ht)
  · intro f t t' e e' ht
    cases hf : f.fatal with
    | true =>
      exact .of_eq (by simp only [Derivation.tolerate, e, hf]; rfl)
        (by simp only [Derivation.tolerate, e', hf]; rfl) (.throw f ht)
    | false =>
      exact .of_eq (by simp only [Derivation.tolerate, e, hf]; rfl)
        (by simp only [Derivation.tolerate, e', hf]; rfl) (.pure rfl (h.record f ht))
  · rintro _ t e ⟨g, rfl, hg⟩
    refine .excused_left (f := .scene g) (t := t) ?_ ⟨g, rfl, hg⟩
    unfold Derivation.tolerate
    rw [e]
    rfl
  · rintro _ t e ⟨g, rfl, hg⟩
    refine .excused_right (f := .scene g) (t := t) ?_ ⟨g, rfl, hg⟩
    unfold Derivation.tolerate
    rw [e]
    rfl

variable [Scalar α]

/-- Where a node comes to be that is mirrored at a frame. -/
def mirrored (axis : Axis) (frame world : Matrix4 α) : Matrix4 α :=
  frame.inverse?.elim (world * Matrix4.scaling axis.reflection) fun inverse =>
    frame * Matrix4.scaling axis.reflection * inverse * world

omit [Host τ α] in
/-- Mirroring a node moves it to a place that depends on two frames only. -/
lemma mirrorAt_eq (link : NodeId) (axis : Axis) (n : NodeId) :
    (Derivation.mirrorAt link axis n : Action σ ρ α Unit) = (do
      let frame ← Derivation.request (Host.world link)
      let world ← Derivation.request (Host.world n)
      Derivation.request (Host.setWorld n (mirrored axis frame world))
      Derivation.request (Host.bake n)
      Derivation.request (Host.flip n)) := by
  unfold Derivation.mirrorAt mirrored
  congr
  funext frame
  congr
  funext world
  cases frame.inverse? <;> rfl

/-- Alike frames reflect to alike places, whether they have an inverse or not. -/
lemma mirrorAt (hL : L.Lasts keys) (link : NodeId) (axis : Axis) (n : NodeId) (hs : s.Alike L d s') :
    Twin L d Eq (Derivation.mirrorAt link axis n : Action σ ρ α Unit)
      (Derivation.mirrorAt link axis n) s s' := by
  rw [mirrorAt_eq, mirrorAt_eq]
  refine .bind (request hs (hL.world link hs.host)) fun frame frame' t t' hframe ht => ?_
  refine .bind (request ht (hL.world n ht.host)) fun world world' t t' hworld ht => ?_
  have place := hL.combine (mirrored axis) hframe hworld
  refine .bind (request ht (hL.setWorld n ht.host place)) fun _ _ t t' _ ht => ?_
  refine .bind (request ht (hL.bake n ht.host)) fun _ _ t t' _ ht => ?_
  exact request ht (hL.flip n ht.host)

/-- Something is put at alike links. -/
lemma composed (hL : L.Lasts keys) {p p' : LinkPlace α} (hp : p.Alike L.place p') :
    L.place p.composed p'.composed := by
  have h := hL.combine (fun world _ => world * p.offset.matrix) hp.world hp.world
  unfold LinkPlace.composed
  rw [hp.offset]
  exact h

/-- A copy that is made of a node and brought under a link. -/
lemma placeCopy (hL : L.Lasts keys) {p p' : LinkPlace α} (hp : p.Alike L.place p') (source : NodeId)
    {k : NodeId → Action σ ρ α Unit} {k' : NodeId → Action τ ρ α Unit} (hs : s.Alike L d s')
    (hk : ∀ copy t t', t.Alike L d t' → Twin L d Eq (k copy) (k' copy) t t') :
    Twin L d Eq (do
        let copy ← Derivation.request (Host.duplicate source)
        Derivation.request (Host.setWorld copy p.composed)
        Derivation.adopt copy p.node
        k copy)
      (do
        let copy ← Derivation.request (Host.duplicate source)
        Derivation.request (Host.setWorld copy p'.composed)
        Derivation.adopt copy p'.node
        k' copy) s s' := by
  refine .bind (request hs (hL.duplicate source hs.host)) fun copy _ t t' hcopy ht => ?_
  subst hcopy
  rw [hp.node]
  refine .bind (request ht (hL.setWorld copy ht.host (composed hL hp))) fun _ _ t t' _ ht => ?_
  exact .bind (adopt hL copy _ ht) fun _ _ t t' _ ht => hk copy t t' ht

/-- Alike runs copy a child to alike links. -/
lemma copyChild (hL : L.Lasts keys) {p p' : LinkPlace α} (hp : p.Alike L.place p')
    (mirror : Option Axis) (child : NodeId) (hs : s.Alike L d s') :
    Twin L d Eq (Derivation.copyChild p mirror child : Action σ ρ α Unit)
      (Derivation.copyChild p' mirror child) s s' := by
  unfold Derivation.copyChild
  refine placeCopy hL hp child hs fun copy t t' ht => ?_
  have listed : ∀ t t', t.Alike L d t' → Twin L d Eq (modify (·.addGenerated copy) : Action σ ρ α Unit)
      (modify (·.addGenerated copy)) t t' := fun t t' ht => .modify (ht.addGenerated copy)
  rw [hp.node]
  cases mirror with
  | some axis => exact .bind (mirrorAt hL _ axis copy ht) fun _ _ t t' _ ht => listed t t' ht
  | none => exact listed t t' ht

/-- Alike runs copy the children of a sibling to alike links. -/
lemma copySiblingChildren (h : L.Fits settings settings') {p p' : LinkPlace α}
    (hp : p.Alike L.place p') (name : String) (mirror : Option Axis) (hs : s.Alike L d s') :
    Twin L d Eq (Derivation.copySiblingChildren settings p name mirror : Action σ ρ α Unit)
      (Derivation.copySiblingChildren settings' p' name mirror) s s' := by
  unfold Derivation.copySiblingChildren
  apply Paired.get
  dsimp only
  rw [h.parent? hs.host, hp.node]
  cases Host.parent? s.scene p.node with
  | none => exact .pure rfl hs
  | some parent =>
    dsimp only
    rw [h.childLink? hs.host]
    cases Derivation.childLink? settings s.scene parent name with
    | none => exact .pure rfl hs
    | some sibling =>
      dsimp only
      rw [h.children hs.host]
      exact .forM hs fun child _ t t' ht => copyChild h.toLasts hp mirror child ht

omit [Scalar α] in
/-- Alike runs create a link alike. -/
lemma addLinkTo (h : L.Fits settings settings') (object : NodeId) (name : String)
    (hs : s.Alike L d s') :
    Twin L d Eq (Derivation.addLinkTo settings object name : Action σ ρ α Unit)
      (Derivation.addLinkTo settings' object name) s s' := by
  unfold Derivation.addLinkTo
  refine .bind (request hs (h.world object hs.host)) fun world world' t t' hw ht => ?_
  refine .bind (request ht (h.addMarker object ht.host hw)) fun marker _ t t' hm ht => ?_
  subst hm
  rw [h.linkKey]
  exact request ht (h.setProperty marker _ _ ht.host)

omit [Host σ α] [Host τ α] in
/-- Alike runs change the offset of alike links alike. -/
lemma adjustOffset (channel : Channel) (v : Vec3 Float) (absolute : Bool) (hs : s.Alike L d s') :
    Twin L d Eq (Derivation.adjustOffset channel v absolute : Action σ ρ α Unit)
      (Derivation.adjustOffset channel v absolute) s s' := by
  apply Paired.modify
  have hc := hs.cursor
  cases e : s.cursor <;> cases e' : s'.cursor <;> rw [e, e'] at hc <;> cases hc
  · exact hs
  · exact hs
  · next hp => exact hs.goTo (.link ⟨hp.node, by rw [hp.offset], hp.world⟩)

/-! ## Rules -/

variable [RandomSource ρ] {place : String → Action σ ρ α Unit} {place' : String → Action τ ρ α Unit}

mutual
/-- Carrying out a rule. -/
theorem execute (h : L.Fits settings settings')
    (hplace : ∀ name t t', t.Alike L d t' → Twin L d Eq (place name) (place' name) t t') :
    ∀ (r : Rule Nat) (s : State σ ρ α) (s' : State τ ρ α), s.Alike L d s' →
      Twin L d Eq (Derivation.execute ⟨settings, place⟩ r)
        (Derivation.execute ⟨settings', place'⟩ r) s s'
  | .define name body, s, s', hs => by
    simp only [Derivation.execute]
    exact .bind (note h.toLasts hs (.same _)) fun _ _ t t' _ ht => define name body ht
  | .exportLink e, s, s', hs => by
    simp only [Derivation.execute]
    refine .bind (requireLink _ hs) fun p p' t t' hp ht => ?_
    refine .bind (resolveAs h.toLasts _ _ e ht) fun name _ t t' hname ht => ?_
    subst hname
    rw [hp.node]
    exact publish h.toLasts name _ ht
  | .block body, s, s', hs => by
    simp only [Derivation.execute]
    exact inScope (executeAll h hplace body _ _ hs.pushScope)
  | .times e body, s, s', hs => by
    simp only [Derivation.execute]
    refine .bind (resolveAs h.toLasts _ _ e hs) fun count _ t t' hcount ht => ?_
    subst hcount
    exact inScope (iterate ht.pushScope (executeAll h hplace body) count)
  | .place e, s, s', hs => by
    simp only [Derivation.execute]
    refine .bind (requireLink _ hs) fun p p' t t' _ ht => ?_
    refine .bind (resolveAs h.toLasts _ _ e ht) fun name _ t t' hname ht => ?_
    subst hname
    exact hplace name t t' ht
  | .copySibling e mirror, s, s', hs => by
    simp only [Derivation.execute]
    refine .bind (requireLink _ hs) fun p p' t t' hp ht => ?_
    refine .bind (resolveAs h.toLasts _ _ e ht) fun name _ t t' hname ht => ?_
    subst hname
    exact copySiblingChildren h hp name mirror ht
  | .addLink e, s, s', hs => by
    simp only [Derivation.execute]
    refine .bind (requireObject _ hs) fun object _ t t' ho ht => ?_
    refine .bind (resolveAs h.toLasts _ _ e ht) fun name _ t t' hname ht => ?_
    subst ho hname
    exact addLinkTo h object name ht
  | .goTo e, s, s', hs => by
    simp only [Derivation.execute]
    refine .bind (resolveAs h.toLasts _ _ e hs) fun name _ t t' hname ht => ?_
    subst hname
    apply Paired.get
    rw [h.findLink? ht.host ht.cursor]
    cases Derivation.findLink? settings t.scene t.cursor name with
    | some link => exact enterLink h.toLasts link ht
    | none => exact .pure rfl ht
  | .forLinks source body, s, s', hs => by
    simp only [Derivation.execute]
    refine .bind (requireObject _ hs) fun _ _ t t' _ ht => ?_
    refine .bind (compile source ht) fun pattern _ t t' hpattern ht => ?_
    subst hpattern
    apply Paired.get
    rw [h.visibleLinks ht.host ht.cursor]
    refine .forM ht fun link _ u u' hu => inScope ?_
    refine .bind (enterLink h.toLasts link hu.pushScope) fun _ _ v v' _ hv => ?_
    exact executeAll h hplace body v v' hv
  | .maybe e body, s, s', hs => by
    simp only [Derivation.execute]
    refine .bind (resolveAs h.toLasts _ _ e hs) fun ratio _ t t' hratio ht => ?_
    refine .bind (uniform ht) fun x _ u u' hx hu => ?_
    subst hratio hx
    split
    · exact inScope (executeAll h hplace body _ _ hu.pushScope)
    · exact .pure rfl hu
  | .adjust channel e absolute, s, s', hs => by
    simp only [Derivation.execute]
    refine .bind (requireLink _ hs) fun p p' t t' _ ht => ?_
    refine .bind (resolveAs h.toLasts _ _ e ht) fun v _ t t' hv ht => ?_
    subst hv
    exact adjustOffset channel v absolute ht
/-- Carrying out rules one after the other. -/
theorem executeAll (h : L.Fits settings settings')
    (hplace : ∀ name t t', t.Alike L d t' → Twin L d Eq (place name) (place' name) t t') :
    ∀ (rs : List (Rule Nat)) (s : State σ ρ α) (s' : State τ ρ α), s.Alike L d s' →
      Twin L d Eq (Derivation.executeAll ⟨settings, place⟩ rs)
        (Derivation.executeAll ⟨settings', place'⟩ rs) s s'
  | [], s, s', hs => by
    simp only [Derivation.executeAll]
    exact .pure rfl hs
  | r :: rs, s, s', hs => by
    simp only [Derivation.executeAll]
    apply Paired.get
    have event : Event.Alike L.place (.rule s.depth r s.cursor s.scopes s.captures)
        (.rule s'.depth r s'.cursor s'.scopes s'.captures) := by
      rw [hs.depth, hs.depth']
      exact .rule d r hs.cursor hs.scopes hs.captures
    refine .bind (note h.toLasts hs event) fun _ _ t t' _ ht => ?_
    refine .bind (tolerate h (execute h hplace r t t' ht)) fun _ _ u u' _ hu => ?_
    exact executeAll h hplace rs u u' hu
end

end Twin

end Derivation

end SceneGrammar
