import SceneGrammar.Proofs.Scene.History

/-!
# Changes that are refused halfway

A scene looks at what a change names before it changes anything, with one exception: that a node would
have to be placed under a parent whose place in the world has no inverse is found last. So a marker that
was refused is there all the same, and a node that was not moved hangs under its new parent. All other
refusals leave every node and collection as it was (`refused_unchanged_iff`).
-/

namespace SceneGrammar

variable {α : Type} [Scalar α]

/-- A change as a request, whatever it returns. -/
def Change.request : Change α → Edit (Scene α) Unit
  | .addCollection name => modify (·.addCollection name)
  | .addNode name parent => modify fun s => (s.addNode name parent).2
  | .addTemplate collection name => modify fun s => (s.addTemplate collection name).2
  | .tag n key value => modify (·.tag n key value)
  | .setFrame n frame => modify (·.setFrame n frame)
  | .setProperty n key value => Scene.setProperty n key value
  | .setWorld n world => Scene.setWorld n world
  | .duplicate n => do
    let _ ← Scene.duplicate n
  | .reparent n parent => Scene.reparent n parent
  | .moveTo n origin target => Scene.moveTo n origin target
  | .moveAll n origin target => Host.moveAll n origin target
  | .flip n => Scene.flip n
  | .bake n => Scene.bake n
  | .addMarker world parent => do
    let _ ← Scene.addMarker world parent
  | .remove n => Scene.remove n

namespace Scene

variable {s t : Scene α} {n p : NodeId}

/-- Every node and all collections are as they were. -/
structure Unchanged (s t : Scene α) : Prop where
  node? : ∀ n, t.node? n = s.node? n
  collections : t.collections = s.collections

omit [Scalar α] in
lemma Unchanged.refl (s : Scene α) : s.Unchanged s := ⟨fun _ => rfl, rfl⟩

/-- The place of a node in the world has no inverse. -/
def Flat (s : Scene α) (n : NodeId) : Prop := ∃ w, s.worldOf n = .ok w ∧ w.inverse? = none

/-- A node whose place has no inverse is there. -/
lemma Flat.live (h : s.Flat n) : s.Live n := by
  obtain ⟨w, e, -⟩ := h
  exact live_of_worldOf e

/-- A node is as flat as it was if it is where it was. -/
lemma WellFormed.flat_iff (hs : s.WellFormed) (hn : s.Live n)
    (h : ∀ {w}, s.worldOf n = .ok w → t.worldOf n = .ok w) : t.Flat n ↔ s.Flat n := by
  obtain ⟨w, e⟩ := hs.worldOf_ok hn
  have e' := h e
  unfold Flat
  rw [e, e']

/-! ## Placing under a flat parent -/

/-- A node is placed by what is left of its place after the place of its parent. -/
lemma setWorld_under (e : s.parent? n = some p) {w : Matrix4 α} (hw : s.worldOf p = .ok w)
    (world : Matrix4 α) : setWorld n world s = match w.inverse? with
      | some v => .ok () (s.setFrame n (v * world))
      | none => .error (.singularParent n) s := by
  obtain ⟨node, hn⟩ := live_of_parent? e
  have parentWorld : s.parentWorldOf node = .ok w := by
    unfold parentWorldOf
    rw [(parent?_eq hn).symm.trans e]
    exact hw
  apply Ends.eq
  unfold setWorld
  apply Ends.bind
  refine Ends.of_ok (get_eq hn) ?_
  apply Ends.bind
  refine Ends.of_ok (b := w) (t := s) (by simp [ask, parentWorld]) ?_
  cases w.inverse? with
  | none => exact Ends.throw rfl
  | some v => exact (update_live _ ⟨node, hn⟩).imp (fun _ _ e => e ▸ rfl) (fun _ _ => id)

/-- A node of a forest can be placed unless the place of its parent has no inverse. -/
lemma setWorld_flat (hs : s.WellFormed) (e : s.parent? n = some p) (world : Matrix4 α) :
    Ends (setWorld n world) s (fun _ _ => ¬ s.Flat p)
      (fun f t => s.Flat p ∧ f = .singularParent n ∧ t = s) := by
  obtain ⟨w, hw⟩ := hs.worldOf_ok (hs.live_parent e)
  unfold Ends
  rw [setWorld_under e hw]
  cases inverse : w.inverse? with
  | none => exact ⟨⟨w, hw, inverse⟩, rfl, rfl⟩
  | some v =>
    rintro ⟨w', hw', inverse'⟩
    obtain rfl := Except.ok.inj (hw.symm.trans hw')
    rw [inverse] at inverse'
    cases inverse'

/-- A marker under a flat parent is added, and then cannot be placed. -/
lemma addMarker_flat (hs : s.WellFormed) (world : Matrix4 α) (p : NodeId) :
    Ends (addMarker world p) s (fun _ _ => ¬ s.Flat p)
      (fun f t => s.Flat p ∧ f = .singularParent (s.lastId + 1) ∧ t = (s.addNode "link" (some p)).2 ∨
        ¬ s.Flat p ∧ t = s) := by
  by_cases hp : s.Live p
  · obtain ⟨pnode, ep⟩ := id hp
    obtain ⟨u, hu, e⟩ := addNode_sprouts s "link" (live_some hp)
    have added : (s.addNode "link" (some p)).2.WellFormed := hs.addNode "link" (live_some hp)
    have extends_ : Extends s (s.addNode "link" (some p)).2 := e ▸ (Extends.refl s).sprouts hu
    have parent : (s.addNode "link" (some p)).2.parent? (s.lastId + 1) = some p := by
      rw [e, hu.attach_parent?, hu.parent?]
    have flat := hs.flat_iff hp (t := (s.addNode "link" (some p)).2) extends_.worldOf_ok
    unfold addMarker
    apply Ends.bind
    refine Ends.of_ok (get_eq ep) ?_
    apply Ends.bind
    refine Ends.modifyGet ?_
    apply Ends.bind
    rw [addNode_fst]
    refine (setWorld_flat added parent world).imp ?_ ?_
    · exact fun _ _ h => Ends.pure (mt flat.mpr h)
    · rintro f _ ⟨h, rfl, rfl⟩
      exact .inl ⟨flat.mp h, rfl, rfl⟩
  · have flat : ¬ s.Flat p := mt Flat.live hp
    unfold addMarker
    apply Ends.bind
    refine (get_ends s p).imp ?_ ?_
    · rintro node _ ⟨rfl, e⟩
      exact absurd ⟨node, e⟩ hp
    · rintro f _ rfl
      exact .inr ⟨flat, rfl⟩

/-- Under a parent without an inverse a marker is added, and cannot be placed. -/
lemma addMarker_eq_error (hs : s.WellFormed) (flat : s.Flat p) (world : Matrix4 α) :
    addMarker world p s = .error (.singularParent (s.lastId + 1)) (s.addNode "link" (some p)).2 :=
  Ends.eq_error flat (addMarker_flat hs world p)

/-- A node can be moved under a parent, but not be placed there. -/
structure Stuck (s : Scene α) (n p : NodeId) : Prop where
  live : s.Live n
  apart : ¬ s.Under p n
  flat : s.Flat p

/-- A node that is stuck under its new parent hangs there. -/
lemma reparent_flat (hs : s.WellFormed) (n p : NodeId) :
    Ends (reparent n p) s (fun _ _ => ¬ s.Stuck n p)
      (fun f t => s.Stuck n p ∧ f = .singularParent n ∧ t = s.relink n p ∨ ¬ s.Stuck n p ∧ t = s) := by
  by_cases h : s.Live n ∧ s.Live p ∧ ¬ s.Under p n
  · obtain ⟨hn, hp, apart⟩ := h
    have moved : (s.relink n p).WellFormed := hs.relink hn hp apart
    have parent : (s.relink n p).parent? n = some p := by
      rw [parent?_relink hn, if_pos rfl]
    -- The new parent is where it was, because the node that moves is not above it.
    have kept : ∀ {w}, s.worldOf p = .ok w → (s.relink n p).worldOf p = .ok w :=
      worldOf_apart (Nat.le_of_eq (lastId_relink s n p).symm) (fun m => pose?_relink s n p) apart
    have flat := hs.flat_iff hp kept
    refine reparent_placed hs hn hp apart fun world _ => (setWorld_flat moved parent world).imp ?_ ?_
    · exact fun _ _ h k => h (flat.mpr k.flat)
    · rintro f _ ⟨h, rfl, rfl⟩
      exact .inl ⟨⟨hn, apart, flat.mp h⟩, rfl, rfl⟩
  · have unstuck : ¬ s.Stuck n p := fun k => h ⟨k.live, k.flat.live, k.apart⟩
    refine (reparent_ends s n p).imp (fun _ _ _ => unstuck) ?_
    rintro f _ (rfl | ⟨hn, hp, ha, -⟩)
    · exact .inr ⟨unstuck, rfl⟩
    · refine absurd ⟨hn, hp, fun hu => ?_⟩ h
      rw [hs.isAncestor_iff.mpr hu] at ha
      cases ha

/-- A stuck node is hung under its new parent, and cannot be placed. -/
lemma reparent_eq_error (hs : s.WellFormed) (stuck : s.Stuck n p) :
    reparent n p s = .error (.singularParent n) (s.relink n p) :=
  Ends.eq_error stuck (reparent_flat hs n p)

omit [Scalar α] in
/-- Moving a node to where it stands last already changes nothing, and nothing else does so. -/
lemma WellFormed.unchanged_relink_iff (hs : s.WellFormed) (hn : s.Live n) (hp : s.Live p) :
    s.Unchanged (s.relink n p) ↔ (s.children p).getLast? = some n := by
  constructor
  · intro h
    have same : (s.relink n p).children p = s.children p := by
      unfold children
      rw [h.node? p]
    rw [← same, hs.children_relink hp, if_pos rfl, List.getLast?_concat]
  · intro last
    obtain ⟨rest, list⟩ := List.getLast?_eq_some_iff.mp last
    have parent : s.parent? n = some p := hs.named (by simp [list])
    have fresh : n ∉ rest := by
      have nodup := hs.nodup p
      rw [list] at nodup
      exact fun hm => (List.nodup_append.mp nodup).2.2 n hm n (by simp) rfl
    have filtered : rest.filter (fun m => !decide (m = n)) = rest :=
      List.filter_eq_self.mpr fun m hm => by simpa using fun e : m = n => fresh (e ▸ hm)
    refine ⟨fun m => ?_, by simp [Scene.relink, appendChild]⟩
    unfold Scene.relink appendChild unlist
    rw [parent]
    dsimp only [dropChild]
    simp only [node?_modifyNode]
    by_cases hpm : p = m
    · subst hpm
      have hnp : n ≠ p := fun e => hs.not_under_child parent (e ▸ .refl)
      obtain ⟨pnode, ep⟩ := hp
      have same : { pnode with children := rest ++ [n] } = pnode := by
        rw [← (children_eq ep).symm.trans list]
      simpa [ep, hnp, (children_eq ep).symm.trans list, filtered] using same
    · by_cases hnm : n = m
      · subst hnm
        obtain ⟨node, e⟩ := hn
        have parent' : node.parent = some p := (parent?_eq e).symm.trans parent
        simp [hpm, e, ← parent']
      · simp [hpm, hnm]

end Scene

/-! ## Refusals -/

/-- A change of which a part is done before it is refused. -/
def Change.Halfway (s : Scene α) : Change α → Prop
  | .addMarker _ parent => s.Flat parent
  | .reparent n parent => s.Stuck n parent
  | _ => False

/-- What such a change leaves. -/
def Change.part (s : Scene α) : Change α → Scene α
  | .addMarker _ parent => (s.addNode "link" (some parent)).2
  | .reparent n parent => s.relink n parent
  | _ => s

namespace Scene
variable {s t : Scene α}

/-- Moving all nodes of a tree to a collection is refused for the first one or not at all. -/
lemma WellFormed.moveAll_ends (hs : s.WellFormed) (n : NodeId) (origin target : Option String) :
    Ends (Host.moveAll n origin target) s (fun _ _ => True) (fun _ t => t = s) := by
  by_cases hn : s.Live n
  · exact (moveAll_links hs hn origin target).imp (fun _ _ _ => trivial) (fun _ _ => id)
  · unfold Host.moveAll
    apply Ends.get
    unfold Host.moveAllWithin
    apply Ends.bind
    refine (update_ends s n _).imp ?_ (fun _ _ => id)
    rintro _ _ ⟨hl, -⟩
    exact absurd hl hn

/-- A change that is not refused halfway is either done or leaves the scene as it was. -/
lemma WellFormed.request_ends (hs : s.WellFormed) (c : Change α) :
    Ends c.request s (fun _ _ => ¬ c.Halfway s)
      (fun f t => c.Halfway s ∧ f.Singular ∧ t = c.part s ∨ ¬ c.Halfway s ∧ t = s) := by
  have whole : ∀ {β : Type} {act : Edit (Scene α) β}, Ends act s (fun _ _ => True) (fun _ t => t = s) →
      Ends act s (fun _ _ => ¬ False) (fun f t => False ∧ f.Singular ∧ t = s ∨ ¬ False ∧ t = s) :=
    fun h => h.imp (fun _ _ _ => id) (fun _ _ e => .inr ⟨id, e⟩)
  have updated : ∀ n f, Ends (update n f) s (fun _ _ => True) (fun _ t => t = s) :=
    fun n f => (update_ends s n f).imp (fun _ _ _ => trivial) (fun _ _ => id)
  cases c with
  | addCollection name => exact Ends.modify id
  | addNode name parent => exact Ends.modify id
  | addTemplate collection name => exact Ends.modify id
  | tag n key value => exact Ends.modify id
  | setFrame n frame => exact Ends.modify id
  | setProperty n key value => exact whole (updated n _)
  | setWorld n world =>
    exact whole ((setWorld_ends s n world).imp (fun _ _ _ => trivial) (fun _ _ => id))
  | duplicate n =>
    refine whole (Ends.bind ((duplicate_ends hs n).imp ?_ (fun _ _ => id)))
    exact fun _ _ _ => Ends.pure trivial
  | reparent n parent =>
    refine (reparent_flat hs n parent).imp (fun _ _ => id) ?_
    rintro f t (⟨h, rfl, rfl⟩ | h)
    · exact .inl ⟨h, ⟨n, rfl⟩, rfl⟩
    · exact .inr h
  | moveTo n origin target => exact whole (updated n _)
  | moveAll n origin target => exact whole (hs.moveAll_ends n origin target)
  | flip n => exact whole (updated n _)
  | bake n => exact whole (updated n _)
  | addMarker world parent =>
    refine Ends.bind ((addMarker_flat hs world parent).imp (fun _ _ h => Ends.pure h) ?_)
    rintro f t (⟨h, rfl, rfl⟩ | h)
    · exact .inl ⟨h, ⟨_, rfl⟩, rfl⟩
    · exact .inr h
  | remove n =>
    exact whole ((remove_ends hs n).imp (fun _ _ _ => trivial) (fun _ _ => id))

/-- A change that a forest refuses leaves a part of itself if a node would have to be placed under a parent
whose place has no inverse, and the whole forest otherwise. -/
theorem refused_unchanged_iff (hs : s.WellFormed) (c : Change α) {f : SceneFault}
    (refused : c.request s = .error f t) :
    (c.Halfway s → f.Singular ∧ t = c.part s) ∧ (¬ c.Halfway s → t = s) ∧
      -- A node that stands last under its new parent already is no change.
      (s.Unchanged t ↔
        ¬ c.Halfway s ∨ ∃ n p, c = .reparent n p ∧ (s.children p).getLast? = some n) := by
  obtain ⟨halfway, singular, rfl⟩ | ⟨whole, rfl⟩ := (hs.request_ends c).error refused
  · refine ⟨fun _ => ⟨singular, rfl⟩, fun h => absurd halfway h, ?_⟩
    cases c with
    | reparent n p =>
      rw [show (Change.reparent n p).part s = s.relink n p from rfl,
        hs.unchanged_relink_iff halfway.live halfway.flat.live]
      simp [halfway]
    | addMarker world p =>
      have grew : ¬ s.Unchanged ((Change.addMarker world p).part s) := by
        intro h
        obtain ⟨u, hu, e⟩ := addNode_sprouts s "link" (live_some halfway.live)
        have live : (s.addNode "link" (some p)).2.Live (s.lastId + 1) := by
          rw [e]
          exact hu.attach_live.mpr hu.live
        obtain ⟨node, e⟩ := live
        exact Nat.not_succ_le_self _ (le_lastId_of_node? ((h.node? _).symm.trans e))
      simp [grew, halfway]
    | _ => exact halfway.elim
  · exact ⟨fun h => absurd h whole, fun _ => rfl, fun _ => .inl whole, fun _ => .refl _⟩

/-- An orchard whose root has no extent. -/
def flatOrchard : Scene Float := orchard.setFrame 2 (Matrix4.scaling ⟨0, 0, 0⟩)

/-- The flat orchard is a forest. -/
lemma flatOrchard_wellFormed : flatOrchard.WellFormed := orchard_wellFormed.setFrame 2 _

/-- The root of the flat orchard has no inverse. -/
lemma flatOrchard_flat : flatOrchard.Flat 2 := ⟨_, rfl, by decide +kernel⟩

/-- The tree of the flat orchard cannot be placed under its root. -/
lemma flatOrchard_stuck : flatOrchard.Stuck 1 2 := by
  refine ⟨⟨_, rfl⟩, fun hu => ?_, flatOrchard_flat⟩
  have unrelated : flatOrchard.isAncestor 1 2 = false := by decide
  rw [flatOrchard_wellFormed.isAncestor_iff.mpr hu] at unrelated
  cases unrelated

/-- A tree that cannot be planted there hangs under the root. -/
theorem refused_unchanged_iff_orchard :
    flatOrchard.WellFormed ∧ ∃ f t, (Change.reparent 1 2).request flatOrchard = .error f t ∧
      t = flatOrchard.relink 1 2 ∧ ¬ flatOrchard.Unchanged t := by
  have refused := reparent_eq_error flatOrchard_wellFormed flatOrchard_stuck
  obtain ⟨halfway, -, unchanged⟩ :=
    refused_unchanged_iff flatOrchard_wellFormed (.reparent 1 2) refused
  refine ⟨flatOrchard_wellFormed, _, _, refused, (halfway flatOrchard_stuck).2, fun h => ?_⟩
  obtain h | ⟨n, p, e, last⟩ := unchanged.mp h
  · exact h flatOrchard_stuck
  · cases e
    have bare : flatOrchard.children 2 = [] := by decide +kernel
    rw [bare] at last
    cases last

/-- A marker that is refused there is there, and a tree that is not moved has another parent. -/
theorem refused_flatOrchard :
    flatOrchard.WellFormed ∧ flatOrchard.children 2 = [] ∧ flatOrchard.parent? 1 = none ∧
      (∃ t, addMarker 1 2 flatOrchard = .error (.singularParent 3) t ∧ t.children 2 = [3]) ∧
      ∃ t, reparent 1 2 flatOrchard = .error (.singularParent 1) t ∧ t.parent? 1 = some 2 := by
  refine ⟨flatOrchard_wellFormed, by decide +kernel, by decide +kernel, ?marker, ?tree⟩
  case marker =>
    exact ⟨_, addMarker_eq_error flatOrchard_wellFormed flatOrchard_flat 1, by decide +kernel⟩
  case tree =>
    exact ⟨_, reparent_eq_error flatOrchard_wellFormed flatOrchard_stuck, by decide +kernel⟩

end Scene

end SceneGrammar
