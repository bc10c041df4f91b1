import SceneGrammar.Proofs.Derivation.Outlook
import SceneGrammar.Proofs.Derivation.Request
import SceneGrammar.Proofs.Scene.Budding
import SceneGrammar.Proofs.Scene.Preorder

/-!
# Created links

A rule that creates a link adds one node to the scene, `Budded` under the object at the cursor: it stands
behind the other children of the object, and nothing else has changed. A search below the object comes to
it after all others, so it is seen behind all links that were seen before and hides none of them
(`addLink_appends`).
-/

namespace SceneGrammar

namespace Scene

variable {α : Type} {s t : Scene α} {p n : NodeId} {bud : Node α}

/-! ## What a search finds -/

section
variable {tag tag' : NodeId → Option String} {accept : String → Bool}

/-- What is found at a node depends on what is below it only. -/
lemma WellFormed.atNode_congr (hs : s.WellFormed) (ht : t.WellFormed)
    (same : ∀ m, s.Under m n → t.children m = s.children m ∧ tag' m = tag m) :
    Walk.atNode tag' accept (t.taggedBelow tag' accept) n =
      Walk.atNode tag accept (s.taggedBelow tag accept) n := by
  induction n using hs.upwards with
  | step n ih =>
    obtain ⟨children, etag⟩ := same n .refl
    unfold Walk.atNode
    rw [etag]
    cases tag n with
    | some name => rfl
    | none =>
      dsimp only
      rw [ht.taggedBelow_eq, hs.taggedBelow_eq, children]
      refine List.flatMap_congr fun c hc => ih c hc fun m hm => ?_
      exact same m (hm.tail (hs.named hc))

/-- A search below the node that got a child comes to the child after all else. -/
lemma Budded.taggedBelow (h : Budded s t p bud) (hs : s.WellFormed) (hp : s.Live p)
    (same : ∀ m, m ≠ s.lastId + 1 → tag' m = tag m) :
    t.taggedBelow tag' accept p = s.taggedBelow tag accept p ++
      Walk.atNode tag' accept (t.taggedBelow tag' accept) (s.lastId + 1) := by
  rw [h.wellFormed.taggedBelow_eq, hs.taggedBelow_eq, h.children_parent hp, List.flatMap_append,
    List.flatMap_singleton]
  congr 1
  refine List.flatMap_congr fun c hc => hs.atNode_congr h.wellFormed fun m hm => ?_
  -- Below a child are old nodes, and the node is none of them.
  have old : m ≠ s.lastId + 1 := by
    have := (live_of_under (hs.live_child hc) hm).le_lastId
    lia
  have apart : m ≠ p := fun e => hs.not_under_child (hs.named hc) (e ▸ hm)
  exact ⟨h.children_other old apart, same m old⟩

end

end Scene

namespace Derivation

variable {ρ α : Type} [inst : Scalar α] {s t : State (Scene α) ρ α} {o : NodeId}

open Scene

/-- A link that is created below an object. -/
def linkNode (settings : Settings) (scene : Scene α) (o : NodeId) (name : String) (frame : Matrix4 α) :
    Node α :=
  { scene.sprig o "link" with
    properties := (∅ : Bindings String Literal).insert settings.linkKey (.str name)
    frame }

/-- Creating a link adds one node below the object, unless its place has no inverse. -/
lemma addLinkTo_ends (settings : Settings) (hs : s.scene.WellFormed) (name : String) :
    Ends (addLinkTo settings o name) s
      (fun _ t => ∃ scene w v, t = { s with scene } ∧ s.scene.worldOf o = .ok w ∧
        w.inverse? = some v ∧ Budded s.scene scene o (linkNode settings s.scene o name (v * w)))
      (fun _ _ => True) := by
  unfold addLinkTo
  apply Ends.bind
  refine request_ends ((ask_ends s.scene _).imp ?_ (fun _ _ _ => trivial))
  rintro w _ ⟨rfl, hw⟩
  apply Ends.bind
  refine request_ends ((addMarker_budded hs hw w).imp ?_ (fun _ _ _ => trivial))
  rintro _ u ⟨rfl, v, inverse, budded⟩
  refine request_ends ((update_live (E := fun _ _ => False) _ ⟨_, budded.bud⟩).imp ?_
    (fun _ _ => False.elim))
  rintro _ _ rfl
  exact ⟨_, w, v, rfl, hw, inverse, budded.modify (fun _ => rfl) (fun _ => rfl)⟩

/-- All other nodes have the names that they had. -/
lemma linkName?_budded {scene t : Scene α} {bud : Node α} (settings : Settings)
    (h : Budded scene t o bud) {m : NodeId} (hm : m ≠ scene.lastId + 1) :
    linkName? settings t m = linkName? settings scene m := by
  show (t.property? m _).bind _ = (scene.property? m _).bind _
  unfold property?
  rw [h.others m hm]
  cases scene.node? m <;> rfl

/-- The new link has the name that it was given. -/
lemma linkName?_linkNode {scene t : Scene α} {settings : Settings} {name : String} {frame : Matrix4 α}
    (h : Budded scene t o (linkNode settings scene o name frame)) :
    linkName? settings t (scene.lastId + 1) = some name := by
  show (t.property? _ _).bind _ = some name
  unfold property?
  rw [h.bud]
  simp [linkNode, Bindings.get?_insert, Literal.text?]

/-- What a search for links below the object finds, once the link is created. -/
lemma linksBelow_budded {scene t : Scene α} {settings : Settings} {name : String} {frame : Matrix4 α}
    (hs : scene.WellFormed) (ho : scene.Live o)
    (h : Budded scene t o (linkNode settings scene o name frame)) (accept : String → Bool) :
    linksBelow settings t o accept =
      linksBelow settings scene o accept ++ if accept name then [scene.lastId + 1] else [] := by
  refine (h.taggedBelow hs ho fun m => linkName?_budded settings h).trans (congrArg _ ?_)
  rw [Walk.atNode, linkName?_linkNode h]

variable [RandomSource ρ]

/-- A rule that creates a link adds one node to a forest, as the last child of the object at the cursor and
at its place, and all names at the object lead where they led, unless they led nowhere. -/
theorem addLink_appends (env : Surroundings (Scene α) ρ α) (hs : s.scene.WellFormed)
    (object : s.cursor.object? = some o) {name : String}
    (run : execute env (.addLink (.literal (.str name))) s = .ok () t) :
    let link := s.scene.lastId + 1
    -- All else that a run remembers stays.
    t = { s with scene := t.scene } ∧
    (∃ frame, t.scene.node? link = some (linkNode env.settings s.scene o name frame)) ∧
    t.scene.lastId = link ∧ t.scene.collections = s.scene.collections ∧
    (∀ m, m ≠ link → t.scene.node? m = (s.scene.node? m).map fun node =>
      { node with children := node.children ++ if m = o then [link] else [] }) ∧
    -- Without rounding, affine frames put it where the object is.
    (∀ exact : ExactScalar α, exact.toScalar = inst → s.scene.Affine →
      t.scene.worldOf link = s.scene.worldOf o) ∧
    -- It is found behind all links that were seen, and hides none of them.
    (∀ accept, linksBelow env.settings t.scene o accept =
      linksBelow env.settings s.scene o accept ++ if accept name then [link] else []) ∧
    (∀ other, findLink? env.settings t.scene (.object o : Cursor α) other =
      (findLink? env.settings s.scene (.object o : Cursor α) other <|>
        if other = name then some link else none)) ∧
    -- Aliases lead where they led.
    ∀ n aliases other, findLink? env.settings t.scene (.aliased n aliases : Cursor α) other =
      findLink? env.settings s.scene (.aliased n aliases : Cursor α) other := by
  intro link
  have created : addLinkTo env.settings o name s = .ok () t := by
    simp only [execute, Bind.bind, EStateM.bind, requireObject_eq _ object] at run
    exact run
  obtain ⟨scene, w, v, rfl, hw, inverse, budded⟩ := (addLinkTo_ends env.settings hs name).ok created
  have found := linksBelow_budded hs (live_of_worldOf hw) budded
  refine ⟨rfl, ⟨v * w, budded.bud⟩, budded.number, budded.collections, budded.others, ?place, found,
    fun other => ?named, fun n aliases other => rfl⟩
  case place =>
    rintro exact rfl affine
    have back : w * (v * w) = w := by
      rw [← mul_assoc, (hs.affine_worldOf affine hw).mul_inverse inverse, one_mul]
    rw [hw, budded.worldOf rfl hw]
    exact congrArg _ back
  case named =>
    show (linksBelow _ _ _ _).head? = ((linksBelow _ _ _ _).head? <|> _)
    rw [found, List.head?_append]
    simp only [beq_iff_eq, eq_comm (a := name)]
    cases (linksBelow env.settings s.scene o (· == other)).head? with
    | some m => rfl
    | none => split <;> rfl

/-- A kitchen with a table, where a lamp is mounted, and a cup. -/
def kitchen : Scene ℚ :=
  Scene.empty.applyAll [.addNode "kitchen" none, .addNode "table" (some 1), .addNode "lamp" (some 2),
    .addNode "cup" (some 2), .tag 3 "gen_link" (.str "light"), .setFrame 2 (Matrix4.shift Vec3.ones)]

/-- The kitchen is a forest. -/
lemma kitchen_wellFormed : kitchen.WellFormed := wellFormed_empty.applyAll _ (by decide)

/-- The frames of the kitchen are affine. -/
lemma kitchen_affine : kitchen.Affine := by decide +kernel

/-- A seat at the table is found behind the lamp, and is where the table is. -/
theorem addLink_appends_kitchen :
    let s : State (Scene ℚ) Random.Scripted ℚ :=
      { scene := kitchen, random := ⟨#[], 0⟩, cursor := .object 2 }
    s.scene.WellFormed ∧ s.cursor.object? = some 2 ∧
      ∃ t, execute (outermost {}) (.addLink (.literal (.str "seat"))) s = .ok () t ∧
        t.cursor = .object 2 ∧ kitchen.Affine ∧ t.scene.worldOf 5 = kitchen.worldOf 2 ∧
        linksBelow {} t.scene 2 (fun _ => true) = [3, 5] ∧
        findLink? {} t.scene t.cursor "seat" = some 5 ∧ findLink? {} t.scene t.cursor "light" = some 3 := by
  intro s
  have runs : Ends (execute (outermost {}) (.addLink (.literal (.str "seat")))) s
      (fun _ _ => True) (fun _ _ => False) := by decide +kernel
  obtain ⟨_, t, ht, -⟩ := runs.exists_ok
  obtain ⟨same, -, -, -, -, place, links, named, -⟩ :=
    addLink_appends (outermost {}) kitchen_wellFormed (s := s) rfl ht
  have cursor : t.cursor = .object 2 := by rw [same]
  refine ⟨kitchen_wellFormed, rfl, t, ht, cursor, kitchen_affine, place _ rfl kitchen_affine,
    (links _).trans (by decide), ?seat, ?light⟩
  case seat =>
    rw [cursor]
    exact (named "seat").trans (by decide)
  case light =>
    rw [cursor]
    exact (named "light").trans (by decide)

end Derivation

end SceneGrammar
