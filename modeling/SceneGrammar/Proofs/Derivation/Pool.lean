import SceneGrammar.Proofs.Derivation.Current
import SceneGrammar.Proofs.Derivation.Upholding
import SceneGrammar.Proofs.Scene.Pool

/-!
# The templates of a run

A run chooses templates among the members of a collection that have no parent, and a copy of one has no
parent either until it hangs under a link. No choice falls into that time: whatever a rule does, and even
where it ends the run, every node that it made has a parent afterwards. So at each choice the members are
those of the scene in which the run began, with the weights that they had there (`generate_pool`).
-/

namespace SceneGrammar.Derivation

variable {ρ α : Type} [Scalar α] {b : Scene α} {s : State (Scene α) ρ α} {n : NodeId}
  {S : NodeId → Prop}

open Scene (Hung Loose)

/-! ## What rules leave without a parent -/

/-- New nodes are brought to their places. -/
lemma hung_handles (hb : b.WellFormed) (hn : b.lastId < n) :
    Handles (fun (_ : Option Fault) (s t : State (Scene α) ρ α) =>
      Hung b S s.scene → Hung b S t.scene) n where
  trans h k := k ∘ h
  world m := request_keeps fun s hs =>
    (Scene.world_ends s m).imp (fun _ _ e => e ▸ hs) (fun _ _ e => e ▸ hs)
  setWorld w := request_keeps fun _ hs => hs.setWorld hn w
  moveAll origin target := request_keeps fun _ hs => hs.moveAll hb hn origin target
  reparent p := request_keeps fun _ hs => hs.reparent hb hn p
  flip := request_keeps fun _ hs => hs.update hn (fun _ => rfl) (fun _ => rfl)
  bake := request_keeps fun _ hs => hs.update hn (fun _ => rfl) (fun _ => rfl)

/-- A copy of what has a parent has one, wherever it is brought. -/
lemma copyChild_hung (hs : s.scene.WellFormed) (place : LinkPlace α) (mirror : Option Axis)
    {child : NodeId} (hp : s.scene.parent? child ≠ none) :
    Leaves (fun t _ => Hung s.scene (fun _ => False) t) (copyChild place mirror child) s := by
  unfold copyChild
  apply Ends.bind
  refine request_ends (((Hung.refl hs).duplicate child).imp ?_ (fun _ _ => id))
  rintro copy scene ⟨hcopy, -, -, h⟩
  have h : Hung s.scene (fun _ => False) scene := h.mono fun m _ k => k.elim id fun k => hp k.2
  have new : s.scene.lastId < copy := hcopy ▸ Nat.lt_succ_self _
  have handles := hung_handles (ρ := ρ) (S := fun _ => False) hs new
  refine Ends.imp (handles.settle place { s with scene } fun t _ => ?_) (fun _ _ k => k h)
    (fun _ _ k => k h)
  cases mirror with
  | some axis =>
    apply Ends.bind
    exact (handles.mirrorAt place.node axis t).imp (fun _ _ k => Ends.modify k) (fun _ _ k => k)
  | none => exact Ends.bind (Ends.pure (Ends.modify id))

/-- Copying the children of a sibling leaves all new nodes with parents. -/
lemma copySiblings_hung (hs : s.scene.WellFormed) (settings : Settings) (place : LinkPlace α)
    (name : String) (mirror : Option Axis) :
    Leaves (fun t _ => Hung s.scene (fun _ => False) t) (copySiblingChildren settings place name mirror) s := by
  have start := Hung.refl (S := fun _ => False) hs
  unfold copySiblingChildren
  apply Ends.get
  dsimp only
  split
  · exact Ends.pure start
  · split
    · exact Ends.pure start
    · refine Ends.forM (I := fun t : State (Scene α) ρ α => Hung s.scene (fun _ => False) t.scene) start
        fun child hc t ht => ?_
      -- The child was there before the first round, and its parent is still the same.
      have ec := hs.named hc
      have hp : t.scene.parent? child ≠ none := by
        rw [ht.parent?_old (Scene.live_of_parent? ec), ec]
        exact Option.some_ne_none _
      exact (copyChild_hung ht.wellFormed place mirror hp).imp (fun _ _ => ht.trans) (fun _ _ => ht.trans)

/-- Creating a link leaves all new nodes with parents. -/
lemma addLink_hung (hs : s.scene.WellFormed) (settings : Settings) (object : NodeId) (name : String) :
    Leaves (fun t _ => Hung s.scene (fun _ => False) t) (addLinkTo settings object name) s := by
  have start := Hung.refl (S := fun _ => False) hs
  unfold addLinkTo
  apply Ends.bind
  refine request_ends ((Scene.world_ends s.scene object).imp ?_ (fun _ _ e => e ▸ start))
  rintro w _ rfl
  apply Ends.bind
  refine request_ends ((start.addMarker w object).imp ?_ (fun _ _ => id))
  rintro marker scene ⟨new, h⟩
  exact request_ends (h.update new (fun _ => rfl) (fun _ => rfl))

/-- A copy of a template hangs under the link at which the run stands before anything can be refused. -/
lemma placeTemplate_hung [RandomSource ρ] (unit : (1 : Matrix4 α).inverse? ≠ none) (hs : Current s)
    (settings : Settings) {collection : String} {members : List NodeId}
    (e : s.scene.topLevel? collection = some members) :
    Leaves (fun t _ => Hung s.scene (fun _ => False) t) (placeTemplate settings collection members) s := by
  have start := Hung.refl (S := fun _ => False) hs.wellFormed
  unfold placeTemplate
  apply Ends.bind
  refine (requireLink_ends "instance" s).imp ?_ ?_
  · rintro place t ⟨rfl, hlink⟩
    have hp : t.scene.Live place.node := by
      refine hs.live _ (t.nodes_cursor ?_)
      rw [hlink]
      exact List.mem_singleton_self _
    apply Ends.get
    refine Ends.bind (Ends.modify (Ends.bind (Ends.modifyGet ?_)))
    dsimp only
    split
    · exact Ends.pure start
    · next template chosen =>
      obtain ⟨i, -, hi⟩ := Option.bind_eq_some_iff.mp chosen
      have root := (Scene.root_topLevel? e (List.mem_of_getElem? hi)).2
      apply Ends.bind
      refine request_ends ((Loose.of_root hs.wellFormed hp root).imp ?_ (fun _ _ => id))
      rintro copy scene ⟨new, h⟩
      apply Ends.bind
      refine request_ends ((h.setWorld new unit place.composed).imp ?_ (fun _ _ => False.elim))
      intro _ scene h
      apply Ends.bind
      unfold adopt
      apply Ends.get
      apply Ends.bind
      refine request_ends ((h.moveAll new hs.wellFormed _ _).imp ?_ (fun _ _ => False.elim))
      intro _ scene h
      refine request_ends ((h.reparent new hs.wellFormed).imp ?_ (fun _ _ => id))
      intro _ scene h
      exact Ends.bind (Ends.modify (Ends.get (Ends.bind (Ends.modify (Ends.modify h)))))
  · rintro f _ ⟨rfl, -⟩
    exact start

/-- New nodes have parents after every rule. -/
lemma hung_upholds [RandomSource ρ] (unit : (1 : Matrix4 α).inverse? ≠ none) (settings : Settings)
    (b : Scene α) :
    Upholds settings (Current : State (Scene α) ρ α → Prop)
      (fun scene _ => Hung b (fun _ => False) scene) where
  observe _ h := h
  world n s _ h := (Scene.world_ends s n).imp (fun _ _ e => e ▸ h) (fun _ _ e => e ▸ h)
  copySiblings name mirror hs h _ :=
    (copySiblings_hung hs.wellFormed settings _ name mirror).imp (fun _ _ => h.trans) (fun _ _ => h.trans)
  addLink name hs h _ :=
    (addLink_hung hs.wellFormed settings _ name).imp (fun _ _ => h.trans) (fun _ _ => h.trans)
  placeTemplate hs h e :=
    (placeTemplate_hung unit hs settings e).imp (fun _ _ => h.trans) (fun _ _ => h.trans)
  mark _ _ _ _ h := h
  directive _ h := h

/-! ## Whole runs -/

/-- What a diary of a run shows of the templates, if the run began in a scene: at every rule and at every
choice, the members of all collections are those of that scene, and a choice goes by their weights in it. -/
def Pooled (settings : Settings) (b : Scene α) : Event α → Scene α → Prop
  | .rule _ _ _ _ _, form => ∀ collection, form.topLevel? collection = b.topLevel? collection
  | .choice collection members weights, form =>
    (∀ collection, form.topLevel? collection = b.topLevel? collection) ∧
      b.topLevel? collection = some members ∧ weights = members.map (templateWeight settings b)
  | _, _ => True

/-- Old members have their old weights. -/
lemma weights_old {scene : Scene α} (h : Scene.Extends b scene) (settings : Settings)
    {collection : String} {members : List NodeId} (e : b.topLevel? collection = some members) :
    members.map (templateWeight settings scene) = members.map (templateWeight settings b) := by
  refine List.map_congr_left fun n hn => ?_
  have property : Host.property? scene n settings.weightKey = Host.property? b n settings.weightKey :=
    h.property?_old (Scene.root_topLevel? e hn).1 settings.weightKey
  unfold templateWeight
  rw [property]

/-- A diary may hold that the members are those of the first scene. -/
lemma admits_pooled (settings : Settings) (b : Scene α) :
    Diary.Admits settings
      (fun s : State (Scene α) ρ α => Current s ∧ Hung b (fun _ => False) s.scene)
      (Pooled settings b) where
  rule _ hs := hs.2.topLevel?
  choice {s collection members} hs e := by
    have e : b.topLevel? collection = some members := (hs.2.topLevel? collection).symm.trans e
    exact ⟨hs.2.topLevel?, e, weights_old hs.2.toExtends settings e⟩
  other e form he := by
    cases e with
    | rule => exact absurd trivial he
    | choice => exact absurd trivial he
    | _ => trivial

variable [RandomSource ρ]

/-- What a run generates is new. -/
lemma generated_new (settings : Settings) (grammar : Grammar) (start : NodeId) {scene : Scene α}
    (random : ρ) (hs : scene.WellFormed) :
    ∀ g ∈ (generate settings grammar start scene random).1.generated,
      (after (clearStart settings start) scene).lastId < g := by
  have hb := clearStart_wellFormed settings start hs
  have conduct := tidies_conduct (ρ := ρ) hb settings
  unfold generate outermost
  cases conduct.generateIn (conduct.placeWithin _) grammar start scene random with
  | inl h =>
    obtain ⟨f, e⟩ := h
    rw [e]
    exact fun g hg => nomatch hg
  | inr h =>
    obtain ⟨world, fresh, o, t, ht, e⟩ := h
    obtain ⟨errors, ee⟩ := ended_eq settings t o
    rw [e, ee]
    exact (ht (started_tidy hb random fresh start world).1).1.fresh

/-- Clearing a forest keeps its templates. -/
lemma clearStart_topLevel? (settings : Settings) {start : NodeId} {scene : Scene α}
    (hs : scene.WellFormed) (hstart : scene.Live start) :
    ∃ base, clearStart settings start scene = .ok () base ∧ base.WellFormed ∧ base.Live start ∧
      ∀ collection, base.topLevel? collection = scene.topLevel? collection := by
  refine clearStart_reaches
    (P := fun t => t.Live start ∧ ∀ collection, t.topLevel? collection = scene.topLevel? collection)
    settings hs ⟨hstart, fun _ => rfl⟩ fun ht ec h => ⟨?_, fun collection => ?_⟩
  · exact ht.live_prune.mpr ⟨h.1, ht.not_under_child ec⟩
  · exact (Scene.topLevel?_prune ht ec collection).trans (h.2 collection)

/-- Preparing a grammar leaves the scene in which a run begins. -/
lemma prepareEach_hung (unit : (1 : Matrix4 α).inverse? ≠ none) (settings : Settings)
    (rules : List (Rule Nat)) {base : Scene α} {start : NodeId} {world : Matrix4 α} (random : ρ)
    (fresh : Nat) (hbase : base.WellFormed) (hlive : base.Live start)
    (hworld : base.worldOf start = .ok world) :
    let prepared := prepareEach settings rules (State.started random fresh start world base)
    Current prepared ∧ Hung base (fun _ => False) prepared.scene := by
  refine ⟨prepareEach_current settings rules (started_current hbase hlive hworld random fresh), ?_⟩
  have preparing := (hung_upholds (ρ := ρ) unit settings base).preparing
  refine preparing.prepareEach (fun s f h => ?_) rules (State.started random fresh start world base)
    (.refl hbase)
  exact s.scene_record settings f ▸ h

/-- At every choice of a run on a forest the templates and their weights are those of the scene in which it
begins, and no node that the run makes is ever one of them. -/
theorem generate_pool (settings : Settings) (grammar : Grammar) (start : NodeId) (scene : Scene Float)
    (random : ρ) (hs : scene.WellFormed) (hstart : scene.Live start) :
    let run := generate settings grammar start scene random
    let diary := generate settings grammar start ({ host := scene } : Diary (Scene Float) Float) random
    run = (diary.1, diary.2.1.host, diary.2.2) ∧
      ∃ base, clearStart settings start scene = .ok () base ∧
        (∀ collection, base.topLevel? collection = scene.topLevel? collection) ∧
        (∀ collection members weights form,
          (Event.choice collection members weights, form) ∈ diary.2.1.entries →
            form.topLevel? collection = some members ∧ base.topLevel? collection = some members ∧
            weights = members.map (templateWeight settings base) ∧
            ∀ n ∈ members, base.Live n ∧ n ∉ run.1.generated) ∧
        -- So they are at every rule, and after the run, however it ends.
        (∀ depth r cursor scopes captures form,
          (Event.rule depth r cursor scopes captures, form) ∈ diary.2.1.entries →
            ∀ collection, form.topLevel? collection = base.topLevel? collection) ∧
        ∀ collection, run.2.1.topLevel? collection = scene.topLevel? collection := by
  have unit : (1 : Matrix4 Float).inverse? ≠ none :=
    Option.isSome_iff_ne_none.mp (by decide +kernel)
  obtain ⟨base, ebase, hbase, hlive, pool⟩ := clearStart_topLevel? settings hs hstart
  obtain ⟨world, hworld, eworld⟩ := hbase.world_ok hlive
  have regime := (current_regime settings).upholding (hung_upholds (ρ := ρ) unit settings base)
  have record : ∀ (s : State (Scene Float) ρ Float) f,
      Current s ∧ Hung base (fun _ => False) s.scene →
        Current (s.record settings f) ∧ Hung base (fun _ => False) (s.record settings f).scene :=
    fun s f h => ⟨current_record settings s f h.1, s.scene_record settings f ▸ h.2⟩
  have now := prepareEach_hung unit settings (Rule.numberAll grammar 0).1 random
    (Rule.numberAll grammar 0).2 hbase hlive hworld
  intro run diary
  have shows : diary.2.1.Shows (Pooled settings base) := by
    refine regime.generate_shows (admits_pooled settings base) record fun base' world' t e e' => ?_
    obtain ⟨-, rfl⟩ := EStateM.Result.ok.inj (ebase.symm.trans e)
    obtain ⟨rfl, rfl⟩ := EStateM.Result.ok.inj (eworld.symm.trans e')
    exact ⟨now, fun _ _ _ => trivial⟩
  refine ⟨?view, base, ebase, pool, ?choices, ?rules, ?ended⟩
  case view => exact generate_view Diary.view settings grammar start { host := scene } random
  case choices =>
    intro collection members weights form hm
    obtain ⟨same, e, ew⟩ := shows _ _ hm
    refine ⟨(same collection).trans e, e, ew, fun n hn => ?_⟩
    have hn := (Scene.root_topLevel? e hn).1
    refine ⟨hn, fun hg => ?_⟩
    have new := generated_new settings grammar start random hs n hg
    unfold after at new
    rw [ebase] at new
    exact Nat.not_le_of_lt new hn.le_lastId
  case rules => exact fun _ _ _ _ _ form hm => shows _ form hm
  case ended =>
    have hrun : run = _ := generate_eq settings grammar random ebase eworld
    have ended := regime.derive record (regime.placeWithin (settings.maxDepth.toNat + 1)) now
      fun _ _ _ => trivial
    intro collection
    rw [hrun]
    exact (ended.2.topLevel? collection).trans (pool collection)

/-- A run that places two trees in the orchard and has one to choose from both times. -/
theorem generate_pool_orchard :
    let grammar : Grammar :=
      [.block [.place (.literal (.str "trees"))], .block [.place (.literal (.str "trees"))]]
    let scene : Scene Float := Scene.orchard
    let run := generate {} grammar 2 scene ({ uniforms := #[] } : Random.Scripted)
    let diary := generate {} grammar 2 ({ host := scene } : Diary (Scene Float) Float)
      ({ uniforms := #[] } : Random.Scripted)
    scene.WellFormed ∧ scene.Live 2 ∧ run.1.generated = [3, 4] ∧
      (diary.2.1.entries.countP fun | (.choice "trees" [1] [1], _) => true | _ => false) = 2 ∧
      (∀ collection members weights form,
        (Event.choice collection members weights, form) ∈ diary.2.1.entries →
          scene.topLevel? collection = some members ∧ 3 ∉ members ∧ 4 ∉ members) ∧
      run.2.1.topLevel? "trees" = some [1] := by
  intro grammar scene run diary
  have hstart : scene.Live 2 := ⟨_, rfl⟩
  have generated : run.1.generated = [3, 4] := by decide +kernel
  obtain ⟨-, base, ebase, -, choices, -, ended⟩ := generate_pool {} grammar 2 scene
    ({ uniforms := #[] } : Random.Scripted) Scene.orchard_wellFormed hstart
  obtain rfl : scene = base := by cases ebase; rfl
  refine ⟨Scene.orchard_wellFormed, hstart, generated, by decide +kernel, ?_, ?_⟩
  · intro collection members weights form hm
    obtain ⟨-, e, -, old⟩ := choices collection members weights form hm
    refine ⟨e, fun h => (old 3 h).2 ?_, fun h => (old 4 h).2 ?_⟩
    · rw [generated]
      exact List.mem_cons_self
    · rw [generated]
      exact List.mem_cons_of_mem _ List.mem_cons_self
  · exact (ended "trees").trans rfl

end SceneGrammar.Derivation
