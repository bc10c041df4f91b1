import SceneGrammar.Proofs.Derivation.Addition
import SceneGrammar.Proofs.Derivation.Diary
import SceneGrammar.Proofs.Derivation.Upholding
import SceneGrammar.Proofs.Scene.Refusal
import SceneGrammar.Proofs.Scene.Walks
import SceneGrammar.Random.Scripted

/-!
# Leaves whose directives run

A leaf is marked before its directive runs, and no marked leaf is entered again. Leaves are looked for
below the objects that a run stands at, which are new, and what is below a new node is new. So a diary of
a run tells of each leaf at most once, and of none that was there before the run (`generate_directives`).
-/

namespace SceneGrammar

variable {σ ρ α : Type}

/-- The leaves whose directives have run, the last first. -/
def Diary.leaves (entries : List (Event α × σ)) : List NodeId := entries.filterMap (·.1.leaf?)

namespace Derivation

/-! ## What a diary tells of leaves -/

/-- Each directive in a diary ran once, at a marked leaf that was there, and the marked leaves are newer
than a scene. -/
structure Once (b : Scene α) (entries : List (Event α × Scene α)) (marked : List NodeId) : Prop where
  nodup : (Diary.leaves entries).Nodup
  sub : ∀ leaf ∈ Diary.leaves entries, leaf ∈ marked
  fresh : ∀ leaf ∈ marked, b.lastId < leaf
  live : ∀ leaf text form, (.directive leaf text, form) ∈ entries → form.Live leaf

namespace Once
variable {b : Scene α} {entries : List (Event α × Scene α)} {marked : List NodeId}

/-- Other events tell nothing of leaves. -/
lemma other (h : Once b entries marked) {e : Event α} (he : e.leaf? = none) (form : Scene α) :
    Once b ((e, form) :: entries) marked := by
  have same : Diary.leaves ((e, form) :: entries) = Diary.leaves entries :=
    List.filterMap_cons_none he
  refine ⟨same ▸ h.nodup, same ▸ h.sub, h.fresh, fun leaf text form' hm => ?_⟩
  cases hm with
  | head => cases he
  | tail _ hm => exact h.live leaf text form' hm

/-- A new leaf may be marked. -/
lemma mark (h : Once b entries marked) {leaf : NodeId} (new : b.lastId < leaf) :
    Once b entries (leaf :: marked) where
  nodup := h.nodup
  sub m hm := List.mem_cons_of_mem leaf (h.sub m hm)
  fresh := List.forall_mem_cons.mpr ⟨new, h.fresh⟩
  live := h.live

/-- The directive of a leaf that has been marked for the first time. -/
lemma directive (h : Once b entries marked) {leaf : NodeId} (unmarked : leaf ∉ marked)
    (new : b.lastId < leaf) {form : Scene α} (hl : form.Live leaf) (text : String) :
    Once b ((.directive leaf text, form) :: entries) (leaf :: marked) := by
  have told : Diary.leaves ((.directive leaf text, form) :: entries) = leaf :: Diary.leaves entries :=
    List.filterMap_cons_some rfl
  refine ⟨?nodup, ?sub, (h.mark new).fresh, ?live⟩
  case nodup =>
    rw [told]
    exact List.nodup_cons.mpr ⟨fun hm => unmarked (h.sub leaf hm), h.nodup⟩
  case sub =>
    rw [told]
    exact List.forall_mem_cons.mpr ⟨List.mem_cons_self, (h.mark new).sub⟩
  case live =>
    intro m t f hm
    cases hm with
    | head => exact hl
    | tail _ hm => exact h.live m t f hm

end Once

/-! ## Where leaves are looked for -/

section
variable [Scalar α] {b : Scene α}

/-- What is found below a new object is new. -/
lemma Tidy.fresh_directives {s : State (Scene α) ρ α} (h : Tidy b s) (hb : b.WellFormed)
    {settings : Settings} {object leaf : NodeId} {text : String} (ho : s.cursor.object? = some object)
    (hl : (leaf, text) ∈ directives settings s.scene object) : b.lastId < leaf := by
  have below : leaf ∈ s.scene.descendants object := by
    obtain ⟨n, hn, e⟩ := List.mem_filterMap.mp hl
    split at e
    · obtain ⟨_, -, ht⟩ := Option.bind_eq_some_iff.mp e
      obtain ⟨_, -, hp⟩ := Option.map_eq_some_iff.mp ht
      cases hp
      exact hn
    · cases e
  obtain ⟨c, hc, under⟩ := h.grown.wellFormed.mem_descendants_iff.mp below
  have new : b.lastId < c :=
    h.grown.fresh_child hb (h.standing.cursor object ho) (h.grown.wellFormed.named hc)
  exact h.grown.fresh_under hb new under

/-- Entering a node changes nothing but the cursor, and the node is there. -/
lemma enterLink_diary (n : NodeId) (s : State (Diary (Scene α) α) ρ α) :
    Ends (enterLink n) s
      (fun _ t => t.scene = s.scene ∧ t.expanded = s.expanded ∧ s.scene.host.Live n)
      (fun _ _ => True) := by
  have entered : Ends (Host.world n : Edit (Diary (Scene α) α) (Matrix4 α)) s.scene
      (fun _ d => d = s.scene ∧ s.scene.host.Live n) (fun _ _ => True) := by
    have h := Scene.ask_ends s.scene.host (·.worldOf n)
    show Ends (Diary.request (Scene.world n)) s.scene _ _
    unfold Ends Diary.request Scene.world
    cases e : Scene.ask (·.worldOf n) s.scene.host with
    | ok w t =>
      obtain ⟨rfl, hw⟩ := h.ok e
      exact ⟨rfl, Scene.live_of_worldOf hw⟩
    | error f t => trivial
  unfold enterLink
  apply Ends.bind
  refine request_ends (entered.imp ?_ (fun _ _ _ => trivial))
  rintro w _ ⟨rfl, hl⟩
  exact Ends.modify ⟨rfl, rfl, hl⟩

variable [RandomSource ρ]

/-- A tidy run marks new leaves only, and runs the directive of a leaf when it has just been marked. -/
lemma once_upholds (hb : b.WellFormed) (settings : Settings) (J : Event α → Scene α → Prop) :
    Upholds settings (Attested (Tidy b) J : State (Diary (Scene α) α) ρ α → Prop)
      (fun d marked => Once b d.entries marked) := by
  refine .of_lasts (fun marked => Diary.entries_lasts (Once b · marked)) (fun he h => h.other he _) ?mark
    ?directive
  case mark =>
    exact fun hs _ ho hl h => h.mark (hs.now.fresh_directives hb ho hl)
  case directive =>
    rintro s leaf text ⟨-, t, ⟨-, ht⟩, unmarked, e⟩ hs
    obtain ⟨hscene, hexpanded, hl⟩ := (enterLink_diary leaf _).ok e
    have hscene : s.scene = t.scene := hscene
    have hexpanded : s.expanded = leaf :: t.expanded := hexpanded
    have new := hs.fresh leaf (hexpanded ▸ List.mem_cons_self)
    show Once b ((.directive leaf text, s.scene.host) :: s.scene.entries) s.expanded
    rw [hscene, hexpanded]
    exact ht.directive unmarked new hl text

/-! ## Whole runs -/

/-- A tidy run with a diary that tells of new leaves only, and of each once. -/
def Telling (b : Scene α) (s : State (Diary (Scene α) α) ρ α) : Prop :=
  Attested (Tidy b) (fun _ _ => True) s ∧ Once b s.scene.entries s.expanded

omit [Scalar α] [RandomSource ρ] in
/-- Only the marks among a run's own books matter. -/
lemma Telling.book {s : State (Diary (Scene α) α) ρ α} (hs : Telling b s) (random : ρ)
    (definitions : Bindings String (List (Rule Nat))) (settled : Bindings Nat Literal)
    (freshLabel : Nat) (errors : Array Fault) :
    Telling b { s with random, definitions, settled, freshLabel, errors } := by
  obtain ⟨⟨⟨grown, sorted, fresh, live, standing⟩, past⟩, once⟩ := hs
  exact ⟨⟨⟨grown, sorted, fresh, live, standing.steady ⟨rfl, rfl, rfl, rfl, rfl⟩⟩, past⟩, once⟩

omit [RandomSource ρ] in
/-- A note of something else than a directive. -/
lemma Telling.noted {s : State (Diary (Scene α) α) ρ α} (hs : Telling b s) {e : Event α}
    (he : e.leaf? = none) : Telling b (s.noted e) := by
  obtain ⟨⟨⟨grown, sorted, fresh, live, standing⟩, past⟩, once⟩ := hs
  have once := once.other he s.scene.host
  exact ⟨⟨⟨grown, sorted, fresh, live, standing.steady ⟨rfl, rfl, rfl, rfl, rfl⟩⟩, fun _ _ _ => trivial⟩,
    once⟩

/-- Drawing and preparing leave a run telling. -/
lemma telling_preparing :
    Preparing (fun s t : State (Diary (Scene α) α) ρ α => Telling b s → Telling b t) where
  refl _ := id
  trans h k := k ∘ h
  uniform _ hs := hs.book _ _ _ _ _
  intRange _ _ _ hs := hs.book _ _ _ _ _
  settle _ _ _ h hs := (h hs).book _ _ _ _ _
  reuse _ _ _ hs := hs.noted rfl
  fix _ _ _ hs := Telling.noted (hs.book _ _ _ _ _) rfl
  define _ _ _ _ hs := hs.book _ _ _ _ _

omit [Scalar α] [RandomSource ρ] in
/-- Recording a fault leaves the diary telling. -/
lemma telling_record (settings : Settings) (s : State (Diary (Scene α) α) ρ α) (f : Fault)
    (hs : Telling b s) : Telling b (s.record settings f) := by
  obtain ⟨errors, e⟩ := record_eq settings s f
  rw [e]
  exact hs.book _ _ _ _ _

/-- A grammar leaves a run telling. -/
lemma derive_telling (hb : b.WellFormed) (settings : Settings) (rules : List (Rule Nat))
    {s : State (Diary (Scene α) α) ρ α} (hs : Telling b s) :
    Telling b (derive (outermost settings) rules s) := by
  have admits : Diary.Admits settings (Tidy b : State (Scene α) ρ α → Prop) (fun _ _ => True) :=
    ⟨fun _ _ => trivial, fun _ _ => trivial, fun _ _ _ => trivial⟩
  have regime := ((tidy_regime hb settings).diary admits).upholding (once_upholds hb settings _)
  exact regime.derive (telling_record settings) (regime.placeWithin _)
    (telling_preparing.prepareEach (telling_record settings) rules s hs) fun _ _ _ => trivial

/-- A diary in which nothing has been entered yet, of a forest that has given the numbers that a scene
has given. -/
structure Blank (scene : Scene α) (d : Diary (Scene α) α) : Prop where
  entries : d.entries = []
  wellFormed : d.host.WellFormed
  lastId : d.host.lastId = scene.lastId

namespace Blank
variable {scene : Scene α} {d : Diary (Scene α) α}

omit [Scalar α] [RandomSource ρ] in
/-- Requests before a run leave the diary blank. -/
lemma request {β : Type} {act : Edit (Scene α) β} (h : Blank scene d)
    (hact : Ends act d.host (fun _ t => t.WellFormed ∧ t.lastId = d.host.lastId)
      (fun _ t => t.WellFormed ∧ t.lastId = d.host.lastId)) :
    Ends (Diary.request act) d (fun _ => Blank scene) (fun _ => Blank scene) := by
  unfold Ends Diary.request
  cases e : act d.host with
  | ok x t =>
    obtain ⟨hw, hl⟩ := hact.ok e
    exact ⟨h.entries, hw, hl.trans h.lastId⟩
  | error f t =>
    obtain ⟨hw, hl⟩ := hact.error e
    exact ⟨h.entries, hw, hl.trans h.lastId⟩

omit [RandomSource ρ] in
/-- Removing a node before a run leaves the diary blank. -/
lemma remove (n : NodeId) (h : Blank scene d) :
    Ends (Host.remove n) d (fun _ => Blank scene) (fun _ => Blank scene) := by
  refine h.request ((Scene.remove_ends h.wellFormed n).imp ?_ ?_)
  · rintro _ _ ⟨-, rfl⟩
    exact ⟨h.wellFormed.prune n, Scene.lastId_prune _ n⟩
  · rintro _ _ rfl
    exact ⟨h.wellFormed, rfl⟩

omit [RandomSource ρ] in
/-- Asking for a place before a run leaves the diary blank. -/
lemma world (n : NodeId) (h : Blank scene d) :
    Ends (Host.world (α := α) n) d (fun _ => Blank scene) (fun _ => Blank scene) := by
  refine h.request ((Scene.world_ends d.host n).imp ?_ ?_)
  · rintro _ _ rfl
    exact ⟨h.wellFormed, rfl⟩
  · rintro _ _ rfl
    exact ⟨h.wellFormed, rfl⟩

omit [RandomSource ρ] in
/-- A run begins telling. -/
lemma started (h : Blank scene d) (random : ρ) (fresh : Nat) (start : NodeId) (world : Matrix4 α) :
    Telling d.host (State.started random fresh start world d) := by
  have tidy := (started_tidy h.wellFormed random fresh start world).1
  refine ⟨⟨tidy, fun _ _ _ => trivial⟩, ?_⟩
  show Once d.host d.entries []
  rw [h.entries]
  exact ⟨.nil, fun _ hm => (nomatch hm), fun _ hm => (nomatch hm), fun _ _ _ hm => (nomatch hm)⟩

end Blank

/-- However a run on a forest ends, no directive of a leaf runs twice, and each leaf whose directive runs is
newer than the scene and was there when it began to run. -/
theorem generate_directives (settings : Settings) (grammar : Grammar) (start : NodeId)
    (scene : Scene α) (random : ρ) (hs : scene.WellFormed) :
    let run := generate settings grammar start scene random
    let diary := generate settings grammar start ({ host := scene } : Diary (Scene α) α) random
    run = (diary.1, diary.2.1.host, diary.2.2) ∧
      (Diary.leaves diary.2.1.entries).Nodup ∧
      ∀ leaf text form, (Event.directive leaf text, form) ∈ diary.2.1.entries →
        ¬ scene.Live leaf ∧ scene.lastId < leaf ∧ form.Live leaf := by
  intro run diary
  refine ⟨generate_view Diary.view settings grammar start { host := scene } random, ?_⟩
  let Told (d : Diary (Scene α) α) : Prop :=
    ∃ b marked, b.lastId = scene.lastId ∧ Once b d.entries marked
  have told : Told diary.2.1 := by
    refine generateIn_leaves (P := Blank scene) (Q := Told) ?weaken (fun n _ h => h.remove n)
      (fun _ h => h.world start) ?run ⟨rfl, hs, rfl⟩
    case weaken =>
      intro d h
      exact ⟨d.host, [], h.lastId, (h.started random 0 start 1).2⟩
    case run =>
      intro world d h
      exact ⟨d.host, _, h.lastId, (derive_telling h.wellFormed settings _ (h.started random _ start world)).2⟩
  obtain ⟨b, marked, hb, once⟩ := told
  refine ⟨once.nodup, fun leaf text form hm => ?_⟩
  have ran : leaf ∈ Diary.leaves diary.2.1.entries := List.mem_filterMap.mpr ⟨_, hm, rfl⟩
  have new : scene.lastId < leaf := hb ▸ once.fresh leaf (once.sub leaf ran)
  exact ⟨fun hl => Nat.not_le_of_lt new hl.le_lastId, new, once.live leaf text form hm⟩

end

/-- Two trees are placed whose template has a leaf with a directive: the leaves of both copies run theirs,
and the leaf of the template does not. -/
theorem generate_directives_orchard :
    let scene : Scene Float :=
      ((Scene.orchard.addNode "bud" (some 1)).2).tag 3 "gen_instance" (.str "fruit")
    let grammar : Grammar :=
      [.block [.place (.literal (.str "trees"))], .block [.place (.literal (.str "trees"))]]
    let diary := generate {} grammar 2 ({ host := scene } : Diary (Scene Float) Float)
      ({ uniforms := #[] } : Random.Scripted)
    scene.WellFormed ∧ Diary.leaves diary.2.1.entries = [7, 5] ∧
      (Diary.leaves diary.2.1.entries).Nodup ∧
      ∀ leaf text form, (Event.directive leaf text, form) ∈ diary.2.1.entries →
        ¬ scene.Live leaf ∧ scene.lastId < leaf ∧ form.Live leaf := by
  intro scene grammar diary
  have grown : ((Scene.orchard : Scene Float).addNode "bud" (some 1)).2.WellFormed :=
    Scene.orchard_wellFormed.addNode "bud" (Scene.live_some ⟨_, rfl⟩)
  have wellFormed : scene.WellFormed :=
    (Scene.sameLinks_modifyNode (by simp) (by simp) _ _).wellFormed grown
  have leaves : Diary.leaves diary.2.1.entries = [7, 5] := by decide +kernel
  obtain ⟨-, told⟩ := generate_directives {} grammar 2 scene ({ uniforms := #[] } : Random.Scripted)
    wellFormed
  exact ⟨wellFormed, leaves, told⟩

end Derivation

end SceneGrammar
