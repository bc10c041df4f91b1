import SceneGrammar.Proofs.Derivation.Balance
import SceneGrammar.Proofs.Derivation.Cut
import SceneGrammar.Proofs.Derivation.Whole
import SceneGrammar.Proofs.Scene.Search
import SceneGrammar.Proofs.Scene.Watched

/-!
# Runs end

Nothing in a run goes on without end. Instances nest one level deeper than the settings allow and no
further, with at most one definition being expanded for each of them: that is what a run reports, and
its reports are never out of date (`generate_log`). Each form that the scene goes through is a forest,
in which every search ends.
-/

namespace SceneGrammar

namespace Event

variable {α : Type} {most : Nat} {level : Nat × Nat} {told : List (Event α)}

/-- What an event says of the instances and the definitions that a run is in is true of so many. -/
def Agrees (level : Nat × Nat) : Event α → Prop
  | .rule depth _ _ _ captures => depth = level.1 ∧ captures.length = level.2
  | .level depth frames => depth = level.1 ∧ frames = level.2
  | .placed _ frames => frames = level.2
  | .exported _ _ frames => frames = level.2
  | _ => True

/-- What a run reports that is never inside more than `most` instances, nor inside more definitions than
instances, and all whose reports agree with where it said to be last. -/
inductive Log (most : Nat) : Nat × Nat → List (Event α) → Prop where
  | start : Log most (0, 0) []
  | change {level told depth frames} (earlier : Log most level told) (hd : depth ≤ most)
      (hf : frames ≤ depth) : Log most (depth, frames) (.level depth frames :: told)
  | report {level told e} (earlier : Log most level told) (he : Agrees level e) :
      Log most level (e :: told)

/-- What an event may say of such a run. -/
def Within (most : Nat) : Event α → Prop
  | .rule depth _ _ _ captures => depth ≤ most ∧ captures.length ≤ depth
  | .level depth frames => depth ≤ most ∧ frames ≤ depth
  | .placed _ frames => frames ≤ most
  | .exported _ _ frames => frames ≤ most
  | _ => True

/-- Where a run says to be is within the bounds. -/
lemma Log.bounds (h : Log most level told) : level.1 ≤ most ∧ level.2 ≤ level.1 := by
  induction h with
  | start => exact ⟨Nat.zero_le _, Nat.le_refl _⟩
  | change _ hd hf _ => exact ⟨hd, hf⟩
  | report _ _ ih => exact ih

/-- Agreeing with a level within bounds is being within bounds. -/
lemma Agrees.within {e : Event α} (he : e.Agrees level) (hl : level.1 ≤ most ∧ level.2 ≤ level.1) :
    e.Within most := by
  obtain ⟨depth, frames⟩ := level
  have hf : frames ≤ most := Nat.le_trans hl.2 hl.1
  cases e with
  | rule d r cursor scopes captures =>
    obtain ⟨rfl, rfl⟩ := he
    exact hl
  | level d f =>
    obtain ⟨rfl, rfl⟩ := he
    exact hl
  | placed n f =>
    cases he
    exact hf
  | exported name link f =>
    cases he
    exact hf
  | _ => trivial

/-- Nothing in a log is out of bounds. -/
lemma Log.within (h : Log most level told) : ∀ e ∈ told, e.Within most := by
  induction h with
  | start => exact fun e he => nomatch he
  | change _ hd hf ih =>
    intro e he
    cases List.mem_cons.mp he with
    | inl he => exact he ▸ ⟨hd, hf⟩
    | inr he => exact ih e he
  | report earlier he ih =>
    intro e hmem
    cases List.mem_cons.mp hmem with
    | inl e' => exact e' ▸ he.within earlier.bounds
    | inr hmem => exact ih e hmem

end Event

namespace Derivation

variable {σ ρ α : Type} {most : Nat} {s t u v : State (Watched σ α) ρ α}

/-- A run whose reports are within bounds and up to date. -/
def Nests (most : Nat) (s : State (Watched σ α) ρ α) : Prop :=
  Event.Log most (s.depth, s.captures.length) s.scene.told

/-- A balanced step that keeps the reports so. -/
structure Stays (most : Nat) (s t : State (Watched σ α) ρ α) : Prop extends Balanced s t where
  nests : Nests most s → Nests most t

/-- A balanced step leaves as many definitions being expanded as before. -/
lemma Balanced.frames (h : Balanced s t) : t.captures.length = s.captures.length :=
  h.captures.frames.length_eq.symm

/-- Reports are up to date after a balanced step if they agree with where the run was before it. -/
lemma nests_iff (h : Balanced s t) :
    Nests most t ↔ Event.Log most (s.depth, s.captures.length) t.scene.told := by
  unfold Nests
  rw [h.depth, h.frames]

/-- A balanced step that reports nothing. -/
lemma Stays.of_silent (h : Balanced s t) (e : t.scene = s.scene) : Stays most s t :=
  ⟨h, fun hs => (nests_iff h).mpr (e ▸ hs)⟩

/-- Parts of a run that stay within the bounds do so one after the other. -/
lemma Stays.trans (h : Stays most s t) (k : Stays most t u) : Stays most s u :=
  ⟨h.toBalanced.trans k.toBalanced, fun hs => k.nests (h.nests hs)⟩

/-! ## Every rule keeps the reports -/

/-- A balanced request tells no events. -/
lemma stays_request {β : Type} {act : Edit (Watched σ α) β}
    (hb : Quiet Balanced (request act : Action (Watched σ α) ρ α β))
    (ht : ∀ level, Quiet
      (fun s t => Event.Log most level s.scene.told → Event.Log most level t.scene.told)
      (request act : Action (Watched σ α) ρ α β)) :
    Quiet (Stays most) (request act : Action (Watched σ α) ρ α β) := by
  intro s
  refine ((hb s).and (ht (s.depth, s.captures.length) s)).imp ?_ ?_
  · exact fun _ _ h => ⟨h.1, fun hs => (nests_iff h.1).mpr (h.2 hs)⟩
  · exact fun _ _ h => ⟨h.1, fun hs => (nests_iff h.1).mpr (h.2 hs)⟩

/-- An event that shows a run agrees with where the run is. -/
lemma agrees_of_shows {e : Event α} (he : s.Shows e) : e.Agrees (s.depth, s.captures.length) := by
  cases e with
  | rule depth r cursor scopes captures =>
    obtain ⟨rfl, -, -, rfl⟩ := he
    exact ⟨rfl, rfl⟩
  | _ => exact he

variable [Host σ α]

/-- Reports that were up to date before a balanced step are so again once its level is reported. -/
lemma Nests.atLevel {level : Nat × Nat} (hs : Nests most s) (h : Balanced s t.atLevel)
    (ht : Event.Log most level t.scene.told) : Nests most t.atLevel := by
  have hb : s.depth ≤ most ∧ s.captures.length ≤ s.depth := hs.bounds
  rw [← h.depth, ← h.frames] at hb
  exact .change ht hb.1 hb.2

/-- An instance nests one level deeper, if it is placed at all. -/
lemma Nests.descend (hs : Nests (most + 1) s) (hd : s.depth ≤ most) :
    Nests (most + 1) s.descend.atLevel :=
  .change hs (Nat.succ_le_succ hd) (Nat.le_succ_of_le hs.bounds.2)

/-- Requests and preparations stay within the bounds. -/
lemma stays_serves (most : Nat) :
    Serves (Stays most : State (Watched σ α) ρ α → State (Watched σ α) ρ α → Prop) := by
  have told := fun level => Watched.told_lasts (σ := σ) (Event.Log (α := α) most level)
  exact {
    refl := fun _ => .of_silent (.of_eq rfl rfl rfl) rfl
    trans := fun h k => h.trans k
    note := fun he => ⟨.of_eq rfl rfl rfl, fun hs => .report hs (agrees_of_shows he)⟩
    book := fun _ _ _ _ _ _ _ => .of_silent (.of_eq rfl rfl rfl) rfl
    offer := fun ha => stays_request (balanced_serves.offer ha)
      fun level => request_keeps ((told level).offer ha)
    moveAll := fun n origin target => stays_request (balanced_serves.moveAll n origin target)
      fun level => request_keeps ((told level).moveAll n origin target)
    addGenerated := fun _ _ => .of_silent (.of_eq rfl rfl rfl) rfl }

variable [Scalar α] [RandomSource ρ]

/-- Rules stay within one instance more than the settings allow. -/
lemma stays_conduct (settings : Settings) :
    Conduct settings (fun _ => (Stays (settings.maxDepth.toNat + 1) :
      State (Watched σ α) ρ α → State (Watched σ α) ρ α → Prop)) := by
  have b := balanced_conduct (σ := Watched σ α) (ρ := ρ) settings
  refine (stays_serves _).conduct (fun _ _ => .of_silent (.of_eq rfl rfl rfl) rfl)
    (fun _ _ => .of_silent (.addPlaced _ _) rfl)
    (fun s name link => .of_silent (.publish s name link) (s.scene_publish name link)) ?_ ?_ ?_
  · intro s t h
    have hb := h.toBalanced.popScope.1
    refine ⟨hb, fun hs => (nests_iff hb).mpr ?_⟩
    rw [t.scene_popScope]
    exact (nests_iff h.toBalanced).mp (h.nests hs)
  · intro s t hd h
    have hb : Balanced s t.ascend.atLevel := b.descend (o := none) hd h.toBalanced
    exact ⟨hb, fun hs => hs.atLevel hb (h.nests (hs.descend hd))⟩
  · intro s t u v hd h k l
    have hb : Balanced s v.ascend.atLevel :=
      b.expand (o := none) hd h.toBalanced k.toBalanced l.toBalanced
    have hclose := (t.openCapture.balanced_atLevel.trans k.toBalanced).closeCapture.trans
      u.closeCapture.balanced_atLevel
    refine ⟨hb, fun hs => ?_⟩
    have ht := h.nests (hs.descend hd)
    have hu : Nests (settings.maxDepth.toNat + 1) u := by
      refine k.nests (.change ht ht.bounds.1 ?_)
      -- The instance is one more around the run, and the definition is the only one in it.
      have hframes : t.captures.length = s.captures.length := h.toBalanced.frames
      have hdepth : t.depth = s.depth + 1 := h.depth
      have hf : s.captures.length ≤ s.depth := hs.bounds.2
      show t.captures.length + 1 ≤ t.depth
      omega
    rw [Nests, ← u.scene_closeCapture] at hu
    exact hs.atLevel hb (l.nests (ht.atLevel hclose hu))

/-- The reports of a watched run are within bounds and never out of date, and it ends outside of all
instances and definitions. -/
lemma generate_log (settings : Settings) (grammar : Grammar) (start : NodeId) (host : σ)
    (random : ρ) :
    Event.Log (settings.maxDepth.toNat + 1) (0, 0)
      (generate settings grammar start ({ host } : Watched σ α) random).2.1.told := by
  have hc := stays_conduct (σ := σ) (ρ := ρ) settings
  have told := Watched.told_lasts (σ := σ) (Event.Log (α := α) (settings.maxDepth.toNat + 1) (0, 0))
  refine hc.generateIn_keeps (hc.placeWithin _)
    (P := fun w => Event.Log (settings.maxDepth.toNat + 1) (0, 0) w.told) ?_
    (told.offer (.world start)) ?_ grammar .start
  · exact fun n => Watched.told_request (Event.Log _ _) (Host.remove n)
  · intro fresh world w o t hw ht
    exact (nests_iff ht.toBalanced).mp (ht.nests hw)

/-- A watched run on a forest holds forests only. -/
lemma generate_wellFormed (settings : Settings) (grammar : Grammar) (start : NodeId)
    {scene : Scene α} (h : scene.WellFormed) (random : ρ) :
    ∀ s ∈ (generate settings grammar start ({ host := scene } : Watched (Scene α) α) random).2.1.held,
      s.WellFormed := by
  have keeps := Watched.always_keeps (Scene.wellFormed_keeps (α := α))
  have hc := keeps_conduct (ρ := ρ) keeps settings
  refine Watched.Always.past (hc.generateIn_keeps (hc.placeWithin _) ?_ ?_ ?_ grammar (.start h))
  · exact fun n => Watched.Always.request fun s hs => Scene.wellFormed_remove hs n
  · exact keeps.offer (.world start)
  · exact fun _ _ _ _ _ hs ht => ht hs

/-- A run ends: it nests one instance more than the settings allow and expands at most one definition for
each, and no search through its scene is cut off. -/
theorem generate_ends (settings : Settings) (grammar : Grammar) (start : NodeId) (scene : Scene α)
    (random : ρ) (h : scene.WellFormed) :
    -- What would be placed below the last level is of no consequence.
    (∀ (beyond : String → Action (Scene α) ρ α Unit) (levels : Nat),
      settings.maxDepth.toNat + 2 ≤ levels →
        generateIn ⟨settings, (placeInstance settings)^[levels] beyond⟩ grammar start scene random =
          generate settings grammar start scene random) ∧
      let watched := generate settings grammar start ({ host := scene } : Watched (Scene α) α) random
      generate settings grammar start scene random = (watched.1, watched.2.1.host, watched.2.2) ∧
        -- Where a run is gets reported whenever that changes, and no report disagrees.
        Event.Log (settings.maxDepth.toNat + 1) (0, 0) watched.2.1.told ∧
        (∀ e ∈ watched.2.1.told, e.Within (settings.maxDepth.toNat + 1)) ∧
        ∀ s ∈ watched.2.1.held, s.Searchable := by
  refine ⟨?_, ?_, ?_, ?_, ?_⟩
  · intro beyond levels hl
    exact generateIn_cut beyond hl grammar start scene random
  · exact generate_view Watched.view settings grammar start { host := scene } random
  · exact generate_log settings grammar start scene random
  · exact (generate_log settings grammar start scene random).within
  · intro s hs
    exact (generate_wellFormed settings grammar start h random s hs).searchable

/-- A definition in the orchard that places itself, with a fault in the place of the level after the
last one. -/
theorem generate_ends_orchard :
    let grammar : Grammar := [.define "row" [.place (.literal (.str "row"))],
      .place (.literal (.str "row"))]
    let orchard : Scene Float := Scene.orchard
    let beyond : String → Action (Scene Float) Random.Stream Float Unit := fun _ => reject .noEntries
    let watched := generate {} grammar 2 ({ host := orchard } : Watched (Scene Float) Float)
      (Random.Stream.ofSeed 0)
    orchard.WellFormed ∧ Event.Log 11 (0, 0) watched.2.1.told ∧
      generateIn ⟨{}, (placeInstance {})^[12] beyond⟩ grammar 2 orchard (Random.Stream.ofSeed 0) =
        generate {} grammar 2 orchard (Random.Stream.ofSeed 0) := by
  intro grammar orchard beyond watched
  have h := generate_ends {} grammar 2 orchard (Random.Stream.ofSeed 0) Scene.orchard_wellFormed
  exact ⟨Scene.orchard_wellFormed, h.2.2.1, h.1 beyond 12 (by decide)⟩

end Derivation

end SceneGrammar
