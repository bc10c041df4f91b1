import SceneGrammar.Proofs.Scene.Refusal

/-!
# What changes make of a scene

A scene is made from the empty one by changes, some of which it refuses, and some of these only after a
part of them was done. Whatever the changes are, the scene is a forest after each of them, as long as no
node is added below a node that is not there (`applyAll_forest`).
-/

namespace SceneGrammar

/-- A change that a scene offers, with its arguments. -/
inductive Change (α : Type) where
  | addCollection (name : String)
  | addNode (name : String) (parent : Option NodeId)
  | addTemplate (collection name : String)
  | tag (n : NodeId) (key : String) (value : Literal)
  | setFrame (n : NodeId) (frame : Matrix4 α)
  | setProperty (n : NodeId) (key : String) (value : Literal)
  | setWorld (n : NodeId) (world : Matrix4 α)
  | duplicate (n : NodeId)
  | reparent (n parent : NodeId)
  | moveTo (n : NodeId) (origin target : Option String)
  | moveAll (n : NodeId) (origin target : Option String)
  | flip (n : NodeId)
  | bake (n : NodeId)
  | addMarker (world : Matrix4 α) (parent : NodeId)
  | remove (n : NodeId)

variable {α : Type} [Scalar α]

/-- What a change leaves of a scene, whether it was refused or not. -/
def Change.apply (s : Scene α) : Change α → Scene α
  | .addCollection name => s.addCollection name
  | .addNode name parent => (s.addNode name parent).2
  | .addTemplate collection name => (s.addTemplate collection name).2
  | .tag n key value => s.tag n key value
  | .setFrame n frame => s.setFrame n frame
  | .setProperty n key value => after (Scene.setProperty n key value) s
  | .setWorld n world => after (Scene.setWorld n world) s
  | .duplicate n => after (Scene.duplicate n) s
  | .reparent n parent => after (Scene.reparent n parent) s
  | .moveTo n origin target => after (Scene.moveTo n origin target) s
  | .moveAll n origin target => after (Host.moveAll n origin target) s
  | .flip n => after (Scene.flip n) s
  | .bake n => after (Scene.bake n) s
  | .addMarker world parent => after (Scene.addMarker world parent) s
  | .remove n => after (Scene.remove n) s

/-- A node is added below nodes that are there. -/
def Change.Allowed (s : Scene α) : Change α → Prop
  | .addNode _ parent => ∀ p, parent = some p → s.Live p
  | _ => True

namespace Scene

/-- What changes leave of a scene, one after the other. -/
def applyAll (s : Scene α) : List (Change α) → Scene α
  | [] => s
  | c :: cs => applyAll (c.apply s) cs

/-- Each change is allowed when its turn comes. -/
def AllowedAll (s : Scene α) : List (Change α) → Prop
  | [] => True
  | c :: cs => c.Allowed s ∧ AllowedAll (c.apply s) cs

variable {s : Scene α} {n : NodeId}

instance (s : Scene α) : DecidablePred s.Live := fun _ => decidable_of_iff _ live_iff.symm

instance (s : Scene α) : (c : Change α) → Decidable (c.Allowed s)
  | .addNode _ (some p) =>
    decidable_of_iff (s.Live p) ⟨fun h _ e => Option.some.inj e ▸ h, fun h => h p rfl⟩
  | .addNode _ none => isTrue nofun
  | .addCollection _ | .addTemplate _ _ | .tag _ _ _ | .setFrame _ _ | .setProperty _ _ _
  | .setWorld _ _ | .duplicate _ | .reparent _ _ | .moveTo _ _ _ | .moveAll _ _ _ | .flip _
  | .bake _ | .addMarker _ _ | .remove _ => isTrue trivial

instance decidableAllowedAll (s : Scene α) : (cs : List (Change α)) → Decidable (s.AllowedAll cs)
  | [] => isTrue trivial
  | c :: cs =>
    have := decidableAllowedAll (c.apply s) cs
    inferInstanceAs (Decidable (c.Allowed s ∧ (c.apply s).AllowedAll cs))

/-- A change keeps a forest. -/
lemma WellFormed.apply (hs : s.WellFormed) (c : Change α) (hc : c.Allowed s) :
    (c.apply s).WellFormed := by
  have keeps : Host.Keeps (WellFormed : Scene α → Prop) := wellFormed_keeps
  cases c with
  | addCollection name => exact hs.addCollection name
  | addNode name parent => exact hs.addNode name hc
  | addTemplate collection name => exact hs.addTemplate collection name
  | tag n key value => exact (sameLinks_modifyNode (by simp) (by simp) s n).wellFormed hs
  | setFrame n frame => exact hs.setFrame n frame
  | setProperty n key value => exact (keeps.offer (.setProperty n key value) s hs).after
  | setWorld n world => exact (keeps.offer (.setWorld n world) s hs).after
  | duplicate n => exact (keeps.offer (.duplicate n) s hs).after
  | reparent n parent => exact (keeps.offer (.reparent n parent) s hs).after
  | moveTo n origin target => exact (keeps.offer (.moveTo n origin target) s hs).after
  | moveAll n origin target => exact (keeps.moveAll n origin target s hs).after
  | flip n => exact (keeps.offer (.flip n) s hs).after
  | bake n => exact (keeps.offer (.bake n) s hs).after
  | addMarker world parent => exact (keeps.offer (.addMarker world parent) s hs).after
  | remove n => exact (wellFormed_remove hs n).after

/-- So do changes one after the other. -/
lemma WellFormed.applyAll (hs : s.WellFormed) (cs : List (Change α)) (hcs : s.AllowedAll cs) :
    (s.applyAll cs).WellFormed := by
  induction cs generalizing s with
  | nil => exact hs
  | cons c cs ih =>
    obtain ⟨hc, hcs⟩ := hcs
    exact ih (hs.apply c hc) hcs

/-- The nodes of a forest are those that have a place in the world. -/
lemma WellFormed.world_ok_iff (hs : s.WellFormed) :
    (∃ world, Scene.world n s = .ok world s) ↔ s.Live n := by
  constructor
  · rintro ⟨world, e⟩
    cases place : s.worldOf n with
    | ok w => exact live_of_worldOf place
    | error f => simp [Scene.world, ask, place] at e
  · intro hn
    obtain ⟨world, -, e⟩ := hs.world_ok hn
    exact ⟨world, e⟩

/-- Whatever is made of the empty scene is a forest: parents and children agree, no node is above itself,
and the nodes are what has a place in the world. -/
theorem applyAll_forest (cs : List (Change α)) (hcs : AllowedAll empty cs) :
    let s : Scene α := applyAll empty cs
    (∀ n p, s.parent? n = some p → s.Live p ∧ (s.children p).count n = 1) ∧
      (∀ p n, n ∈ s.children p → s.Live n ∧ s.parent? n = some p) ∧
      (∀ p, (s.children p).Nodup) ∧
      (∀ n, ¬ Relation.TransGen s.ParentOf n n) ∧
      -- Numbers are given from one on.
      (∀ n, s.Live n → 1 ≤ n ∧ n ≤ s.lastId) ∧
      ∀ n, (∃ world, Scene.world n s = .ok world s) ↔ s.Live n := by
  intro s
  have hs : s.WellFormed := wellFormed_empty.applyAll cs hcs
  refine ⟨?parent, ?child, hs.nodup, hs.acyclic, ?number, ?place⟩
  case parent =>
    intro n p e
    exact ⟨hs.live_parent e, List.count_eq_one_of_mem (hs.nodup p) (hs.listed e)⟩
  case child =>
    intro p n hn
    exact ⟨hs.live_child hn, hs.named hn⟩
  case number =>
    intro n hn
    exact ⟨hn.pos, hn.le_lastId⟩
  case place =>
    intro n
    exact hs.world_ok_iff

/-- A copy refuses its root as a child, a marker that cannot be placed is left at a root without extent, and
a node comes below it once the copy is gone. -/
theorem applyAll_forest_orchard :
    let cs : List (Change Float) := [.addTemplate "trees" "oak", .addNode "leaf" (some 1),
      .addNode "root" none, .duplicate 1, .reparent 4 3, .reparent 3 5,
      .setFrame 3 (Matrix4.scaling ⟨0, 0, 0⟩), .addMarker 1 3, .remove 4, .addNode "late" (some 6)]
    let s : Scene Float := applyAll empty cs
    AllowedAll empty cs ∧ s.children 3 = [6] ∧ s.parent? 7 = some 6 ∧
      ∃ world, Scene.world 7 s = .ok world s := by
  intro cs s
  have live : ∀ {t : Scene Float} {m : NodeId}, (t.node? m).isSome = true →
      ∀ p, some m = some p → t.Live p := fun h p e => Option.some.inj e ▸ live_iff.mpr h
  have hcs : AllowedAll empty cs := by
    refine ⟨trivial, live (by decide +kernel), nofun, trivial, trivial, trivial, trivial, trivial,
      trivial, live (by decide +kernel), trivial⟩
  obtain ⟨parent, -, -, -, -, place⟩ := applyAll_forest cs hcs
  have e : s.parent? 7 = some 6 := by decide +kernel
  exact ⟨hcs, by decide +kernel, e, (place 7).mpr (live_of_parent? e)⟩

end Scene

end SceneGrammar
