import SceneGrammar.Proofs.Derivation.Upright
import SceneGrammar.Random.Scripted

/-!
# Copies of the children of a neighbouring link

A rule that copies the children of a neighbouring link finds the first link of the name beside the link
at the cursor, or beside nothing else the link itself. The children that it has at that point land one
after the other (`copySibling_lands`): each copy names its child as its source, is in the collection of
the link with all below it, and is at the place of the cursor, or if it is mirrored, at the image of that
place under a reflection, with its normals turned over and its scale baked in.
-/

namespace SceneGrammar.Derivation

variable {ρ α : Type} [ExactScalar α]

/-- The neighbouring link is the first child of the name. -/
lemma childLink?_eq {settings : Settings} {scene : Scene α} {parent sibling : NodeId} {name : String}
    {before after : List NodeId} (children : scene.children parent = before ++ sibling :: after)
    (first : ∀ n ∈ before, linkName? settings scene n ≠ some name)
    (named : linkName? settings scene sibling = some name) :
    childLink? settings scene parent name = some sibling := by
  unfold childLink?
  rw [show Host.children scene parent = before ++ sibling :: after from children,
    List.find?_append, List.find?_eq_none.mpr (by simpa using first), List.find?_cons_of_pos]
  · rfl
  · simpa using named

variable [RandomSource ρ]

/-- On a forest of affine frames a run is upright at every rule, and wherever it is upright and at a link,
the children of a neighbouring link are copied to the cursor, each of them once, or nothing changes. -/
theorem copySibling_lands (settings : Settings) (grammar : Grammar) (start : NodeId)
    (scene : Scene α) (random : ρ) (hs : scene.WellFormed) (affine : scene.Affine)
    (hstart : scene.Live start) :
    Diary.Attests (Upright : State (Scene α) ρ α → Prop)
      (generate settings grammar start ({ host := scene } : Diary (Scene α) α) random).2.1 ∧
    ∀ (inner : String → Action (Scene α) ρ α Unit) (e : Expr Nat) (mirror : Option Axis)
      (s t : State (Scene α) ρ α) (place : LinkPlace α), Upright s → s.cursor = .link place →
      execute ⟨settings, inner⟩ (.copySibling e mirror) s = .ok () t →
      -- The name of the neighbour is drawn.
      ∃ name s₁, resolveAs .text "copy_parent_link_children" e s = .ok name s₁ ∧
        s₁ = { s with random := s₁.random, settled := s₁.settled } ∧
        -- No link beside the link has that name.
        ((∀ parent, s.scene.parent? place.node = some parent → ∀ n ∈ s.scene.children parent,
          linkName? settings s.scene n ≠ some name) → t = s₁) ∧
        -- The first link that has it is the neighbour, and its children are those it has at this point.
        ∀ parent before sibling after, s.scene.parent? place.node = some parent →
          s.scene.children parent = before ++ sibling :: after →
          (∀ n ∈ before, linkName? settings s.scene n ≠ some name) →
          linkName? settings s.scene sibling = some name →
          ∃ world copies, s.scene.worldOf place.node = .ok world ∧
            t = { s₁ with scene := t.scene, generated := t.generated } ∧
            t.generated.toList = s.generated.toList ++ copies ∧
            (s.scene.children sibling).Forall₂ (fun child copy => s.scene.lastId < copy ∧
              s.scene.Replica t.scene child copy place.node mirror.isSome) copies ∧
            copies.Pairwise (· < ·) ∧
            (∀ copy ∈ copies, ∃ w, t.scene.worldOf copy = .ok w ∧
              Reflected world place.composed mirror w) ∧
            (∀ n, s.scene.Live n → t.scene.children n =
              s.scene.children n ++ if n = place.node then copies else []) ∧
            s.scene.Extends t.scene := by
  refine ⟨generate_upright settings grammar start scene random ⟨hs, affine⟩ hstart, ?_⟩
  intro inner e mirror s t place up hcursor run
  simp only [execute, Bind.bind, EStateM.bind, requireLink_eq _ hcursor] at run
  cases hname : resolveAs .text "copy_parent_link_children" e s with
  | error f u =>
    rw [hname] at run
    cases run
  | ok name s₁ =>
    rw [hname] at run
    have drew := ((drew_drawing Scene.deaf).resolveAs .text _ e s).ok hname
    have same : s₁.scene = s.scene := by rw [drew.rest]
    have listed : s₁.generated = s.generated := by rw [drew.rest]
    refine ⟨name, s₁, rfl, drew.rest, fun none_named => ?none, ?some⟩
    case none =>
      have alone : ∀ parent, s₁.scene.parent? place.node = some parent →
          childLink? settings s₁.scene parent name = none := by
        intro parent hparent
        rw [same] at hparent ⊢
        exact List.find?_eq_none.mpr fun n hn => by simpa using none_named parent hparent n hn
      exact (EStateM.Result.ok.inj (run.symm.trans (copySiblings_none mirror alone))).2
    case some =>
      intro parent before sibling after hparent children first named
      have hsibling := childLink?_eq children first named
      have hworld := up.world hcursor
      have placed : s₁.scene.worldOf place.node = .ok place.world := same ▸ hworld
      have copying := copyingSiblings (same ▸ up.straight) placed (up.affine_composed hcursor) mirror
        (same.symm ▸ hparent) (same.symm ▸ hsibling)
      obtain ⟨rest, copies, generated, landed⟩ := copying.ok run
      rw [same] at landed
      rw [listed] at generated
      exact ⟨place.world, copies, hworld, rest, generated, landed.replicas, landed.ascending,
        landed.places, landed.children, landed.toExtends⟩

end SceneGrammar.Derivation

namespace SceneGrammar

/-- A gateway with a lantern at its left post, where every distance is rational. -/
def Scene.gateway : Scene ℚ :=
  empty.applyAll [.addNode "gateway" none, .addNode "left" (some 1), .addNode "right" (some 1),
    .addNode "lantern" (some 2), .addNode "flame" (some 4), .tag 2 "gen_link" (.str "left"),
    .setFrame 3 (Matrix4.shift Vec3.ones)]

/-- The gateway is a forest. -/
lemma Scene.gateway_wellFormed : gateway.WellFormed := wellFormed_empty.applyAll _ (by decide)

/-- The frames of the gateway are affine. -/
lemma Scene.gateway_affine : gateway.Affine := by decide +kernel

namespace Derivation

/-- The lantern is copied two steps beside the right post, and mirrored to the other side of it. -/
theorem copySibling_lands_gateway :
    let scene := Scene.gateway
    let post : Matrix4 ℚ := Matrix4.shift Vec3.ones
    let aside : Offset ℚ := { (1 : Offset ℚ) with location := ⟨2, 0, 0⟩ }
    let s : State (Scene ℚ) Random.Scripted ℚ :=
      { State.started { uniforms := #[] } 0 3 post scene with cursor := .link ⟨3, post, aside⟩ }
    scene.WellFormed ∧ scene.Affine ∧ scene.Live 3 ∧ Upright s ∧
      ∃ t, execute ⟨{}, fun _ => pure ()⟩ (.copySibling (.literal (.str "left")) (some .x)) s = .ok () t ∧
        t.generated.toList = [6] ∧ t.scene.children 3 = [6] ∧ t.scene.children 2 = [4] ∧
        t.scene.worldOf 6 =
          .ok { (1 : Matrix4 ℚ) with xx := -1, xw := -1, yw := 1, zw := 1 } := by
  intro scene post aside s
  have hs : scene.WellFormed := Scene.gateway_wellFormed
  have affine : scene.Affine := Scene.gateway_affine
  have hstart : scene.Live 3 := ⟨_, rfl⟩
  have hworld : scene.worldOf 3 = .ok post := by decide +kernel
  have entered := started_current hs hstart hworld ({ uniforms := #[] } : Random.Scripted) 0
  have up : Upright s := ⟨entered.adjust rfl _, affine⟩
  have runs : Ends (execute ⟨{}, fun _ => pure ()⟩ (.copySibling (.literal (.str "left")) (some .x))) s
      (fun _ t => t.generated.toList = [6]) (fun _ _ => False) := by decide +kernel
  obtain ⟨_, t, ht, generated⟩ := runs.exists_ok
  obtain ⟨-, copied⟩ := copySibling_lands {} [] 3 scene ({ uniforms := #[] } : Random.Scripted) hs
    affine hstart
  obtain ⟨name, s₁, hname, -, -, some⟩ := copied _ _ _ s t _ up rfl ht
  obtain rfl : "left" = name := (EStateM.Result.ok.inj hname).1
  obtain ⟨world, copies, hworld', -, listed, -, -, places, children, -⟩ :=
    some 1 [] 2 [3] rfl rfl (by simp) rfl
  obtain rfl : [6] = copies := by rw [← generated, listed]; rfl
  obtain rfl : post = world := Except.ok.inj (hworld.symm.trans hworld')
  obtain ⟨w, placed, back, inverse, rfl⟩ := places 6 List.mem_cons_self
  have undone : Matrix4.shift ⟨-1, -1, -1⟩ = back := by
    have undo : Matrix4.shift ⟨-1, -1, -1⟩ * post = 1 := by decide +kernel
    rw [← mul_one (Matrix4.shift _), ← inverse, ← mul_assoc, undo, one_mul]
  refine ⟨hs, affine, hstart, up, t, ht, generated, children 3 ⟨_, rfl⟩, children 2 ⟨_, rfl⟩, ?_⟩
  rw [placed, ← undone]
  decide +kernel

end Derivation

end SceneGrammar
