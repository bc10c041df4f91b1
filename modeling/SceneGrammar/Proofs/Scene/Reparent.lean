import SceneGrammar.Proofs.Geometry.Exact
import SceneGrammar.Proofs.Scene.Halfway

/-!
# Moving nodes without moving them

A node that is put under another one gets the frame that is left of its place after the place of its new
parent. Without rounding, and with affine frames, that puts it back where it was, and so what is below it
stays where it was too: `reparent_keeps_places`.
-/

namespace SceneGrammar.Scene

variable {α : Type} {s : Scene α} {n p : NodeId}

/-- All frames are affine. -/
def Affine [Scalar α] (s : Scene α) : Prop := ∀ n node, s.node? n = some node → node.frame.Affine

section
variable [Scalar α]

/-- Only the frames in slots count. -/
lemma affine_iff : s.Affine ↔ ∀ slot ∈ s.slots.toList, ∀ node ∈ slot, node.frame.Affine := by
  constructor
  · intro h slot mem node e
    obtain ⟨i, found⟩ := Array.mem_iff_getElem?.mp (Array.mem_toList_iff.mp mem)
    exact h (i + 1) node (by rw [node?, found]; exact e)
  · intro h n node e
    cases n with
    | zero => cases e
    | succ i =>
      have mem := Array.mem_of_getElem? (Option.join_eq_some_iff.mp e)
      exact h _ (Array.mem_toList_iff.mpr mem) node rfl

instance [DecidableEq α] (s : Scene α) : Decidable s.Affine := decidable_of_iff _ affine_iff.symm

lemma affine_empty : (empty : Scene α).Affine := by
  intro n node e
  cases n <;> cases e

/-- A change of a node that leaves its frame affine. -/
lemma Affine.modifyNode (h : s.Affine) {f : Node α → Node α}
    (hf : ∀ node, node.frame.Affine → (f node).frame.Affine) (n : NodeId) :
    (s.modifyNode n f).Affine := by
  intro m node e
  rw [node?_modifyNode] at e
  split at e
  · obtain ⟨old, e', rfl⟩ := Option.map_eq_some_iff.mp e
    exact hf old (h m old e')
  · exact h m node e

/-- Frames stay affine when a node is added. -/
lemma Affine.addNode (h : s.Affine) (name : String) (parent : Option NodeId) :
    (s.addNode name parent).2.Affine := by
  have pushed : (s.pushNode { Node.new name with
      parent := parent, container := parent.bind s.container? }).Affine := by
    intro m node e
    rw [node?_pushNode] at e
    split at e
    · exact Option.some.inj e ▸ Matrix4.affine_one
    · exact h m node e
  unfold Scene.addNode
  cases parent with
  | none => exact pushed
  | some p =>
    dsimp only
    split
    · refine pushed.modifyNode ?_ p
      exact fun _ => id
    · exact pushed

/-- Moving a node under itself or what is below it is refused. -/
lemma reparent_cycle (hs : s.WellFormed) (hp : s.Live p) (hu : s.Under p n) :
    reparent n p s = .error (.cycle n p) s := by
  obtain ⟨pnode, ep⟩ := hp
  apply Ends.eq
  unfold reparent
  apply Ends.bind
  refine Ends.of_ok (get_eq ep) ?_
  apply Ends.get
  rw [if_pos (hs.isAncestor_iff.mpr hu)]
  exact Ends.bind (Ends.throw rfl)

/-- Moving a node anywhere else ends as placing it there does. -/
lemma reparent_apart (hs : s.WellFormed) (hn : s.Live n) (hp : s.Live p) (apart : ¬ s.Under p n)
    {w w' : Matrix4 α} (hw : s.worldOf p = .ok w) (hw' : s.worldOf n = .ok w') :
    reparent n p s = match w.inverse? with
      | some v => .ok () ((s.relink n p).setFrame n (v * w'))
      | none => .error (.singularParent n) (s.relink n p) := by
  have parent : (s.relink n p).parent? n = some p := by
    rw [parent?_relink hn, if_pos rfl]
  have kept : (s.relink n p).worldOf p = .ok w :=
    worldOf_apart (Nat.le_of_eq (lastId_relink s n p).symm) (fun m => pose?_relink s n p) apart hw
  refine Eq.trans ?_ (setWorld_under parent kept w')
  apply Ends.eq
  refine reparent_placed hs hn hp apart fun w'' e => ?_
  obtain rfl := Except.ok.inj (hw'.symm.trans e)
  exact Ends.itself

end

variable [ExactScalar α]

/-- Affine frames one after the other lead to an affine place. -/
lemma WellFormed.affine_worldOf (hs : s.WellFormed) (affine : s.Affine) {w : Matrix4 α}
    (e : s.worldOf n = .ok w) : w.Affine := by
  induction n using hs.downwards generalizing w with
  | step n ih =>
    obtain ⟨node, hn⟩ := live_of_worldOf e
    rw [hs.worldOf_eq hn] at e
    unfold parentWorldOf at e
    cases hp : node.parent with
    | none =>
      rw [hp] at e
      obtain rfl := Except.ok.inj e
      exact Matrix4.affine_one.mul (affine n node hn)
    | some p =>
      rw [hp] at e
      dsimp only at e
      cases hw : s.worldOf p with
      | error f =>
        rw [hw] at e
        cases e
      | ok v =>
        rw [hw] at e
        obtain rfl := Except.ok.inj e
        exact (ih p ((parent?_eq hn).trans hp) hw).mul (affine n node hn)

/-- A node that has been put under another one is where it was, and so is what is below it. -/
lemma WellFormed.worldOf_replaced (hs : s.WellFormed) (affine : s.Affine) (hn : s.Live n)
    (hp : s.Live p) (apart : ¬ s.Under p n) {v w w' : Matrix4 α} (hw : s.worldOf p = .ok w)
    (hw' : s.worldOf n = .ok w') (inverse : w.inverse? = some v) (m : NodeId) :
    ((s.relink n p).setFrame n (v * w')).worldOf m = s.worldOf m := by
  have ht : ((s.relink n p).setFrame n (v * w')).WellFormed := (hs.relink hn hp apart).setFrame n _
  have links := sameLinks_setFrame (s.relink n p) n (v * w')
  have pose : ∀ m, m ≠ n → ((s.relink n p).setFrame n (v * w')).pose? m = s.pose? m := by
    intro m hm
    rw [← pose?_relink s n p hm]
    unfold pose? Scene.setFrame
    rw [node?_modifyNode, if_neg (Ne.symm hm)]
  have place : ((s.relink n p).setFrame n (v * w')).worldOf n = s.worldOf n := by
    obtain ⟨node, e⟩ : (s.relink n p).Live n := (live_relink s n p n).mpr hn
    have placed : ((s.relink n p).setFrame n (v * w')).node? n =
        some { node with frame := v * w' } := by
      rw [Scene.setFrame, node?_modifyNode, if_pos rfl, e]
      rfl
    have parent : node.parent = some p := by
      rw [← parent?_eq e, parent?_relink hn, if_pos rfl]
    have kept : ((s.relink n p).setFrame n (v * w')).worldOf p = .ok w :=
      worldOf_apart (by rw [links.lastId, lastId_relink]) pose apart hw
    have back : w * (v * w') = w' := by
      rw [← mul_assoc, (hs.affine_worldOf affine hw).mul_inverse inverse, one_mul]
    rw [ht.worldOf_eq placed, hw', parentWorldOf, parent]
    dsimp only
    rw [kept, Except.map, back]
  by_cases hm : s.Live m
  · refine hs.worldOf_image ht (f := id) (S := s.Live) (fun m hm => ?_) hm
    by_cases hmn : m = n
    · exact .inl (hmn ▸ place)
    · obtain ⟨node, e⟩ := hm
      have same := pose m hmn
      unfold pose? at same
      rw [e] at same
      obtain ⟨node', e', pair⟩ := Option.map_eq_some_iff.mp same
      obtain ⟨parent, frame⟩ := Prod.mk.inj pair
      refine .inr ⟨node, node', e, e', frame, by simp [parent], fun p hp => ?_⟩
      exact hs.live_parent ((parent?_eq e).trans hp)
  · rw [worldOf_unknown hm, worldOf_unknown (by rwa [links.live, live_relink])]

/-- Without rounding, a node of a scene with affine frames may hang under another one unless that closes a
cycle or has a negligible determinant, and no node changes its place in the world. -/
theorem reparent_keeps_places (hs : s.WellFormed) (affine : s.Affine) (hn : s.Live n) (hp : s.Live p) :
    ((∃ t, reparent n p s = .error (.cycle n p) t) ↔ s.Under p n) ∧
    (¬ s.Under p n → ((∃ t, reparent n p s = .ok () t) ↔
      ∃ w, s.worldOf p = .ok w ∧ 1 / 2 ^ 52 ≤ |w.det|)) ∧
    ∀ t, reparent n p s = .ok () t →
      -- It stands last there and nowhere else, and all other links are as they were.
      t.children p = (s.children p).filter (· ≠ n) ++ [n] ∧
      (∀ q, q ≠ p → t.children q = (s.children q).filter (· ≠ n)) ∧
      (∀ m, t.parent? m = if m = n then some p else s.parent? m) ∧
      (∀ m, t.Live m ↔ s.Live m) ∧
      ∀ m, t.worldOf m = s.worldOf m := by
  obtain ⟨w, hw⟩ := hs.worldOf_ok hp
  obtain ⟨w', hw'⟩ := hs.worldOf_ok hn
  by_cases under : s.Under p n
  · have run := reparent_cycle hs hp under
    refine ⟨⟨fun _ => under, fun _ => ⟨s, run⟩⟩, fun apart => absurd under apart, fun t e => ?_⟩
    rw [run] at e
    cases e
  · have run := reparent_apart hs hn hp under hw hw'
    have roomy : (∃ w, s.worldOf p = .ok w ∧ 1 / 2 ^ 52 ≤ |w.det|) ↔ ∃ v, w.inverse? = some v := by
      rw [hw, Matrix4.exists_inverse?_iff]
      simp only [Except.ok.injEq, exists_eq_left']
    rw [roomy]
    cases inverse : w.inverse? with
    | none =>
      rw [inverse] at run
      simp [run, under, SceneFault.singularParent]
    | some v =>
      rw [inverse] at run
      refine ⟨by simp [run, under], fun _ => ⟨fun _ => ⟨v, rfl⟩, fun _ => ⟨_, run⟩⟩, fun t e => ?moved⟩
      case moved =>
        rw [run] at e
        cases e
        have links := sameLinks_setFrame (s.relink n p) n (v * w')
        refine ⟨?last, fun q hq => ?others, fun m => ?parents, fun m => ?live,
          hs.worldOf_replaced affine hn hp under hw hw' inverse⟩
        case last =>
          rw [links.children, hs.children_relink hp, if_pos rfl]
        case others =>
          rw [links.children, hs.children_relink hp, if_neg hq, List.append_nil]
        case parents =>
          rw [links.parent?, parent?_relink hn]
        case live =>
          rw [links.live, live_relink]

/-- A workshop with a table and a lamp that hangs from the ceiling. -/
noncomputable def workshop : Scene ℝ :=
  empty.applyAll [.addNode "floor" none, .addNode "table" (some 1), .addNode "lamp" (some 1),
    .addNode "bulb" (some 3), .setFrame 2 (Matrix4.shift Vec3.ones),
    .setFrame 3 (Matrix4.shift Vec3.ones)]

/-- The workshop is a forest. -/
lemma workshop_wellFormed : workshop.WellFormed := wellFormed_empty.applyAll _ (by decide)

/-- The frames of the workshop are affine. -/
lemma workshop_affine : workshop.Affine := by
  unfold workshop
  simp only [applyAll, Change.apply, Scene.setFrame]
  have bare : (empty : Scene ℝ).Affine := affine_empty
  have built := (((bare.addNode "floor" none).addNode "table" (some 1)).addNode "lamp"
    (some 1)).addNode "bulb" (some 3)
  exact (built.modifyNode (fun _ _ => Matrix4.affine_shift _) 2).modifyNode
    (fun _ _ => Matrix4.affine_shift _) 3

/-- The lamp is put on the table where it hangs. -/
theorem reparent_keeps_places_workshop :
    workshop.WellFormed ∧ workshop.Affine ∧ workshop.Live 3 ∧ workshop.Live 2 ∧ ¬ workshop.Under 2 3 ∧
      ∃ t, reparent 3 2 workshop = .ok () t ∧ t.children 2 = [3] ∧ t.children 1 = [2] ∧
        t.worldOf 4 = workshop.worldOf 4 := by
  have hn : workshop.Live 3 := by decide
  have hp : workshop.Live 2 := by decide
  have apart : ¬ workshop.Under 2 3 := by
    rw [← workshop_wellFormed.isAncestor_iff]
    decide
  have place : workshop.worldOf 2 = .ok (1 * 1 * Matrix4.shift Vec3.ones) := rfl
  have roomy : 1 / 2 ^ 52 ≤ |(1 * 1 * Matrix4.shift Vec3.ones : Matrix4 ℝ).det| := by
    have unit : (Matrix4.shift Vec3.ones : Matrix4 ℝ).det = 1 := by
      show (1 : ℝ) * (1 * 1 - 0 * 0) - 0 * (0 * 1 - 0 * 0) + 0 * (0 * 0 - 1 * 0) = 1
      norm_num
    rw [one_mul, one_mul, unit, abs_one]
    norm_num
  obtain ⟨-, moves, moved⟩ := reparent_keeps_places workshop_wellFormed workshop_affine hn hp
  obtain ⟨t, run⟩ := (moves apart).mpr ⟨_, place, roomy⟩
  obtain ⟨last, others, -, -, places⟩ := moved t run
  refine ⟨workshop_wellFormed, workshop_affine, hn, hp, apart, t, run, ?_, ?_, places 4⟩
  · exact last.trans (by decide)
  · exact (others 1 (by decide)).trans (by decide)

end SceneGrammar.Scene
