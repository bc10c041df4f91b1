import SceneGrammar.Proofs.Geometry.Affine
import SceneGrammar.Proofs.Geometry.Adjustment
import SceneGrammar.Proofs.Derivation.Atomic
import SceneGrammar.Random.Interchange

/-!
# Moves, turns and stretches in a row

Rules that change the offset at a link change nothing else. If their vectors are written out, the offset
depends on the changes of each channel and their order, but not on how the channels take turns
(`executeAll_commute`). However their vectors are drawn, the frame they lead to can be inverted just as
long as the factors have not made it too flat (`affine_frames`).
-/

namespace SceneGrammar

/-- The change that a rule makes whose vector is written out. -/
def Rule.adjustment? {ι α : Type} [Scalar α] : Rule ι → Option (Adjustment α)
  | .adjust channel (.literal v) absolute =>
    v.vector?.map fun v => ⟨channel, v.map Scalar.ofFloat, absolute⟩
  | _ => none

/-- A rule is a change of the offset if its vector is written out. -/
lemma Rule.adjustment?_eq_some {ι α : Type} [Scalar α] {r : Rule ι} {c : Adjustment α}
    (h : r.adjustment? = some c) : ∃ v vector, r = .adjust c.channel (.literal v) c.absolute ∧
      v.vector? = some vector ∧ c.vector = vector.map Scalar.ofFloat := by
  unfold Rule.adjustment? at h
  split at h
  · next channel v absolute =>
    obtain ⟨vector, hv, rfl⟩ := Option.map_eq_some_iff.mp h
    exact ⟨v, vector, rfl, hv, rfl⟩
  · cases h

/-- The rule that writes a change out. -/
def Adjustment.rule (c : Adjustment Float) : Rule Nat :=
  .adjust c.channel (.literal (.ofVector c.vector)) c.absolute

lemma Adjustment.adjustment?_rule (c : Adjustment Float) : c.rule.adjustment? = some c := rfl

namespace LinkPlace
variable {α : Type}

/-- A place at a link after changes of its offset. -/
def adjustAll [Scalar α] (p : LinkPlace α) (changes : List (Adjustment α)) : LinkPlace α :=
  { p with offset := p.offset.adjustAll changes }

/-- What is put at a link can be brought back as long as its factors have not made it too flat. -/
lemma exists_inverse?_iff [ExactScalar α] {p : LinkPlace α} (h : p.offset.rotation.Circular) :
    (∃ v, p.composed.inverse? = some v) ↔
      1 / 2 ^ 52 ≤ |p.world.det * (p.offset.scale.x * p.offset.scale.y * p.offset.scale.z)| := by
  rw [Matrix4.exists_inverse?_iff, composed, p.offset.affine_matrix.det_mul, Offset.det_matrix h]

end LinkPlace

namespace Derivation

variable {σ ρ α : Type} {place : LinkPlace α} {s : State σ ρ α}

/-- Changing the offset at a link. -/
lemma adjustOffset_eq [Scalar α] (hs : s.cursor = .link place) (channel : Channel) (v : Vec3 Float)
    (absolute : Bool) : adjustOffset channel v absolute s =
      .ok () { s with
        cursor := .link (place.adjustAll [⟨channel, v.map Scalar.ofFloat, absolute⟩]) } := by
  cases s
  cases hs
  rfl

section
variable [Scalar α] [Host σ α] [RandomSource ρ] (env : Surroundings σ ρ α)

/-- A rule with a vector that is written out changes its channel, and that is all. -/
lemma execute_adjustment (hs : s.cursor = .link place) {r : Rule Nat} {c : Adjustment α}
    (hr : r.adjustment? = some c) :
    execute env r s = .ok () { s with cursor := .link (place.adjustAll [c]) } := by
  obtain ⟨v, vector, rfl, hv, e⟩ := Rule.adjustment?_eq_some hr
  have drawn : resolveAs .vector (Rule.word (.adjust c.channel (.literal v) c.absolute : Rule Nat))
      (.literal v) = (pure vector : Action σ ρ α (Vec3 Float)) := by
    have e : Shape.vector.read? v = some vector := hv
    simp only [resolveAs, resolve, pure_bind, e]
  simp only [execute]
  rw [drawn]
  show EStateM.bind _ _ s = _
  unfold EStateM.bind
  rw [requireLink_eq _ hs]
  obtain ⟨channel, _, absolute⟩ := c
  obtain rfl := e
  exact adjustOffset_eq hs channel vector absolute

/-- Such rules one after the other lead to the place after their changes. -/
lemma executeAll_adjustments {rs : List (Rule Nat)} {changes : List (Adjustment α)}
    (hrs : rs.map Rule.adjustment? = changes.map some) (hs : s.cursor = .link place) :
    ∃ scene, executeAll env rs s =
        .ok () { s with scene, cursor := .link (place.adjustAll changes) } ∧
      (Host.Deaf σ → scene = s.scene) := by
  induction rs generalizing s place changes with
  | nil =>
    obtain rfl := List.map_eq_nil_iff.mp hrs.symm
    refine ⟨s.scene, ?_, fun _ => rfl⟩
    rw [executeAll]
    cases s
    cases hs
    rfl
  | cons r rs ih =>
    obtain ⟨c, changes, rfl, hr, hrs⟩ := List.map_eq_cons_iff.mp hrs.symm
    let told := s.noted (.rule s.depth r s.cursor s.scopes s.captures)
    let next : State σ ρ α := { told with cursor := .link (place.adjustAll [c]) }
    have first : executeAll env (r :: rs) s = executeAll env rs next := by
      simp only [executeAll]
      show EStateM.bind (tolerate env.settings (execute env r)) _ told = _
      unfold EStateM.bind tolerate
      rw [execute_adjustment env (s := told) hs hr.symm]
    obtain ⟨scene, e, quiet⟩ := ih hrs.symm (s := next) rfl
    refine ⟨scene, ?_, fun deaf => (quiet deaf).trans (deaf _ _)⟩
    rw [first, e]
    rfl

/-- However rules of this kind take turns between the channels, each channel ends with its last absolute
vector, or what it held before, and the later relative ones added to it, factors multiplied. -/
theorem executeAll_commute {rs rs' : List (Rule Nat)} {changes changes' : List (Adjustment α)}
    (hrs : rs.map Rule.adjustment? = changes.map some) (hrs' : rs'.map Rule.adjustment? = changes'.map some)
    (same : ∀ channel, changes.filter (·.channel = channel) = changes'.filter (·.channel = channel))
    (hs : s.cursor = .link place) :
    ∃ (there : LinkPlace α) (scene scene' : σ),
      executeAll env rs s = .ok () { s with scene, cursor := .link there } ∧
      executeAll env rs' s = .ok () { s with scene := scene', cursor := .link there } ∧
      (Host.Deaf σ → scene = s.scene ∧ scene' = s.scene) ∧
      there.node = place.node ∧ there.world = place.world ∧
      let moves := changes.filter (·.channel = .location)
      let turns := changes.filter (·.channel = .rotation)
      let stretches := changes.filter (·.channel = .scale)
      there.offset.location =
        (Adjustment.later moves).foldl (· + ·) (Adjustment.anchor place.offset.location moves) ∧
      there.offset.rotation =
        (Adjustment.later turns).foldl (· + ·) (Adjustment.anchor place.offset.rotation turns) ∧
      there.offset.scale =
        (Adjustment.later stretches).foldl Vec3.times (Adjustment.anchor place.offset.scale stretches) := by
  obtain ⟨scene, e, quiet⟩ := executeAll_adjustments env hrs hs
  obtain ⟨scene', e', quiet'⟩ := executeAll_adjustments env hrs' hs
  have one : place.adjustAll changes' = place.adjustAll changes := by
    unfold LinkPlace.adjustAll
    rw [Offset.adjustAll_congr place.offset same]
  rw [one] at e'
  have held := Offset.get_adjustAll_eq place.offset changes
  refine ⟨place.adjustAll changes, scene, scene', e, e', ?_, rfl, rfl, ?_⟩
  · exact fun deaf => ⟨quiet deaf, quiet' deaf⟩
  · exact ⟨held .location, held .rotation, held .scale⟩

/-- In the orchard, turning and moving on between the stretches or after them. -/
theorem executeAll_commute_orchard :
    let s : State (Scene Float) Random.Stream Float :=
      { scene := Scene.orchard, random := .ofSeed 0, cursor := .link (.enter 2 1) }
    let env : Surroundings (Scene Float) Random.Stream Float := ⟨{}, placeWithin {} 11⟩
    let near : Adjustment Float := ⟨.location, ⟨1, 0, 0⟩, false⟩
    let far : Adjustment Float := ⟨.location, ⟨5, 0, 0⟩, true⟩
    let on : Adjustment Float := ⟨.location, ⟨2, 1, 0⟩, false⟩
    let turn : Adjustment Float := ⟨.rotation, ⟨0, 1, 0⟩, false⟩
    let wide : Adjustment Float := ⟨.scale, ⟨2, 1, 1⟩, false⟩
    let high : Adjustment Float := ⟨.scale, ⟨3, 1, 4⟩, false⟩
    let changes := [near, wide, turn, far, high, on, turn]
    let changes' := [wide, high, turn, turn, near, far, on]
    (changes.map Adjustment.rule).map Rule.adjustment? = changes.map some ∧
      (changes'.map Adjustment.rule).map Rule.adjustment? = changes'.map some ∧
      (∀ channel, changes.filter (·.channel = channel) = changes'.filter (·.channel = channel)) ∧
      s.cursor = .link (.enter 2 1) ∧
      ∃ there : LinkPlace Float,
        executeAll env (changes.map Adjustment.rule) s = .ok () { s with cursor := .link there } ∧
        executeAll env (changes'.map Adjustment.rule) s = .ok () { s with cursor := .link there } ∧
        there.offset = ⟨⟨7, 1, 0⟩, ⟨0, 2, 0⟩, ⟨6, 1, 4⟩⟩ := by
  intro s env near far on turn wide high changes changes'
  have written (cs : List (Adjustment Float)) :
      (cs.map Adjustment.rule).map Rule.adjustment? = cs.map some := by
    rw [List.map_map]
    exact List.map_congr_left fun c _ => c.adjustment?_rule
  have same : ∀ channel,
      changes.filter (·.channel = channel) = changes'.filter (·.channel = channel) := by
    intro channel
    cases channel <;> simp [changes, changes', near, far, on, turn, wide, high]
  obtain ⟨there, scene, scene', e, e', quiet, -, -, moved, turned, stretched⟩ :=
    executeAll_commute env (written changes) (written changes') same (s := s) rfl
  obtain ⟨rfl, rfl⟩ := quiet Scene.deaf
  refine ⟨written _, written _, same, rfl, there, e, e', Offset.ext ?_ ?_ ?_⟩
  · rw [moved]
    decide +kernel
  · rw [turned]
    decide +kernel
  · rw [stretched]
    decide +kernel

/-! ## The frame at the end -/

/-- A change whose vector is drawn leaves the place as it is if it fails. -/
lemma execute_adjust_ends (hs : s.cursor = .link place) (channel : Channel) (e : Expr Nat)
    (absolute : Bool) : Ends (execute env (.adjust channel e absolute)) s
      (fun _ t => ∃ v, t.cursor = .link (place.adjustAll [⟨channel, v, absolute⟩]))
      (fun _ t => t.cursor = .link place) := by
  simp only [execute]
  apply Ends.bind
  refine Ends.of_ok (requireLink_eq _ hs) ?_
  apply Ends.bind
  refine (steady_calm.resolveAs .vector _ e s).imp ?_ ?_
  · intro v t ht
    exact Ends.of_ok (adjustOffset_eq (ht.cursor.trans hs) channel v absolute) ⟨_, rfl⟩
  · exact fun _ t ht => ht.cursor.trans hs

end

/-- What a rule says that changes an offset: the channel, the vector and whether it is absolute. -/
abbrev Step := Channel × Expr Nat × Bool

/-- The rule of a step. -/
def Step.rule (step : Step) : Rule Nat := .adjust step.1 step.2.1 step.2.2

/-- A state at the place to which changes have led that some of the steps made, one after the other. -/
def Led [Scalar α] (steps : List Step) (place : LinkPlace α) (t : State σ ρ α) : Prop :=
  ∃ changes : List (Adjustment α),
    (changes.map fun c => (c.channel, c.absolute)).Sublist (steps.map fun step => (step.1, step.2.2)) ∧
    t.cursor = .link (place.adjustAll changes)

namespace Led
variable [Scalar α] {steps : List Step} {t : State σ ρ α}

lemma nil (h : t.cursor = .link place) : Led [] place t := ⟨[], .slnil, h⟩

/-- A step without effect. -/
lemma skip (h : Led steps place t) (step : Step) : Led (step :: steps) place t := by
  obtain ⟨changes, sub, e⟩ := h
  exact ⟨changes, sub.cons _, e⟩

/-- A step that took effect. -/
lemma take {c : Adjustment α} (h : Led steps (place.adjustAll [c]) t) (e : Expr Nat) :
    Led ((c.channel, e, c.absolute) :: steps) place t := by
  obtain ⟨changes, sub, e⟩ := h
  exact ⟨c :: changes, sub.cons_cons _, e⟩

lemma none (h : t.cursor = .link place) : ∀ steps : List Step, Led steps place t
  | [] => nil h
  | step :: steps => (none h steps).skip step

end Led

/-- However steps one after the other end, they stay at the link. -/
lemma executeAll_adjusts_ends [Scalar α] [Host σ α] [RandomSource ρ] (env : Surroundings σ ρ α)
    (steps : List Step) (hs : s.cursor = .link place) :
    Ends (executeAll env (steps.map Step.rule)) s (fun _ => Led steps place)
      (fun _ => Led steps place) := by
  induction steps generalizing s place with
  | nil =>
    simp only [List.map_nil, executeAll]
    exact Ends.pure (.nil hs)
  | cons step steps ih =>
    simp only [List.map_cons, executeAll]
    apply Ends.get
    apply Ends.bind
    refine Ends.modify ?_
    apply Ends.bind
    apply tolerate_ends
    obtain ⟨channel, e, absolute⟩ := step
    refine (execute_adjust_ends env (s := s.noted _) hs channel e absolute).imp ?_ ?_
    · rintro _ t ⟨v, ht⟩
      have led := ih ht
      exact led.imp (fun _ _ h => h.take e) (fun _ _ h => h.take e)
    · intro f t ht
      refine ⟨fun _ => .none ht _, fun _ => ?_⟩
      obtain ⟨errors, er⟩ := record_eq env.settings t f
      have led := ih (s := t.record env.settings f) (by rw [er]; exact ht)
      exact led.imp (fun _ _ h => h.skip _) (fun _ _ h => h.skip _)

/-- Affine frames act one after the other and have affine inverses unless the determinant is negligible, and
so after any changes of an offset the factors that have accumulated decide whether there is one. -/
theorem affine_frames [ExactScalar α] [Host σ α] [RandomSource ρ] :
    (∀ a b : Matrix4 α, a.Affine → b.Affine →
      (a * b).Affine ∧ ∀ p, (a * b).apply p = a.apply (b.apply p)) ∧
    (∀ a : Matrix4 α, a.Affine →
      (a.inverse? = none ↔ |a.det| < 1 / 2 ^ 52) ∧
      ∀ v, a.inverse? = some v → v.Affine ∧ a * v = 1 ∧ v * a = 1) ∧
    -- The determinant of an offset is the product of its factors.
    (∀ o : Offset α, o.rotation.Circular → o.matrix.det = o.scale.x * o.scale.y * o.scale.z) ∧
    ∀ (env : Surroundings σ ρ α) (steps : List Step) (s : State σ ρ α) (place : LinkPlace α),
      s.cursor = .link place →
      ∃ changes : List (Adjustment α),
        let there := place.adjustAll changes
        let factors := there.offset.scale
        (changes.map fun c => (c.channel, c.absolute)).Sublist
          (steps.map fun step => (step.1, step.2.2)) ∧
        (after (executeAll env (steps.map Step.rule)) s).cursor = .link there ∧
        (there.offset.rotation.Circular →
          ((∃ v, there.composed.inverse? = some v) ↔
            1 / 2 ^ 52 ≤ |place.world.det * (factors.x * factors.y * factors.z)|)) := by
  refine ⟨?product, ?inverse, ?offset, ?run⟩
  case product => exact fun a b ha hb => ⟨ha.mul hb, hb.apply_mul a⟩
  case inverse =>
    intro a ha
    refine ⟨Matrix4.inverse?_eq_none_iff, fun v h => ?_⟩
    exact ⟨Matrix4.affine_inverse? h, ha.mul_inverse h, ha.inverse_mul h⟩
  case offset => exact fun o h => Offset.det_matrix h
  case run =>
    intro env steps s place hs
    obtain ⟨changes, sub, e⟩ := (executeAll_adjusts_ends env steps hs).after
    exact ⟨changes, sub, e, fun h => LinkPlace.exists_inverse?_iff h⟩

/-- Moving on and growing, in an orchard with rational coordinates. -/
theorem affine_frames_orchard :
    let s : State (Scene ℚ) Random.Stream ℚ :=
      { scene := Scene.orchard, random := .ofSeed 0, cursor := .link (.enter 2 1) }
    let env : Surroundings (Scene ℚ) Random.Stream ℚ := ⟨{}, placeWithin {} 11⟩
    let steps : List Step :=
      [(.location, .literal (.list [.int 1, .int 0, .int 0]), false),
        (.scale, .weighted [(.int 1, .literal (.list [.int 2, .int 2, .int 2]))], false)]
    let a : Matrix4 ℚ := Matrix4.shift ⟨1, 2, 3⟩
    let b : Matrix4 ℚ := Matrix4.scaling ⟨2, 4, 8⟩
    a.Affine ∧ b.Affine ∧ (a * b).apply ⟨1, 1, 1⟩ = ⟨3, 6, 11⟩ ∧
      (∃ v, b.inverse? = some v ∧ v * b = 1) ∧
      s.cursor = .link (.enter 2 1) ∧
      ∃ changes : List (Adjustment ℚ),
        let there := (LinkPlace.enter 2 1).adjustAll changes
        let factors := there.offset.scale
        (after (executeAll env (steps.map Step.rule)) s).cursor = .link there ∧
        ((∃ v, there.composed.inverse? = some v) ↔
          1 / 2 ^ 52 ≤ |(1 : Matrix4 ℚ).det * (factors.x * factors.y * factors.z)|) := by
  intro s env steps a b
  obtain ⟨product, inverse, -, run⟩ := affine_frames (σ := Scene ℚ) (ρ := Random.Stream) (α := ℚ)
  have ha : a.Affine := Matrix4.affine_shift _
  have hb : b.Affine := Matrix4.affine_scaling _
  refine ⟨ha, hb, ?_, ?_, rfl, ?_⟩
  · rw [(product a b ha hb).2]
    decide +kernel
  · have big : 1 / 2 ^ 52 ≤ |b.det| := by
      rw [Matrix4.det_scaling]
      norm_num
    obtain ⟨v, hv⟩ := Matrix4.exists_inverse?_iff.mpr big
    exact ⟨v, hv, ((inverse b hb).2 v hv).2.2⟩
  · obtain ⟨changes, -, e, h⟩ := run env steps s (.enter 2 1) rfl
    exact ⟨changes, e, h (Vec3.circular_rat _)⟩

end Derivation

end SceneGrammar
