import SceneGrammar.Derivation.Run
import SceneGrammar.Proofs.Pattern.Anchored
import SceneGrammar.Proofs.Pattern.Search
import SceneGrammar.Proofs.Scene.Preorder
import SceneGrammar.Random.Scripted

/-!
# Rules for links by a pattern

A rule for links is accepted if its pattern is one by itself, and is carried out at the links that can be
seen and have a name in which a match of the pattern begins at the first character, one after the other as
they are found. This holds of patterns that stay inside the group that anchors them.
-/

namespace SceneGrammar

instance (p : Pattern) (text : String) : Decidable (p.Begins text) :=
  decidable_of_iff _ (Pattern.isMatch_sequence_textStart p text)

namespace Derivation

variable {σ ρ α : Type} [Scalar α] [Host σ α] [RandomSource ρ]

/-- The links below a node with their names, in the order in which they are found. -/
def namedBelow (settings : Settings) (scene : σ) (root : NodeId) : List (String × NodeId) :=
  (linksBelow settings scene root fun _ => true).filterMap fun n =>
    (linkName? settings scene n).map (·, n)

/-- The links that a cursor sees with the names it sees them by, in the order in which they are found. -/
def visible (settings : Settings) (scene : σ) : Cursor α → List (String × NodeId)
  | .aliased _ aliases => aliases.toList
  | .object n => namedBelow settings scene n
  | .link place => namedBelow settings scene place.node

omit [Scalar α] in
/-- The links below a node are those with an accepted name among the named ones. -/
lemma linksBelow_eq (settings : Settings) (scene : σ) (root : NodeId) (accept : String → Bool) :
    linksBelow settings scene root accept =
      ((namedBelow settings scene root).filter (accept ·.1)).map (·.2) := by
  unfold namedBelow linksBelow
  rw [Walk.tagged_eq_filter]
  induction Walk.tagged (Host.children scene) (linkName? settings scene) (fun _ => true) (Host.size scene)
    (Host.children scene root) with
  | nil => rfl
  | cons n found ih =>
    rw [List.filter_cons, ih]
    cases e : linkName? settings scene n with
    | none => simp [e]
    | some name => cases h : accept name <;> simp [e, h]

omit [Scalar α] in
/-- A search for some of the links finds those that are seen, filtered by their names. -/
lemma visibleLinks_eq (settings : Settings) (scene : σ) (cursor : Cursor α) (accept : String → Bool) :
    visibleLinks settings scene cursor accept =
      ((visible settings scene cursor).filter (accept ·.1)).map (·.2) := by
  cases cursor with
  | aliased n aliases => rfl
  | object n => exact linksBelow_eq settings scene n accept
  | link place => exact linksBelow_eq settings scene place.node accept

/-- Carries out a sequence at a link and goes back. -/
def visit (env : Surroundings σ ρ α) (body : List (Rule Nat)) (link : NodeId) : Action σ ρ α Unit :=
  inScope do
    enterLink link
    executeAll env body

/-- The links that a cursor sees by a name that a match of a pattern begins. -/
def matching (settings : Settings) (scene : σ) (cursor : Cursor α) (p : Pattern) : List (String × NodeId) :=
  (visible settings scene cursor).filter fun link => p.Begins link.1

omit [Scalar α] in
/-- The links that an anchored pattern accepts are those in whose names a match begins. -/
lemma visibleLinks_anchored (settings : Settings) (scene : σ) (cursor : Cursor α) (p : Pattern) :
    visibleLinks settings scene cursor (Pattern.sequence [.assert .textStart, p]).isMatch =
      (matching settings scene cursor p).map (·.2) := by
  rw [visibleLinks_eq, matching]
  congr 2
  funext link
  exact Bool.eq_iff_iff.mpr ((Pattern.isMatch_sequence_textStart p link.1).trans decide_eq_true_iff.symm)

section
variable {source : String} {s : State σ ρ α}

omit [Scalar α] [Host σ α] [RandomSource ρ] in
/-- A pattern that stays inside its anchor is read with the anchor. -/
lemma compile_of_some (h : Pattern.Contained source) {p : Pattern} (hp : Pattern.parse? source = some p) :
    compile source s = .ok (.sequence [.assert .textStart, p]) s := by
  unfold compile
  rw [Pattern.anchored?_eq h, hp]
  rfl

omit [Scalar α] [Host σ α] [RandomSource ρ] in
/-- What is no pattern is none with the anchor either, if it stays inside it. -/
lemma compile_of_none (h : Pattern.Contained source) (hp : Pattern.parse? source = none) :
    compile source s = .error (Defect.badPattern source).fault s := by
  unfold compile
  rw [Pattern.anchored?_eq h, hp]
  rfl

omit [Scalar α] in
/-- Preparing a rule for links reads its pattern, then prepares its body. -/
lemma prepare_forLinks (body : List (Rule Nat)) :
    prepare (.forLinks source body) s = (compile source >>= fun _ => prepareAll body) s := by
  simp only [prepare]

omit [Scalar α] [Host σ α] [RandomSource ρ] in
/-- At an object, the object is taken. -/
lemma requireObject_eq (subject : String) {n : NodeId} (object : s.cursor.object? = some n) :
    requireObject subject s = .ok n s := by
  obtain ⟨scene, random, cursor, _⟩ := s
  cases cursor <;> cases object <;> rfl

/-- At an object, the links are visited once the pattern is compiled. -/
lemma execute_forLinks (env : Surroundings σ ρ α) (body : List (Rule Nat)) {n : NodeId}
    (object : s.cursor.object? = some n) : execute env (.forLinks source body) s =
      (compile source >>= fun p => get >>= fun s : State σ ρ α =>
        (visibleLinks env.settings s.scene s.cursor p.isMatch).forM (visit env body)) s := by
  simp only [execute]
  show EStateM.bind (requireObject "each_link") _ s = _
  simp only [EStateM.bind, requireObject_eq _ object]
  rfl

end

/-- At an object, a rule for links by a pattern that stays inside its anchor is carried out at the links in
whose names a match begins at the first character, and rejected if the pattern is none by itself. -/
theorem forLinks_anchored (env : Surroundings σ ρ α) {source : String} (h : Pattern.Contained source)
    (body : List (Rule Nat)) (s : State σ ρ α) :
    (∀ p, Pattern.parse? source = some p →
      prepare (.forLinks source body) s = prepareAll body s ∧
      ∀ n, s.cursor.object? = some n → execute env (.forLinks source body) s =
        ((matching env.settings s.scene s.cursor p).forM fun link => visit env body link.2) s) ∧
    (Pattern.parse? source = none →
      prepare (.forLinks source body) s = .error (Defect.badPattern source).fault s ∧
      ∀ n, s.cursor.object? = some n →
        execute env (.forLinks source body) s = .error (Defect.badPattern source).fault s) := by
  refine ⟨fun p hp => ⟨?accepted, fun n object => ?visited⟩, fun hp => ⟨?rejected, fun n object => ?refused⟩⟩
  case accepted =>
    rw [prepare_forLinks]
    show EStateM.bind (compile source) _ s = _
    simp only [EStateM.bind, compile_of_some h hp]
  case visited =>
    rw [execute_forLinks env body object]
    show EStateM.bind (compile source) _ s = _
    simp only [EStateM.bind, compile_of_some h hp]
    show ((visibleLinks env.settings s.scene s.cursor _).forM (visit env body)) s = _
    rw [visibleLinks_anchored]
    exact congrFun List.forM_map s
  case rejected =>
    rw [prepare_forLinks]
    show EStateM.bind (compile source) _ s = _
    simp only [EStateM.bind, compile_of_none h hp]
  case refused =>
    rw [execute_forLinks env body object]
    show EStateM.bind (compile source) _ s = _
    simp only [EStateM.bind, compile_of_none h hp]

/-- A place of a hall with a link. -/
def door (name link : String) : Node Float :=
  ⟨name, some 1, [], ⟨[("gen_link", .str link)]⟩, 1, none, none, false, false⟩

/-- A hall with three links. -/
def hall : Scene Float where
  slots := #[some ⟨"hall", none, [2, 3, 4], ∅, 1, none, none, false, false⟩, some (door "west" "inside"),
    some (door "loft" "beside"), some (door "east" "outside")]

/-- A state in the hall. -/
def inHall : State (Scene Float) Random.Scripted Float :=
  { scene := hall, random := ⟨#[], 0⟩, cursor := .object 1 }

/-- In the hall, there are two links that begin with a side. -/
theorem forLinks_anchored_hall :
    Pattern.Contained "(in|out)side" ∧ ∃ p, Pattern.parse? "(in|out)side" = some p ∧
      matching {} hall (.object 1) p = [("inside", 2), ("outside", 4)] ∧
      prepare (.forLinks "(in|out)side" []) inHall = prepareAll [] inHall ∧
      execute (outermost {}) (.forLinks "(in|out)side" []) inHall =
        ([("inside", 2), ("outside", 4)].forM fun link => visit (outermost {}) [] link.2) inHall := by
  have contained : Pattern.Contained "(in|out)side" := by decide +kernel
  have found : (Pattern.parse? "(in|out)side").map (matching {} hall (.object 1)) =
      some [("inside", 2), ("outside", 4)] := by decide +kernel
  obtain ⟨p, read, found⟩ := Option.map_eq_some_iff.mp found
  obtain ⟨prepared, executed⟩ := (forLinks_anchored (outermost {}) contained [] inHall).1 p read
  refine ⟨contained, p, read, found, prepared, (executed 1 rfl).trans ?_⟩
  rw [← found]
  rfl

/-- A parenthesis ends the anchored group early, so that what is no pattern is accepted and matches sides
where they end; a comment takes up its end, so that what is a pattern is rejected. -/
theorem forLinks_escaped :
    (Pattern.parse? "s)|(?:ide").isNone ∧
      (match prepare (.forLinks "s)|(?:ide" []) inHall, compile "s)|(?:ide" inHall with
      | .ok _ _, .ok p s => visibleLinks {} s.scene s.cursor p.isMatch == [2, 3, 4]
      | _, _ => false) = true ∧
      (Pattern.parse? "(?x)in.* # the inside").isSome ∧
      (match prepare (.forLinks "(?x)in.* # the inside" []) inHall with
      | .ok _ _ => false
      | .error _ _ => true) = true := by
  refine ⟨?unwritten, ?accepted, ?written, ?rejected⟩ <;> decide +kernel

end Derivation

end SceneGrammar
