import SceneGrammar.Derivation.Run
import SceneGrammar.Proofs.Derivation.Twin.Place
import SceneGrammar.Proofs.Derivation.Whole

/-!
# Twin runs as a whole

Two runs of a grammar that begin on alike hosts with the same source of randomness come to alike
results and leave alike hosts, unless one of them is refused something with an excuse
(`generateIn_twin`). Where only the same faults are alike, the results are the same
(`generateIn_alike`).
-/

namespace SceneGrammar.Derivation

variable {σ τ ρ α : Type} [Host σ α] [Host τ α] {L : Likeness σ τ α} {settings settings' : Settings}

/-- Clearing keeps hosts alike. -/
lemma clearStart_alike {keys : List String} (hL : L.Lasts keys)
    (hclear : settings'.clearChildren = settings.clearChildren) (start : NodeId) {scene : σ}
    {scene' : τ} (hs : L.host scene scene') :
    L.Pairs Eq (clearStart settings start) (clearStart settings' start) scene scene' := by
  unfold clearStart clearChildren
  rw [hclear]
  split
  · apply Paired.get
    rw [hL.children hs]
    exact .forM hs fun n _ t t' ht => hL.remove n ht
  · exact .pure rfl hs

variable [RandomSource ρ]

/-- Preparing a grammar keeps runs alike. -/
lemma prepareEach_alike (h : L.Fits settings settings') {d : Nat} (rules : List (Rule Nat))
    {s : State σ ρ α} {s' : State τ ρ α} (hs : s.Alike L d s') :
    (prepareEach settings rules s).Alike L d (prepareEach settings' rules s') := by
  induction rules generalizing s s' with
  | nil => exact hs
  | cons r rules ih =>
    have prepared := Twin.prepare h.toLasts r s s' hs
    unfold prepareEach
    refine prepared.elim ?_ ?_ ?_ ?_
    · intro _ _ t t' e e' _ ht
      rw [e, e']
      exact ih ht
    · intro f t t' e e' ht
      rw [e, e']
      exact ih (h.record f ht)
    · rintro f t e ⟨g, rfl, -⟩
      exact absurd e (preparing_any.prepare r s).not_refused
    · rintro f t e ⟨g, rfl, -⟩
      exact absurd e (preparing_any.prepare r s').not_refused

variable [Scalar α]

/-- A run in which a host refused something with an excuse. -/
def Generation.Excused (L : Likeness σ τ α) (g : Generation) : Prop :=
  ∃ f, L.excused f ∧ .scene f ∈ g.errors

omit [Host σ α] [Host τ α] [RandomSource ρ] [Scalar α] in
/-- A refusal is recorded. -/
lemma excused_record {υ : Type} {f : SceneFault} (hf : L.excused f) (s : State υ ρ α) :
    (s.record settings (.scene f)).generation.Excused L := by
  have fatal : (Fault.scene f).fatal = true := rfl
  exact ⟨f, hf, by simp [State.record, State.generation, fatal]⟩

/-- Results of alike runs. -/
structure Generation.Alike (L : Likeness σ τ α) (g g' : Generation) : Prop where
  generated : g'.generated = g.generated
  faults : L.faults g.errors.toArray g'.errors.toArray

omit [Host σ α] [Host τ α] [RandomSource ρ] [Scalar α] in
/-- Alike runs have alike results. -/
lemma State.Alike.generation {d : Nat} {s : State σ ρ α} {s' : State τ ρ α} (h : s.Alike L d s') :
    s.generation.Alike L s'.generation :=
  ⟨congrArg Array.toList h.generated, h.faults⟩

variable {place : String → Action σ ρ α Unit} {place' : String → Action τ ρ α Unit}

/-- Carrying out a grammar keeps runs alike that have recorded the same faults before. -/
lemma derive_alike (h : L.Fits settings settings')
    (hplace : ∀ name t t', t.Alike L 0 t' → Twin L 0 Eq (place name) (place' name) t t')
    (rules : List (Rule Nat)) {s : State σ ρ α} {s' : State τ ρ α} (hs : s.Alike L 0 s')
    (hfaults : s'.errors = s.errors) :
    (derive ⟨settings, place⟩ rules s).generation.Excused L ∨
      (derive ⟨settings', place'⟩ rules s').generation.Excused L ∨
        (derive ⟨settings, place⟩ rules s).Alike L 0 (derive ⟨settings', place'⟩ rules s') := by
  have prepared := prepareEach_alike h rules hs
  -- What is wrong with a grammar does not depend on the run, so either both runs go on or neither does.
  have found : (prepareEach settings' rules s').errors = (prepareEach settings rules s).errors := by
    apply Array.ext'
    rw [prepareEach_errors, prepareEach_errors, hfaults]
  unfold derive
  dsimp only
  rw [found]
  split
  · have run : Twin L 0 Eq (executeAll ⟨settings, place⟩ rules) (executeAll ⟨settings', place'⟩ rules)
        (prepareEach settings rules s) (prepareEach settings' rules s') :=
      Twin.executeAll h hplace rules _ _ prepared
    unfold executeToEnd
    refine run.elim ?_ ?_ ?_ ?_
    · intro _ _ t t' e e' _ ht
      rw [e, e']
      exact .inr (.inr ht)
    · intro f t t' e e' ht
      rw [e, e']
      exact .inr (.inr (h.record f ht))
    · rintro _ t e ⟨g, rfl, hg⟩
      rw [e]
      exact .inl (excused_record hg t)
    · rintro _ t e ⟨g, rfl, hg⟩
      rw [e]
      exact .inr (.inl (excused_record hg t))
  · exact .inr (.inr prepared)

omit [Host τ α] in
/-- A run on a host clears what is below the start and enters the start before anything else. -/
lemma generateIn_eq (grammar : Grammar) (start : NodeId) (scene : σ) (random : ρ) :
    generateIn ⟨settings, place⟩ grammar start scene random =
      match (do
        clearStart settings start
        State.begin random (Rule.numberAll grammar 0).2 start : Edit σ (State σ ρ α)) scene with
      | .error f scene => ({ errors := [.scene f] }, scene, random)
      | .ok s _ =>
        let s := derive ⟨settings, place⟩ (Rule.numberAll grammar 0).1 s
        (s.generation, s.scene, s.random) := by
  unfold generateIn
  simp only [bind, EStateM.bind]
  cases clearStart settings start scene <;> rfl

/-- Runs of a grammar on alike hosts come to alike results and leave alike hosts, where no faults and one
refusal are alike to themselves. -/
theorem generateIn_twin (h : L.Fits settings settings') (hnone : L.faults #[] #[])
    (hone : ∀ f : SceneFault, L.faults #[.scene f] #[.scene f])
    (hclear : settings'.clearChildren = settings.clearChildren)
    (hplace : ∀ name t t', t.Alike L 0 t' → Twin L 0 Eq (place name) (place' name) t t')
    (grammar : Grammar) (start : NodeId) {scene : σ} {scene' : τ} (hs : L.host scene scene')
    (random : ρ) :
    let run := generateIn ⟨settings, place⟩ grammar start scene random
    let run' := generateIn ⟨settings', place'⟩ grammar start scene' random
    run.1.Excused L ∨ run'.1.Excused L ∨
      run.1.Alike L run'.1 ∧ L.host run.2.1 run'.2.1 ∧ run'.2.2 = run.2.2 := by
  have begun : L.Pairs (fun s s' => State.Alike L 0 s s' ∧ s'.errors = s.errors)
      (do
        clearStart settings start
        State.begin random (Rule.numberAll grammar 0).2 start : Edit σ (State σ ρ α))
      (do
        clearStart settings' start
        State.begin random (Rule.numberAll grammar 0).2 start : Edit τ (State τ ρ α)) scene scene' := by
    refine .bind (clearStart_alike h.toLasts hclear start hs) fun _ _ t t' _ ht => ?_
    refine .bind (h.world start ht) fun w w' u u' hw hu => .get (.pure ⟨?_, rfl⟩ hu)
    exact ⟨hu, rfl, .link ⟨rfl, rfl, hw⟩, .nil, rfl, .nil, rfl, rfl, rfl, rfl, rfl, rfl, hnone⟩
  rw [generateIn_eq, generateIn_eq]
  refine begun.elim ?_ ?_ ?_ ?_
  · rintro s s' t t' e e' ⟨hs, hfaults⟩ _
    rw [e, e']
    obtain hx | hx | ha := derive_alike h hplace (Rule.numberAll grammar 0).1 hs hfaults
    · exact .inl hx
    · exact .inr (.inl hx)
    · exact .inr (.inr ⟨ha.generation, ha.host, ha.random⟩)
  · intro f t t' e e' ht
    rw [e, e']
    exact .inr (.inr ⟨⟨rfl, hone f⟩, ht, rfl⟩)
  · intro f t e hf
    rw [e]
    exact .inl ⟨f, hf, List.mem_singleton_self _⟩
  · intro f t e hf
    rw [e]
    exact .inr (.inl ⟨f, hf, List.mem_singleton_self _⟩)

/-- Runs of a grammar on alike hosts come to the same result and leave alike hosts, where faults so far
are alike only if they are the same. -/
theorem generateIn_alike (h : L.Fits settings settings') (hfaults : ∀ e e', L.faults e e' ↔ e' = e)
    (hclear : settings'.clearChildren = settings.clearChildren)
    (hplace : ∀ name t t', t.Alike L 0 t' → Twin L 0 Eq (place name) (place' name) t t')
    (grammar : Grammar) (start : NodeId) {scene : σ} {scene' : τ} (hs : L.host scene scene')
    (random : ρ) :
    let run := generateIn ⟨settings, place⟩ grammar start scene random
    let run' := generateIn ⟨settings', place'⟩ grammar start scene' random
    run.1.Excused L ∨ run'.1.Excused L ∨
      run'.1 = run.1 ∧ L.host run.2.1 run'.2.1 ∧ run'.2.2 = run.2.2 := by
  have twin := generateIn_twin h ((hfaults _ _).mpr rfl) (fun _ => (hfaults _ _).mpr rfl) hclear hplace
    grammar start hs random
  obtain hx | hx | ⟨⟨hgenerated, herrors⟩, hhost, hrandom⟩ := twin
  · exact .inl hx
  · exact .inr (.inl hx)
  · have errors := congrArg Array.toList ((hfaults _ _).mp herrors)
    exact .inr (.inr ⟨congrArg₂ Generation.mk hgenerated errors, hhost, hrandom⟩)

/-- Runs with instances that nest equally deep. -/
theorem generate_alike (h : L.Fits settings settings') (hfaults : ∀ e e', L.faults e e' ↔ e' = e)
    (hclear : settings'.clearChildren = settings.clearChildren) (grammar : Grammar) (start : NodeId)
    {scene : σ} {scene' : τ} (hs : L.host scene scene') (random : ρ) :
    let run := generate settings grammar start scene random
    let run' := generate settings' grammar start scene' random
    run.1.Excused L ∨ run'.1.Excused L ∨
      run'.1 = run.1 ∧ L.host run.2.1 run'.2.1 ∧ run'.2.2 = run.2.2 := by
  refine generateIn_alike h hfaults hclear (fun name t t' ht => ?_) grammar start hs random
  rw [h.maxDepth]
  exact Twin.placeWithin h _ name 0 t t' ht

end SceneGrammar.Derivation
