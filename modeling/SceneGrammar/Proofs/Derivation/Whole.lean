import SceneGrammar.Derivation.Run
import SceneGrammar.Proofs.Derivation.Conduct
import SceneGrammar.Proofs.Scene.Request

/-!
# Whole runs

A run clears what is below the start, enters the start and carries out the grammar. The first two may
be refused (`generateIn_cases`). What carries out the grammar keeps the invariant of every regime
(`Regime.derive`) and obeys every conduct, the fault aside that ends it (`Conduct.derive`).
-/

namespace SceneGrammar.Derivation

variable {σ ρ α : Type}

/-- The state in which a run begins to carry out its grammar. -/
def State.started [Scalar α] (random : ρ) (fresh : Nat) (start : NodeId) (world : Matrix4 α) (scene : σ) :
    State σ ρ α :=
  { scene, random, cursor := .link (.enter start world), freshLabel := fresh }

/-- A run whose last fault ended it, if there is one. -/
def State.ended (settings : Settings) (s : State σ ρ α) : Option Fault → State σ ρ α
  | none => s
  | some f => s.record settings f

section
variable (settings : Settings) (s : State σ ρ α) (o : Option Fault)

/-- The end of a run may record a fault, and changes nothing else. -/
lemma ended_eq : ∃ errors, s.ended settings o = { s with errors } := by
  cases o with
  | none => exact ⟨s.errors, rfl⟩
  | some f => exact record_eq settings s f

/-- A refusal of the host is the last fault of a run that it ends. -/
lemma ended_refused (f : SceneFault) :
    (s.ended settings (some (.scene f))).generation.errors.getLast? = some (.scene f) := by
  have e : s.ended settings (some (.scene f)) = { s with errors := s.errors.push (.scene f) } := by
    have hf : (Fault.scene f).fatal = true := rfl
    simp [State.ended, State.record, hf]
  rw [e]
  simp [State.generation]

end

variable [Scalar α] [Host σ α]

/-- A run begins where the place of its start is given. -/
lemma begin_ends (random : ρ) (fresh : Nat) (start : NodeId) (scene : σ) :
    Ends (State.begin random fresh start : Edit σ (State σ ρ α)) scene
      (fun s t => ∃ world, Host.world start scene = .ok world t ∧
        s = State.started random fresh start world t)
      (fun f t => Host.world (α := α) start scene = .error f t) := by
  unfold State.begin
  apply Ends.bind
  cases e : (Host.world start scene : EStateM.Result SceneFault σ (Matrix4 α)) with
  | ok world t => exact Ends.of_ok e ⟨world, rfl, rfl⟩
  | error f t => exact Ends.of_error e rfl

omit [Scalar α] in
/-- Clearing keeps what removing nodes keeps. -/
lemma clearStart_keeps {P : σ → Prop} (h : ∀ n s, P s → Ends (Host.remove n) s (fun _ => P) (fun _ => P))
    (settings : Settings) (start : NodeId) {scene : σ} (hs : P scene) :
    Ends (clearStart settings start) scene (fun _ => P) (fun _ => P) := by
  unfold clearStart clearChildren
  split
  · apply Ends.get
    exact Ends.forM hs fun n _ => h n
  · exact Ends.pure hs

variable [RandomSource ρ]

/-- A run ends because clearing is refused, because the start is, or with the grammar. -/
theorem generateIn_cases (env : Surroundings σ ρ α) (grammar : Grammar) (start : NodeId) (scene : σ)
    (random : ρ) :
    Ends (clearStart env.settings start) scene
      (fun _ scene' => Ends (Host.world start) scene'
        (fun world t => ∃ s, s = derive env (Rule.numberAll grammar 0).1
            (State.started random (Rule.numberAll grammar 0).2 start world t) ∧
          generateIn env grammar start scene random = (s.generation, s.scene, s.random))
        (fun f t => generateIn env grammar start scene random = ({ errors := [.scene f] }, t, random)))
      (fun f t => generateIn env grammar start scene random = ({ errors := [.scene f] }, t, random)) := by
  unfold generateIn
  cases e : clearStart env.settings start scene with
  | error f t => exact Ends.of_error e rfl
  | ok _ t =>
    refine Ends.of_ok e ?_
    have hb := begin_ends (α := α) random (Rule.numberAll grammar 0).2 start t
    cases e' : State.begin random (Rule.numberAll grammar 0).2 start t with
    | error f u =>
      exact Ends.of_error (hb.error e') (by simp only [e'])
    | ok s u =>
      obtain ⟨world, ew, rfl⟩ := hb.ok e'
      exact Ends.of_ok ew ⟨_, rfl, by simp only [e']⟩

/-- A run whose start was cleared and entered is what carries out its grammar. -/
lemma generate_eq (settings : Settings) (grammar : Grammar) (random : ρ) {start : NodeId}
    {scene base t : σ} {world : Matrix4 α} (eclear : clearStart settings start scene = .ok () base)
    (eworld : Host.world start base = .ok world t) :
    let s := derive (outermost settings) (Rule.numberAll grammar 0).1
      (State.started random (Rule.numberAll grammar 0).2 start world t)
    generate settings grammar start scene random = (s.generation, s.scene, s.random) := by
  have hc := generateIn_cases (outermost settings) grammar start scene random
  obtain ⟨_, rfl, hrun⟩ := (hc.ok eclear).ok eworld
  exact hrun

/-- Two ways of placing names make the same run of a grammar that they carry out alike. -/
lemma generateIn_congr {settings : Settings} {place place' : String → Action σ ρ α Unit}
    {grammar : Grammar} {start : NodeId} {scene : σ} {random : ρ}
    (h : ∀ base world t, clearStart settings start scene = .ok () base →
      Host.world start base = .ok world t →
        let s := State.started random (Rule.numberAll grammar 0).2 start world t
        derive ⟨settings, place⟩ (Rule.numberAll grammar 0).1 s =
          derive ⟨settings, place'⟩ (Rule.numberAll grammar 0).1 s) :
    generateIn ⟨settings, place⟩ grammar start scene random =
      generateIn ⟨settings, place'⟩ grammar start scene random := by
  have hc := generateIn_cases ⟨settings, place⟩ grammar start scene random
  have hc' := generateIn_cases ⟨settings, place'⟩ grammar start scene random
  cases e : clearStart settings start scene with
  | error f t => rw [hc.error e, hc'.error e]
  | ok _ base =>
    cases e' : (Host.world start base : EStateM.Result SceneFault σ (Matrix4 α)) with
    | error f t => rw [(hc.ok e).error e', (hc'.ok e).error e']
    | ok world t =>
      obtain ⟨_, rfl, run⟩ := (hc.ok e).ok e'
      obtain ⟨_, rfl, run'⟩ := (hc'.ok e).ok e'
      rw [run, run', h base world t e e']

/-- A run leaves what carrying out the grammar makes of that which clearing and entering the start
keep. -/
theorem generateIn_leaves {env : Surroundings σ ρ α} {P Q : σ → Prop} {grammar : Grammar}
    {start : NodeId} {random : ρ} (weaken : ∀ s, P s → Q s)
    (hremove : ∀ n s, P s → Ends (Host.remove n) s (fun _ => P) (fun _ => P))
    (hworld : ∀ s, P s → Ends (Host.world (α := α) start) s (fun _ => P) (fun _ => P))
    (hrun : ∀ world s, P s → Q (derive env (Rule.numberAll grammar 0).1
      (State.started random (Rule.numberAll grammar 0).2 start world s)).scene)
    {scene : σ} (hs : P scene) : Q (generateIn env grammar start scene random).2.1 := by
  have hc := generateIn_cases env grammar start scene random
  have hclear := clearStart_keeps hremove env.settings start hs
  cases e : clearStart env.settings start scene with
  | error f t =>
    rw [hc.error e]
    exact weaken t (hclear.error e)
  | ok _ t =>
    have hw := Ends.and (hc.ok e) (hworld t (hclear.ok e))
    cases e' : (Host.world start t : EStateM.Result SceneFault σ (Matrix4 α)) with
    | error f u =>
      obtain ⟨hg, hu⟩ := hw.error e'
      rw [hg]
      exact weaken u hu
    | ok world u =>
      obtain ⟨⟨s, rfl, hg⟩, hu⟩ := hw.ok e'
      rw [hg]
      exact hrun world u hu

/-! ## Preparing a grammar -/

section
variable {σ ρ α : Type} [Host σ α] [RandomSource ρ] {settings : Settings}

/-- What lasts through preparing rules and recording faults lasts through preparing a grammar. -/
lemma Preparing.prepareEach {R : State σ ρ α → State σ ρ α → Prop} (h : Preparing R)
    (record : ∀ s f, R s (s.record settings f)) (rules : List (Rule Nat)) (s : State σ ρ α) :
    R s (Derivation.prepareEach settings rules s) := by
  induction rules generalizing s with
  | nil => exact h.refl s
  | cons r rs ih =>
    have found := h.prepare r s
    unfold Finds at found
    unfold Derivation.prepareEach
    cases e : Derivation.prepare r s with
    | ok _ t => exact h.trans (found.ok e).1 (ih t)
    | error f t => exact h.trans (found.error e).1 (h.trans (record t f) (ih _))

/-- Preparations record nothing. -/
lemma errors_preparing : Preparing (fun s t : State σ ρ α => t.errors = s.errors) where
  refl _ := rfl
  trans h k := k.trans h
  uniform _ := rfl
  intRange _ _ _ := rfl
  settle _ _ _ h := h
  reuse _ _ _ := rfl
  fix _ _ _ := rfl
  define _ _ _ _ := rfl

/-- Preparing a grammar records the first defect of each of its rules. -/
lemma prepareEach_errors (rules : List (Rule Nat)) (s : State σ ρ α) :
    (Derivation.prepareEach settings rules s).errors.toList =
      s.errors.toList ++ rules.filterMap fun r => r.defect?.map Defect.fault := by
  induction rules generalizing s with
  | nil => simp [Derivation.prepareEach]
  | cons r rules ih =>
    have found := errors_preparing.prepare r s
    unfold Finds at found
    unfold Derivation.prepareEach
    cases e : Derivation.prepare r s with
    | ok _ t =>
      obtain ⟨he, hd⟩ := found.ok e
      simp [ih t, he, hd]
    | error f t =>
      obtain ⟨he, d, hd, rfl⟩ := found.error e
      simp [ih, record_defect, he, hd]

/-- If it records none, its rules have none. -/
lemma prepareEach_sound {rules : List (Rule Nat)} {s : State σ ρ α} (hs : s.errors = #[])
    (h : (Derivation.prepareEach settings rules s).errors = #[]) : ∀ r ∈ rules, r.defect? = none := by
  have found : (Derivation.prepareEach settings rules s).errors.toList = _ := prepareEach_errors rules s
  simpa [h, hs] using found

end

/-! ## Carrying out a grammar -/

section
variable {env : Surroundings σ ρ α} {rules : List (Rule Nat)} {s : State σ ρ α}

/-- A grammar is carried out if no defect was found. -/
lemma derive_eq_executeToEnd (h : (prepareEach env.settings rules s).errors = #[]) :
    derive env rules s = executeToEnd env rules (prepareEach env.settings rules s) :=
  if_pos (Array.isEmpty_iff.mpr h)

/-- It is only prepared otherwise. -/
lemma derive_eq_prepareEach (h : (prepareEach env.settings rules s).errors ≠ #[]) :
    derive env rules s = prepareEach env.settings rules s :=
  if_neg (mt Array.isEmpty_iff.mp h)

end

/-- What carries out a grammar ends in a state of a kind, if it is in one once the grammar is prepared and
recording the last fault keeps the kind. -/
theorem Regime.derive {settings : Settings} {G : Bindings Nat Literal → Rule Nat → Prop}
    {I : State σ ρ α → Prop} {R : Option Fault → State σ ρ α → State σ ρ α → Prop}
    (h : Regime settings G I R) (record : ∀ s f, I s → I (State.record settings s f))
    {place : String → Action σ ρ α Unit} (hp : Regime.Inner I R place) {rules : List (Rule Nat)}
    {s : State σ ρ α} (now : I (Derivation.prepareEach settings rules s))
    (hrules : let prepared := Derivation.prepareEach settings rules s
      prepared.errors.isEmpty → ∀ r ∈ rules, G prepared.settled r) :
    I (Derivation.derive ⟨settings, place⟩ rules s) := by
  unfold Derivation.derive
  dsimp only
  split
  · next empty =>
    have run := h.executeAll hp rules _ (hrules empty) now
    unfold executeToEnd
    cases e : Derivation.executeAll ⟨settings, place⟩ rules (Derivation.prepareEach settings rules s) with
    | ok _ t => exact h.keeps now (run.ok e)
    | error f t => exact record t f (h.keeps now (run.error e))
  · exact now

namespace Conduct
variable {settings : Settings} {R : Option Fault → State σ ρ α → State σ ρ α → Prop}

/-- What all rules obey holds of preparing a grammar. -/
lemma prepareEach (h : Conduct settings R) (rules : List (Rule Nat)) (s : State σ ρ α) :
    R none s (Derivation.prepareEach settings rules s) :=
  h.calm.preparing.prepareEach h.record rules s

/-- What carries out a grammar obeys the conduct, the record of the last fault aside. -/
theorem derive (h : Conduct settings R) {place : String → Action σ ρ α Unit} (hp : Inner R place)
    (rules : List (Rule Nat)) (s : State σ ρ α) :
    ∃ o t, R o s t ∧ Derivation.derive ⟨settings, place⟩ rules s = t.ended settings o := by
  have hprep := h.prepareEach rules s
  have hrun := h.executeAll hp rules (Derivation.prepareEach settings rules s)
  unfold Obeys at hrun
  unfold Derivation.derive
  dsimp only
  split
  · unfold executeToEnd
    cases e : Derivation.executeAll ⟨settings, place⟩ rules
        (Derivation.prepareEach settings rules s) with
    | ok _ t => exact ⟨none, t, h.trans hprep (hrun.ok e), rfl⟩
    | error f t => exact ⟨some f, t, h.trans hprep (hrun.error e), rfl⟩
  · exact ⟨none, _, hprep, rfl⟩

/-- A run leaves what clearing, entering the start and then the conduct keep. -/
theorem generateIn_keeps (h : Conduct settings R) {place : String → Action σ ρ α Unit}
    (hp : Inner R place) {P : σ → Prop} {random : ρ} {start : NodeId}
    (hremove : ∀ n s, P s → Ends (Host.remove n) s (fun _ => P) (fun _ => P))
    (hworld : ∀ s, P s → Ends (Host.world (α := α) start) s (fun _ => P) (fun _ => P))
    (hrun : ∀ fresh world s o t, P s → R o (State.started random fresh start world s) t → P t.scene)
    (grammar : Grammar) {scene : σ} (hs : P scene) :
    P (Derivation.generateIn ⟨settings, place⟩ grammar start scene random).2.1 := by
  refine generateIn_leaves (Q := P) (fun _ => id) hremove hworld (fun world u hu => ?_) hs
  -- The fault that ended the run, if any, is recorded last, which the host does not see.
  obtain ⟨o, v, hv, ev⟩ := h.derive hp (Rule.numberAll grammar 0).1
    (State.started random (Rule.numberAll grammar 0).2 start world u)
  obtain ⟨errors, ee⟩ := ended_eq settings v o
  rw [ev, ee]
  exact hrun _ world u o v hu hv

/-- A run on a scene leaves the scene as it was after the clearing, or obeys the conduct from there. -/
theorem generateIn {settings : Settings}
    {R : Option Fault → State (Scene α) ρ α → State (Scene α) ρ α → Prop} (h : Conduct settings R)
    {place : String → Action (Scene α) ρ α Unit} (hp : Inner R place) (grammar : Grammar)
    (start : NodeId) (scene : Scene α) (random : ρ) :
    (∃ f, Derivation.generateIn ⟨settings, place⟩ grammar start scene random =
      ({ errors := [.scene f] }, after (clearStart settings start) scene, random)) ∨
    ∃ world fresh o t,
      R o (State.started random fresh start world (after (clearStart settings start) scene)) t ∧
        Derivation.generateIn ⟨settings, place⟩ grammar start scene random =
          ((t.ended settings o).generation, t.scene, t.random) := by
  have hc := generateIn_cases ⟨settings, place⟩ grammar start scene random
  dsimp only at hc
  unfold after
  cases e : clearStart settings start scene with
  | error f t => exact .inl ⟨f, hc.error e⟩
  | ok _ t =>
    have hw := Ends.and (hc.ok e) (Scene.world_ends t start)
    cases e' : (Host.world start t : EStateM.Result SceneFault (Scene α) (Matrix4 α)) with
    | error f u =>
      obtain ⟨hg, rfl⟩ := hw.error e'
      exact .inl ⟨f, hg⟩
    | ok world u =>
      obtain ⟨⟨s, rfl, hg⟩, rfl⟩ := hw.ok e'
      obtain ⟨o, v, hv, ev⟩ := h.derive hp (Rule.numberAll grammar 0).1
        (State.started random (Rule.numberAll grammar 0).2 start world u)
      refine .inr ⟨world, _, o, v, hv, ?_⟩
      obtain ⟨errors, ee⟩ := ended_eq settings v o
      rw [hg, ev, ee]

end Conduct

end SceneGrammar.Derivation
