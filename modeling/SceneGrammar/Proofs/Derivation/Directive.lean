import SceneGrammar.Proofs.Derivation.Atomic
import SceneGrammar.Proofs.Derivation.Capture
import SceneGrammar.Proofs.Derivation.Gate
import SceneGrammar.Proofs.Grammar.Register

/-!
# Directives that are rejected

A directive that is a grammar with a defect is not carried out, and its first defect is recorded. It was
prepared until then, so that the names which it gave before the defect stay given, and stand for
something else in the rest of the run. Everything else that a run looks at is as it was
(`runDirective_rejected`).
-/

namespace SceneGrammar

namespace Bindings
variable {κ β : Type} [DecidableEq κ]

/-- Binds keys one after the other. -/
def insertAll (b : Bindings κ β) (l : List (κ × β)) : Bindings κ β :=
  l.foldl (fun b entry => b.insert entry.1 entry.2) b

lemma insertAll_append (b : Bindings κ β) (l l' : List (κ × β)) :
    b.insertAll (l ++ l') = (b.insertAll l).insertAll l' := List.foldl_append

/-- The last value that a key was bound to counts. -/
lemma get?_insertAll (b : Bindings κ β) (l : List (κ × β)) (k : κ) :
    (b.insertAll l).get? k = (l.reverse.lookup k).or (b.get? k) := by
  induction l generalizing b with
  | nil => rfl
  | cons entry l ih =>
    obtain ⟨key, value⟩ := entry
    show ((b.insert key value).insertAll l).get? k = _
    rw [ih, List.reverse_cons, List.lookup_append, Option.or_assoc, get?_insert]
    by_cases h : k = key
    · simp [h]
    · simp [List.lookup_cons, Ne.symm h, beq_eq_false_iff_ne.mpr h]

end Bindings

namespace Derivation

variable {σ ρ α : Type} [Host σ α]

/-- What a name stands for: a sequence, or else the members of a collection. -/
def State.referent? (s : State σ ρ α) (name : String) : Option (List (Rule Nat) ⊕ List NodeId) :=
  match s.definitions.get? name with
  | some body => some (.inl body)
  | none => (Host.topLevel? s.scene name).map .inr

variable [RandomSource ρ]

/-! ## What preparing gives names to -/

/-- Preparing an argument gives no names. -/
lemma definitions_fixing : Fixing fun s t : State σ ρ α => t.definitions = s.definitions where
  toDrawing := definitions_drawing
  fix _ _ _ := rfl

/-- Preparing an argument defines nothing, and succeeds if nothing is wrong with it. -/
lemma prepareArgument_defines (subject : String) (shape : Shape) (e : Expr Nat) (s : State σ ρ α) :
    Ends (prepareArgument subject shape e) s
      (fun _ t => t.definitions = s.definitions ∧ (e.argumentDefect? subject shape).isNone)
      (fun _ t => t.definitions = s.definitions ∧ ¬ (e.argumentDefect? subject shape).isNone) := by
  refine Ends.imp (definitions_fixing.prepareArgument subject shape e (s := s)) ?_ ?_
  · rintro _ t ⟨h, hd⟩
    exact ⟨h, by simp [hd]⟩
  · rintro f t ⟨h, d, hd, -⟩
    exact ⟨h, by simp [hd]⟩

/-- After an argument whose defect, if there is one, comes first. -/
lemma argument_then {subject : String} {shape : Shape} {e : Expr Nat} {s : State σ ρ α}
    {k : Action σ ρ α Unit} {l : List (String × List (Rule Nat))}
    (hk : ∀ t : State σ ρ α, Ends k t (fun _ u => u.definitions = t.definitions.insertAll l)
      (fun _ u => u.definitions = t.definitions.insertAll l)) :
    Ends (prepareArgument subject shape e >>= fun _ => k) s
      (fun _ u => u.definitions =
        s.definitions.insertAll (if (e.argumentDefect? subject shape).isNone then l else []))
      (fun _ u => u.definitions =
        s.definitions.insertAll (if (e.argumentDefect? subject shape).isNone then l else [])) := by
  apply Ends.bind
  refine (prepareArgument_defines subject shape e s).imp ?_ ?_
  · rintro _ t ⟨h, hd⟩
    rw [if_pos hd, ← h]
    exact hk t
  · rintro f t ⟨h, hd⟩
    rw [if_neg hd]
    exact h

/-- An argument alone. -/
lemma argument_alone (subject : String) (shape : Shape) (e : Expr Nat) (s : State σ ρ α) :
    Ends (prepareArgument subject shape e) s
      (fun _ u => u.definitions = s.definitions.insertAll [])
      (fun _ u => u.definitions = s.definitions.insertAll []) :=
  (prepareArgument_defines subject shape e s).imp (fun _ _ h => h.1) (fun _ _ h => h.1)

mutual
/-- Preparing a rule gives names to what is registered until its first defect. -/
theorem prepare_registers : ∀ (r : Rule Nat) (s : State σ ρ α),
    Ends (prepare r) s (fun _ t => t.definitions = s.definitions.insertAll r.registered)
      (fun _ t => t.definitions = s.definitions.insertAll r.registered)
  | .define name body, s => by
    simp only [prepare, Rule.registered]
    split
    · exact Ends.throw rfl
    · apply Ends.bind
      have body := (preparing_any.prepareAll body s).and (prepareAll_registers body s)
      refine body.imp ?_ ?_
      · rintro _ t ⟨⟨-, hd⟩, h⟩
        refine Ends.modify ?_
        rw [hd, Bindings.insertAll_append, ← h]
        rfl
      · rintro f t ⟨⟨-, d, hd, -⟩, h⟩
        simpa [hd] using h
  | .block body, s => by
    simp only [prepare, Rule.registered]
    exact prepareAll_registers body s
  | .times e body, s => by
    simp only [prepare, Rule.registered]
    exact argument_then (prepareAll_registers body)
  | .forLinks pattern body, s => by
    simp only [prepare, Rule.registered]
    apply Ends.bind
    refine (definitions_fixing.compile pattern).imp ?_ ?_
    · rintro _ t ⟨h, hd⟩
      rw [hd, ← h]
      exact prepareAll_registers body t
    · rintro f t ⟨h, d, hd, -⟩
      rw [hd]
      exact h
  | .maybe e body, s => by
    simp only [prepare, Rule.registered]
    exact argument_then (prepareAll_registers body)
  | .exportLink e, s => by
    simp only [prepare, Rule.registered]
    exact argument_alone _ _ e s
  | .place e, s => by
    simp only [prepare, Rule.registered]
    exact argument_alone _ _ e s
  | .copySibling e _, s => by
    simp only [prepare, Rule.registered]
    exact argument_alone _ _ e s
  | .addLink e, s => by
    simp only [prepare, Rule.registered]
    exact argument_alone _ _ e s
  | .goTo e, s => by
    simp only [prepare, Rule.registered]
    exact argument_alone _ _ e s
  | .adjust channel e absolute, s => by
    simp only [prepare, Rule.registered]
    exact argument_alone _ _ e s
/-- So does preparing rules one after the other. -/
theorem prepareAll_registers : ∀ (rs : List (Rule Nat)) (s : State σ ρ α),
    Ends (prepareAll rs) s (fun _ t => t.definitions = s.definitions.insertAll (Rule.registeredAll rs))
      (fun _ t => t.definitions = s.definitions.insertAll (Rule.registeredAll rs))
  | [], s => by
    simp only [prepareAll, Rule.registeredAll]
    exact Ends.pure rfl
  | r :: rs, s => by
    simp only [prepareAll, Rule.registeredAll]
    apply Ends.bind
    refine ((preparing_any.prepare r s).and (prepare_registers r s)).imp ?_ ?_
    · rintro _ t ⟨⟨-, hd⟩, h⟩
      rw [hd, Bindings.insertAll_append, ← h]
      exact prepareAll_registers rs t
    · rintro f t ⟨⟨-, d, hd, -⟩, h⟩
      rw [hd]
      simpa using h
end

/-! ## Rejections -/

/-- Preparing rules with a defect fails with the first one. Meanwhile it draws and settles values and
gives names, and does nothing else on a host that does not listen. -/
lemma prepareAll_rejected (deaf : Host.Deaf σ) {rules : List (Rule Nat)} {d : Defect}
    (hd : Rule.defectOf? rules = some d) (s : State σ ρ α) :
    ∃ t, prepareAll rules s = .error d.fault t ∧ Readied s t ∧ t.errors = s.errors ∧
      t.definitions = s.definitions.insertAll (Rule.registeredAll rules) := by
  have found := (readied_preparing deaf).prepareAll rules s
  have errors := errors_preparing.prepareAll rules s
  unfold Finds at found errors
  cases e : prepareAll rules s with
  | ok _ t =>
    have sound := (found.ok e).2
    rw [hd] at sound
    cases sound
  | error f t =>
    obtain ⟨readied, d', hd', rfl⟩ := found.error e
    obtain rfl : d = d' := Option.some.inj (hd.symm.trans hd')
    exact ⟨t, rfl, readied, (errors.error e).1, (prepareAll_registers rules s).error e⟩

/-- What is named last under a name, among what a grammar gives names to before its first defect. -/
def named? (grammar : Grammar) (fresh : Nat) (name : String) : Option (List (Rule Nat)) :=
  (Rule.registeredAll (Rule.numberAll grammar fresh).1).reverse.lookup name

omit [Host σ α] [RandomSource ρ] in
/-- Names that are not given stand for nothing there. -/
lemma named?_eq_none {grammar : Grammar} {fresh : Nat} {name : String}
    (h : name ∉ Rule.registeredNames grammar) : named? grammar fresh name = none := by
  rw [← Rule.registeredNames_numberAll grammar fresh] at h
  refine List.lookup_eq_none_iff.mpr fun entry hm => ?_
  have hne : name ≠ entry.1 := fun e =>
    h (List.mem_map.mpr ⟨entry, List.mem_reverse.mp hm, e.symm⟩)
  exact bne_iff_ne.mpr hne

omit [RandomSource ρ] in
/-- A name stands for a sequence if it has that definition. -/
lemma referent?_eq_inl {s : State σ ρ α} {name : String} {body : List (Rule Nat)} :
    s.referent? name = some (.inl body) ↔ s.definitions.get? name = some body := by
  unfold State.referent?
  cases s.definitions.get? name with
  | some known => simp
  | none => simp

omit [RandomSource ρ] in
/-- What names stand for after some have been given. -/
lemma referent?_insertAll {s t : State σ ρ α} {l : List (String × List (Rule Nat))}
    (hscene : t.scene = s.scene) (h : t.definitions = s.definitions.insertAll l) (name : String) :
    t.referent? name = ((l.reverse.lookup name).map Sum.inl).or (s.referent? name) := by
  unfold State.referent?
  rw [hscene, h, Bindings.get?_insertAll]
  cases l.reverse.lookup name <;> rfl

variable [Scalar α]

/-- The state in which the grammar of a directive is prepared. -/
def State.labelled (s : State σ ρ α) (leaf : NodeId) (text : String) (grammar : Grammar) :
    State σ ρ α :=
  { s.noted (.directive leaf text) with freshLabel := (Rule.numberAll grammar s.freshLabel).2 }

/-- What preparing a directive fails with is recorded, and that is all. -/
lemma runDirective_records (env : Surroundings σ ρ α) {leaf : NodeId} {text : String}
    {grammar : Grammar} (hg : Grammar.parse? text = some grammar) {s t : State σ ρ α} {f : Fault}
    (e : prepareAll (Rule.numberAll grammar s.freshLabel).1 (s.labelled leaf text grammar) = .error f t) :
    Ends (runDirective env leaf text) s (fun _ u => u = t.record env.settings f) (fun _ _ => False) := by
  unfold runDirective
  rw [hg]
  refine Ends.bind (Ends.modify (Ends.get (Ends.bind (Ends.modify ?_))))
  apply prepared_ends
  exact Ends.of_error e rfl

/-- A directive that is a grammar with a defect ends without a fault and leaves all but drawn values, its
first defect and the names that it gave before as it was. -/
theorem runDirective_rejected (deaf : Host.Deaf σ) (env : Surroundings σ ρ α) (leaf : NodeId)
    {text : String} {grammar : Grammar} {d : Defect} (hg : Grammar.parse? text = some grammar)
    (hd : Rule.defectOf? grammar = some d) (s : State σ ρ α) :
    ∃ t, runDirective env leaf text s = .ok () t ∧ d.fault.category = .structural ∧
      t = { s with
        random := t.random, definitions := t.definitions, settled := t.settled,
        freshLabel := t.freshLabel, errors := s.errors.push d.fault } ∧
      -- The names that were given before the defect stay given.
      (∀ name, t.referent? name =
        ((named? grammar s.freshLabel name).map Sum.inl).or (s.referent? name)) ∧
      (∀ name, name ∉ Rule.registeredNames grammar → t.referent? name = s.referent? name) ∧
      -- So all names keep their meaning just if each given one had the same before.
      ((∀ name, t.referent? name = s.referent? name) ↔
        ∀ name body, named? grammar s.freshLabel name = some body →
          s.definitions.get? name = some body) := by
  obtain ⟨u, e, readied, errors, names⟩ := prepareAll_rejected deaf
    ((Rule.defectOf?_numberAll grammar s.freshLabel).trans hd) (s.labelled leaf text grammar)
  have told : s.labelled leaf text grammar =
      { s with freshLabel := (Rule.numberAll grammar s.freshLabel).2 } := by
    unfold State.labelled State.noted
    rw [deaf]
  rw [told] at readied errors names
  obtain ⟨_, t, ends, rfl⟩ := (runDirective_records env hg e).exists_ok
  have recorded := record_defect env.settings u d
  unfold Readied at readied
  have still : u.scene = s.scene := by rw [readied]
  have hscene := (u.scene_record env.settings d.fault).trans still
  have given : (u.record env.settings d.fault).definitions = u.definitions := by rw [recorded]
  have referents : ∀ name, (u.record env.settings d.fault).referent? name =
      ((named? grammar s.freshLabel name).map Sum.inl).or (s.referent? name) :=
    referent?_insertAll hscene (given.trans names)
  refine ⟨_, ends, by cases d <;> rfl, ?rest, referents, ?other, ?same⟩
  case rest =>
    rw [recorded, readied, errors]
  case other =>
    intro name hname
    rw [referents, named?_eq_none hname]
    rfl
  case same =>
    constructor
    · intro h name body hbody
      have e := (referents name).symm.trans (h name)
      rw [hbody] at e
      exact referent?_eq_inl.mp e.symm
    · intro h name
      rw [referents]
      cases hbody : named? grammar s.freshLabel name with
      | none => rfl
      | some body => exact (referent?_eq_inl.mpr (h name body hbody)).symm

/-- A directive that calls an empty sequence trees, and has a definition without a name after that. -/
def felling : String :=
  "[\x7b\"op\":\"define\",\"name\":\"trees\",\"body\":[]\x7d,\x7b\"op\":\"define\",\"name\":\"\",\"body\":[]\x7d]"

/-- A state in the orchard. -/
def inOrchard : State (Scene Float) Random.Scripted Float :=
  State.started ⟨#[], 0⟩ 0 2 1 Scene.orchard

/-- In the orchard, such a directive is rejected, and names other than trees are left alone. -/
theorem runDirective_rejected_orchard :
    ∃ grammar, Grammar.parse? felling = some grammar ∧
      Rule.defectOf? grammar = some .unnamedDefinition ∧
      ∃ t, runDirective (outermost {}) 1 felling inOrchard = .ok () t ∧
        t.errors = #[Defect.unnamedDefinition.fault] ∧ t.scene = Scene.orchard ∧
        t.referent? "pines" = inOrchard.referent? "pines" := by
  have found : ((Grammar.parse? felling).bind Rule.defectOf?).any
      (· matches .unnamedDefinition) := by decide +kernel
  have names : (Grammar.parse? felling).all ("pines" ∉ Rule.registeredNames ·) := by decide +kernel
  have wrong : ∀ {d? : Option Defect}, d?.any (· matches .unnamedDefinition) →
      d? = some .unnamedDefinition
    | some .unnamedDefinition, _ => rfl
  obtain ⟨grammar, read, wrong⟩ := Option.bind_eq_some_iff.mp (wrong found)
  obtain ⟨t, ends, -, rest, -, other, -⟩ :=
    runDirective_rejected Scene.deaf (outermost {}) 1 read wrong inOrchard
  rw [read] at names
  exact ⟨grammar, read, wrong, t, ends, by rw [rest]; rfl, by rw [rest]; rfl,
    other "pines" (of_decide_eq_true names)⟩

/-- Trees stand for the template before it, and for an empty sequence after it. -/
theorem felling_renames :
    inOrchard.referent? "trees" = some (.inr [1]) ∧
      (match runDirective (outermost {}) 1 felling inOrchard with
      | .ok _ t => t.errors.size == 1 && (t.definitions.get? "trees").any List.isEmpty
      | .error _ _ => false) = true :=
  ⟨rfl, by decide +kernel⟩

end Derivation

end SceneGrammar
