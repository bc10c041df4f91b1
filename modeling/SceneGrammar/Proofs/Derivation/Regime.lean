import SceneGrammar.Derivation.Place
import SceneGrammar.Proofs.Derivation.Calm

/-!
# What runs obey under an invariant

The recursion through rules, definitions and directives, done once. A `Regime` relates the states before
and after a part of a run and the fault that ended it, if there was one, as long as an invariant holds of
the states and the rules that are carried out are of some kind, which may depend on the values that are
settled. It asks for the single effects of rules,
where it may use the invariant, and that scopes, instances and definitions pass invariant and relation
on. Then every rule of the kind obeys the relation, however deep instances nest: `Regime.execute`,
`Regime.executeAll` and `Regime.placeWithin`.
-/

namespace SceneGrammar.Derivation

variable {σ ρ α β γ : Type}

/-! ## Reading the cursor -/

/-- Asking for a link changes nothing and fails at any other cursor. -/
lemma requireLink_ends (subject : String) (s : State σ ρ α) :
    Ends (requireLink subject) s (fun place t => t = s ∧ s.cursor = .link place)
      (fun f t => t = s ∧ f = .precondition subject .link s.cursor.kind) := by
  unfold requireLink
  apply Ends.get
  cases e : s.cursor with
  | link place => exact Ends.pure ⟨rfl, rfl⟩
  | object n => exact Ends.throw ⟨rfl, rfl⟩
  | aliased n aliases => exact Ends.throw ⟨rfl, rfl⟩

/-- At a link, the link is taken. -/
lemma requireLink_eq (subject : String) {s : State σ ρ α} {place : LinkPlace α}
    (h : s.cursor = .link place) : requireLink subject s = .ok place s := by
  cases s
  cases h
  rfl

/-- Asking for an object changes nothing and fails at any other cursor. -/
lemma requireObject_ends (subject : String) (s : State σ ρ α) :
    Ends (requireObject subject) s (fun n t => t = s ∧ s.cursor.object? = some n)
      (fun f t => t = s ∧ f = .precondition subject .object s.cursor.kind) := by
  unfold requireObject
  apply Ends.get
  dsimp only
  cases s.cursor.object? with
  | some n => exact Ends.pure ⟨rfl, rfl⟩
  | none => exact Ends.throw ⟨rfl, rfl⟩

/-! ## Brackets around actions -/

section
variable {act : Action σ ρ α β} {s : State σ ρ α} {Q : β → State σ ρ α → Prop}
  {E : Fault → State σ ρ α → Prop}

/-- What ends in a new scope ends outside when the scope is left. -/
lemma inScope_ends (h : Ends act s.pushScope (fun b t => Q b t.popScope) (fun f t => E f t.popScope)) :
    Ends (inScope act) s Q E := by
  unfold Ends at h ⊢
  unfold inScope
  cases e : act s.pushScope <;> rw [e] at h <;> exact h

variable [Host σ α]

/-- What ends inside a definition ends outside when the definition is closed. -/
lemma captured_ends (h : Ends act s.openCapture.atLevel (fun b t => Q b t.closeCapture.atLevel)
      (fun f t => E f t.closeCapture.atLevel)) :
    Ends (captured act) s Q E := by
  unfold Ends at h ⊢
  unfold captured
  cases e : act s.openCapture.atLevel <;> rw [e] at h <;> exact h

/-- What ends an instance deeper ends outside when the run comes up. -/
lemma nested_ends (h : Ends act s.descend.atLevel (fun b t => Q b t.ascend.atLevel)
      (fun f t => E f t.ascend.atLevel)) :
    Ends (nested act) s Q E := by
  unfold Ends at h ⊢
  unfold nested
  cases e : act s.descend.atLevel <;> rw [e] at h <;> exact h

end

/-- A fault that is not fatal is recorded, and the action counts as done. -/
lemma tolerate_ends {act : Action σ ρ α Unit} {s : State σ ρ α} {settings : Settings}
    {Q : Unit → State σ ρ α → Prop} {E : Fault → State σ ρ α → Prop}
    (h : Ends act s Q fun f t =>
      (f.fatal = true → E f t) ∧ (f.fatal = false → Q () (t.record settings f))) :
    Ends (tolerate settings act) s Q E := by
  unfold Ends at h ⊢
  unfold tolerate
  cases e : act s with
  | ok b t => rw [e] at h; exact h
  | error f t =>
    rw [e] at h
    cases hf : f.fatal with
    | true => simpa [hf] using h.1 hf
    | false => simpa [hf] using h.2 hf

/-- Recording a fault changes the list of faults only. -/
lemma record_eq (settings : Settings) (s : State σ ρ α) (f : Fault) :
    ∃ errors, s.record settings f = { s with errors } := by
  unfold State.record
  split
  · exact ⟨s.errors, rfl⟩
  · exact ⟨s.errors.push f, rfl⟩

@[simp] lemma State.scene_record (settings : Settings) (s : State σ ρ α) (f : Fault) :
    (s.record settings f).scene = s.scene := by
  obtain ⟨errors, e⟩ := record_eq settings s f
  rw [e]

/-- A defect is fatal, so it is recorded whether the settings are strict or not. -/
lemma record_defect (settings : Settings) (s : State σ ρ α) (d : Defect) :
    s.record settings d.fault = { s with errors := s.errors.push d.fault } := by
  simp [State.record, d.fatal_fault]

/-- A sequence that is prepared and then used, where a defect is recorded instead. -/
lemma prepared_ends [Host σ α] [RandomSource ρ] {rules : List (Rule Nat)} {settings : Settings}
    {act : Action σ ρ α Unit} {s : State σ ρ α} {Q : Unit → State σ ρ α → Prop}
    {E : Fault → State σ ρ α → Prop}
    (h : Ends (prepareAll rules) s (fun _ t => Ends act t Q E)
      (fun f t => Q () (t.record settings f))) :
    Ends (fun s => match prepareAll rules s with
      | .ok _ s => act s
      | .error f s => .ok () (s.record settings f)) s Q E := by
  unfold Ends at h ⊢
  cases e : prepareAll rules s <;> simpa only [e] using h

/-! ## Regimes -/

variable [Scalar α] [Host σ α] [RandomSource ρ]

/-- A leaf has been entered to carry out its directive, which was found below an object in a state of
some kind: from another such state in which it had not been marked, after marking it and in a scope of
its own. -/
structure Visiting (settings : Settings) (I : State σ ρ α → Prop) (leaf : NodeId) (text : String)
    (s : State σ ρ α) : Prop where
  found : ∃ t object, I t ∧ (leaf, text) ∈ directives settings t.scene object
  entered : ∃ t, I t ∧ leaf ∉ t.expanded ∧
    enterLink leaf (State.pushScope { t with expanded := leaf :: t.expanded }) = .ok () s

omit [RandomSource ρ] in
/-- A leaf is visited from states of more kinds. -/
lemma Visiting.mono {settings : Settings} {I I' : State σ ρ α → Prop} {leaf : NodeId} {text : String}
    {s : State σ ρ α} (h : Visiting settings I leaf text s) (hI : ∀ t, I t → I' t) :
    Visiting settings I' leaf text s := by
  obtain ⟨⟨t, object, ht, hl⟩, u, hu, unmarked, e⟩ := h
  exact ⟨⟨t, object, hI t ht, hl⟩, u, hI u hu, unmarked, e⟩

/-- A relation that the effects of rules satisfy and that what is around rules passes on, where an
invariant `I` holds and the rules are of the kind `G`, given what is settled. -/
structure Regime (settings : Settings) (G : Bindings Nat Literal → Rule Nat → Prop)
    (I : State σ ρ α → Prop) (R : Option Fault → State σ ρ α → State σ ρ α → Prop) : Prop where
  refl : ∀ {s}, I s → R none s s
  trans : ∀ {o s t u}, R none s t → R o t u → R o s u
  keeps : ∀ {o s t}, I s → R o s t → I t
  /-- A rule stays of the kind. -/
  stays : ∀ {s t r}, I s → R none s t → G s.settled r → G t.settled r := by intros; assumption
  /-- The rules inside a rule are of the kind of the rule. -/
  body : ∀ {settled r}, G settled r → ∀ q ∈ r.body, G settled q
  /-- So are those of the definitions. -/
  known : ∀ {s name body}, I s → s.definitions.get? name = some body → ∀ q ∈ body, G s.settled q
  /-- A fault that is not fatal is recorded. -/
  tolerate : ∀ {f s t}, I s → f.fatal = false → R (some f) s t → R none s (t.record settings f)
  misplaced : ∀ {s} subject expected, I s →
    R (some (.precondition subject expected s.cursor.kind)) s s
  draw : ∀ {s r shape e}, I s → G s.settled r → r.argument? = some (shape, e) →
    Obeys R (resolveAs shape r.word e) s
  compile : ∀ {s source body}, I s → G s.settled (.forLinks source body) → Obeys R (compile source) s
  random : ∀ {s} random, I s → R none s { s with random }
  rule : ∀ {s r}, I s → G s.settled r → R none s (s.noted (.rule s.depth r s.cursor s.scopes s.captures))
  define : ∀ {s name body}, I s → G s.settled (.define name body) →
    R none s { s.noted (.defined name body) with
      definitions := s.definitions.insert name body }
  publish : ∀ {s place} name, I s → s.cursor = .link place →
    R none s ((s.noted (.exported name place.node s.captures.length)).publish name place.node)
  adjust : ∀ {s place} offset, I s → s.cursor = .link place →
    R none s { s with cursor := .link { place with offset } }
  copySiblings : ∀ {s place} name mirror, I s → s.cursor = .link place →
    Obeys R (copySiblingChildren settings place name mirror) s
  addLink : ∀ {s n} name, I s → s.cursor.object? = some n → Obeys R (addLinkTo settings n name) s
  goTo : ∀ {s name link}, I s → findLink? settings s.scene s.cursor name = some link →
    Obeys R (enterLink link) s
  push : ∀ {s}, I s → I s.pushScope
  pop : ∀ {o s t}, I s → R o s.pushScope t → R o s t.popScope
  /-- A link that is seen is entered later, in a scope of its own. -/
  visit : ∀ {s t link accept}, I s → R none s t →
    link ∈ visibleLinks settings s.scene s.cursor accept → Obeys R (enterLink link) t.pushScope
  /-- A template is placed if the name of its collection has no definition. -/
  placeTemplate : ∀ {s collection members}, I s → s.definitions.get? collection = none →
    Host.topLevel? s.scene collection = some members →
      Obeys R (placeTemplate settings collection members) s
  /-- So is a leaf with a directive, which is marked before. -/
  visitLeaf : ∀ {s t object leaf text}, I s → R none s t → s.cursor.object? = some object →
    (leaf, text) ∈ directives settings s.scene object →
    R none t { t with expanded := leaf :: t.expanded } ∧
      Obeys R (enterLink leaf) (State.pushScope { t with expanded := leaf :: t.expanded })
  /-- A directive that is a name. -/
  named : ∀ {s leaf text}, I s → Visiting settings I leaf text s → Grammar.parse? text = none →
    R none s (s.noted (.directive leaf text))
  /-- A directive that is a grammar. -/
  read : ∀ {s leaf text grammar rules fresh}, I s → Visiting settings I leaf text s →
    Grammar.parse? text = some grammar → Rule.numberAll grammar s.freshLabel = (rules, fresh) →
    Ends (prepareAll rules) { s.noted (.directive leaf text) with freshLabel := fresh }
      (fun _ t => R none s t ∧ ∀ r ∈ rules, G t.settled r) (fun f t => R none s (t.record settings f))
  descend : ∀ {s}, I s → s.depth ≤ settings.maxDepth.toNat → I s.descend.atLevel
  /-- An instance that is no definition. -/
  ascend : ∀ {o s t}, I s → s.depth ≤ settings.maxDepth.toNat → R o s.descend.atLevel t →
    R o s t.ascend.atLevel
  expanded : ∀ {s name body}, I s → s.definitions.get? name = some body →
    R none s (s.noted (.expanded name body))
  openCapture : ∀ {s}, I s → I s.openCapture.atLevel
  closeCapture : ∀ {s t}, I s → R none s.openCapture.atLevel t → I t.closeCapture.atLevel
  /-- An instance of a definition, and what follows the definition there. -/
  expand : ∀ {o s t u v}, I s → s.depth ≤ settings.maxDepth.toNat → R none s.descend.atLevel t →
    R none t.openCapture.atLevel u → R o u.closeCapture.atLevel v → R o s v.ascend.atLevel
  /-- An instance of a definition that ends in a fault. -/
  abort : ∀ {f s t u}, I s → s.depth ≤ settings.maxDepth.toNat → R none s.descend.atLevel t →
    R (some f) t.openCapture.atLevel u → R (some f) s u.closeCapture.atLevel.ascend.atLevel

namespace Regime
variable {settings : Settings} {G : Bindings Nat Literal → Rule Nat → Prop} {I : State σ ρ α → Prop}
  {R : Option Fault → State σ ρ α → State σ ρ α → Prop} {s : State σ ρ α}

/-- Doing nothing obeys a regime. -/
lemma pure (h : Regime settings G I R) (hs : I s) (b : β) : Obeys R (Pure.pure b) s :=
  Ends.pure (h.refl hs)

/-- One action after another obeys a regime. -/
lemma bind (h : Regime settings G I R) (hs : I s) {act : Action σ ρ α β} {k : β → Action σ ρ α γ}
    (ha : Obeys R act s) (hk : ∀ b t, I t → Obeys R (k b) t) : Obeys R (act >>= k) s :=
  Obeys.bind h.trans ha fun b t hst => hk b t (h.keeps hs hst)

/-- Rules stay of the kind. -/
lemma all (h : Regime settings G I R) (hs : I s) {t : State σ ρ α} (hst : R none s t)
    {rs : List (Rule Nat)} (hrs : ∀ r ∈ rs, G s.settled r) : ∀ r ∈ rs, G t.settled r :=
  fun r hr => h.stays hs hst (hrs r hr)

/-- Repeating an action that obeys a regime obeys it. -/
lemma iterate (h : Regime settings G I R) {act : Action σ ρ α Unit} (hs : I s)
    (ha : ∀ t, I t → R none s t → Obeys R act t) (n : Nat) : Obeys R (Derivation.iterate n act) s := by
  induction n generalizing s with
  | zero => exact h.pure hs ()
  | succ n ih =>
    refine Obeys.bind h.trans (ha s hs (h.refl hs)) fun _ t hst => ?_
    exact ih (h.keeps hs hst) fun u hu htu => ha u hu (h.trans hst htu)

/-- An action in a scope of its own obeys a regime. -/
lemma inScope (h : Regime settings G I R) (hs : I s) {act : Action σ ρ α β}
    (ha : Obeys R act s.pushScope) : Obeys R (Derivation.inScope act) s :=
  inScope_ends (ha.imp (fun _ _ => h.pop hs) (fun _ _ => h.pop hs))

/-- An action whose faults are tolerated obeys a regime. -/
lemma tolerated (h : Regime settings G I R) (hs : I s) {act : Action σ ρ α Unit}
    (ha : Obeys R act s) : Obeys R (Derivation.tolerate settings act) s := by
  apply tolerate_ends
  refine ha.imp (fun _ _ => id) ?_
  exact fun f t hst => ⟨fun _ => hst, fun hf => h.tolerate hs hf hst⟩

/-- Taking the link at the cursor. -/
lemma link (h : Regime settings G I R) (hs : I s) (subject : String)
    {k : LinkPlace α → Action σ ρ α γ} (hk : ∀ place, s.cursor = .link place → Obeys R (k place) s) :
    Obeys R (requireLink subject >>= k) s := by
  apply Ends.bind
  refine (requireLink_ends subject s).imp ?_ ?_
  · rintro place _ ⟨rfl, e⟩
    exact hk place e
  · rintro f _ ⟨rfl, rfl⟩
    exact h.misplaced subject .link hs

/-- Taking the object at the cursor. -/
lemma object (h : Regime settings G I R) (hs : I s) (subject : String)
    {k : NodeId → Action σ ρ α γ} (hk : ∀ n, s.cursor.object? = some n → Obeys R (k n) s) :
    Obeys R (requireObject subject >>= k) s := by
  apply Ends.bind
  refine (requireObject_ends subject s).imp ?_ ?_
  · rintro n _ ⟨rfl, e⟩
    exact hk n e
  · rintro f _ ⟨rfl, rfl⟩
    exact h.misplaced subject .object hs

/-- Drawing the argument of a rule leaves the cursor where it is. -/
lemma argument (h : Regime settings G I R) (hs : I s) {r : Rule Nat} (hr : G s.settled r)
    {shape : Shape} {e : Expr Nat} (he : r.argument? = some (shape, e))
    {k : shape.Value → Action σ ρ α γ}
    (hk : ∀ v t, I t → R none s t → t.cursor = s.cursor → Obeys R (k v) t) :
    Obeys R (resolveAs shape r.word e >>= k) s := by
  apply Ends.bind
  have steady := steady_calm.resolveAs shape r.word e s
  refine ((h.draw hs hr he).and steady).imp ?_ (fun _ _ k => k.1)
  rintro v t ⟨hst, ht⟩
  exact (hk v t (h.keeps hs hst) hst ht.cursor).imp (fun _ _ => h.trans hst) (fun _ _ => h.trans hst)

/-! ## Rules -/

/-- Changing an offset obeys a regime. -/
lemma adjustOffset (h : Regime settings G I R) (hs : I s) (channel : Channel) (v : Vec3 Float)
    (absolute : Bool) : Obeys R (Derivation.adjustOffset channel v absolute) s := by
  unfold Derivation.adjustOffset
  apply Ends.modify
  split
  · next place e => exact h.adjust _ hs e
  · exact h.refl hs

/-- What an instance is placed in obeys the regime. -/
abbrev Inner (I : State σ ρ α → Prop) (R : Option Fault → State σ ρ α → State σ ρ α → Prop)
    (place : String → Action σ ρ α Unit) : Prop := ∀ name s, I s → Obeys R (place name) s

mutual
/-- Every rule of the kind obeys the regime if placing a name does. -/
theorem execute (h : Regime settings G I R) {place : String → Action σ ρ α Unit}
    (hp : Inner I R place) :
    ∀ (r : Rule Nat) (s : State σ ρ α), G s.settled r → I s →
      Obeys R (Derivation.execute ⟨settings, place⟩ r) s
  | .define name body, s, hr, hs => by
    simp only [Derivation.execute]
    exact Ends.bind (Ends.modify (Ends.modify (h.define hs hr)))
  | .exportLink e, s, hr, hs => by
    simp only [Derivation.execute]
    refine h.link hs _ fun place hplace => ?_
    refine h.argument hs hr rfl fun name t ht _ e => ?_
    unfold Derivation.publish
    exact Ends.get (Ends.bind (Ends.modify (Ends.modify (h.publish name ht (e.trans hplace)))))
  | .block body, s, hr, hs => by
    simp only [Derivation.execute]
    exact h.inScope hs (executeAll h hp body s.pushScope (h.body hr) (h.push hs))
  | .times e body, s, hr, hs => by
    simp only [Derivation.execute]
    refine h.argument hs hr rfl fun n t ht hst _ => ?_
    have hbody := h.all hs hst (h.body hr)
    refine h.inScope ht (h.iterate (h.push ht) (fun u hu htu => ?_) n)
    exact executeAll h hp body u (h.all (h.push ht) htu hbody) hu
  | .place e, s, hr, hs => by
    simp only [Derivation.execute]
    refine h.link hs _ fun _ _ => ?_
    exact h.argument hs hr rfl fun name t ht _ _ => hp name t ht
  | .copySibling e mirror, s, hr, hs => by
    simp only [Derivation.execute]
    refine h.link hs _ fun place hplace => ?_
    refine h.argument hs hr rfl fun name t ht _ e => ?_
    exact h.copySiblings name mirror ht (e.trans hplace)
  | .addLink e, s, hr, hs => by
    simp only [Derivation.execute]
    refine h.object hs _ fun n hn => ?_
    exact h.argument hs hr rfl fun name t ht _ e => h.addLink name ht (e ▸ hn)
  | .goTo e, s, hr, hs => by
    simp only [Derivation.execute]
    refine h.argument hs hr rfl fun name t ht _ _ => ?_
    apply Ends.get
    split
    · next link hlink => exact h.goTo ht hlink
    · exact h.pure ht ()
  | .forLinks source body, s, hr, hs => by
    simp only [Derivation.execute]
    refine h.object hs _ fun n _ => ?_
    refine Obeys.bind h.trans (h.compile hs hr) fun p t hst => ?_
    have ht := h.keeps hs hst
    have hbody := h.all hs hst (h.body hr)
    apply Ends.get
    -- The links were found before the first round, so a round knows of the way since then.
    refine Obeys.forM (h.refl ht) h.trans fun link hlink u htu => ?_
    have hu := h.keeps ht htu
    refine h.inScope hu (Obeys.bind h.trans (h.visit ht htu hlink) fun _ v huv => ?_)
    have hbody := h.all (h.push hu) huv (h.all ht htu hbody)
    exact executeAll h hp body v hbody (h.keeps (h.push hu) huv)
  | .maybe e body, s, hr, hs => by
    simp only [Derivation.execute]
    refine h.argument hs hr rfl fun ratio t ht hst _ => ?_
    have hbody := h.all hs hst (h.body hr)
    refine Obeys.bind h.trans (Ends.modifyGet (h.random _ ht)) fun x u htu => ?_
    have hu := h.keeps ht htu
    split
    · exact h.inScope hu (executeAll h hp body u.pushScope (h.all ht htu hbody) (h.push hu))
    · exact h.pure hu ()
  | .adjust channel e absolute, s, hr, hs => by
    simp only [Derivation.execute]
    refine h.link hs _ fun place _ => ?_
    exact h.argument hs hr rfl fun v t ht _ _ => h.adjustOffset ht channel v absolute
/-- So do sequences of such rules. -/
theorem executeAll (h : Regime settings G I R) {place : String → Action σ ρ α Unit}
    (hp : Inner I R place) : ∀ (rs : List (Rule Nat)) (s : State σ ρ α), (∀ r ∈ rs, G s.settled r) →
      I s → Obeys R (Derivation.executeAll ⟨settings, place⟩ rs) s
  | [], s, _, hs => by
    simp only [Derivation.executeAll]
    exact h.pure hs ()
  | r :: rs, s, hrs, hs => by
    simp only [Derivation.executeAll]
    apply Ends.get
    refine Obeys.bind h.trans (Ends.modify (h.rule hs (hrs r List.mem_cons_self))) fun _ t hst => ?_
    have ht := h.keeps hs hst
    obtain ⟨hr, hrs⟩ := List.forall_mem_cons.mp (h.all hs hst hrs)
    refine Obeys.bind h.trans (h.tolerated ht (execute h hp r t hr ht)) fun _ u htu => ?_
    exact executeAll h hp rs u (h.all ht htu hrs) (h.keeps ht htu)
end

/-! ## Instances -/

variable {inner : String → Action σ ρ α Unit}

/-- A directive, if what comes before placing its name or carrying out its grammar obeys the regime. -/
lemma runDirective (h : Regime settings G I R) (hp : Inner I R inner) (hs : I s) {leaf : NodeId}
    {text : String}
    (named : Grammar.parse? text = none → R none s (s.noted (.directive leaf text)))
    (read : ∀ {grammar rules fresh}, Grammar.parse? text = some grammar →
      Rule.numberAll grammar s.freshLabel = (rules, fresh) →
      Ends (prepareAll rules) { s.noted (.directive leaf text) with freshLabel := fresh }
        (fun _ t => R none s t ∧ ∀ r ∈ rules, G t.settled r)
        (fun f t => R none s (t.record settings f))) :
    Obeys R (Derivation.runDirective ⟨settings, inner⟩ leaf text) s := by
  unfold Derivation.runDirective
  cases hg : Grammar.parse? text with
  | none =>
    have told : Obeys R (note (.directive leaf text) : Action σ ρ α Unit) s :=
      Ends.modify (named hg)
    exact h.bind hs told fun _ t ht => hp _ t ht
  | some grammar =>
    refine Ends.bind (Ends.modify (Ends.get (Ends.bind (Ends.modify ?_))))
    apply prepared_ends
    refine Ends.imp (read hg rfl) ?_ (fun _ _ => id)
    rintro _ t ⟨hst, hrules⟩
    exact (h.executeAll hp _ t hrules (h.keeps hs hst)).imp (fun _ _ => h.trans hst)
      (fun _ _ => h.trans hst)

/-- Expanding a leaf obeys a regime, if marking it does. -/
lemma expandLeaf (h : Regime settings G I R) (hp : Inner I R inner) (hs : I s) {leaf : NodeId}
    {text : String} (found : ∃ t object, I t ∧ (leaf, text) ∈ directives settings t.scene object)
    (mark : R none s { s with expanded := leaf :: s.expanded })
    (enter : Obeys R (enterLink leaf) (State.pushScope { s with expanded := leaf :: s.expanded })) :
    Obeys R (Derivation.expandLeaf ⟨settings, inner⟩ leaf text) s := by
  unfold Derivation.expandLeaf
  apply Ends.get
  split
  · exact h.pure hs ()
  · next unmarked =>
    have ht := h.keeps hs mark
    apply Ends.bind
    refine Ends.modify ?_
    refine (h.inScope ht ?_).imp (fun _ _ => h.trans mark) (fun _ _ => h.trans mark)
    apply Ends.bind
    refine (Ends.and enter Ends.itself).imp ?_ (fun _ _ k => k.1)
    -- How the leaf was entered is kept for what its directive asks.
    rintro _ u ⟨htu, eu⟩
    have visiting : Visiting settings I leaf text u := ⟨found, s, hs, by simpa using unmarked, eu⟩
    have hu := h.keeps (h.push ht) htu
    exact (h.runDirective hp hu (h.named hu visiting) (h.read hu visiting)).imp
      (fun _ _ => h.trans htu) (fun _ _ => h.trans htu)

/-- Expanding the leaves below an object obeys a regime. -/
lemma expandLeaves (h : Regime settings G I R) (hp : Inner I R inner) (hs : I s) :
    Obeys R (Derivation.expandLeaves ⟨settings, inner⟩) s := by
  unfold Derivation.expandLeaves
  apply Ends.get
  split
  · exact h.pure hs ()
  · next object ho =>
    refine Obeys.forM (h.refl hs) h.trans fun p hp' t hst => ?_
    obtain ⟨mark, enter⟩ := h.visitLeaf hs hst ho hp'
    exact h.expandLeaf hp (h.keeps hs hst) ⟨s, object, hs, hp'⟩ mark enter

/-- A definition in an instance, seen from outside of the instance. -/
lemma expandBody (h : Regime settings G I R) (hp : Inner I R inner) {body : List (Rule Nat)}
    (hs : I s) (hd : s.depth ≤ settings.maxDepth.toNat) {t} (hst : R none s.descend.atLevel t)
    (hbody : ∀ q ∈ body, G t.settled q) :
    Ends (captured (Derivation.executeAll ⟨settings, inner⟩ body) >>= fun _ =>
        Derivation.expandLeaves ⟨settings, inner⟩) t
      (fun _ u => R none s u.ascend.atLevel) (fun f u => R (some f) s u.ascend.atLevel) := by
  have ht := h.keeps (h.descend hs hd) hst
  apply Ends.bind
  apply captured_ends
  -- A fault in the body ends the instance before its leaves are expanded.
  refine (h.executeAll hp body t.openCapture.atLevel hbody (h.openCapture ht)).imp ?_ ?_
  · intro _ v hb
    refine (h.expandLeaves hp (h.closeCapture ht hb)).imp ?_ ?_
    · exact fun _ _ k => h.expand hs hd hst hb k
    · exact fun _ _ k => h.expand hs hd hst hb k
  · intro f v hb
    exact h.abort hs hd hst hb

/-- A name in an instance, seen from outside of the instance. -/
lemma placeName (h : Regime settings G I R) (hp : Inner I R inner) (name : String) (hs : I s)
    (hd : s.depth ≤ settings.maxDepth.toNat) :
    Ends (Derivation.placeName ⟨settings, inner⟩ name) s.descend.atLevel
      (fun _ u => R none s u.ascend.atLevel) (fun f u => R (some f) s u.ascend.atLevel) := by
  have ht := h.descend hs hd
  unfold Derivation.placeName
  apply Ends.get
  cases hname : s.descend.atLevel.definitions.get? name with
  | some body =>
    have hst := h.expanded ht hname
    apply Ends.bind
    exact Ends.modify (h.expandBody hp hs hd hst (h.all ht hst (h.known ht hname)))
  | none =>
    dsimp only
    cases hmembers : Host.topLevel? s.descend.atLevel.scene name with
    | some members =>
      have hm : Obeys R (Derivation.placeTemplate settings name members >>= fun _ =>
          Derivation.expandLeaves ⟨settings, inner⟩) s.descend.atLevel :=
        h.bind ht (h.placeTemplate ht hname hmembers) fun _ u hu => h.expandLeaves hp hu
      exact hm.imp (fun _ _ => h.ascend hs hd) (fun _ _ => h.ascend hs hd)
    | none => exact Ends.pure (h.ascend hs hd (h.refl ht))

/-- Placing a name one instance further down. -/
lemma placeInstance (h : Regime settings G I R) (hp : Inner I R inner) :
    Inner I R (Derivation.placeInstance settings inner) := by
  intro name s hs
  unfold Derivation.placeInstance
  apply Ends.get
  split
  · exact h.pure hs ()
  · next hd => exact nested_ends (h.placeName hp name hs (Nat.le_of_not_lt hd))

/-- Placing a name, however deep instances nest. -/
theorem placeWithin (h : Regime settings G I R) :
    ∀ levels, Inner I R (Derivation.placeWithin settings levels)
  | 0 => fun _ _ hs => h.pure hs ()
  | levels + 1 => h.placeInstance (placeWithin h levels)

end Regime

end SceneGrammar.Derivation
