import SceneGrammar.Proofs.Derivation.Atomic
import SceneGrammar.Proofs.Derivation.Settle

/-!
# Constants for fixed values

A fixed value that is settled comes to a constant and draws nothing, so that a rule may as well have the
constant in its place. `Rule.freeze` puts it there, and carrying out what it returns goes the same way
(`Ledger.executeAll_freeze`). So do instances in which no fixed value is left of any directive and any
definition (`Ledger.placeWithin_frozen`).
-/

namespace SceneGrammar

namespace Expr
variable (settled : Bindings Nat Literal)

mutual
/-- An argument with constants for its fixed values, an arbitrary one for one that is not settled. -/
def freeze : Expr Nat → Expr Nat
  | .literal v => .literal v
  | .range least most => .range least most
  | .weighted entries => .weighted (freezeEntries entries)
  | .fixed label _ => .literal ((settled.get? label).getD default)
/-- Entries with constants for their fixed values. -/
def freezeEntries : List (Literal × Expr Nat) → List (Literal × Expr Nat)
  | [] => []
  | (w, e) :: rest => (w, e.freeze) :: freezeEntries rest
end

mutual
/-- No fixed value is left. -/
lemma labels_freeze : ∀ e : Expr Nat, (e.freeze settled).labels = []
  | .literal _ | .range _ _ | .fixed _ _ => rfl
  | .weighted entries => entriesLabels_freeze entries
/-- Entries with constants have no fixed values. -/
lemma entriesLabels_freeze : ∀ entries : List (Literal × Expr Nat),
    entriesLabels (freezeEntries settled entries) = []
  | [] => rfl
  | (w, e) :: rest => by
    simp only [freezeEntries, entriesLabels, labels_freeze e, entriesLabels_freeze rest, List.append_nil]
end

end Expr

namespace Rule
variable (settled : Bindings Nat Literal)

mutual
/-- A rule with constants for its fixed values. What is in definitions stays. -/
def freeze : Rule Nat → Rule Nat
  | .define name body => .define name body
  | .exportLink e => .exportLink (e.freeze settled)
  | .block body => .block (freezeAll body)
  | .times e body => .times (e.freeze settled) (freezeAll body)
  | .place e => .place (e.freeze settled)
  | .copySibling e mirror => .copySibling (e.freeze settled) mirror
  | .addLink e => .addLink (e.freeze settled)
  | .goTo e => .goTo (e.freeze settled)
  | .forLinks pattern body => .forLinks pattern (freezeAll body)
  | .maybe e body => .maybe (e.freeze settled) (freezeAll body)
  | .adjust channel e absolute => .adjust channel (e.freeze settled) absolute
/-- Rules with constants for their fixed values. -/
def freezeAll : List (Rule Nat) → List (Rule Nat)
  | [] => []
  | r :: rs => r.freeze :: freezeAll rs
end

end Rule

namespace Derivation

variable {σ ρ α β γ : Type}

/-! ## Actions that go the same way -/

section
variable {act act' : Action σ ρ α β} {s : State σ ρ α}

/-- Actions that are one in a new scope are one in a scope of their own. -/
lemma inScope_eq (h : act s.pushScope = act' s.pushScope) : inScope act s = inScope act' s := by
  unfold inScope
  rw [h]

/-- Actions that are one inside a definition are one as its body. -/
lemma captured_eq [Host σ α] (h : act s.openCapture.atLevel = act' s.openCapture.atLevel) :
    captured act s = captured act' s := by
  unfold captured
  rw [h]

/-- Actions that are one an instance deeper are one as an instance. -/
lemma nested_eq [Host σ α] (h : act s.descend.atLevel = act' s.descend.atLevel) :
    nested act s = nested act' s := by
  unfold nested
  rw [h]

/-- Actions that are one are so when their faults are tolerated. -/
lemma tolerate_eq {act act' : Action σ ρ α Unit} (h : act s = act' s) (settings : Settings) :
    tolerate settings act s = tolerate settings act' s := by
  unfold tolerate
  rw [h]

/-- Actions that are one where an invariant holds are one when repeated. -/
lemma iterate_eq {act act' : Action σ ρ α Unit} {I : State σ ρ α → Prop} (hs : I s)
    (h : ∀ t, I t → act t = act' t ∧ Ends act t (fun _ => I) (fun _ _ => True)) (n : Nat) :
    iterate n act s = iterate n act' s := by
  induction n generalizing s with
  | zero => rfl
  | succ n ih =>
    obtain ⟨e, hact⟩ := h s hs
    exact bind_eq e (hact.imp (fun _ _ ht => ih ht) (fun _ _ => id))

/-- What goes on from the state is one if it is so from this state. -/
lemma get_bind_eq {k k' : State σ ρ α → Action σ ρ α γ} (h : k s s = k' s s) :
    (MonadState.get >>= k) s = (MonadState.get >>= k') s := h

/-- A link is taken, or it is not. -/
lemma requireLink_eq_of {k k' : LinkPlace α → Action σ ρ α γ} (subject : String)
    (h : ∀ place, k place s = k' place s) :
    (requireLink subject >>= k) s = (requireLink subject >>= k') s := by
  refine bind_eq rfl ((requireLink_ends subject s).imp ?_ (fun _ _ _ => trivial))
  rintro place _ ⟨rfl, -⟩
  exact h place

/-- What needs an object is one if it is so at every object. -/
lemma requireObject_eq_of {k k' : NodeId → Action σ ρ α γ} (subject : String)
    (h : ∀ n, k n s = k' n s) :
    (requireObject subject >>= k) s = (requireObject subject >>= k') s := by
  refine bind_eq rfl ((requireObject_ends subject s).imp ?_ (fun _ _ _ => trivial))
  rintro n _ ⟨rfl, -⟩
  exact h n

end

/-! ## Drawing -/

variable [Host σ α]

/-- A host that does not listen does not change the state when it is told something. -/
lemma State.noted_eq (deaf : Host.Deaf σ) (e : Event α) (s : State σ ρ α) : s.noted e = s := by
  unfold State.noted
  rw [deaf]

/-- So it does not matter what the host is told. -/
lemma note_bind_eq (deaf : Host.Deaf σ) {k k' : Action σ ρ α γ} {s : State σ ρ α} (h : k s = k' s)
    (e e' : Event α) : (note e >>= fun _ => k) s = (note e' >>= fun _ => k') s := by
  show k (s.noted e) = k' (s.noted e')
  rw [State.noted_eq deaf, State.noted_eq deaf, h]

variable [RandomSource ρ]

/-- A fixed value that is settled comes to a constant, and nothing is drawn. -/
lemma resolve_fixed {label : Nat} {v : Literal} {s : State σ ρ α} (h : s.settled.get? label = some v)
    (e : Expr Nat) : resolve (.fixed label e) s = .ok v (s.noted (.recalled label v)) := by
  have told : (get >>= fun _ => note (.recalled label v) >>= fun _ => pure v : Action σ ρ α Literal) s
      = .ok v (s.noted (.recalled label v)) := rfl
  simp only [resolve]
  refine Eq.trans (get_bind_eq ?_) told
  rw [h]

omit [Host σ α] in
/-- Choosing among weights settles nothing. -/
lemma chooseEntry_ends (weights : List Float) (s : State σ ρ α) :
    Ends (chooseEntry weights) s (fun _ t => t.settled = s.settled) (fun _ _ => True) := by
  unfold chooseEntry
  apply Ends.bind
  refine Ends.modifyGet ?_
  dsimp only
  split
  · exact Ends.pure rfl
  · exact Ends.throw trivial

/-- Entries with constants have the same weights. -/
lemma entryWeights_freeze (settled : Bindings Nat Literal) (entries : List (Literal × Expr Nat)) :
    entryWeights (Expr.freezeEntries settled entries) = entryWeights entries := by
  unfold entryWeights
  induction entries with
  | nil => rfl
  | cons entry rest ih => simp only [Expr.freezeEntries, List.map_cons, ih]

variable {settled : Bindings Nat Literal}

mutual
/-- Drawing a constant in the place of a fixed value comes to the same. -/
theorem resolve_freeze (deaf : Host.Deaf σ) : ∀ (e : Expr Nat) (s : State σ ρ α),
    settled.Covers e.labels → settled.Within s.settled → resolve e s = resolve (e.freeze settled) s
  | .literal _, s, _, _ | .range _ _, s, _, _ => rfl
  | .weighted entries, s, he, h => by
    simp only [Expr.freeze, resolve, entryWeights_freeze]
    refine bind_eq rfl ((chooseEntry_ends _ s).imp (fun i t ht => ?_) (fun _ _ => id))
    exact resolveEntry_freeze deaf entries i t he (ht ▸ h)
  | .fixed label e, s, he, h => by
    obtain ⟨v, hv⟩ := he label List.mem_cons_self
    rw [resolve_fixed (h label v hv) e, State.noted_eq deaf]
    simp only [Expr.freeze, resolve, hv]
    rfl
/-- A weighted choice gives the same with constants for what is settled. -/
theorem resolveEntry_freeze (deaf : Host.Deaf σ) :
    ∀ (entries : List (Literal × Expr Nat)) (i : Nat) (s : State σ ρ α),
      settled.Covers (Expr.entriesLabels entries) → settled.Within s.settled →
        resolveEntry entries i s = resolveEntry (Expr.freezeEntries settled entries) i s
  | [], i, s, _, _ => rfl
  | (w, e) :: rest, 0, s, he, h => by
    simp only [Expr.freezeEntries, resolveEntry]
    exact resolve_freeze deaf e s (Bindings.covers_append_iff.mp he).1 h
  | (w, e) :: rest, i + 1, s, he, h => by
    simp only [Expr.freezeEntries, resolveEntry]
    exact resolveEntry_freeze deaf rest i s (Bindings.covers_append_iff.mp he).2 h
end

/-- An argument gives the same with constants for what is settled. -/
lemma resolveAs_freeze (deaf : Host.Deaf σ) (shape : Shape) (subject : String) {e : Expr Nat}
    {s : State σ ρ α} (he : settled.Covers e.labels) (h : settled.Within s.settled) :
    resolveAs shape subject e s = resolveAs shape subject (e.freeze settled) s :=
  bind_left_eq (resolve_freeze deaf e s he h)

/-- What follows a preparation. -/
lemma prepared_eq {rules : List (Rule Nat)} {settings : Settings} {act act' : Action σ ρ α Unit}
    {s : State σ ρ α} (h : Ends (prepareAll rules) s (fun _ t => act t = act' t) (fun _ _ => True)) :
    (fun s => match prepareAll rules s with
      | .ok _ s => act s
      | .error f s => .ok () (s.record settings f) : Action σ ρ α Unit) s =
    (fun s => match prepareAll rules s with
      | .ok _ s => act' s
      | .error f s => .ok () (s.record settings f) : Action σ ρ α Unit) s := by
  dsimp only
  cases e : prepareAll rules s with
  | ok _ t => exact h.ok e
  | error f t => rfl

/-! ## Carrying out rules -/

variable {T : σ → Bindings Nat Literal → Prop} {s : State σ ρ α}

omit [Host σ α] [RandomSource ρ] in
/-- What follows an action that keeps what is settled. -/
lemma Keeps.bind_eq {act : Action σ ρ α β} {k k' : β → Action σ ρ α γ}
    (ha : Obeys (fun _ => Keeps T) act s) (hk : ∀ b t, Keeps T s t → k b t = k' b t) :
    (act >>= k) s = (act >>= k') s :=
  SceneGrammar.bind_eq rfl (Ends.imp ha hk fun _ _ _ => trivial)

/-- Drawing an argument of a rule, and what follows. -/
lemma Ledger.argument_eq (h : Ledger T) (deaf : Host.Deaf σ) (subject : String) {r : Rule Nat}
    {shape : Shape} {e : Expr Nat} {k k' : shape.Value → Action σ ρ α γ} (hs : Kept T s)
    (hr : settled.Covers r.labels) (he : r.argument? = some (shape, e))
    (hm : settled.Within s.settled) (hk : ∀ v t, Keeps T s t → k v t = k' v t) :
    (Derivation.resolveAs shape subject e >>= k) s =
      (Derivation.resolveAs shape subject (e.freeze settled) >>= k') s := by
  have covers := hr.subset (Rule.labels_subset_of_argument? he)
  have drawn := Ledger.obeys hs (h.resolveAs shape subject (covers.mono hm))
  exact bind_eq (resolveAs_freeze deaf shape subject covers hm) (Ends.imp drawn hk fun _ _ _ => trivial)

variable [Scalar α] {settings : Settings} {place place' : String → Action σ ρ α Unit}

/-- A sequence in which all fixed values are settled keeps what is settled. -/
lemma Ledger.executeAll_keeps (h : Ledger T) (hp : Regime.Inner (Kept T) (fun _ => Keeps T) place)
    {rs : List (Rule Nat)} (hrs : s.settled.Covers (Rule.labelsOf rs)) (hs : Kept T s) :
    Obeys (fun _ => Keeps T) (executeAll ⟨settings, place⟩ rs) s := by
  refine (h.regime (ρ := ρ) (α := α) settings).executeAll hp rs s (fun r hr => ?_) hs
  exact hrs.subset (Rule.labels_subset_labelsOf hr)

/-- Two ways of placing names that are one where a run is ready, and keep it so. -/
structure Same (T : σ → Bindings Nat Literal → Prop) (place place' : String → Action σ ρ α Unit) :
    Prop where
  eq : ∀ name s, Kept T s → place name s = place' name s
  inner : Regime.Inner (Kept T) (fun _ => Keeps T) place

mutual
/-- A rule goes the same way with constants in the place of fixed values. -/
theorem Ledger.execute_freeze (h : Ledger T) (deaf : Host.Deaf σ) (hp : Same T place place') :
    ∀ (r : Rule Nat) (s : State σ ρ α), settled.Covers r.labels → Kept T s → settled.Within s.settled →
      execute ⟨settings, place⟩ r s = execute ⟨settings, place'⟩ (r.freeze settled) s
  | .define name body, s, _, _, _ => rfl
  | .exportLink e, s, hr, hs, hm => by
    simp only [Rule.freeze, execute]
    refine requireLink_eq_of _ fun place => ?_
    exact h.argument_eq deaf _ hs hr rfl hm fun _ _ _ => rfl
  | .block body, s, hr, hs, hm => by
    have hbody := hr.subset (Rule.labelsOf_body_subset _)
    simp only [Rule.freeze, execute]
    exact inScope_eq (Ledger.executeAll_freeze h deaf hp body _ hbody (hs.read (.pushScope s)) hm)
  | .times e body, s, hr, hs, hm => by
    have hbody := hr.subset (Rule.labelsOf_body_subset _)
    simp only [Rule.freeze, execute]
    refine h.argument_eq deaf _ hs hr rfl hm fun n t ht => inScope_eq ?_
    -- The values that were settled before the first round are still so before each other one.
    refine iterate_eq (I := fun u => Kept T u ∧ settled.Within u.settled)
      ⟨ht.now.read (.pushScope t), hm.trans ht.settled⟩ (fun u hu => ⟨?_, ?_⟩) n
    · exact Ledger.executeAll_freeze h deaf hp body u hbody hu.1 hu.2
    · refine Ends.imp (h.executeAll_keeps hp.inner (hbody.mono hu.2) hu.1) ?_ (fun _ _ _ => trivial)
      exact fun _ v hv => ⟨hv.now, hu.2.trans hv.settled⟩
  | .place e, s, hr, hs, hm => by
    simp only [Rule.freeze, execute]
    refine requireLink_eq_of _ fun place => ?_
    exact h.argument_eq deaf _ hs hr rfl hm fun name t ht => hp.eq name t ht.now
  | .copySibling e mirror, s, hr, hs, hm => by
    simp only [Rule.freeze, execute]
    refine requireLink_eq_of _ fun place => ?_
    exact h.argument_eq deaf _ hs hr rfl hm fun _ _ _ => rfl
  | .addLink e, s, hr, hs, hm => by
    simp only [Rule.freeze, execute]
    refine requireObject_eq_of _ fun n => ?_
    exact h.argument_eq deaf _ hs hr rfl hm fun _ _ _ => rfl
  | .goTo e, s, hr, hs, hm => by
    simp only [Rule.freeze, execute]
    exact h.argument_eq deaf _ hs hr rfl hm fun _ _ _ => rfl
  | .forLinks source body, s, hr, hs, hm => by
    have compiled := (h.regime settings).compile hs (hr.mono hm)
    have hbody := hr.subset (Rule.labelsOf_body_subset _)
    simp only [Rule.freeze, execute]
    refine requireObject_eq_of _ fun n => Keeps.bind_eq compiled fun pattern t ht => ?_
    refine get_bind_eq ?_
    refine forM_eq (I := fun u => Kept T u ∧ settled.Within u.settled) ⟨ht.now, hm.trans ht.settled⟩
      fun link _ u hu => ?_
    have entered := h.enterLink (hu.1.read (.pushScope u)) link
    constructor
    · refine inScope_eq (Keeps.bind_eq entered fun _ v hv => ?_)
      exact Ledger.executeAll_freeze h deaf hp body v hbody hv.now (hu.2.trans hv.settled)
    · have regime := h.regime (ρ := ρ) (α := α) settings
      refine Ends.imp (regime.inScope hu.1 (Obeys.bind Keeps.trans entered fun _ v hv => ?_)) ?_
        (fun _ _ _ => trivial)
      · exact h.executeAll_keeps hp.inner (hbody.mono (hu.2.trans hv.settled)) hv.now
      · exact fun _ v hv => ⟨hv.now, hu.2.trans hv.settled⟩
  | .maybe e body, s, hr, hs, hm => by
    have hbody := hr.subset (Rule.labelsOf_body_subset _)
    simp only [Rule.freeze, execute]
    refine h.argument_eq deaf _ hs hr rfl hm fun ratio t ht => ?_
    have drawn : Obeys (fun _ => Keeps T) uniform t :=
      Ends.modifyGet (.of_reads ht.now (.of_books rfl rfl rfl rfl))
    refine Keeps.bind_eq drawn fun x u hu => ?_
    by_cases hx : x ≤ ratio
    · simp only [if_pos hx]
      refine inScope_eq (Ledger.executeAll_freeze h deaf hp body _ hbody ?_ ?_)
      · exact hu.now.read (.pushScope u)
      · exact hm.trans (ht.settled.trans hu.settled)
    · simp only [if_neg hx]
  | .adjust channel e absolute, s, hr, hs, hm => by
    simp only [Rule.freeze, execute]
    rw [Rule.word_adjust channel (e.freeze settled) e]
    refine requireLink_eq_of _ fun place => ?_
    exact h.argument_eq deaf _ hs hr rfl hm fun _ _ _ => rfl
/-- So does a sequence. -/
theorem Ledger.executeAll_freeze (h : Ledger T) (deaf : Host.Deaf σ) (hp : Same T place place') :
    ∀ (rs : List (Rule Nat)) (s : State σ ρ α), settled.Covers (Rule.labelsOf rs) → Kept T s →
      settled.Within s.settled →
        executeAll ⟨settings, place⟩ rs s =
          executeAll ⟨settings, place'⟩ (Rule.freezeAll settled rs) s
  | [], s, _, _, _ => rfl
  | r :: rs, s, hr, hs, hm => by
    rw [Rule.labelsOf_cons] at hr
    obtain ⟨hr, hrs⟩ := Bindings.covers_append_iff.mp hr
    have regime := h.regime (ρ := ρ) (α := α) settings
    have first := regime.tolerated hs
      (regime.execute hp.inner r s (hr.mono hm) hs)
    simp only [Rule.freezeAll, executeAll]
    refine get_bind_eq (note_bind_eq deaf ?_ _ _)
    refine bind_eq (tolerate_eq (Ledger.execute_freeze h deaf hp r s hr hs hm) settings) ?_
    refine Ends.imp first ?_ (fun _ _ _ => trivial)
    exact fun _ t ht => Ledger.executeAll_freeze h deaf hp rs t hrs ht.now (hm.trans ht.settled)
end

/-! ## Instances -/

/-- Carries out rules with constants for their fixed values. -/
def executeFrozen (env : Surroundings σ ρ α) (rules : List (Rule Nat)) : Action σ ρ α Unit := fun s =>
  executeAll env (Rule.freezeAll s.settled rules) s

namespace Frozen

/-- Carries out the directive of a leaf, with constants for its fixed values once it is prepared. -/
def runDirective (env : Surroundings σ ρ α) (leaf : NodeId) (text : String) : Action σ ρ α Unit := do
  note (.directive leaf text)
  match Grammar.parse? text with
  | none => env.place (Text.trim text)
  | some grammar =>
    let (rules, fresh) := Rule.numberAll grammar (← get).freshLabel
    modify fun s => { s with freshLabel := fresh }
    fun s =>
      match prepareAll rules s with
      | .ok _ s => executeFrozen env rules s
      | .error f s => .ok () (s.record env.settings f)

/-- Carries out the directive of a leaf at the leaf, unless it has been carried out before. -/
def expandLeaf (env : Surroundings σ ρ α) (leaf : NodeId) (text : String) : Action σ ρ α Unit := do
  if (← get).expanded.contains leaf then pure ()
  else
    modify fun s => { s with expanded := leaf :: s.expanded }
    inScope do
      enterLink leaf
      runDirective env leaf text

/-- Carries out the directives of the leaves below the object at the cursor. -/
def expandLeaves (env : Surroundings σ ρ α) : Action σ ρ α Unit := do
  let s ← get
  match s.cursor.object? with
  | none => pure ()
  | some object =>
    (directives env.settings s.scene object).forM fun (leaf, text) => expandLeaf env leaf text

/-- Places what a name stands for, with constants for the fixed values of a definition. -/
def placeName (env : Surroundings σ ρ α) (name : String) : Action σ ρ α Unit := do
  let s ← get
  match s.definitions.get? name with
  | some body =>
    note (.expanded name body)
    captured (executeFrozen env body)
    expandLeaves env
  | none =>
    match Host.topLevel? s.scene name with
    | some members =>
      placeTemplate env.settings name members
      expandLeaves env
    | none => pure ()

/-- Places what a name stands for, with constants and with at most `levels` instances inside each
other. -/
def placeWithin (settings : Settings) : Nat → String → Action σ ρ α Unit
  | 0, _ => pure ()
  | levels + 1, name => do
    if settings.maxDepth.toNat < (← get).depth then pure ()
    else nested (placeName ⟨settings, placeWithin settings levels⟩ name)

end Frozen

namespace Ledger
variable (h : Ledger T) (deaf : Host.Deaf σ) (hp : Same T place place')
include h deaf hp

/-- Rules that are settled are carried out as their frozen forms. -/
lemma executeFrozen_eq {rs : List (Rule Nat)} (hs : Kept T s)
    (hrs : s.settled.Covers (Rule.labelsOf rs)) :
    executeAll ⟨settings, place⟩ rs s = executeFrozen ⟨settings, place'⟩ rs s :=
  h.executeAll_freeze deaf hp rs s hrs hs (.refl _)

/-- The directive of a leaf is carried out as its frozen form. -/
lemma runDirective_eq (hs : Kept T s) (leaf : NodeId) (text : String) :
    runDirective ⟨settings, place⟩ leaf text s = Frozen.runDirective ⟨settings, place'⟩ leaf text s := by
  unfold runDirective Frozen.runDirective
  refine note_bind_eq deaf ?_ _ _
  cases Grammar.parse? text with
  | none => exact hp.eq _ s hs
  | some grammar =>
    refine get_bind_eq ?_
    refine prepared_eq (Ends.imp (h.prepareNew hs grammar) ?_ (fun _ _ _ => trivial))
    exact fun _ t ht => h.executeFrozen_eq deaf hp ht.1.now ht.2

/-- A leaf is expanded with constants as without. -/
lemma expandLeaf_eq (hs : Kept T s) (leaf : NodeId) (text : String) :
    expandLeaf ⟨settings, place⟩ leaf text s = Frozen.expandLeaf ⟨settings, place'⟩ leaf text s := by
  unfold expandLeaf Frozen.expandLeaf
  refine get_bind_eq ?_
  split
  · rfl
  · let t : State σ ρ α := { s with expanded := leaf :: s.expanded }
    have ht : Kept T t := hs.read (.of_books rfl rfl rfl rfl)
    have entered := h.enterLink (ht.read (.pushScope t)) leaf
    refine inScope_eq (s := t) (Keeps.bind_eq entered fun _ u hu => ?_)
    exact h.runDirective_eq deaf hp hu.now leaf text

/-- The leaves below an object are expanded with constants as without. -/
lemma expandLeaves_eq (hs : Kept T s) :
    expandLeaves ⟨settings, place⟩ s = Frozen.expandLeaves ⟨settings, place'⟩ s := by
  unfold expandLeaves Frozen.expandLeaves
  refine get_bind_eq ?_
  cases s.cursor.object? with
  | none => rfl
  | some object =>
    refine forM_eq hs fun p hl t ht => ⟨h.expandLeaf_eq deaf hp ht p.1 p.2, ?_⟩
    have regime := h.regime (ρ := ρ) (α := α) settings
    let u : State σ ρ α := { t with expanded := p.1 :: t.expanded }
    have mark : Keeps T t u := .of_reads ht (.of_books rfl rfl rfl rfl)
    have entered := h.enterLink (mark.now.read (.pushScope u)) p.1
    have found : ∃ v o, Kept T v ∧ (p.1, p.2) ∈ directives settings v.scene o := ⟨s, object, hs, hl⟩
    refine Ends.imp (regime.expandLeaf hp.inner ht found mark entered) ?_ (fun _ _ _ => trivial)
    exact fun _ _ hv => hv.now

/-- A name is placed with constants as without. -/
lemma placeName_eq (hs : Kept T s) (name : String) :
    placeName ⟨settings, place⟩ name s = Frozen.placeName ⟨settings, place'⟩ name s := by
  have regime := h.regime (ρ := ρ) (α := α) settings
  unfold placeName Frozen.placeName
  refine get_bind_eq ?_
  cases hname : s.definitions.get? name with
  | some body =>
    have covers := hs.definitions name body hname
    have opened := hs.read (h.openCapture s)
    have expanded : Obeys (fun _ => Keeps T) (executeAll ⟨settings, place⟩ body)
        s.openCapture.atLevel := h.executeAll_keeps hp.inner covers opened
    refine note_bind_eq deaf (bind_eq ?_ (captured_ends ?_)) _ _
    · exact captured_eq (h.executeFrozen_eq deaf hp opened covers)
    · refine Ends.imp expanded (fun _ t ht => ?_) (fun _ _ _ => trivial)
      exact h.expandLeaves_eq deaf hp (ht.now.read (h.closeCapture t))
  | none =>
    dsimp only
    cases hmembers : Host.topLevel? s.scene name with
    | some members =>
      exact Keeps.bind_eq (regime.placeTemplate hs hname hmembers) fun _ t ht =>
        h.expandLeaves_eq deaf hp ht.now
    | none => rfl

omit hp in
/-- Instances go the same way with constants for all fixed values in them. -/
theorem placeWithin_frozen (settings : Settings) : ∀ levels,
    Same (ρ := ρ) T (placeWithin settings levels) (Frozen.placeWithin settings levels)
  | 0 => ⟨fun _ _ _ => rfl, (h.regime settings).placeWithin 0⟩
  | levels + 1 => by
    have inner := placeWithin_frozen settings levels
    refine ⟨fun name s hs => ?_, (h.regime settings).placeWithin (levels + 1)⟩
    unfold placeWithin placeInstance Frozen.placeWithin
    refine get_bind_eq ?_
    split
    · rfl
    · exact nested_eq (h.placeName_eq deaf inner (hs.read (h.descend s)) name)

omit hp in
/-- So does a sequence whose last fault is recorded. -/
lemma executeToEnd_frozen (settings : Settings) (levels : Nat) {rs : List (Rule Nat)}
    (hrs : settled.Covers (Rule.labelsOf rs)) (hs : Kept T s) (hm : settled.Within s.settled) :
    executeToEnd ⟨settings, placeWithin settings levels⟩ rs s =
      executeToEnd ⟨settings, Frozen.placeWithin settings levels⟩ (Rule.freezeAll settled rs) s := by
  unfold executeToEnd
  rw [h.executeAll_freeze deaf (h.placeWithin_frozen deaf settings levels) rs s hrs hs hm]

end Ledger

end Derivation

end SceneGrammar
