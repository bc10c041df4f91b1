import SceneGrammar.Proofs.Derivation.Freeze

/-!
# Ways of placing names that agree

What rules do depends on the way in which names are placed no further than a run comes. If two ways agree
wherever the invariant of a regime holds, rules that obey the regime go the same way with either
(`Regime.execute_congr`), and so do the directives of leaves (`Regime.expandLeaves_congr`). In
particular a run may look names up anywhere that has what its definitions have
(`Regime.placeWithin_congr`), among which it looks them up (`placeWithinBy_definitions`).
-/

namespace SceneGrammar.Derivation

variable {σ ρ α γ : Type} [Scalar α] [Host σ α] [RandomSource ρ]

/-- Two ways of placing names that agree where an invariant holds. -/
abbrev Agree (I : State σ ρ α → Prop) (place place' : String → Action σ ρ α Unit) : Prop :=
  ∀ name s, I s → place name s = place' name s

/-! ## Looking names up -/

/-- What a name stands for, as it is looked up in a state. -/
abbrev Lookup (σ ρ α : Type) := State σ ρ α → String → Option (List (Rule Nat))

/-- Places what a name stands for, as it is looked up. -/
def placeNameBy (lookup : Lookup σ ρ α) (env : Surroundings σ ρ α) (name : String) :
    Action σ ρ α Unit := do
  let s ← get
  match lookup s name with
  | some body =>
    note (.expanded name body)
    captured (executeAll env body)
    expandLeaves env
  | none =>
    match Host.topLevel? s.scene name with
    | some members =>
      placeTemplate env.settings name members
      expandLeaves env
    | none => pure ()

/-- Places what a name stands for, as it is looked up, with at most `levels` instances inside each
other. -/
def placeWithinBy (lookup : Lookup σ ρ α) (settings : Settings) : Nat → String → Action σ ρ α Unit
  | 0, _ => pure ()
  | levels + 1, name => do
    if settings.maxDepth.toNat < (← get).depth then pure ()
    else nested (placeNameBy lookup ⟨settings, placeWithinBy lookup settings levels⟩ name)

/-- A run looks names up among its definitions. -/
theorem placeWithinBy_definitions (settings : Settings) (levels : Nat) :
    placeWithinBy (fun s name => s.definitions.get? name) settings levels =
      (placeWithin settings levels : String → Action σ ρ α Unit) := by
  induction levels with
  | zero => rfl
  | succ levels ih =>
    funext name
    simp only [placeWithinBy, placeWithin, placeInstance, ih]
    rfl

namespace Regime
variable {settings : Settings} {G : Bindings Nat Literal → Rule Nat → Prop} {I : State σ ρ α → Prop}
  {R : Option Fault → State σ ρ α → State σ ρ α → Prop} {s : State σ ρ α}
  {place place' : String → Action σ ρ α Unit}

/-! ## Rules -/

/-- Drawing the argument of a rule, and what follows. -/
lemma argument_eq (h : Regime settings G I R) (hs : I s) {r : Rule Nat} (hr : G s.settled r)
    {shape : Shape} {e : Expr Nat} (he : r.argument? = some (shape, e))
    {k k' : shape.Value → Action σ ρ α γ} (hk : ∀ v t, I t → R none s t → k v t = k' v t) :
    (resolveAs shape r.word e >>= k) s = (resolveAs shape r.word e >>= k') s :=
  bind_eq rfl (Ends.imp (h.draw hs hr he) (fun v t hst => hk v t (h.keeps hs hst) hst)
    (fun _ _ _ => trivial))

mutual
/-- A rule goes the same way. -/
theorem execute_congr (h : Regime settings G I R) (hp : Inner I R place) (agree : Agree I place place') :
    ∀ (r : Rule Nat) (s : State σ ρ α), G s.settled r → I s →
      Derivation.execute ⟨settings, place⟩ r s = Derivation.execute ⟨settings, place'⟩ r s
  | .define _ _, _, _, _ | .exportLink _, _, _, _ | .copySibling _ _, _, _, _ | .addLink _, _, _, _
  | .goTo _, _, _, _ | .adjust _ _ _, _, _, _ => by simp only [Derivation.execute]
  | .block body, s, hr, hs => by
    simp only [Derivation.execute]
    exact inScope_eq (executeAll_congr h hp agree body s.pushScope (h.body hr) (h.push hs))
  | .times e body, s, hr, hs => by
    simp only [Derivation.execute]
    refine h.argument_eq hs hr rfl fun n t ht hst => inScope_eq ?_
    have hbody := h.all hs hst (h.body hr)
    -- Each round begins where the body is still of the kind.
    refine iterate_eq (I := fun u => I u ∧ ∀ q ∈ body, G u.settled q) ⟨h.push ht, hbody⟩
      (fun u hu => ⟨executeAll_congr h hp agree body u hu.2 hu.1, ?_⟩) n
    refine Ends.imp (h.executeAll hp body u hu.2 hu.1) ?_ (fun _ _ _ => trivial)
    exact fun _ v huv => ⟨h.keeps hu.1 huv, h.all hu.1 huv hu.2⟩
  | .place e, s, hr, hs => by
    simp only [Derivation.execute]
    refine requireLink_eq_of _ fun _ => ?_
    exact h.argument_eq hs hr rfl fun name t ht _ => agree name t ht
  | .forLinks source body, s, hr, hs => by
    simp only [Derivation.execute]
    refine requireObject_eq_of _ fun _ => ?_
    refine bind_eq rfl (Ends.imp (h.compile hs hr) (fun pattern t hst => ?_) (fun _ _ _ => trivial))
    have ht := h.keeps hs hst
    have hbody := h.all hs hst (h.body hr)
    refine get_bind_eq (forM_eq (I := fun u => R none t u) (h.refl ht) fun link hl u htu => ?_)
    have hu := h.keeps ht htu
    have entered := h.visit ht htu hl
    constructor
    · refine inScope_eq (bind_eq rfl (Ends.imp entered (fun _ v huv => ?_) (fun _ _ _ => trivial)))
      have hbody := h.all (h.push hu) huv (h.all ht htu hbody)
      exact executeAll_congr h hp agree body v hbody (h.keeps (h.push hu) huv)
    · refine Ends.imp (h.inScope hu (Obeys.bind h.trans entered fun _ v huv => ?_))
        (fun _ _ => h.trans htu) (fun _ _ _ => trivial)
      have hbody := h.all (h.push hu) huv (h.all ht htu hbody)
      exact h.executeAll hp body v hbody (h.keeps (h.push hu) huv)
  | .maybe e body, s, hr, hs => by
    simp only [Derivation.execute]
    refine h.argument_eq hs hr rfl fun ratio t ht hst => ?_
    have hbody := h.all hs hst (h.body hr)
    have drawn : Obeys R uniform t := Ends.modifyGet (h.random _ ht)
    refine bind_eq rfl (Ends.imp drawn (fun x u htu => ?_) (fun _ _ _ => trivial))
    have hu := h.keeps ht htu
    split
    · exact inScope_eq (executeAll_congr h hp agree body u.pushScope (h.all ht htu hbody) (h.push hu))
    · rfl
/-- So does a sequence. -/
theorem executeAll_congr (h : Regime settings G I R) (hp : Inner I R place)
    (agree : Agree I place place') : ∀ (rs : List (Rule Nat)) (s : State σ ρ α),
      (∀ r ∈ rs, G s.settled r) → I s →
        Derivation.executeAll ⟨settings, place⟩ rs s = Derivation.executeAll ⟨settings, place'⟩ rs s
  | [], _, _, _ => by simp only [Derivation.executeAll]
  | r :: rs, s, hrs, hs => by
    simp only [Derivation.executeAll]
    have begun := h.rule hs (hrs r List.mem_cons_self)
    have ht := h.keeps hs begun
    obtain ⟨hr, hrs⟩ := List.forall_mem_cons.mp (h.all hs begun hrs)
    refine get_bind_eq (bind_eq rfl (Ends.modify ?_))
    refine bind_eq (tolerate_eq (execute_congr h hp agree r _ hr ht) settings) ?_
    refine Ends.imp (h.tolerated ht (h.execute hp r _ hr ht)) ?_ (fun _ _ _ => trivial)
    exact fun _ u htu => executeAll_congr h hp agree rs u (h.all ht htu hrs) (h.keeps ht htu)
end

/-! ## Directives and instances -/

variable (h : Regime settings G I R) (hp : Inner I R place) (agree : Agree I place place')
include h hp agree

/-- The directive of a leaf is carried out alike if names are placed alike. -/
lemma runDirective_congr {leaf : NodeId} {text : String} (hs : I s)
    (visiting : Visiting settings I leaf text s) :
    Derivation.runDirective ⟨settings, place⟩ leaf text s =
      Derivation.runDirective ⟨settings, place'⟩ leaf text s := by
  unfold Derivation.runDirective
  refine bind_eq rfl (Ends.modify ?_)
  cases hg : Grammar.parse? text with
  | none => exact agree _ _ (h.keeps hs (h.named hs visiting hg))
  | some grammar =>
    refine get_bind_eq (bind_eq rfl (Ends.modify ?_))
    refine prepared_eq (Ends.imp (h.read hs visiting hg rfl) ?_ (fun _ _ _ => trivial))
    exact fun _ t ht => h.executeAll_congr hp agree _ t ht.2 (h.keeps hs ht.1)

/-- A leaf is expanded alike if names are placed alike. -/
lemma expandLeaf_congr {leaf : NodeId} {text : String} (hs : I s)
    (found : ∃ t object, I t ∧ (leaf, text) ∈ directives settings t.scene object)
    (mark : R none s { s with expanded := leaf :: s.expanded })
    (enter : Obeys R (enterLink leaf) (State.pushScope { s with expanded := leaf :: s.expanded })) :
    Derivation.expandLeaf ⟨settings, place⟩ leaf text s =
      Derivation.expandLeaf ⟨settings, place'⟩ leaf text s := by
  unfold Derivation.expandLeaf
  refine get_bind_eq ?_
  split
  · rfl
  · next unmarked =>
    have ht := h.keeps hs mark
    refine bind_eq rfl (Ends.modify (inScope_eq (bind_eq rfl ?_)))
    refine (Ends.and enter Ends.itself).imp ?_ (fun _ _ _ => trivial)
    rintro _ u ⟨htu, eu⟩
    exact h.runDirective_congr hp agree (h.keeps (h.push ht) htu)
      ⟨found, s, hs, by simpa using unmarked, eu⟩

/-- The directives of leaves go the same way. -/
lemma expandLeaves_congr (hs : I s) :
    Derivation.expandLeaves ⟨settings, place⟩ s = Derivation.expandLeaves ⟨settings, place'⟩ s := by
  unfold Derivation.expandLeaves
  refine get_bind_eq ?_
  cases ho : s.cursor.object? with
  | none => rfl
  | some object =>
    refine forM_eq (I := fun t => R none s t) (h.refl hs) fun p hl t hst => ?_
    have ht := h.keeps hs hst
    have found : ∃ u o, I u ∧ (p.1, p.2) ∈ directives settings u.scene o := ⟨s, object, hs, hl⟩
    obtain ⟨mark, enter⟩ := h.visitLeaf hs hst ho hl
    refine ⟨h.expandLeaf_congr hp agree ht found mark enter, ?_⟩
    exact Ends.imp (h.expandLeaf hp ht found mark enter) (fun _ _ => h.trans hst) (fun _ _ _ => trivial)

omit agree hp in
/-- Placing a name that is looked up where it is found just as well. -/
lemma placeName_congr (hp : Inner I R place) (agree : Agree I place place') {lookup : Lookup σ ρ α}
    (same : ∀ t, I t → ∀ name, lookup t name = t.definitions.get? name) (name : String) (hs : I s) :
    Derivation.placeName ⟨settings, place⟩ name s = placeNameBy lookup ⟨settings, place'⟩ name s := by
  unfold Derivation.placeName placeNameBy
  refine get_bind_eq ?_
  rw [same s hs]
  cases hname : s.definitions.get? name with
  | some body =>
    have hst := h.expanded hs hname
    have ht := h.keeps hs hst
    have hbody := h.all hs hst (h.known hs hname)
    have opened := h.openCapture ht
    refine bind_eq rfl (Ends.modify ?_)
    refine bind_eq (captured_eq (h.executeAll_congr hp agree body _ hbody opened)) ?_
    refine captured_ends (Ends.imp (h.executeAll hp body _ hbody opened) ?_ (fun _ _ _ => trivial))
    exact fun _ u hu => h.expandLeaves_congr hp agree (h.closeCapture ht hu)
  | none =>
    dsimp only
    cases hmembers : Host.topLevel? s.scene name with
    | some members =>
      refine bind_eq rfl (Ends.imp (h.placeTemplate hs hname hmembers) ?_ (fun _ _ _ => trivial))
      exact fun _ t hst => h.expandLeaves_congr hp agree (h.keeps hs hst)
    | none => rfl

omit hp agree in
/-- Names may be looked up wherever they are found just as well, however deep instances nest. -/
theorem placeWithin_congr {lookup : Lookup σ ρ α}
    (same : ∀ t, I t → ∀ name, lookup t name = t.definitions.get? name) :
    ∀ levels, Agree I (Derivation.placeWithin settings levels) (placeWithinBy lookup settings levels)
  | 0 => fun _ _ _ => rfl
  | levels + 1 => by
    intro name s hs
    unfold Derivation.placeWithin Derivation.placeInstance placeWithinBy
    refine get_bind_eq ?_
    split
    · rfl
    · next hd =>
      refine nested_eq (h.placeName_congr (h.placeWithin levels) (placeWithin_congr same levels) same name ?_)
      exact h.descend hs (Nat.le_of_not_lt hd)

end Regime

end SceneGrammar.Derivation
