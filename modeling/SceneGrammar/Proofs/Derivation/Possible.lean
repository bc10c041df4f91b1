import SceneGrammar.Proofs.Derivation.Constant
import SceneGrammar.Proofs.Derivation.Diary
import SceneGrammar.Proofs.Derivation.Directive
import SceneGrammar.Proofs.Derivation.Drawable

/-!
# Drawn arguments in a run

A rule is drawable if all arguments in it are, at any depth. Preparing rules makes them drawable
(`prepareAll_drawable`), and so are all rules in definitions meanwhile, so that every rule which a run begins
is drawable by what is settled then (`generate_possible`).
-/

namespace SceneGrammar

namespace Rule

/-- A rule in which all arguments, at any depth, can be drawn by what is settled. -/
def Drawable (settled : Bindings Nat Literal) (r : Rule Nat) : Prop :=
  ∀ q ∈ r.preorder, ∀ shape e, q.argument? = some (shape, e) → e.Drawable settled

/-- A rule is drawable if its argument is and all rules inside it are. -/
lemma drawable_iff {settled : Bindings Nat Literal} {r : Rule Nat} :
    r.Drawable settled ↔ (∀ shape e, r.argument? = some (shape, e) → e.Drawable settled) ∧
      ∀ q ∈ r.body, q.Drawable settled := by
  unfold Drawable
  rw [preorder_eq, List.forall_mem_cons, preorderAll_eq]
  simp only [List.mem_flatMap, forall_exists_index, and_imp]
  exact and_congr_right' ⟨fun h q hq m hm => h m q hq hm, fun h m q hq hm => h q hq m hm⟩

/-- A rule without an argument is drawable if what is inside it is. -/
lemma drawable_of_body {settled : Bindings Nat Literal} {r : Rule Nat} (none : r.argument? = none)
    (h : ∀ q ∈ r.body, q.Drawable settled) : r.Drawable settled := by
  refine drawable_iff.mpr ⟨fun shape e he => ?_, h⟩
  rw [none] at he
  cases he

/-- A rule with an argument is drawable if this is and what is inside the rule is. -/
lemma drawable_of_argument {settled : Bindings Nat Literal} {r : Rule Nat} {shape : Shape} {e : Expr Nat}
    (argument : r.argument? = some (shape, e)) (he : e.Drawable settled)
    (h : ∀ q ∈ r.body, q.Drawable settled) : r.Drawable settled := by
  refine drawable_iff.mpr ⟨fun shape' e' he' => ?_, h⟩
  rw [argument] at he'
  cases he'
  exact he

end Rule

namespace Derivation

/-- That a rule is drawable may be known of it. -/
lemma knowledge_drawable : Knowledge Rule.Drawable where
  covers {settled r} h label hl := by
    obtain ⟨q, hq, hl⟩ := List.mem_flatMap.mp hl
    unfold Rule.ownLabels at hl
    split at hl
    case h_1 shape e he => exact (h q hq shape e he).covers label hl
    case h_2 => cases hl
  within k h q hq shape e he := (h q hq shape e he).within k
  body h := (Rule.drawable_iff.mp h).2

variable {σ ρ α β : Type} [Host σ α] [RandomSource ρ] {T : σ → Bindings Nat Literal → Prop}
  {s : State σ ρ α} {labels labels' : List Nat} {P P' : Bindings Nat Literal → Prop}

/-! ## Preparing rules -/

/-- An argument that has been prepared for a rule can be drawn. -/
lemma drawable_prepareArgument (bounded : RandomSource.Bounded ρ) (subject : String) (shape : Shape)
    {e : Expr Nat} (nodup : e.labels.Nodup) (s : State σ ρ α) :
    Ends (prepareArgument subject shape e) s (fun _ t => e.Drawable t.settled) (fun _ _ => True) := by
  have prepared := (drawable_prepareValue bounded e s nodup).imp (fun _ _ h => h.1) (fun _ _ => id)
  cases e with
  | literal v =>
    simp only [prepareArgument]
    split
    · exact Ends.pure (.literal v)
    · exact Ends.throw trivial
  | range least most => exact prepared
  | weighted entries => exact prepared
  | fixed label e => exact prepared

/-- An action that settles the values with some labels, after which something holds of what is settled, and
all rules in definitions are drawable, also if it fails. -/
def Readies (T : σ → Bindings Nat Literal → Prop) (labels : List Nat) (P : Bindings Nat Literal → Prop)
    (act : Action σ ρ α Unit) (s : State σ ρ α) : Prop :=
  Ends act s (fun _ t => (Settles T labels s t ∧ Versed Rule.Drawable T t) ∧ P t.settled)
    (fun _ t => Settles T labels s t ∧ Versed Rule.Drawable T t)

namespace Readies

omit [Host σ α] [RandomSource ρ] in
/-- Doing nothing leaves a run ready for what it is ready for. -/
lemma nothing (hs : Versed Rule.Drawable T s) (h : P s.settled) : Readies T [] P (pure ()) s :=
  Ends.pure ⟨⟨.of_reads hs.toKept (.refl s), hs⟩, h⟩

omit [Host σ α] [RandomSource ρ] in
/-- Rejecting a rule leaves a run ready. -/
lemma rejected (hs : Versed Rule.Drawable T s) (d : Defect) : Readies T labels P (reject d) s :=
  Ends.throw ⟨.of_reads hs.toKept (.refl s), hs⟩

omit [Host σ α] [RandomSource ρ] in
/-- One action after another. -/
lemma bind {act k : Action σ ρ α Unit} (ha : Readies T labels P act s)
    (within : ∀ {b c : Bindings Nat Literal}, b.Within c → P b → P c) (free : Free (labels ++ labels') s)
    (hk : ∀ t, Versed Rule.Drawable T t → Free labels' t → Readies T labels' P' k t) :
    Readies T (labels ++ labels') (fun b => P b ∧ P' b) (act >>= fun _ => k) s := by
  apply Ends.bind
  refine Ends.imp ha ?_ (fun _ t ht => ⟨ht.1.mono (List.subset_append_left _ _), ht.2⟩)
  rintro _ t ⟨⟨ht, versed⟩, holds⟩
  refine Ends.imp (hk t versed (free.right ht)) ?_ (fun _ _ hu => ⟨ht.trans hu.1, hu.2⟩)
  rintro _ u ⟨⟨hu, versed⟩, holds'⟩
  exact ⟨⟨ht.trans hu, versed⟩, within hu.settled holds, holds'⟩

omit [Host σ α] [RandomSource ρ] in
/-- What is ready for more is ready for less. -/
lemma imp {act : Action σ ρ α Unit} (h : Readies T labels P act s) (hP : ∀ b, P b → P' b) :
    Readies T labels P' act s :=
  Ends.imp h (fun _ _ k => ⟨k.1, hP _ k.2⟩) (fun _ _ => id)

/-- Preparing an argument makes it drawable. -/
lemma argument (h : Ledger T) (bounded : RandomSource.Bounded ρ) (subject : String) (shape : Shape)
    {e : Expr Nat} (hs : Versed Rule.Drawable T s) (free : Free e.labels s) :
    Readies T e.labels (fun b => e.Drawable b) (prepareArgument subject shape e) s := by
  have settles := h.prepareArgument subject shape hs.toKept free
  have drawable := drawable_prepareArgument bounded subject shape free.nodup s
  have defines := definitions_fixing.prepareArgument (s := s) subject shape e
  unfold Prepares at settles
  unfold Finds at defines
  have versed : ∀ {t}, Settles T e.labels s t → t.definitions = s.definitions →
      Versed Rule.Drawable T t := fun ht same =>
    ⟨ht.now, fun name body e q hq =>
      knowledge_drawable.within ht.settled (hs.known name body (same ▸ e) q hq)⟩
  refine ((settles.and drawable).and defines).imp ?_ ?_
  · rintro _ t ⟨⟨⟨ht, -⟩, he⟩, same, -⟩
    exact ⟨⟨ht, versed ht same⟩, he⟩
  · rintro f t ⟨⟨ht, -⟩, same, -⟩
    exact ⟨ht, versed ht same⟩

end Readies

mutual
/-- A rule that has been prepared is drawable. -/
theorem prepare_drawable (h : Ledger T) (bounded : RandomSource.Bounded ρ) :
    ∀ (r : Rule Nat) (s : State σ ρ α), Versed Rule.Drawable T s → Free r.labels s →
      Readies T r.labels (fun b => r.Drawable b) (prepare r) s
  | .define name body, s, hs, free => by
    rw [Rule.labels_eq] at free ⊢
    simp only [Derivation.prepare]
    split
    · exact .rejected hs _
    · apply Ends.bind
      refine Ends.imp (prepareAll_drawable h bounded body s hs free) ?_ (fun _ _ => id)
      rintro _ t ⟨⟨ht, versed⟩, drawable⟩
      have defined := versed.define knowledge_drawable name drawable
      refine Ends.modify ⟨⟨⟨⟨defined.toKept, ht.settled⟩, ht.new, ht.freshLabel⟩, defined⟩, ?_⟩
      exact Rule.drawable_of_body rfl drawable
  | .block body, s, hs, free => by
    rw [Rule.labels_eq] at free ⊢
    simp only [Derivation.prepare]
    exact (prepareAll_drawable h bounded body s hs free).imp fun b hb =>
      Rule.drawable_of_body (r := .block body) rfl hb
  | .times e body, s, hs, free => by
    rw [Rule.labels_eq] at free ⊢
    simp only [Derivation.prepare]
    exact ((Readies.argument h bounded _ _ hs free.left).bind (fun k he => he.within k) free fun t ht free =>
      prepareAll_drawable h bounded body t ht free).imp fun b hb =>
        Rule.drawable_of_argument (r := .times e body) rfl hb.1 hb.2
  | .forLinks source body, s, hs, free => by
    rw [Rule.labels_eq] at free ⊢
    simp only [Derivation.prepare]
    apply Ends.bind
    unfold compile
    split
    · exact Ends.pure ((prepareAll_drawable h bounded body s hs free).imp fun b hb =>
        Rule.drawable_of_body (r := .forLinks source body) rfl hb)
    · exact Readies.rejected (P := (.forLinks source body : Rule Nat).Drawable) hs (.badPattern source)
  | .maybe e body, s, hs, free => by
    rw [Rule.labels_eq] at free ⊢
    simp only [Derivation.prepare]
    exact ((Readies.argument h bounded _ _ hs free.left).bind (fun k he => he.within k) free fun t ht free =>
      prepareAll_drawable h bounded body t ht free).imp fun b hb =>
        Rule.drawable_of_argument (r := .maybe e body) rfl hb.1 hb.2
  | .exportLink e, s, hs, free | .place e, s, hs, free | .copySibling e _, s, hs, free
  | .addLink e, s, hs, free | .goTo e, s, hs, free | .adjust _ e _, s, hs, free => by
    simp only [Rule.labels_eq, Rule.body, Rule.labelsOf, List.flatMap_nil, List.append_nil] at free ⊢
    simp only [Derivation.prepare]
    exact (Readies.argument h bounded _ _ hs free).imp fun b hb =>
      Rule.drawable_of_argument rfl hb fun _ hq => absurd hq List.not_mem_nil
/-- Preparing rules makes all of them drawable. -/
theorem prepareAll_drawable (h : Ledger T) (bounded : RandomSource.Bounded ρ) :
    ∀ (rs : List (Rule Nat)) (s : State σ ρ α), Versed Rule.Drawable T s → Free (Rule.labelsOf rs) s →
      Readies T (Rule.labelsOf rs) (fun b => ∀ r ∈ rs, r.Drawable b) (prepareAll rs) s
  | [], s, hs, _ => by
    simp only [Derivation.prepareAll]
    exact .nothing hs fun _ hr => absurd hr List.not_mem_nil
  | r :: rs, s, hs, free => by
    rw [Rule.labelsOf_cons] at free ⊢
    simp only [Derivation.prepareAll]
    refine ((prepare_drawable h bounded r s hs free.left).bind knowledge_drawable.within free fun t ht free =>
      prepareAll_drawable h bounded rs t ht free).imp ?_
    exact fun b hb => List.forall_mem_cons.mpr hb
end

/-- Preparing a grammar makes the rules without defects drawable. -/
lemma prepareEach_drawable (h : Ledger T) (bounded : RandomSource.Bounded ρ) (settings : Settings)
    {rules : List (Rule Nat)} (hs : Versed Rule.Drawable T s) (free : Free (Rule.labelsOf rules) s) :
    Advances Rule.Drawable T s (prepareEach settings rules s) ∧
      ∀ r ∈ rules, r.defect? = none → r.Drawable (prepareEach settings rules s).settled := by
  induction rules generalizing s with
  | nil => exact ⟨.refl hs, fun _ hr => absurd hr List.not_mem_nil⟩
  | cons r rules ih =>
    rw [Rule.labelsOf_cons] at free
    have prepared := (prepare_drawable h bounded r s hs free.left).and (preparing_any.prepare r s)
    unfold prepareEach
    cases e : prepare r s with
    | ok _ t =>
      obtain ⟨⟨⟨ht, versed⟩, drawable⟩, -⟩ := prepared.ok e
      obtain ⟨hu, rest⟩ := ih versed (free.right ht)
      have first : Advances Rule.Drawable T s t := ⟨versed, ht.settled⟩
      exact ⟨first.trans hu,
        List.forall_mem_cons.mpr ⟨fun _ => knowledge_drawable.within hu.settled drawable, rest⟩⟩
    | error f t =>
      obtain ⟨⟨ht, versed⟩, -, d, hd, -⟩ := prepared.error e
      have recorded : Reads T t (t.record settings f) := .record settings t f
      obtain ⟨hu, rest⟩ := ih (versed.read recorded) (free.right (ht.read recorded))
      have first : Advances Rule.Drawable T s (t.record settings f) :=
        ⟨versed.read recorded, (ht.read recorded).settled⟩
      refine ⟨first.trans hu, List.forall_mem_cons.mpr ⟨fun none => ?_, rest⟩⟩
      rw [hd] at none
      cases none

/-! ## Drawing in a run -/

/-- Drawing an argument in a state gives something possible and settles nothing. If a form is asked for, the
only fault is that what the argument comes to does not have it, and there is none if all that is possible
has it. -/
structure Draws (e : Expr Nat) (s : State σ ρ α) : Prop where
  value : ∃ v t, resolve e s = .ok v t ∧ e.Possible v ∧ t.settled = s.settled
  shaped : ∀ shape subject, Ends (resolveAs shape subject e) s
    (fun x t => t.settled = s.settled ∧ ∃ v, e.Possible v ∧ shape.read? v = some x)
    (fun f _ => ∃ v, e.Possible v ∧ shape.read? v = none ∧ f = shape.fault subject v)
  certain : ∀ shape subject, (∀ v, e.Possible v → shape.accepts v = true) →
    ∃ x t, resolveAs shape subject e s = .ok x t

/-- A drawable argument draws. -/
lemma Draws.of_drawable {e : Expr Nat} (h : e.Drawable s.settled) (bounded : RandomSource.Bounded ρ) :
    Draws e s where
  value := (resolve_drawable h bounded rfl).exists_ok
  shaped := resolveAs_drawable h bounded
  certain shape subject all := by
    have never : Ends (resolveAs shape subject e) s (fun _ _ => True) (fun _ _ => False) := by
      refine (resolveAs_drawable h bounded shape subject).imp (fun _ _ _ => trivial) ?_
      rintro f t ⟨v, possible, lacks, -⟩
      have has := all v possible
      rw [Shape.accepts, lacks] at has
      cases has
    obtain ⟨x, t, drawn, -⟩ := never.exists_ok
    exact ⟨x, t, drawn⟩

/-- What is known of a rule that begins: that it is drawable by what has been settled. -/
def Event.Drawable : Event α → Watched σ α → Prop
  | .rule _ r _ _ _, w => ∃ settled, Event.Account w.told settled ∧ r.Drawable settled
  | _, _ => True

omit [RandomSource ρ] in
/-- A diary may hold that each rule which begins is drawable. -/
lemma learns_drawable (settings : Settings) :
    Diary.Learns settings Rule.Drawable
      (Versed Rule.Drawable (fun (w : Watched σ α) settled => Event.Account w.told settled) :
        State (Watched σ α) ρ α → Prop) Event.Drawable where
  rule hs hr := ⟨_, hs.ledger, hr⟩
  choice _ _ := trivial
  other e _ he := by
    cases e with
    | rule => exact absurd trivial he
    | _ => trivial

variable [Scalar α]

/-- A run is ready to carry out its grammar once this has been prepared, and its rules are drawable if none
has a defect. -/
lemma started_drawable (h : Ledger T) (bounded : RandomSource.Bounded ρ) (settings : Settings)
    (grammar : Grammar) (start : NodeId) (world : Matrix4 α) {scene : σ} (random : ρ) (hT : T scene ∅) :
    let rules := (Rule.numberAll grammar 0).1
    let prepared := prepareEach settings rules
      (State.started random (Rule.numberAll grammar 0).2 start world scene)
    Versed Rule.Drawable T prepared ∧
      (prepared.errors.isEmpty → ∀ r ∈ rules, r.Drawable prepared.settled) := by
  intro rules prepared
  have ready := started_ready (ρ := ρ) start world random 0 scene
  let started : State σ ρ α := State.started random (Rule.numberAll grammar 0).2 start world scene
  have versed : Versed Rule.Drawable T started :=
    ⟨⟨started_ready start world random _ scene, hT⟩, fun name body e => by
      have e : (∅ : Bindings String (List (Rule Nat))).get? name = some body := e
      simp at e⟩
  obtain ⟨advances, drawable⟩ := prepareEach_drawable h bounded settings versed (ready.free grammar)
  refine ⟨advances.now, fun empty r hr => drawable r hr ?_⟩
  exact prepareEach_sound rfl (Array.isEmpty_iff.mp empty) r hr

/-- At every rule in the diary of a watched run, the rule is drawable by what has been settled. -/
lemma generate_drawable (bounded : RandomSource.Bounded ρ) (settings : Settings) (grammar : Grammar)
    (start : NodeId) (host : σ) (random : ρ) :
    Diary.Shows Event.Drawable
      (generate settings grammar start ({ host := { host } } : Diary (Watched σ α) α) random).2.1 := by
  have ledger : Ledger (fun (w : Watched σ α) settled => Event.Account w.told settled) := ledger_account
  have regime := ledger.knownRegime (ρ := ρ) knowledge_drawable settings fun {s rules} hs free => by
    refine Ends.imp (prepareAll_drawable ledger bounded rules s hs free) ?_ ?_
    · exact fun _ t ht => ⟨⟨ht.1.2, ht.1.1.settled⟩, ht.2⟩
    · exact fun _ t ht => ⟨ht.2, ht.1.settled⟩
  refine regime.generate_learns (learns_drawable settings)
    (fun s f hs => hs.read (.record settings s f)) fun base world t eclear eworld => ?_
  -- Nothing is told until the grammar is prepared.
  have silent : Host.Lasts fun w : Watched σ α => Event.Account w.told ∅ :=
    Watched.told_lasts fun told => Event.Account told ∅
  have cleared := (clearStart_keeps (P := fun w : Watched σ α => Event.Account w.told ∅)
    (fun n => Watched.told_request (Event.Account · ∅) (Host.remove n)) settings start
    Event.Account.start).ok eclear
  exact started_drawable ledger bounded settings grammar start world random
    ((silent.offer (.world start) base cleared).ok eworld)

/-- Every argument of a watched run comes to something possible, at its rule and ever after, if the source
keeps to the bounds of ranges. -/
theorem generate_possible (bounded : RandomSource.Bounded ρ) (settings : Settings) (grammar : Grammar)
    (start : NodeId) (scene : Scene α) (random : ρ) :
    let run := generate settings grammar start scene random
    let watched : Diary (Watched (Scene α) α) α := { host := { host := scene } }
    let diary := generate settings grammar start watched random
    -- Prepared arguments draw so wherever what was settled then still is.
    (∀ (e : Expr Nat) (s t : State (Scene α) ρ α), e.labels.Nodup → prepareValue e s = .ok () t →
      ∀ u : State (Scene α) ρ α, t.settled.Within u.settled → Draws e u) ∧
    -- What is settled stays so whatever rules are carried out.
    (∀ levels (rules : List (Rule Nat)) (s : State (Scene α) ρ α), Ready s →
      s.settled.Covers (Rule.labelsOf rules) →
        Ends (executeAll ⟨settings, placeWithin settings levels⟩ rules) s
          (fun _ t => Ready t ∧ s.settled.Within t.settled)
          (fun _ t => Ready t ∧ s.settled.Within t.settled)) ∧
    run = (diary.1, diary.2.1.host.host, diary.2.2) ∧
    -- At every rule of the diary, and wherever what it found settled still is.
    ∀ depth r cursor scopes captures w,
      (Event.rule depth r cursor scopes captures, w) ∈ diary.2.1.entries →
        ∀ shape e, r.argument? = some (shape, e) → ∀ u : State (Scene α) ρ α,
          (∀ label v, .settled label v ∈ w.told → u.settled.get? label = some v) → Draws e u := by
  intro run watched diary
  refine ⟨fun e s t nodup accepted u within => ?prepared, fun levels rules s hs covers => ?later, ?view,
    fun depth r cursor scopes captures w hm shape e he u settled => ?entries⟩
  case prepared =>
    have drawable := ((drawable_prepareValue bounded e s nodup).ok accepted).1
    exact .of_drawable (drawable.within within) bounded
  case later =>
    exact ((hs.constant Scene.deaf settings).sequence levels s.settled rules (.refl _) covers).2
  case view =>
    have watching := generate_view Watched.view settings grammar start ({ host := scene } : Watched _ α) random
    have noting := generate_view Diary.view settings grammar start watched random
    exact watching.trans (by rw [noting])
  case entries =>
    obtain ⟨known, account, drawable⟩ :=
      generate_drawable bounded settings grammar start scene random _ _ hm
    have within : known.Within u.settled := fun label v hv =>
      settled label v ((account.settled label v).mpr hv)
    exact .of_drawable (((Rule.drawable_iff.mp drawable).1 shape e he).within within) bounded

/-- A count that is fixed once, to four or to one of what a range gives. -/
theorem generate_possible_orchard :
    let count : Expr Nat := .fixed 0 (.weighted [(.int 1, .literal (.int 4)),
      (.int 3, .fixed 1 (.range (.int 1) (.int 2)))])
    let s : State (Scene Float) Random.Stream Float :=
      { scene := Scene.orchard, random := .ofSeed 5, cursor := .object 2 }
    RandomSource.Bounded Random.Stream ∧ count.labels.Nodup ∧ ∃ t, prepareValue count s = .ok () t ∧
      ∃ n u, resolveAs .count "repeat" count t = .ok n u ∧ (n = 1 ∨ n = 2 ∨ n = 4) := by
  intro count s
  have accepted : Ends (prepareValue count) s (fun _ _ => True) (fun _ _ => False) := by
    decide +kernel
  have three : ∀ v, count.Possible v → v = .int 1 ∨ v = .int 2 ∨ v = .int 4 := by
    intro v possible
    simp only [count, Expr.possible_fixed_iff, Expr.possible_weighted_iff, List.mem_cons, Prod.mk.injEq,
      List.not_mem_nil, or_false] at possible
    obtain ⟨w, e, ⟨rfl, rfl⟩ | ⟨rfl, rfl⟩, possible⟩ := possible
    · exact .inr (.inr (Expr.possible_literal_iff.mp possible))
    · obtain ⟨low, high, n, hl, hm, least, most, rfl⟩ :=
        Expr.possible_range_iff.mp (Expr.possible_fixed_iff.mp possible)
      obtain rfl := Option.some.inj hl
      obtain rfl := Option.some.inj hm
      have ends : n.toInt = (1 : Int64).toInt ∨ n.toInt = (2 : Int64).toInt := by
        rw [Int64.le_iff_toInt_le] at least most
        have one : (1 : Int64).toInt = 1 := by decide
        have two : (2 : Int64).toInt = 2 := by decide
        lia
      cases ends with
      | inl e => exact .inl (congrArg _ (Int64.toInt_inj.mp e))
      | inr e => exact .inr (.inl (congrArg _ (Int64.toInt_inj.mp e)))
  refine ⟨Random.Stream.bounded, by decide, ?_⟩
  obtain ⟨_, t, run, -⟩ := accepted.exists_ok
  obtain ⟨prepared, -⟩ := generate_possible Random.Stream.bounded {} [] 2
    (Scene.orchard : Scene Float) s.random
  have draws := prepared count s t (by decide) run t (.refl _)
  obtain ⟨n, u, drawn⟩ := draws.certain .count "repeat" fun v possible => by
    obtain rfl | rfl | rfl := three v possible <;> rfl
  obtain ⟨-, v, possible, read⟩ := (draws.shaped .count "repeat").ok drawn
  refine ⟨t, run, n, u, drawn, ?_⟩
  obtain rfl | rfl | rfl := three v possible
  · exact .inl (Option.some.inj read).symm
  · exact .inr (.inl (Option.some.inj read).symm)
  · exact .inr (.inr (Option.some.inj read).symm)

end Derivation

end SceneGrammar
