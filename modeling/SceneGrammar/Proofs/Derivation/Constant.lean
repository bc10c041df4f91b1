import SceneGrammar.Proofs.Derivation.Freeze
import SceneGrammar.Proofs.Derivation.View
import SceneGrammar.Proofs.Scene.Keep
import SceneGrammar.Proofs.Scene.Refusal
import SceneGrammar.Proofs.Scene.Watched

/-!
# Fixed values are constants

Once a grammar or a directive has been prepared, every fixed value in it is a constant, for as long as
the run goes on (`generate_constant`): the run is one in which nothing that is carried out has a fixed
value any more. Watched on its way, a run settles no value twice, begins no rule before all fixed values
in it are settled, and uses no other value for them.
-/

namespace SceneGrammar

namespace Event
variable {α : Type}

/-- What an event says of fixed values fits with what was told before it: no value is settled that was
settled before, what is used was settled, and so was all that is in a rule which begins. -/
def Follows (past : List (Event α)) : Event α → Prop
  | .settled label _ => ∀ v, .settled label v ∉ past
  | .recalled label v => .settled label v ∈ past
  | .rule _ r _ _ _ => ∀ label ∈ r.labels, ∃ v, .settled label v ∈ past
  | _ => True

/-- What was told of fixed values, the last first, where those in a map have been settled. -/
structure Account (told : List (Event α)) (settled : Bindings Nat Literal) : Prop where
  follows : ∀ later e past, told = later ++ e :: past → e.Follows past
  settled : ∀ label v, .settled label v ∈ told ↔ settled.get? label = some v

namespace Account
variable {told : List (Event α)} {settled : Bindings Nat Literal}

lemma start : Account ([] : List (Event α)) ∅ where
  follows later e past h := by simp at h
  settled label v := by simp

/-- One more event. -/
lemma report (h : Account told settled) {e : Event α} (he : e.Follows told) :
    ∀ later e' past, e :: told = later ++ e' :: past → e'.Follows past := by
  intro later e' past heq
  cases later with
  | nil =>
    obtain ⟨rfl, rfl⟩ := List.cons.inj heq
    exact he
  | cons _ later => exact h.follows later e' past (List.cons.inj heq).2

lemma settle (h : Account told settled) {label : Nat} (hl : settled.get? label = none) (v : Literal) :
    Account (.settled label v :: told) (settled.insert label v) where
  follows := by
    refine h.report fun v' hm => ?_
    rw [(h.settled label v').mp hm] at hl
    cases hl
  settled label' v' := by
    rw [Bindings.get?_insert, List.mem_cons, h.settled label' v', Event.settled.injEq]
    by_cases heq : label = label'
    · subst heq
      simp [hl, eq_comm]
    · simp [heq, Ne.symm heq]

/-- An event that settles nothing. -/
lemma other (h : Account told settled) {e : Event α} (hne : ∀ label v, e ≠ .settled label v)
    (he : e.Follows told) : Account (e :: told) settled where
  follows := h.report he
  settled label v := by
    rw [List.mem_cons, or_iff_right (Ne.symm (hne label v)), h.settled label v]

/-- A value that was used is the one that was settled. -/
lemma recalled (h : Account told settled) {label : Nat} {v : Literal} (hm : .recalled label v ∈ told) :
    settled.get? label = some v := by
  obtain ⟨later, past, rfl⟩ := List.append_of_mem hm
  have before : .settled label v ∈ past := h.follows later _ past rfl
  exact (h.settled label v).mp (List.mem_append_right _ (List.mem_cons_of_mem _ before))

end Account

end Event

namespace Derivation

variable {σ ρ α : Type} [Host σ α]

/-! ## Ledgers -/

/-- A host may have nothing of what is settled. -/
lemma ledger_none : Ledger (fun (_ : σ) _ => True) where
  lasts _ := ⟨fun _ _ _ => Ends.of_forall (fun _ _ => trivial) (fun _ _ => trivial)⟩
  settle _ _ _ := trivial
  use _ _ := trivial
  rule _ _ _ _ _ _ := trivial
  other _ _ := trivial

omit [Host σ α] in
/-- A run that is ready is so with such a host. -/
lemma Ready.kept {s : State σ ρ α} (h : Ready s) : Kept (fun _ _ => True) s := ⟨h, trivial⟩

/-- A host that is watched has an account of what is settled. -/
lemma ledger_account : Ledger (fun (w : Watched σ α) settled => Event.Account w.told settled) where
  lasts settled := Watched.told_lasts fun told => Event.Account told settled
  settle v h hl := h.settle hl v
  use {_ _ label v} h hv := h.other (fun _ _ => nofun) ((h.settled label v).mpr hv)
  rule _ _ _ _ h hr := by
    refine h.other (fun _ _ => nofun) fun label hl => ?_
    obtain ⟨v, hv⟩ := hr label hl
    exact ⟨v, (h.settled label v).mpr hv⟩
  other {s settled e} he h := by
    cases e with
    | rule => exact absurd trivial he
    | settled => exact absurd trivial he
    | recalled => exact absurd trivial he
    | _ => exact h.other (fun _ _ => nofun) trivial

/-! ## Whole runs -/

section
variable [Scalar α] [RandomSource ρ] {T : σ → Bindings Nat Literal → Prop} (settings : Settings)
  (grammar : Grammar) (start : NodeId) (world : Matrix4 α) {scene : σ} (random : ρ)

omit [Host σ α] [RandomSource ρ] in
/-- A run starts with nothing settled and nothing defined. -/
lemma started_ready (fresh : Nat) (scene : σ) : Ready (State.started random fresh start world scene) where
  taken label v e := by
    have e : (∅ : Bindings Nat Literal).get? label = some v := e
    simp at e
  definitions name body e := by
    have e : (∅ : Bindings String (List (Rule Nat))).get? name = some body := e
    simp at e

/-- A run is ready to carry out its grammar once this has been prepared, and all fixed values in rules
without defects have been settled. -/
lemma Ledger.started (h : Ledger T) (hT : T scene ∅) :
    let rules := (Rule.numberAll grammar 0).1
    let prepared := Derivation.prepareEach settings rules
      (State.started random (Rule.numberAll grammar 0).2 start world scene)
    Kept T prepared ∧ (prepared.errors = #[] → prepared.settled.Covers (Rule.labelsOf rules)) := by
  intro rules prepared
  let started : State σ ρ α := State.started random (Rule.numberAll grammar 0).2 start world scene
  have ready : Kept T started := ⟨started_ready start world random _ scene, hT⟩
  have free : Free (Rule.labelsOf rules) started :=
    (started_ready start world random 0 scene).free grammar
  obtain ⟨now, covers⟩ := h.prepareEach settings ready free
  refine ⟨now.now, fun empty label hlabel => ?_⟩
  obtain ⟨r, hr, hlabel⟩ := List.mem_flatMap.mp hlabel
  exact covers r hr (prepareEach_sound rfl empty r hr) label hlabel

/-- Carrying out a grammar keeps what is settled. -/
lemma Ledger.derive (h : Ledger T) (hT : T scene ∅) :
    Kept T (Derivation.derive (outermost settings) (Rule.numberAll grammar 0).1
      (State.started random (Rule.numberAll grammar 0).2 start world scene)) := by
  have regime := h.regime (ρ := ρ) (α := α) settings
  obtain ⟨now, covers⟩ := h.started settings grammar start world random hT
  refine regime.derive (fun s f hs => hs.read (.record settings s f))
    (regime.placeWithin (settings.maxDepth.toNat + 1)) now fun empty r hr => ?_
  exact (covers (Array.isEmpty_iff.mp empty)).subset (Rule.labels_subset_labelsOf hr)

/-- A watched run has an account of what it settles. -/
lemma generate_account (host : σ) :
    ∃ settled, Event.Account
      (generate settings grammar start ({ host } : Watched σ α) random).2.1.told settled := by
  let Fresh : Watched σ α → Prop := fun w => Event.Account w.told ∅
  let Accounts : Watched σ α → Prop := fun w => ∃ settled, Event.Account w.told settled
  have silent : Host.Lasts Fresh := Watched.told_lasts fun told => Event.Account told ∅
  refine generateIn_leaves (P := Fresh) (Q := Accounts) (fun _ h => ⟨_, h⟩) ?_
    (silent.offer (.world start)) (fun world w hw => ?_) Event.Account.start
  · exact fun n => Watched.told_request (Event.Account · ∅) (Host.remove n)
  · exact ⟨_, (ledger_account.derive settings grammar start world random hw).ledger⟩

end

variable [Scalar α] [RandomSource ρ]

/-- What is constant from a state of a run on: the fixed values that are settled, and with them
arguments, directives and sequences that have no others. -/
structure Constant (settings : Settings) (s : State σ ρ α) : Prop where
  /-- A fixed value that is settled comes to a constant, and nothing is drawn for it. -/
  value : ∀ label e v, s.settled.get? label = some v → resolve (.fixed label e) s = .ok v s
  /-- An argument may as well have the constants in the place of its fixed values. -/
  argument : ∀ settled (e : Expr Nat), settled.Within s.settled → settled.Covers e.labels →
    (e.freeze settled).labels = [] ∧ resolve e s = resolve (e.freeze settled) s
  /-- The fixed values of a directive have labels of their own, none of which is settled before it is
  prepared, and all of which are settled then if it has no defect. -/
  directive : ∀ directive : Grammar,
    let (rules, fresh) := Rule.numberAll directive s.freshLabel
    (Rule.labelsOf rules).Nodup ∧ (∀ label ∈ Rule.labelsOf rules, s.settled.get? label = none) ∧
      Ends (prepareAll rules) { s with freshLabel := fresh }
        (fun _ t => Ready t ∧ s.settled.Within t.settled ∧ t.settled.Covers (Rule.labelsOf rules))
        (fun _ t => Ready t ∧ s.settled.Within t.settled)
  /-- A sequence may as well have the constants in the place of its fixed values, and so may what it
  places, however deep in instances it is carried out; and it keeps what is settled. -/
  sequence : ∀ levels settled (rules : List (Rule Nat)), settled.Within s.settled →
    settled.Covers (Rule.labelsOf rules) →
      let env : Surroundings σ ρ α := ⟨settings, placeWithin settings levels⟩
      let frozen : Surroundings σ ρ α := ⟨settings, Frozen.placeWithin settings levels⟩
      executeAll env rules s = executeAll frozen (Rule.freezeAll settled rules) s ∧
        Ends (executeAll env rules) s
          (fun _ t => Ready t ∧ s.settled.Within t.settled)
          (fun _ t => Ready t ∧ s.settled.Within t.settled)

/-- On a host that does not listen, all of this is constant from any state on that is ready. -/
lemma Ready.constant (deaf : Host.Deaf σ) (settings : Settings) {s : State σ ρ α} (hs : Ready s) :
    Constant settings s where
  value label e v hv := by rw [resolve_fixed hv e, State.noted_eq deaf]
  argument settled e within covers := ⟨e.labels_freeze settled, resolve_freeze deaf e s covers within⟩
  directive directive := by
    have free := hs.free directive
    refine ⟨free.nodup, free.unsettled, ?_⟩
    refine Ends.imp (ledger_none.prepareNew hs.kept directive) ?_ ?_
    · exact fun _ t ht => ⟨ht.1.now.toReady, ht.1.settled, ht.2⟩
    · exact fun _ t ht => ⟨ht.now.toReady, ht.settled⟩
  sequence levels settled rules within covers := by
    have same := (ledger_none (σ := σ) (α := α)).placeWithin_frozen (ρ := ρ) deaf settings levels
    refine ⟨ledger_none.executeAll_freeze deaf same rules s covers hs.kept within, ?_⟩
    refine Ends.imp (ledger_none.executeAll_keeps same.inner (covers.mono within) hs.kept) ?_ ?_
    · exact fun _ t ht => ⟨ht.now.toReady, ht.settled⟩
    · exact fun _ t ht => ⟨ht.now.toReady, ht.settled⟩

/-- Fixed values are constants: a run settles them before it begins their rules, settles none twice, and is
the run that has the constants in their place. -/
theorem generate_constant (settings : Settings) (grammar : Grammar) (start : NodeId) (scene : Scene α)
    (random : ρ) :
    let run := generate settings grammar start scene random
    let watched := generate settings grammar start ({ host := scene } : Watched (Scene α) α) random
    let rules := (Rule.numberAll grammar 0).1
    run = (watched.1, watched.2.1.host, watched.2.2) ∧
      -- A watched run uses what was settled, in directives and definitions as well.
      (∃ settled, Event.Account watched.2.1.told settled ∧
        ∀ label v, .recalled label v ∈ watched.2.1.told → settled.get? label = some v) ∧
      (Rule.labelsOf rules).Nodup ∧
      (∀ base world, clearStart settings start scene = .ok () base → base.worldOf start = .ok world →
        let prepared := prepareEach settings rules
          (State.started random (Rule.numberAll grammar 0).2 start world base)
        -- An accepted grammar is settled before it is carried out.
        Ready prepared ∧ (prepared.errors = #[] →
          prepared.settled.Covers (Rule.labelsOf rules) ∧
            let frozen := ⟨settings, Frozen.placeWithin settings (settings.maxDepth.toNat + 1)⟩
            let ended := executeToEnd frozen (Rule.freezeAll prepared.settled rules) prepared
            run = (ended.generation, ended.scene, ended.random))) ∧
      -- The same holds of directives and definitions, and settled values stay so.
      ∀ s : State (Scene α) ρ α, Ready s → Constant settings s := by
  intro run watched rules
  refine ⟨?view, ?account, ?labels, ?prepared, fun s hs => hs.constant Scene.deaf settings⟩
  case view => exact generate_view Watched.view settings grammar start { host := scene } random
  case account =>
    obtain ⟨settled, account⟩ := generate_account settings grammar start random scene
    exact ⟨settled, account, fun _ _ => account.recalled⟩
  case labels =>
    obtain ⟨k, -, hl⟩ := Rule.labelsOf_numberAll grammar 0
    exact hl ▸ List.nodup_range'
  case prepared =>
    intro base world eclear hworld prepared
    have eworld : Host.world start base = .ok world base := Scene.world_eq hworld
    have hrun : run = _ := generate_eq settings grammar random eclear eworld
    obtain ⟨ready, covers⟩ :=
      (ledger_none (σ := Scene α)).started settings grammar start world random trivial
    refine ⟨ready.toReady, fun empty => ⟨covers empty, ?_⟩⟩
    intro frozen ended
    have carried : derive (outermost settings) rules
        (State.started random (Rule.numberAll grammar 0).2 start world base) =
          executeToEnd (outermost settings) rules prepared := derive_eq_executeToEnd empty
    have same : executeToEnd (outermost settings) rules prepared = ended :=
      ledger_none.executeToEnd_frozen Scene.deaf settings _ (covers empty) ready (.refl _)
    rw [hrun, carried, same]

/-- A run that places as many trees in each of two rounds as a fixed value says, whose own choice is
among values that may be fixed. It takes two numbers to settle them and then one for each tree. -/
theorem generate_constant_orchard :
    let count : Expr Unit := .weighted [(.int 1, .fixed () (.range (.int 1) (.int 2))),
      (.int 1, .literal (.int 1))]
    let grammar : Grammar :=
      [.times (.literal (.int 2)) [.times (.fixed () count) [.block [.place (.literal (.str "trees"))]]]]
    let scene : Scene Float := Scene.orchard
    let random : Random.Scripted := { uniforms := #[] }
    let run := generate {} grammar 2 scene random
    let told := (generate {} grammar 2 ({ host := scene } : Watched (Scene Float) Float) random).2.1.told
    let rules := (Rule.numberAll grammar 0).1
    run.1.generated = [3, 4] ∧ run.2.2.taken = 4 ∧
      (told.countP fun | .recalled 0 _ => true | _ => false) = 2 ∧
      (∀ v, .recalled 0 v ∈ told → v.int? = some 1) ∧
      ∃ world, scene.worldOf 2 = .ok world ∧
        (prepareEach {} rules (State.started random 2 2 world scene)).settled.Covers [0, 1] := by
  intro count grammar scene random run told rules
  obtain ⟨-, ⟨settled, account, used⟩, -, begins, -⟩ := generate_constant {} grammar 2 scene random
  refine ⟨by decide +kernel, by decide +kernel, by decide +kernel, fun v hv => ?_, ?_⟩
  · -- What was settled under the label is the one value that was used.
    have values : (told.filterMap fun | .settled label v => some (label, v.int?) | _ => none) =
        [(0, some 1), (1, some 1)] := by decide +kernel
    obtain ⟨e, he, hvalue⟩ := List.mem_filterMap.mp (values ▸ List.mem_cons_self)
    cases e with
    | settled label w =>
      obtain ⟨rfl, hw⟩ := Prod.mk.inj (Option.some.inj hvalue)
      have same := (used 0 v hv).symm.trans ((account.settled 0 w).mp he)
      exact Option.some.inj same ▸ hw
    | _ => cases hvalue
  · have hstart : scene.Live 2 := ⟨_, rfl⟩
    obtain ⟨world, hworld⟩ := Scene.orchard_wellFormed.worldOf_ok hstart
    obtain ⟨-, covers⟩ := begins scene world rfl hworld
    refine ⟨world, hworld, (covers ?_).1⟩
    exact Array.ext' (prepareEach_errors rules (State.started random 2 2 world scene))

end Derivation

end SceneGrammar
