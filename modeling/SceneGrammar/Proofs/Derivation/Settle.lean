import SceneGrammar.Proofs.Derivation.Request
import SceneGrammar.Proofs.Derivation.Whole
import SceneGrammar.Proofs.Grammar.Label

/-!
# Settling fixed values

Preparing rules settles all fixed values in them, each once and under a label of its own
(`Ledger.prepareAll`). From then on they are read off the books: whatever a rule does, a value that has
been settled stays as it is, and only the preparation of a directive settles others (`Ledger.regime`).
A host may keep a `Ledger` of what is settled and used meanwhile.
-/

namespace SceneGrammar

namespace Bindings
variable {κ β : Type} [DecidableEq κ] {b c d : Bindings κ β}

/-- Every entry of the first map is one of the second. -/
def Within (b c : Bindings κ β) : Prop := ∀ k v, b.get? k = some v → c.get? k = some v

/-- Every one of the keys is bound. -/
def Covers (b : Bindings κ β) (keys : List κ) : Prop := ∀ k ∈ keys, ∃ v, b.get? k = some v

lemma Within.refl (b : Bindings κ β) : b.Within b := fun _ _ e => e

lemma Within.trans (h : b.Within c) (k : c.Within d) : b.Within d := fun key v e => k key v (h key v e)

/-- A key that is not bound yet may be bound without losing an entry. -/
lemma Within.insert {key : κ} (h : b.get? key = none) (v : β) : b.Within (b.insert key v) := by
  intro key' v' e
  have hne : key ≠ key' := by
    rintro rfl
    rw [h] at e
    cases e
  rwa [get?_insert, if_neg hne]

/-- Keys stay bound in a map that has all entries of the first. -/
lemma Covers.mono {keys : List κ} (h : b.Covers keys) (k : b.Within c) : c.Covers keys := by
  intro key hkey
  obtain ⟨v, e⟩ := h key hkey
  exact ⟨v, k key v e⟩

/-- Fewer keys are bound as well. -/
lemma Covers.subset {keys keys' : List κ} (h : b.Covers keys) (hk : keys' ⊆ keys) : b.Covers keys' :=
  fun key hkey => h key (hk hkey)

/-- Keys in a row are bound if both rows are. -/
lemma covers_append_iff {keys keys' : List κ} :
    b.Covers (keys ++ keys') ↔ b.Covers keys ∧ b.Covers keys' := List.forall_mem_append

lemma covers_nil : b.Covers [] := fun _ h => nomatch h

end Bindings

/-- Whether an event is about fixed values: a rule that may have some begins, or one is settled or
used. -/
def Event.Values {α : Type} : Event α → Prop
  | .rule .. | .settled .. | .recalled .. => True
  | _ => False

namespace Derivation

variable {σ ρ α β : Type}

/-- What a host has of the values that are settled, as it may be told. -/
structure Ledger [Host σ α] (T : σ → Bindings Nat Literal → Prop) : Prop where
  lasts : ∀ settled, Host.Lasts (T · settled)
  settle : ∀ {s settled label} v, T s settled → settled.get? label = none →
    T (Host.observe (.settled label v) s) (settled.insert label v)
  use : ∀ {s settled label v}, T s settled → settled.get? label = some v →
    T (Host.observe (.recalled label v) s) settled
  rule : ∀ {s settled r} depth cursor scopes captures, T s settled → settled.Covers (Rule.labels r) →
    T (Host.observe (.rule depth r cursor scopes captures) s) settled
  other : ∀ {s settled e}, ¬ e.Values → T s settled → T (Host.observe e s) settled

/-- A run that is ready to go on: the labels of the values that are settled are taken, and all fixed
values in definitions are settled. -/
structure Ready (s : State σ ρ α) : Prop where
  taken : ∀ label v, s.settled.get? label = some v → label < s.freshLabel
  definitions : ∀ name body, s.definitions.get? name = some body →
    s.settled.Covers (Rule.labelsOf body)

/-- A run that is ready, with a host that has what is settled. -/
structure Kept (T : σ → Bindings Nat Literal → Prop) (s : State σ ρ α) : Prop extends Ready s where
  ledger : T s.scene s.settled

/-- A step after which values that were settled are so. -/
structure Keeps (T : σ → Bindings Nat Literal → Prop) (s t : State σ ρ α) : Prop where
  now : Kept T t
  settled : s.settled.Within t.settled

/-- A step that settles nothing and defines nothing. -/
structure Reads (T : σ → Bindings Nat Literal → Prop) (s t : State σ ρ α) : Prop where
  settled : t.settled = s.settled
  freshLabel : t.freshLabel = s.freshLabel
  definitions : t.definitions = s.definitions
  ledger : T s.scene s.settled → T t.scene t.settled

/-- A step that settles values with some labels and no others. -/
structure Settles (T : σ → Bindings Nat Literal → Prop) (labels : List Nat) (s t : State σ ρ α) : Prop
    extends Keeps T s t where
  new : ∀ label v, t.settled.get? label = some v → s.settled.get? label = some v ∨ label ∈ labels
  freshLabel : t.freshLabel = s.freshLabel

/-- Labels of which each is used once and is taken, while nothing is settled under it. -/
structure Free (labels : List Nat) (s : State σ ρ α) : Prop where
  nodup : labels.Nodup
  unsettled : ∀ label ∈ labels, s.settled.get? label = none
  taken : ∀ label ∈ labels, label < s.freshLabel

section
variable {T : σ → Bindings Nat Literal → Prop} {s t u : State σ ρ α} {labels labels' : List Nat}

namespace Reads

lemma refl (s : State σ ρ α) : Reads T s s := ⟨rfl, rfl, rfl, id⟩

lemma trans (h : Reads T s t) (k : Reads T t u) : Reads T s u :=
  ⟨k.settled.trans h.settled, k.freshLabel.trans h.freshLabel, k.definitions.trans h.definitions,
    k.ledger ∘ h.ledger⟩

/-- A change of what is neither settled nor defined nor of the host. -/
lemma of_books (hsettled : t.settled = s.settled) (hfresh : t.freshLabel = s.freshLabel)
    (hdefinitions : t.definitions = s.definitions) (hscene : t.scene = s.scene) : Reads T s t :=
  ⟨hsettled, hfresh, hdefinitions, fun hs => by rwa [hscene, hsettled]⟩

/-- Recording a fault settles nothing. -/
lemma record (settings : Settings) (s : State σ ρ α) (f : Fault) : Reads T s (s.record settings f) := by
  obtain ⟨errors, e⟩ := record_eq settings s f
  rw [e]
  exact .of_books rfl rfl rfl rfl

lemma pushScope (s : State σ ρ α) : Reads T s s.pushScope := .of_books rfl rfl rfl rfl

/-- Leaving a scope settles nothing. -/
lemma popScope (s : State σ ρ α) : Reads T s s.popScope := by
  obtain ⟨_, _, e⟩ := s.popScope_eq
  rw [e]
  exact .of_books rfl rfl rfl rfl

/-- Closing a definition settles nothing. -/
lemma closeCapture (s : State σ ρ α) : Reads T s s.closeCapture := by
  obtain ⟨_, _, e⟩ := s.closeCapture_eq
  rw [e]
  exact .of_books rfl rfl rfl rfl

/-- Publishing a link settles nothing. -/
lemma publish (s : State σ ρ α) (name : String) (link : NodeId) : Reads T s (s.publish name link) := by
  obtain ⟨_, e⟩ := s.publish_eq name link
  rw [e]
  exact .of_books rfl rfl rfl rfl

end Reads

/-- A step that settles nothing keeps a run ready. -/
lemma Kept.read (hs : Kept T s) (h : Reads T s t) : Kept T t where
  taken label v e := by
    rw [h.freshLabel]
    exact hs.taken label v (h.settled ▸ e)
  definitions name body e := by
    rw [h.settled]
    exact hs.definitions name body (h.definitions ▸ e)
  ledger := h.ledger hs.ledger

/-- A definition in which all fixed values are settled. -/
lemma Kept.define (hs : Kept T s) (name : String) {body : List (Rule Nat)}
    (hbody : s.settled.Covers (Rule.labelsOf body)) :
    Kept T { s with definitions := s.definitions.insert name body } where
  taken := hs.taken
  definitions name' body' e := by
    rw [Bindings.get?_insert] at e
    split at e
    · obtain rfl := Option.some.inj e
      exact hbody
    · exact hs.definitions name' body' e
  ledger := hs.ledger

namespace Keeps

/-- A step that settles nothing keeps what is settled. -/
lemma of_reads (hs : Kept T s) (h : Reads T s t) : Keeps T s t :=
  ⟨hs.read h, fun _ _ e => h.settled ▸ e⟩

lemma refl (hs : Kept T s) : Keeps T s s := of_reads hs (.refl s)

lemma trans (h : Keeps T s t) (k : Keeps T t u) : Keeps T s u := ⟨k.now, h.settled.trans k.settled⟩

/-- What is settled stays so when a step follows that settles nothing. -/
lemma read (h : Keeps T s t) (k : Reads T t u) : Keeps T s u := h.trans (of_reads h.now k)

end Keeps

namespace Settles

/-- A step that settles nothing settles values with any labels. -/
lemma of_reads (hs : Kept T s) (h : Reads T s t) : Settles T labels s t where
  toKeeps := .of_reads hs h
  new _ _ e := .inl (h.settled ▸ e)
  freshLabel := h.freshLabel

/-- One step after the other settles the values with the labels of both. -/
lemma trans (h : Settles T labels s t) (k : Settles T labels' t u) :
    Settles T (labels ++ labels') s u where
  toKeeps := h.toKeeps.trans k.toKeeps
  new label v e := by
    cases k.new label v e with
    | inl e => exact (h.new label v e).imp_right fun hl => List.mem_append_left _ hl
    | inr hl => exact .inr (List.mem_append_right _ hl)
  freshLabel := k.freshLabel.trans h.freshLabel

lemma read (h : Settles T labels s t) (k : Reads T t u) : Settles T labels s u where
  toKeeps := h.toKeeps.read k
  new label v e := h.new label v (k.settled ▸ e)
  freshLabel := k.freshLabel.trans h.freshLabel

/-- The values that a step settles are among those of more labels. -/
lemma mono (h : Settles T labels s t) (hl : labels ⊆ labels') : Settles T labels' s t :=
  ⟨h.toKeeps, fun label v e => (h.new label v e).imp_right fun k => hl k, h.freshLabel⟩

end Settles

namespace Free

/-- Of free labels in two rows the first row is free. -/
lemma left (h : Free (labels ++ labels') s) : Free labels s where
  nodup := (List.nodup_append.mp h.nodup).1
  unsettled label hl := h.unsettled label (List.mem_append_left _ hl)
  taken label hl := h.taken label (List.mem_append_left _ hl)

/-- Of free labels all but the first are free. -/
lemma tail {label : Nat} (h : Free (label :: labels) s) : Free labels s where
  nodup := (List.nodup_cons.mp h.nodup).2
  unsettled label hl := h.unsettled label (List.mem_cons_of_mem _ hl)
  taken label hl := h.taken label (List.mem_cons_of_mem _ hl)

/-- A label is free when values with other labels have been settled. -/
lemma head {label : Nat} (h : Free (label :: labels) s) (k : Settles T labels s t) :
    t.settled.get? label = none ∧ label < t.freshLabel := by
  constructor
  · rw [Option.eq_none_iff_forall_ne_some]
    intro v e
    cases k.new label v e with
    | inl e =>
      rw [h.unsettled label List.mem_cons_self] at e
      cases e
    | inr hl => exact (List.nodup_cons.mp h.nodup).1 hl
  · rw [k.freshLabel]
    exact h.taken label List.mem_cons_self

/-- Labels that were free are so when others have been settled. -/
lemma right (h : Free (labels ++ labels') s) (k : Settles T labels s t) : Free labels' t where
  nodup := (List.nodup_append.mp h.nodup).2.1
  unsettled label hl := by
    rw [Option.eq_none_iff_forall_ne_some]
    intro v e
    cases k.new label v e with
    | inl e =>
      rw [h.unsettled label (List.mem_append_right _ hl)] at e
      cases e
    | inr hl' => exact (List.nodup_append.mp h.nodup).2.2 label hl' label hl rfl
  taken label hl := by
    rw [k.freshLabel]
    exact h.taken label (List.mem_append_right _ hl)

end Free

/-! ## Knowledge of rules -/

/-- What may be known of a rule by what is settled: that the fixed values in it are, at least. It is known
of the rules inside as well, and whatever else is settled. -/
structure Knowledge (K : Bindings Nat Literal → Rule Nat → Prop) : Prop where
  covers : ∀ {settled r}, K settled r → settled.Covers r.labels
  within : ∀ {settled settled' r}, settled.Within settled' → K settled r → K settled' r
  body : ∀ {settled r}, K settled r → ∀ q ∈ r.body, K settled q

/-- That the fixed values in a rule are settled. -/
lemma knowledge_covers : Knowledge (fun settled r => settled.Covers (Rule.labels r)) where
  covers := id
  within h hr := hr.mono h
  body hr _ hq := (hr.subset (Rule.labelsOf_body_subset _)).subset (Rule.labels_subset_labelsOf hq)

/-- A run with a host that has what is settled, in which all rules in definitions are known. -/
structure Versed (K : Bindings Nat Literal → Rule Nat → Prop) (T : σ → Bindings Nat Literal → Prop)
    (s : State σ ρ α) : Prop extends Kept T s where
  known : ∀ name body, s.definitions.get? name = some body → ∀ q ∈ body, K s.settled q

/-- A step after which values that were settled are so and definitions are known. -/
structure Advances (K : Bindings Nat Literal → Rule Nat → Prop) (T : σ → Bindings Nat Literal → Prop)
    (s t : State σ ρ α) : Prop where
  now : Versed K T t
  settled : s.settled.Within t.settled

section
variable {K : Bindings Nat Literal → Rule Nat → Prop}

/-- A step that settles nothing keeps what is known of the rules in definitions. -/
lemma Versed.read (hs : Versed K T s) (h : Reads T s t) : Versed K T t where
  toKept := hs.toKept.read h
  known name body e := h.settled ▸ hs.known name body (h.definitions ▸ e)

/-- A definition that is known. -/
lemma Versed.define (hK : Knowledge K) (hs : Versed K T s) (name : String) {body : List (Rule Nat)}
    (hbody : ∀ q ∈ body, K s.settled q) :
    Versed K T { s with definitions := s.definitions.insert name body } where
  toKept := hs.toKept.define name fun label hl => by
    obtain ⟨q, hq, hl⟩ := List.mem_flatMap.mp hl
    exact hK.covers (hbody q hq) label hl
  known name' body' e := by
    rw [Bindings.get?_insert] at e
    split at e
    · obtain rfl := Option.some.inj e
      exact hbody
    · exact hs.known name' body' e

namespace Advances

/-- A step that settles nothing advances a run in which definitions are known. -/
lemma of_reads (hs : Versed K T s) (h : Reads T s t) : Advances K T s t :=
  ⟨hs.read h, fun _ _ e => h.settled ▸ e⟩

lemma refl (hs : Versed K T s) : Advances K T s s := of_reads hs (.refl s)

lemma trans (h : Advances K T s t) (k : Advances K T t u) : Advances K T s u :=
  ⟨k.now, h.settled.trans k.settled⟩

/-- A run that has advanced still has after a step that settles nothing. -/
lemma read (h : Advances K T s t) (k : Reads T t u) : Advances K T s u := h.trans (of_reads h.now k)

/-- What settles nothing keeps what is settled and what is known. -/
lemma obeys (hs : Versed K T s) {act : Action σ ρ α β} (h : Obeys (fun _ => Reads T) act s) :
    Obeys (fun _ => Advances K T) act s :=
  Ends.imp h (fun _ _ => .of_reads hs) (fun _ _ => .of_reads hs)

end Advances

end

/-- Nothing else is known of definitions if all that is known is that fixed values are settled. -/
lemma versed_covers :
    Versed (fun settled r => settled.Covers (Rule.labels r)) T = (Kept T : State σ ρ α → Prop) := by
  funext s
  refine propext ⟨fun h => h.toKept, fun h => ⟨h, fun _ _ e q hq => ?_⟩⟩
  exact (h.definitions _ _ e).subset (Rule.labels_subset_labelsOf hq)

/-- If all that is known of a rule is that its fixed values are settled, to advance is to keep. -/
lemma advances_covers :
    Advances (fun settled r => settled.Covers (Rule.labels r)) T =
      (Keeps T : State σ ρ α → State σ ρ α → Prop) := by
  funext s t
  refine propext ⟨fun h => ⟨h.now.toKept, h.settled⟩, fun h => ⟨?_, h.settled⟩⟩
  rw [versed_covers]
  exact h.now

end

/-- Of the fixed values in a grammar that is numbered in a run which is ready, none is settled. -/
lemma Ready.free {s : State σ ρ α} (hs : Ready s) (grammar : Grammar) :
    Free (Rule.labelsOf (Rule.numberAll grammar s.freshLabel).1)
      { s with freshLabel := (Rule.numberAll grammar s.freshLabel).2 } := by
  obtain ⟨k, hk, hl⟩ := Rule.labelsOf_numberAll grammar s.freshLabel
  refine ⟨?_, fun label hlabel => ?_, fun label hlabel => ?_⟩
  · rw [hl]
    exact List.nodup_range'
  · rw [hl, List.mem_range'_1] at hlabel
    rw [Option.eq_none_iff_forall_ne_some]
    exact fun v e => Nat.not_lt_of_le hlabel.1 (hs.taken label v e)
  · rw [hl, List.mem_range'_1, ← hk] at hlabel
    exact hlabel.2

/-- A run that has given a grammar its labels. -/
lemma Kept.renumber {T : σ → Bindings Nat Literal → Prop} {s : State σ ρ α} (hs : Kept T s)
    (grammar : Grammar) : Kept T { s with freshLabel := (Rule.numberAll grammar s.freshLabel).2 } where
  taken label v e := by
    obtain ⟨k, hk, -⟩ := Rule.labelsOf_numberAll grammar s.freshLabel
    exact Nat.lt_of_lt_of_le (hs.taken label v e) (hk ▸ Nat.le_add_right _ _)
  definitions := hs.definitions
  ledger := hs.ledger

/-- An action that settles the values with some labels, at least those before the one on which it
fails. -/
def Prepares (T : σ → Bindings Nat Literal → Prop) (labels : List Nat) (act : Action σ ρ α Unit)
    (s : State σ ρ α) : Prop :=
  Ends act s (fun _ t => Settles T labels s t ∧ t.settled.Covers labels) (fun _ => Settles T labels s)

namespace Prepares
variable {T : σ → Bindings Nat Literal → Prop} {s : State σ ρ α} {labels labels' : List Nat}
  {act k : Action σ ρ α Unit}

/-- To do nothing settles the values of no labels. -/
lemma nothing (hs : Kept T s) : Prepares T [] (pure ()) s :=
  Ends.pure ⟨.of_reads hs (.refl s), Bindings.covers_nil⟩

/-- To reject a rule settles nothing. -/
lemma rejected (hs : Kept T s) (d : Defect) : Prepares T labels (reject d) s :=
  Ends.throw (.of_reads hs (.refl s))

/-- One action after another. -/
lemma bind (ha : Prepares T labels act s) (free : Free (labels ++ labels') s)
    (hk : ∀ t, Kept T t → Free labels' t → Prepares T labels' k t) :
    Prepares T (labels ++ labels') (act >>= fun _ => k) s := by
  apply Ends.bind
  refine Ends.imp ha ?_ (fun _ t ht => ht.mono (List.subset_append_left _ _))
  rintro _ t ⟨ht, covers⟩
  refine Ends.imp (hk t ht.now (free.right ht)) ?_ (fun _ _ hu => ht.trans hu)
  rintro _ u ⟨hu, covers'⟩
  exact ⟨ht.trans hu, Bindings.covers_append_iff.mpr ⟨covers.mono hu.settled, covers'⟩⟩

/-- Checking the bounds of a range settles nothing. -/
lemma checkRange [Host σ α] [RandomSource ρ] (hs : Kept T s) (least most : Literal) :
    Prepares T [] (Derivation.checkRange least most) s := by
  unfold Derivation.checkRange
  split
  · exact rejected hs _
  · split
    · exact rejected hs _
    · split
      · exact rejected hs _
      · exact nothing hs

/-- Checking a weight settles nothing. -/
lemma checkWeight [Host σ α] [RandomSource ρ] (hs : Kept T s) (w : Literal) :
    Prepares T [] (Derivation.checkWeight w) s := by
  unfold Derivation.checkWeight
  split
  · split
    · exact nothing hs
    · exact rejected hs _
  · exact rejected hs _

end Prepares

namespace Ledger
variable [Host σ α] {T : σ → Bindings Nat Literal → Prop} {s : State σ ρ α}

/-! ## Requests and events -/

/-- An event that is not about fixed values may be told. -/
lemma noted (h : Ledger T) {e : Event α} (he : ¬ e.Values) (s : State σ ρ α) : Reads T s (s.noted e) :=
  ⟨rfl, rfl, rfl, h.other he⟩

/-- Telling the depth settles nothing. -/
lemma atLevel (h : Ledger T) (s : State σ ρ α) : Reads T s s.atLevel :=
  h.noted (e := .level s.depth s.captures.length) id s

/-- Going down one instance settles nothing. -/
lemma descend (h : Ledger T) (s : State σ ρ α) : Reads T s s.descend.atLevel :=
  Reads.trans (t := s.descend) (.of_books rfl rfl rfl rfl) (h.atLevel s.descend)

/-- Coming up from an instance settles nothing. -/
lemma ascend (h : Ledger T) (s : State σ ρ α) : Reads T s s.ascend.atLevel :=
  Reads.trans (t := s.ascend) (.of_books rfl rfl rfl rfl) (h.atLevel s.ascend)

/-- Opening a definition settles nothing. -/
lemma openCapture (h : Ledger T) (s : State σ ρ α) : Reads T s s.openCapture.atLevel :=
  Reads.trans (t := s.openCapture) (.of_books rfl rfl rfl rfl) (h.atLevel s.openCapture)

/-- Closing a definition and telling so settles nothing. -/
lemma closeCapture (h : Ledger T) (s : State σ ρ α) : Reads T s s.closeCapture.atLevel :=
  (Reads.closeCapture s).trans (h.atLevel s.closeCapture)

/-- Requests are not about fixed values. -/
lemma asks (h : Ledger T) :
    Asks (fun _ => Reads T : Option Fault → State σ ρ α → State σ ρ α → Prop) := by
  have books : ∀ {β} (act : Edit σ β) (s : State σ ρ α),
      (∀ settled, ∀ s, T s settled → Ends act s (fun _ t => T t settled) (fun _ t => T t settled)) →
        Ends (request act) s (fun _ => Reads T s) (fun _ => Reads T s) := by
    intro β act s hact
    have same : Ends (request act) s
        (fun _ t => t.settled = s.settled ∧ t.freshLabel = s.freshLabel ∧ t.definitions = s.definitions)
        (fun _ t => t.settled = s.settled ∧ t.freshLabel = s.freshLabel ∧ t.definitions = s.definitions) :=
      request_ends (Ends.of_forall (fun _ _ => ⟨rfl, rfl, rfl⟩) (fun _ _ => ⟨rfl, rfl, rfl⟩))
    refine (same.and (request_keeps (hact s.settled) s)).imp ?_ ?_
    · exact fun _ t k => ⟨k.1.1, k.1.2.1, k.1.2.2, fun hs => k.1.1 ▸ k.2 hs⟩
    · exact fun _ t k => ⟨k.1.1, k.1.2.1, k.1.2.2, fun hs => k.1.1 ▸ k.2 hs⟩
  exact {
    refl := .refl
    trans := .trans
    offer := fun ha s => books _ s fun settled => (h.lasts settled).offer ha
    moveAll := fun n origin target s => books _ s fun settled => (h.lasts settled).moveAll n origin target
    addGenerated := fun _ _ => ⟨rfl, rfl, rfl, id⟩ }

variable [RandomSource ρ]

/-! ## Drawing -/

mutual
/-- Drawing settles nothing if all that it may need is settled. -/
lemma resolve (h : Ledger T) : ∀ (e : Expr Nat) (s : State σ ρ α), s.settled.Covers e.labels →
    Ends (Derivation.resolve e) s (fun _ => Reads T s) (fun _ => Reads T s)
  | .literal v, s, _ => by
    simp only [Derivation.resolve]
    exact Ends.pure (.refl s)
  | .range least most, s, _ => by
    simp only [Derivation.resolve]
    apply Ends.bind
    exact Ends.modifyGet (Ends.pure ⟨rfl, rfl, rfl, id⟩)
  | .weighted entries, s, he => by
    simp only [Derivation.resolve]
    apply Ends.bind
    unfold chooseEntry
    apply Ends.bind
    refine Ends.modifyGet ?_
    have drawn : Reads T s { s with random := (RandomSource.uniform s.random).2 } :=
      ⟨rfl, rfl, rfl, id⟩
    dsimp only
    split
    · next i _ =>
      have entry := resolveEntry h entries i { s with random := (RandomSource.uniform s.random).2 } he
      exact Ends.pure (entry.imp (fun _ _ => drawn.trans) (fun _ _ => drawn.trans))
    · exact Ends.throw drawn
  | .fixed label e, s, he => by
    simp only [Derivation.resolve]
    apply Ends.get
    obtain ⟨v, hv⟩ := he label List.mem_cons_self
    rw [hv]
    exact Ends.bind (Ends.modify (Ends.pure ⟨rfl, rfl, rfl, fun hs => h.use hs hv⟩))
/-- Drawing from a weighted choice whose fixed values are settled settles nothing. -/
lemma resolveEntry (h : Ledger T) : ∀ (entries : List (Literal × Expr Nat)) (i : Nat) (s : State σ ρ α),
    s.settled.Covers (Expr.entriesLabels entries) →
      Ends (Derivation.resolveEntry entries i) s (fun _ => Reads T s) (fun _ => Reads T s)
  | [], i, s, _ => by
    simp only [Derivation.resolveEntry]
    exact Ends.throw (.refl s)
  | (w, e) :: rest, 0, s, he => by
    simp only [Derivation.resolveEntry]
    exact resolve h e s (Bindings.covers_append_iff.mp he).1
  | (w, e) :: rest, i + 1, s, he => by
    simp only [Derivation.resolveEntry]
    exact resolveEntry h rest i s (Bindings.covers_append_iff.mp he).2
end

/-- Drawing an argument whose fixed values are settled settles nothing. -/
lemma resolveAs (h : Ledger T) (shape : Shape) (subject : String) {e : Expr Nat}
    (he : s.settled.Covers e.labels) :
    Ends (Derivation.resolveAs shape subject e) s (fun _ => Reads T s) (fun _ => Reads T s) := by
  unfold Derivation.resolveAs
  apply Ends.bind
  refine (h.resolve e s he).imp ?_ (fun _ _ => id)
  intro v t ht
  cases shape.read? v with
  | some x => exact Ends.pure ht
  | none => exact Ends.throw ht

/-! ## Preparing -/

omit [RandomSource ρ] in
/-- Settling a value, of which the host is told. -/
lemma settled (h : Ledger T) (hs : Kept T s) {label : Nat} (hl : s.settled.get? label = none)
    (hlt : label < s.freshLabel) (v : Literal) :
    Settles T [label] s ({ s with settled := s.settled.insert label v }.noted (.settled label v)) := by
  have within := Bindings.Within.insert hl v
  refine ⟨⟨⟨⟨?taken, ?definitions⟩, h.settle v hs.ledger hl⟩, within⟩, ?new, rfl⟩
  case taken =>
    intro label' v' e
    have e : (s.settled.insert label v).get? label' = some v' := e
    rw [Bindings.get?_insert] at e
    split at e
    · next heq => exact heq ▸ hlt
    · exact hs.taken label' v' e
  case definitions => exact fun name body e => (hs.definitions name body e).mono within
  case new =>
    intro label' v' e
    have e : (s.settled.insert label v).get? label' = some v' := e
    rw [Bindings.get?_insert] at e
    split at e
    · next heq => exact .inr (heq ▸ List.mem_singleton_self _)
    · exact .inl e

mutual
/-- Preparing a value settles all fixed values in it. -/
theorem prepareValue (h : Ledger T) : ∀ (e : Expr Nat) (s : State σ ρ α), Kept T s →
    Free e.labels s → Prepares T e.labels (Derivation.prepareValue e) s
  | .literal _, s, hs, _ => by
    simp only [Derivation.prepareValue]
    exact .nothing hs
  | .range least most, s, hs, _ => by
    simp only [Derivation.prepareValue]
    exact .checkRange hs least most
  | .weighted entries, s, hs, free => by
    simp only [Derivation.prepareValue]
    split
    · exact .rejected hs _
    · exact prepareEntries h entries s hs free
  | .fixed label e, s, hs, free => by
    simp only [Derivation.prepareValue]
    have inner : e.labels ⊆ label :: e.labels := List.subset_cons_self _ _
    apply Ends.bind
    refine Ends.imp (prepareValue h e s hs free.tail) ?_ (fun _ t ht => ht.mono inner)
    rintro _ t ⟨ht, covers⟩
    -- The value is drawn at once, for which all that is inside it has been settled.
    apply Ends.bind
    refine (h.resolve e t covers).imp ?_ ?_
    · intro v u hu
      have drawn := ht.read hu
      obtain ⟨hl, hlt⟩ := free.head drawn
      have last := h.settled drawn.now hl hlt v
      apply Ends.bind
      refine Ends.modify (Ends.modify ⟨(drawn.trans last).mono ?_, ?_⟩)
      · exact List.append_subset.mpr ⟨inner, List.cons_subset_cons _ (List.nil_subset _)⟩
      · have within := (Keeps.of_reads ht.now hu).settled.trans last.settled
        refine List.forall_mem_cons.mpr ⟨⟨v, ?_⟩, covers.mono within⟩
        exact (Bindings.get?_insert u.settled label label v).trans (if_pos rfl)
    · exact fun f u hu => (ht.read hu).mono inner
/-- Preparing the entries of a weighted choice settles the fixed values in them. -/
theorem prepareEntries (h : Ledger T) : ∀ (entries : List (Literal × Expr Nat)) (s : State σ ρ α),
    Kept T s → Free (Expr.entriesLabels entries) s →
      Prepares T (Expr.entriesLabels entries) (Derivation.prepareEntries entries) s
  | [], s, hs, _ => by
    simp only [Derivation.prepareEntries]
    exact .nothing hs
  | (w, e) :: rest, s, hs, free => by
    simp only [Derivation.prepareEntries]
    refine (Prepares.checkWeight hs w).bind free fun t ht free => ?_
    exact (prepareValue h e t ht free.left).bind free fun u hu free => prepareEntries h rest u hu free
end

/-- Preparing an argument settles the fixed values in it. -/
lemma prepareArgument (h : Ledger T) (subject : String) (shape : Shape) {e : Expr Nat} (hs : Kept T s)
    (free : Free e.labels s) : Prepares T e.labels (Derivation.prepareArgument subject shape e) s := by
  cases e with
  | literal v =>
    simp only [Derivation.prepareArgument]
    split
    · exact .nothing hs
    · exact .rejected hs _
  | range least most => exact h.prepareValue _ s hs free
  | weighted entries => exact h.prepareValue _ s hs free
  | fixed label e => exact h.prepareValue _ s hs free

mutual
/-- Preparing a rule settles all fixed values in it. -/
theorem prepare (h : Ledger T) : ∀ (r : Rule Nat) (s : State σ ρ α), Kept T s → Free r.labels s →
    Prepares T r.labels (Derivation.prepare r) s
  | .define name body, s, hs, free => by
    rw [Rule.labels_eq] at free ⊢
    simp only [Derivation.prepare]
    split
    · exact .rejected hs _
    · apply Ends.bind
      refine Ends.imp (prepareAll h body s hs free) ?_ (fun _ _ => id)
      rintro _ t ⟨ht, covers⟩
      exact Ends.modify ⟨⟨⟨ht.now.define name covers, ht.settled⟩, ht.new, ht.freshLabel⟩, covers⟩
  | .block body, s, hs, free => by
    rw [Rule.labels_eq] at free ⊢
    simp only [Derivation.prepare]
    exact prepareAll h body s hs free
  | .times e body, s, hs, free => by
    rw [Rule.labels_eq] at free ⊢
    simp only [Derivation.prepare]
    exact (h.prepareArgument _ _ hs free.left).bind free fun t ht free => prepareAll h body t ht free
  | .forLinks source body, s, hs, free => by
    rw [Rule.labels_eq] at free ⊢
    simp only [Derivation.prepare]
    apply Ends.bind
    unfold compile
    split
    · exact Ends.pure (prepareAll h body s hs free)
    · exact Prepares.rejected hs (.badPattern source)
  | .maybe e body, s, hs, free => by
    rw [Rule.labels_eq] at free ⊢
    simp only [Derivation.prepare]
    exact (h.prepareArgument _ _ hs free.left).bind free fun t ht free => prepareAll h body t ht free
  | .exportLink e, s, hs, free | .place e, s, hs, free | .copySibling e _, s, hs, free
  | .addLink e, s, hs, free | .goTo e, s, hs, free | .adjust _ e _, s, hs, free => by
    simp only [Rule.labels_eq, Rule.body, Rule.labelsOf, List.flatMap_nil, List.append_nil] at free ⊢
    simp only [Derivation.prepare]
    exact h.prepareArgument _ _ hs free
/-- Preparing a sequence settles all fixed values in it. -/
theorem prepareAll (h : Ledger T) : ∀ (rs : List (Rule Nat)) (s : State σ ρ α), Kept T s →
    Free (Rule.labelsOf rs) s → Prepares T (Rule.labelsOf rs) (Derivation.prepareAll rs) s
  | [], s, hs, _ => by
    simp only [Derivation.prepareAll]
    exact .nothing hs
  | r :: rs, s, hs, free => by
    rw [Rule.labelsOf_cons] at free ⊢
    simp only [Derivation.prepareAll]
    exact (prepare h r s hs free.left).bind free fun t ht free => prepareAll h rs t ht free
end

/-- Preparing a grammar settles all fixed values in the rules without defects. -/
lemma prepareEach (h : Ledger T) (settings : Settings) {rules : List (Rule Nat)} (hs : Kept T s)
    (free : Free (Rule.labelsOf rules) s) :
    Keeps T s (Derivation.prepareEach settings rules s) ∧
      ∀ r ∈ rules, r.defect? = none →
        (Derivation.prepareEach settings rules s).settled.Covers r.labels := by
  induction rules generalizing s with
  | nil => exact ⟨.refl hs, fun _ hr => nomatch hr⟩
  | cons r rules ih =>
    rw [Rule.labelsOf_cons] at free
    have prepared := (h.prepare r s hs free.left).and (preparing_any.prepare r s)
    unfold Derivation.prepareEach
    cases e : Derivation.prepare r s with
    | ok _ t =>
      obtain ⟨⟨ht, covers⟩, -⟩ := prepared.ok e
      obtain ⟨hu, rest⟩ := ih ht.now (free.right ht)
      exact ⟨ht.toKeeps.trans hu, List.forall_mem_cons.mpr ⟨fun _ => covers.mono hu.settled, rest⟩⟩
    | error f t =>
      obtain ⟨ht, -, d, hd, -⟩ := prepared.error e
      have recorded := ht.read (.record settings t f)
      obtain ⟨hu, rest⟩ := ih recorded.now (free.right recorded)
      refine ⟨recorded.toKeeps.trans hu, List.forall_mem_cons.mpr ⟨fun hnone => ?_, rest⟩⟩
      rw [hd] at hnone
      cases hnone

/-! ## Carrying out rules -/

omit [Host σ α] [RandomSource ρ] in
/-- What settles nothing keeps what is settled. -/
lemma obeys (hs : Kept T s) {act : Action σ ρ α β} (h : Obeys (fun _ => Reads T) act s) :
    Obeys (fun _ => Keeps T) act s :=
  Ends.imp h (fun _ _ => .of_reads hs) (fun _ _ => .of_reads hs)

/-- A grammar that a directive holds is prepared, where its labels are new. -/
lemma prepareNew (h : Ledger T) (hs : Kept T s) (grammar : Grammar) :
    Prepares T (Rule.labelsOf (Rule.numberAll grammar s.freshLabel).1)
      (Derivation.prepareAll (Rule.numberAll grammar s.freshLabel).1)
      { s with freshLabel := (Rule.numberAll grammar s.freshLabel).2 } :=
  h.prepareAll _ _ (hs.renumber grammar) (hs.free grammar)

variable [Scalar α]

omit [RandomSource ρ] in
/-- Entering a link keeps what is settled. -/
lemma enterLink (h : Ledger T) (hs : Kept T s) (n : NodeId) :
    Obeys (fun _ => Keeps T) (Derivation.enterLink n) s :=
  obeys hs (h.asks.enterLink (fun _ _ => .of_books rfl rfl rfl rfl) n s)

section
variable {K : Bindings Nat Literal → Rule Nat → Prop}

omit [RandomSource ρ] in
/-- Entering a link advances a run. -/
lemma visitLink (h : Ledger T) (hs : Versed K T s) (n : NodeId) :
    Obeys (fun _ => Advances K T) (Derivation.enterLink n) s :=
  Advances.obeys hs (h.asks.enterLink (fun _ _ => .of_books rfl rfl rfl rfl) n s)

/-- Whatever a rule does that is known, fixed values that are settled stay as they are, if all that is
prepared becomes known. -/
theorem knownRegime (h : Ledger T) (hK : Knowledge K) (settings : Settings)
    (prepares : ∀ {s : State σ ρ α} {rules}, Versed K T s → Free (Rule.labelsOf rules) s →
      Ends (Derivation.prepareAll rules) s (fun _ t => Advances K T s t ∧ ∀ r ∈ rules, K t.settled r)
        (fun _ => Advances K T s)) :
    Regime settings K (Versed K T : State σ ρ α → Prop) (fun _ => Advances K T) where
  refl := .refl
  trans := .trans
  keeps _ h := h.now
  stays _ hst hr := hK.within hst.settled hr
  body := hK.body
  known hs e := hs.known _ _ e
  tolerate {f s t} _ _ hst := hst.read (.record settings t f)
  misplaced _ _ hs := .refl hs
  draw {s r shape e} hs hr he :=
    Advances.obeys hs (h.resolveAs shape r.word ((hK.covers hr).subset (Rule.labels_subset_of_argument? he)))
  compile {s source body} hs _ := by
    unfold compile
    split
    · exact Ends.pure (.refl hs)
    · exact Ends.throw (.refl hs)
  random _ hs := .of_reads hs (.of_books rfl rfl rfl rfl)
  rule hs hr := .of_reads hs ⟨rfl, rfl, rfl, fun k => h.rule _ _ _ _ k (hK.covers hr)⟩
  define {s name body} hs hr := by
    have told := h.noted (e := .defined name body) id s
    exact ⟨(hs.read told).define hK name (hK.body hr), .refl _⟩
  publish {s place} name hs _ := by
    have told := h.noted (e := .exported name place.node s.captures.length) id s
    exact .of_reads hs (told.trans (.publish _ name place.node))
  adjust _ hs _ := .of_reads hs (.of_books rfl rfl rfl rfl)
  copySiblings name mirror hs _ := Advances.obeys hs (h.asks.copySiblings settings _ name mirror _)
  addLink name hs _ := Advances.obeys hs (h.asks.addLink settings _ name _)
  goTo hs _ := h.visitLink hs _
  push hs := hs.read (.of_books rfl rfl rfl rfl)
  pop {o s t} _ hst := Advances.read ⟨hst.now, hst.settled⟩ (.popScope t)
  visit {s t link accept} _ hst _ := h.visitLink (hst.now.read (.pushScope t)) link
  placeTemplate {s collection members} hs _ _ := by
    refine Advances.obeys hs (h.asks.placeTemplate ?_ (h.noted id s) ?_ fun s n => ?_)
    · exact (requireLink_ends _ s).imp (fun _ _ k => k.1 ▸ .refl _) (fun _ _ k => k.1 ▸ .refl _)
    · exact fun _ _ => .of_books rfl rfl rfl rfl
    · let t : State σ ρ α := { s with cursor := .object n }
      have stood : Reads T s t := .of_books rfl rfl rfl rfl
      have told := h.noted (e := .placed n s.captures.length) id t
      exact (stood.trans told).trans (.of_books rfl rfl rfl rfl)
  visitLeaf {s t object leaf text} _ hst _ _ := by
    let u : State σ ρ α := { t with expanded := leaf :: t.expanded }
    have marked : Advances K T t u := .of_reads hst.now (.of_books rfl rfl rfl rfl)
    exact ⟨marked, h.visitLink (marked.now.read (.pushScope u)) leaf⟩
  named {s leaf text} hs _ _ := .of_reads hs (h.noted id s)
  read {s leaf text grammar rules fresh} hs _ _ hn := by
    have told := hs.read (h.noted (e := .directive leaf text) id s)
    have now := told.toKept.renumber grammar
    have free := told.free grammar
    have numbered : Rule.numberAll grammar (s.noted (.directive leaf text)).freshLabel = (rules, fresh) := hn
    rw [numbered] at now free
    refine Ends.imp (prepares ⟨now, told.known⟩ free) (fun _ t ht => ?_) (fun f t ht => ?_)
    · exact ⟨⟨ht.1.now, ht.1.settled⟩, ht.2⟩
    · exact Advances.read ⟨ht.now, ht.settled⟩ (.record settings t f)
  descend {s} hs _ := hs.read (h.descend s)
  ascend {o s t} _ _ hst := Advances.read ⟨hst.now, hst.settled⟩ (h.ascend t)
  expanded {s name body} hs _ := .of_reads hs (h.noted id s)
  openCapture {s} hs := hs.read (h.openCapture s)
  closeCapture {s t} _ hst := hst.now.read (h.closeCapture t)
  expand {o s t u v} _ _ hst htu huv := by
    have begun : Advances K T s t := ⟨hst.now, hst.settled⟩
    have body : Advances K T t u := ⟨htu.now, htu.settled⟩
    exact (((begun.trans body).read (h.closeCapture u)).trans huv).read (h.ascend v)
  abort {f s t u} _ _ hst htu := by
    have begun : Advances K T s t := ⟨hst.now, hst.settled⟩
    have body : Advances K T t u := ⟨htu.now, htu.settled⟩
    exact ((begun.trans body).read (h.closeCapture u)).read (h.ascend u.closeCapture.atLevel)

end

/-- Whatever a rule does in which all fixed values are settled, these stay as they are. -/
theorem regime (h : Ledger T) (settings : Settings) :
    Regime settings (fun settled r => settled.Covers r.labels) (Kept T : State σ ρ α → Prop)
      (fun _ => Keeps T) := by
  have known := h.knownRegime (ρ := ρ) (α := α) knowledge_covers settings fun {s rules} hs free => by
    rw [versed_covers] at hs
    rw [advances_covers]
    refine Ends.imp (h.prepareAll rules s hs free) (fun _ t ht => ⟨ht.1.toKeeps, fun r hr => ?_⟩)
      (fun _ t ht => ht.toKeeps)
    exact ht.2.subset (Rule.labels_subset_labelsOf hr)
  rwa [versed_covers, advances_covers] at known

end Ledger

end Derivation

end SceneGrammar
