import SceneGrammar.Proofs.Derivation.Freeze
import SceneGrammar.Proofs.Random.Bounds

/-!
# What arguments come to

The values that are `Possible` for an argument do not depend on the state of a run. An argument is `Drawable`
by what is settled if its ranges have integers, its choices have entries and its fixed values are settled to
what is possible for them. Drawing such an argument gives something possible (`resolve_drawable`), and an
argument that has been prepared is drawable from then on (`drawable_prepareValue`).
-/

namespace SceneGrammar

namespace Expr
variable {ι : Type}

/-- What an argument may come to. -/
inductive Possible : Expr ι → Literal → Prop
  | literal (v : Literal) : Possible (.literal v) v
  | range {least most : Literal} {low high n : Int64} : least.int? = some low → most.int? = some high →
      low ≤ n → n ≤ high → Possible (.range least most) (.int n)
  | entry {entries : List (Literal × Expr ι)} {w v : Literal} {e : Expr ι} :
      (w, e) ∈ entries → Possible e v → Possible (.weighted entries) v
  | fixed {label : ι} {e : Expr ι} {v : Literal} : Possible e v → Possible (.fixed label e) v

section
variable {v : Literal}

/-- A written value is all that it may come to. -/
@[simp] lemma possible_literal_iff {w : Literal} : (.literal w : Expr ι).Possible v ↔ v = w := by
  constructor
  · intro h
    cases h with
    | literal => rfl
  · rintro rfl
    exact .literal v

/-- A range may come to every integer between its bounds. -/
@[simp] lemma possible_range_iff {least most : Literal} : (.range least most : Expr ι).Possible v ↔
    ∃ low high n, least.int? = some low ∧ most.int? = some high ∧ low ≤ n ∧ n ≤ high ∧ v = .int n := by
  constructor
  · intro h
    cases h with
    | range hl hm least most => exact ⟨_, _, _, hl, hm, least, most, rfl⟩
  · rintro ⟨low, high, n, hl, hm, hln, hnh, rfl⟩
    exact .range hl hm hln hnh

/-- A weighted choice may come to what one of its entries may. -/
@[simp] lemma possible_weighted_iff {entries : List (Literal × Expr ι)} :
    (Expr.weighted entries).Possible v ↔ ∃ w e, (w, e) ∈ entries ∧ e.Possible v := by
  constructor
  · intro h
    cases h with
    | entry he hv => exact ⟨_, _, he, hv⟩
  · rintro ⟨w, e, he, hv⟩
    exact .entry he hv

/-- A fixed value may come to what its argument may. -/
@[simp] lemma possible_fixed_iff {label : ι} {e : Expr ι} :
    (Expr.fixed label e).Possible v ↔ e.Possible v := by
  constructor
  · intro h
    cases h with
    | fixed hv => exact hv
  · exact .fixed

end

/-- An argument that can be drawn by what is settled. -/
inductive Drawable (settled : Bindings Nat Literal) : Expr Nat → Prop
  | literal (v : Literal) : Drawable settled (.literal v)
  | range {least most : Literal} {low high : Int64} : least.int? = some low → most.int? = some high →
      low ≤ high → Drawable settled (.range least most)
  | weighted {entries : List (Literal × Expr Nat)} : entries ≠ [] →
      (∀ w e, (w, e) ∈ entries → Drawable settled e) → Drawable settled (.weighted entries)
  | fixed {label : Nat} {e : Expr Nat} {v : Literal} : settled.get? label = some v → e.Possible v →
      Drawable settled e → Drawable settled (.fixed label e)

/-- The labels in entries are those in one of them. -/
lemma mem_entriesLabels_iff {entries : List (Literal × Expr ι)} {label : ι} :
    label ∈ entriesLabels entries ↔ ∃ w e, (w, e) ∈ entries ∧ label ∈ e.labels := by
  induction entries with
  | nil => simp [entriesLabels]
  | cons p rest ih =>
    obtain ⟨w, e⟩ := p
    rw [entriesLabels, List.mem_append, ih]
    constructor
    · rintro (hl | ⟨w', e', he, hl⟩)
      · exact ⟨w, e, List.mem_cons_self, hl⟩
      · exact ⟨w', e', List.mem_cons_of_mem _ he, hl⟩
    · rintro ⟨w', e', he, hl⟩
      cases he with
      | head => exact .inl hl
      | tail _ he => exact .inr ⟨w', e', he, hl⟩

namespace Drawable
variable {settled settled' : Bindings Nat Literal} {e : Expr Nat}

/-- What can be drawn still can where the values with its labels are settled as they were. -/
lemma carry (h : e.Drawable settled)
    (same : ∀ label ∈ e.labels, ∀ v, settled.get? label = some v → settled'.get? label = some v) :
    e.Drawable settled' := by
  induction h with
  | literal v => exact .literal v
  | range hl hm hle => exact .range hl hm hle
  | weighted hne _ ih =>
    refine .weighted hne fun w e he => ih w e he fun label hl => same label ?_
    exact mem_entriesLabels_iff.mpr ⟨w, e, he, hl⟩
  | fixed hv possible _ ih =>
    refine .fixed (same _ List.mem_cons_self _ hv) possible (ih fun label hl => same label ?_)
    exact List.mem_cons_of_mem _ hl

/-- What is drawable stays so when more is settled. -/
lemma within (h : e.Drawable settled) (k : settled.Within settled') : e.Drawable settled' :=
  h.carry fun label _ v => k label v

/-- All fixed values in what can be drawn are settled. -/
lemma covers (h : e.Drawable settled) : settled.Covers e.labels := by
  induction h with
  | literal | range => exact Bindings.covers_nil
  | weighted _ _ ih =>
    intro label hl
    obtain ⟨w, e, he, hl⟩ := mem_entriesLabels_iff.mp hl
    exact ih w e he label hl
  | fixed hv _ _ ih => exact List.forall_mem_cons.mpr ⟨⟨_, hv⟩, ih⟩

end Drawable

end Expr

namespace Derivation

variable {σ ρ α : Type} [Host σ α] [RandomSource ρ] {s : State σ ρ α}

/-! ## Drawing -/

/-- What an entry at a place comes to is what its argument does. -/
lemma resolveEntry_eq {entries : List (Literal × Expr Nat)} {i : Nat} {w : Literal} {e : Expr Nat}
    (h : entries[i]? = some (w, e)) :
    (resolveEntry entries i : Action σ ρ α Literal) = resolve e := by
  induction entries generalizing i with
  | nil => cases h
  | cons p rest ih =>
    cases i with
    | zero =>
      obtain rfl := Option.some.inj h
      simp only [resolveEntry]
    | succ i =>
      simp only [resolveEntry]
      exact ih h

/-- What can be drawn comes to something possible, and nothing more is settled by drawing it. -/
theorem resolve_drawable {settled : Bindings Nat Literal} {e : Expr Nat} (h : e.Drawable settled)
    (bounded : RandomSource.Bounded ρ) (hs : s.settled = settled) :
    Ends (resolve e) s (fun v t => e.Possible v ∧ t.settled = s.settled) (fun _ _ => False) := by
  induction h generalizing s with
  | literal v =>
    simp only [Derivation.resolve]
    exact Ends.pure ⟨.literal v, rfl⟩
  | range hl hm hle =>
    simp only [Derivation.resolve]
    apply Ends.bind
    refine Ends.modifyGet (Ends.pure ⟨?_, rfl⟩)
    rw [hl, hm]
    obtain ⟨least, most⟩ := bounded.intRange s.random hle
    exact .range hl hm least most
  | weighted hne _ ih =>
    simp only [Derivation.resolve]
    apply Ends.bind
    refine ((preparing_any.chooseEntry _ s).and (chooseEntry_ends _ s)).imp ?_ ?_
    · rintro i t ⟨⟨-, hi⟩, same⟩
      rw [resolveEntry_eq (List.getElem?_eq_getElem hi)]
      have member := List.getElem_mem hi
      refine (ih _ _ member (same.trans hs)).imp ?_ (fun _ _ => id)
      rintro v u ⟨possible, ht⟩
      exact ⟨.entry member possible, ht.trans same⟩
    · rintro f t ⟨⟨-, -, none⟩, -⟩
      exact hne none
  | fixed hv possible _ ih =>
    simp only [Derivation.resolve]
    apply Ends.get
    rw [hs, hv]
    exact Ends.bind (Ends.modify (Ends.pure ⟨.fixed possible, hs⟩))

/-- How an argument that can be drawn comes to a value of a form, or fails for the form alone. -/
lemma resolveAs_drawable {e : Expr Nat} (h : e.Drawable s.settled) (bounded : RandomSource.Bounded ρ)
    (shape : Shape) (subject : String) :
    Ends (resolveAs shape subject e) s
      (fun x t => t.settled = s.settled ∧ ∃ v, e.Possible v ∧ shape.read? v = some x)
      (fun f _ => ∃ v, e.Possible v ∧ shape.read? v = none ∧ f = shape.fault subject v) := by
  unfold Derivation.resolveAs
  apply Ends.bind
  refine (resolve_drawable h bounded rfl).imp ?_ (fun _ _ => False.elim)
  rintro v t ⟨possible, same⟩
  cases read : shape.read? v with
  | some x => exact Ends.pure ⟨same, v, possible, read⟩
  | none => exact Ends.throw ⟨v, possible, read, rfl⟩

/-! ## Preparing -/

/-- A step that settles values with some labels and leaves those with other labels as they are. -/
def Elsewhere (labels : List Nat) (s t : State σ ρ α) : Prop :=
  ∀ label ∉ labels, t.settled.get? label = s.settled.get? label

omit [Host σ α] [RandomSource ρ] in
/-- Checking a weight changes nothing. -/
lemma checkWeight_ends (w : Literal) (s : State σ ρ α) :
    Ends (checkWeight w) s (fun _ t => t = s) (fun _ _ => True) := by
  unfold checkWeight
  split
  · split
    · exact Ends.pure rfl
    · exact Ends.throw trivial
  · exact Ends.throw trivial

mutual
/-- An argument that has been prepared can be drawn. -/
theorem drawable_prepareValue (bounded : RandomSource.Bounded ρ) : ∀ (e : Expr Nat) (s : State σ ρ α),
    e.labels.Nodup → Ends (prepareValue e) s
      (fun _ t => e.Drawable t.settled ∧ Elsewhere e.labels s t) (fun _ _ => True)
  | .literal v, s, _ => by
    simp only [prepareValue]
    exact Ends.pure ⟨.literal v, fun _ _ => rfl⟩
  | .range least most, s, _ => by
    simp only [prepareValue, checkRange]
    split
    case h_1 => exact Ends.throw trivial
    case h_2 low hl =>
      split
      case h_1 => exact Ends.throw trivial
      case h_2 high hm =>
        split
        case isTrue => exact Ends.throw trivial
        case isFalse ordered =>
          exact Ends.pure ⟨.range hl hm (Int64.not_lt.mp ordered), fun _ _ => rfl⟩
  | .weighted entries, s, nodup => by
    simp only [prepareValue]
    split
    case isTrue => exact Ends.throw trivial
    case isFalse nonempty =>
      refine (drawable_prepareEntries bounded entries s nodup).imp ?_ (fun _ _ => id)
      rintro _ t ⟨drawable, elsewhere⟩
      exact ⟨.weighted (by simpa using nonempty) drawable, elsewhere⟩
  | .fixed label e, s, nodup => by
    obtain ⟨fresh, nodup⟩ := List.nodup_cons.mp nodup
    simp only [prepareValue]
    apply Ends.bind
    refine (drawable_prepareValue bounded e s nodup).imp ?_ (fun _ _ => id)
    rintro _ t ⟨drawable, elsewhere⟩
    apply Ends.bind
    refine (resolve_drawable drawable bounded rfl).imp ?_ (fun _ _ => False.elim)
    rintro v u ⟨possible, same⟩
    refine Ends.bind (Ends.modify (Ends.modify ?_))
    have settled : ∀ other, (u.settled.insert label v).get? other =
        if label = other then some v else t.settled.get? other := fun other =>
      same ▸ Bindings.get?_insert u.settled label other v
    refine ⟨.fixed ((settled label).trans (if_pos rfl)) possible (drawable.carry fun other ho w hw => ?_),
      fun other ho => ?_⟩
    · have apart : label ≠ other := fun e => fresh (e ▸ ho)
      exact ((settled other).trans (if_neg apart)).trans hw
    · obtain ⟨apart, ho⟩ := not_or.mp (mt List.mem_cons.mpr ho)
      exact ((settled other).trans (if_neg (Ne.symm apart))).trans (elsewhere other ho)
/-- Preparing entries makes all of them drawable. -/
theorem drawable_prepareEntries (bounded : RandomSource.Bounded ρ) :
    ∀ (entries : List (Literal × Expr Nat)) (s : State σ ρ α), (Expr.entriesLabels entries).Nodup →
      Ends (prepareEntries entries) s
        (fun _ t => (∀ w e, (w, e) ∈ entries → e.Drawable t.settled) ∧
          Elsewhere (Expr.entriesLabels entries) s t) (fun _ _ => True)
  | [], s, _ => by
    simp only [prepareEntries]
    exact Ends.pure ⟨fun _ _ h => absurd h List.not_mem_nil, fun _ _ => rfl⟩
  | (w, e) :: rest, s, nodup => by
    obtain ⟨own, others, apart⟩ := List.nodup_append.mp nodup
    simp only [prepareEntries]
    apply Ends.bind
    refine (checkWeight_ends w s).imp ?_ (fun _ _ => id)
    rintro _ s rfl
    apply Ends.bind
    refine (drawable_prepareValue bounded e s own).imp ?_ (fun _ _ => id)
    rintro _ t ⟨drawable, elsewhere⟩
    refine (drawable_prepareEntries bounded rest t others).imp ?_ (fun _ _ => id)
    rintro _ u ⟨drawables, elsewhere'⟩
    have kept : ∀ label ∈ e.labels, u.settled.get? label = t.settled.get? label := fun label hl =>
      elsewhere' label fun hl' => apart label hl label hl' rfl
    refine ⟨fun w' e' he => ?_, fun label hl => ?_⟩
    · cases he with
      | head => exact drawable.carry fun label hl v hv => (kept label hl).trans hv
      | tail _ he => exact drawables w' e' he
    · obtain ⟨hl, hl'⟩ := not_or.mp (mt List.mem_append.mpr hl)
      exact (elsewhere' label hl').trans (elsewhere label hl)
end

end Derivation

end SceneGrammar
