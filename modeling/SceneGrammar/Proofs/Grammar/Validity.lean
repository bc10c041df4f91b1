import SceneGrammar.Proofs.Grammar.Preorder

/-!
# Valid rules

What a rule has to be like, said without the checks: names are there, literals have the form that
their rule needs, ranges hold an integer, weights are numbers that can be chosen by, and patterns
can be read, in the rule and in all that is inside it. A rule has no defect exactly if it is valid
(`Rule.defect?_eq_none_iff_valid`).
-/

namespace SceneGrammar

/-- A literal of a form. -/
inductive Literal.HasForm : Shape → Literal → Prop
  | text (s : String) : HasForm .text (.str s)
  | count {n : Int64} (h : 0 ≤ n) : HasForm .count (.int n)
  | integer (n : Int64) : HasForm .number (.int n)
  | float (x : Float) : HasForm .number (.float x)
  | vector {a b c : Literal} (x : HasForm .number a) (y : HasForm .number b)
      (z : HasForm .number c) : HasForm .vector (.list [a, b, c])

/-- A weight that can be chosen by: a number that is finite and not negative. -/
def Literal.IsWeight (w : Literal) : Prop :=
  ∃ x, w.number? = some x ∧ x.isFinite ∧ 0 ≤ x

namespace Literal

lemma hasForm_number_iff {v : Literal} : v.HasForm .number ↔ ∃ x, v.number? = some x := by
  constructor
  · rintro (_ | _ | _)
    · exact ⟨_, rfl⟩
    · exact ⟨_, rfl⟩
  · rintro ⟨x, h⟩
    cases v with
    | int n => exact .integer n
    | float y => exact .float y
    | _ => cases h

lemma hasForm_vector_iff {v : Literal} : v.HasForm .vector ↔ ∃ p, v.vector? = some p := by
  constructor
  · rintro (_ | _ | _ | _ | ⟨ha, hb, hc⟩)
    obtain ⟨x, hx⟩ := hasForm_number_iff.1 ha
    obtain ⟨y, hy⟩ := hasForm_number_iff.1 hb
    obtain ⟨z, hz⟩ := hasForm_number_iff.1 hc
    exact ⟨⟨x, y, z⟩, by simp [vector?, hx, hy, hz]⟩
  · rintro ⟨p, h⟩
    unfold vector? at h
    split at h
    · next a b c =>
      obtain ⟨x, hx, h⟩ := Option.bind_eq_some_iff.1 h
      obtain ⟨y, hy, h⟩ := Option.bind_eq_some_iff.1 h
      obtain ⟨z, hz, -⟩ := Option.bind_eq_some_iff.1 h
      exact .vector (hasForm_number_iff.2 ⟨x, hx⟩) (hasForm_number_iff.2 ⟨y, hy⟩)
        (hasForm_number_iff.2 ⟨z, hz⟩)
    · cases h

/-- A literal is accepted for a form if it has it. -/
lemma accepts_iff {shape : Shape} {v : Literal} : shape.accepts v ↔ v.HasForm shape := by
  rw [Shape.accepts, Option.isSome_iff_exists]
  cases shape with
  | text =>
    constructor
    · rintro ⟨s, h⟩
      cases v with
      | str s => exact .text s
      | _ => cases h
    · rintro ⟨s⟩
      exact ⟨s, rfl⟩
  | count =>
    constructor
    · rintro ⟨k, h⟩
      obtain ⟨n, hn, hk⟩ := Option.bind_eq_some_iff.1 h
      cases v with
      | int m =>
        cases hn
        exact .count (Option.ite_none_right_eq_some.1 hk).1
      | _ => cases hn
    · rintro (_ | h)
      exact ⟨_, if_pos h⟩
  | number => exact hasForm_number_iff.symm
  | vector => exact hasForm_vector_iff.symm

/-- Bounds without defect are integers in order. -/
lemma boundsDefect?_eq_none_iff {least most : Literal} :
    least.boundsDefect? most = none ↔
      ∃ low high, least = .int low ∧ most = .int high ∧ low ≤ high := by
  constructor
  · intro h
    unfold boundsDefect? at h
    cases least with
    | int low =>
      cases most with
      | int high =>
        refine ⟨low, high, rfl, rfl, Int64.not_lt.1 fun lt => ?_⟩
        simp [int?, lt] at h
      | _ => cases h
    | _ => cases h
  · rintro ⟨low, high, rfl, rfl, le⟩
    exact if_neg (Int64.not_lt.2 le)

/-- Nothing is wrong with a weight if it is one. -/
lemma weightDefect?_eq_none_iff {w : Literal} : w.weightDefect? = none ↔ w.IsWeight := by
  unfold weightDefect? IsWeight
  cases w.number? with
  | none => simp
  | some x => simp

end Literal

namespace Expr
variable {ι : Type}

/-- A value that can be drawn. A literal comes to itself, whatever it is. -/
inductive Valid : Expr ι → Prop
  | literal (v : Literal) : Valid (.literal v)
  | range {low high : Int64} (ordered : low ≤ high) : Valid (.range (.int low) (.int high))
  | weighted {entries : List (Literal × Expr ι)} (some_entry : entries ≠ [])
      (weights : ∀ entry ∈ entries, entry.1.IsWeight)
      (values : ∀ entry ∈ entries, Valid entry.2) : Valid (.weighted entries)
  | fixed (label : ι) {e : Expr ι} (value : Valid e) : Valid (.fixed label e)

/-- An argument for a form: a literal of the form, or any other value that can be drawn. -/
inductive Fits (shape : Shape) : Expr ι → Prop
  | literal {v : Literal} (form : v.HasForm shape) : Fits shape (.literal v)
  | drawn {e : Expr ι} (not_literal : e.literal? = none) (valid : e.Valid) : Fits shape e

mutual
/-- A value has no defect if it can be drawn. -/
lemma defect?_eq_none_iff : ∀ e : Expr ι, e.defect? = none ↔ e.Valid
  | .literal v => iff_of_true rfl (.literal v)
  | .range least most => by
    rw [defect?, Literal.boundsDefect?_eq_none_iff]
    constructor
    · rintro ⟨low, high, rfl, rfl, le⟩
      exact .range le
    · rintro (_ | le)
      exact ⟨_, _, rfl, rfl, le⟩
  | .weighted entries => by
    rw [defect?]
    cases entries with
    | nil => exact iff_of_false nofun fun | .weighted some_entry _ _ => some_entry rfl
    | cons entry rest =>
      refine (entriesDefect?_eq_none_iff (entry :: rest)).trans ⟨?each, ?all⟩
      case each =>
        intro all
        exact .weighted (List.cons_ne_nil _ _) (fun e he => (all e he).1) fun e he => (all e he).2
      case all =>
        rintro (_ | _ | ⟨-, weights, values⟩)
        exact fun e he => ⟨weights e he, values e he⟩
  | .fixed label e => by
    rw [defect?, defect?_eq_none_iff e]
    exact ⟨.fixed label, fun | .fixed _ value => value⟩
/-- Entries have none if each has a weight and a value that can be drawn. -/
lemma entriesDefect?_eq_none_iff : ∀ entries : List (Literal × Expr ι),
    entriesDefect? entries = none ↔ ∀ entry ∈ entries, entry.1.IsWeight ∧ entry.2.Valid
  | [] => by simp [entriesDefect?]
  | (w, e) :: rest => by
    simp only [entriesDefect?, Option.or_eq_none_iff, List.forall_mem_cons, and_assoc,
      Literal.weightDefect?_eq_none_iff, defect?_eq_none_iff e, entriesDefect?_eq_none_iff rest]
end

/-- An argument has no defect if it fits. -/
lemma argumentDefects_eq_nil_iff {subject : String} {shape : Shape} {e : Expr ι} :
    e.argumentDefects subject shape = [] ↔ e.Fits shape := by
  rw [← List.head?_eq_none_iff, head?_argumentDefects]
  cases h : e.literal? with
  | some v =>
    obtain ⟨v, rfl⟩ : ∃ v, e = .literal v := by
      cases e with
      | literal v => exact ⟨v, rfl⟩
      | _ => cases h
    have form : (Expr.literal v : Expr ι).Fits shape ↔ v.HasForm shape :=
      ⟨fun | .literal form => form, .literal⟩
    rw [form, ← Literal.accepts_iff]
    simp [argumentDefect?]
  | none =>
    have drawn : e.argumentDefect? subject shape = e.defect? := by cases e <;> first | rfl | cases h
    rw [drawn, defect?_eq_none_iff]
    refine ⟨.drawn h, ?_⟩
    rintro (_ | ⟨-, valid⟩)
    · cases h
    · exact valid

end Expr

namespace Rule
variable {ι : Type}

/-- A rule that is as it should be, apart from what is inside it: a definition has a name, an
argument fits, and a pattern can be read. -/
structure WellPut (r : Rule ι) : Prop where
  named : ∀ name body, r = .define name body → name ≠ ""
  fits : ∀ shape e, r.argument? = some (shape, e) → e.Fits shape
  readable : ∀ source body, r = .forLinks source body → (Pattern.anchored? source).isSome

/-- A rule that is as it should be, with all that is inside it. -/
inductive Valid : Rule ι → Prop
  | intro {r : Rule ι} (self : r.WellPut) (inside : ∀ q ∈ r.body, Valid q) : Valid r

mutual
/-- What holds of a rule if it holds of the rules right inside it, holds of every rule. -/
theorem body_induction {P : Rule ι → Prop} (step : ∀ r, (∀ q ∈ r.body, P q) → P r) :
    ∀ r : Rule ι, P r
  | .define _ body => step _ (body_inductionAll step body)
  | .block body => step _ (body_inductionAll step body)
  | .times _ body => step _ (body_inductionAll step body)
  | .forLinks _ body => step _ (body_inductionAll step body)
  | .maybe _ body => step _ (body_inductionAll step body)
  | .exportLink _ | .place _ | .copySibling _ _ | .addLink _ | .goTo _ | .adjust _ _ _ =>
    step _ fun _ none => absurd none List.not_mem_nil
/-- So it holds of the rules of every sequence. -/
theorem body_inductionAll {P : Rule ι → Prop} (step : ∀ r, (∀ q ∈ r.body, P q) → P r) :
    ∀ rs : List (Rule ι), ∀ q ∈ rs, P q
  | [] => fun _ none => absurd none List.not_mem_nil
  | r :: rs => List.forall_mem_cons.2 ⟨body_induction step r, body_inductionAll step rs⟩
end

/-- Nothing is wrong with a rule, apart from what is inside it, if it is as it should be. -/
lemma ownDefects_eq_nil_iff {r : Rule ι} : r.ownDefects = [] ↔ r.WellPut := by
  cases r with
  | define name body =>
    have named : (define name body).ownDefects = [] ↔ name ≠ "" := by simp [ownDefects]
    rw [named]
    refine ⟨fun h => ⟨?_, nofun, nofun⟩, fun h => h.named name body rfl⟩
    rintro _ _ ⟨⟩
    exact h
  | forLinks source body =>
    have readable : (forLinks source body).ownDefects = [] ↔ (Pattern.anchored? source).isSome := by
      simp [ownDefects, patternDefect?, Option.isSome_iff_ne_none]
    rw [readable]
    refine ⟨fun h => ⟨nofun, nofun, ?_⟩, fun h => h.readable source body rfl⟩
    rintro _ _ ⟨⟩
    exact h
  | block body => exact iff_of_true rfl ⟨nofun, nofun, nofun⟩
  | _ =>
    refine Expr.argumentDefects_eq_nil_iff.trans ⟨fun h => ⟨nofun, ?_, nofun⟩, fun h => h.fits _ _ rfl⟩
    rintro _ _ ⟨⟩
    exact h

/-- A rule has no defect if it is as it should be and nothing right inside it has one. -/
lemma defect?_eq_none_iff_body {r : Rule ι} :
    r.defect? = none ↔ r.WellPut ∧ ∀ q ∈ r.body, q.defect? = none := by
  rw [defect?_eq_none_iff, defects_eq, List.append_eq_nil_iff, ownDefects_eq_nil_iff,
    ← List.head?_eq_none_iff, head?_defectsOf, defectOf?_eq_none_iff]

/-- A rule has no defect exactly if it is valid. -/
theorem defect?_eq_none_iff_valid (r : Rule ι) : r.defect? = none ↔ r.Valid := by
  refine body_induction (P := fun r => r.defect? = none ↔ r.Valid) (fun r ih => ?_) r
  rw [defect?_eq_none_iff_body]
  constructor
  · rintro ⟨self, inside⟩
    exact .intro self fun q hq => (ih q hq).1 (inside q hq)
  · rintro ⟨self, inside⟩
    exact ⟨self, fun q hq => (ih q hq).2 (inside q hq)⟩

end Rule

end SceneGrammar
