import SceneGrammar.Proofs.Grammar.Preorder

/-!
# Labels

The labels of the fixed values in a grammar, at any depth, in the order in which they are written.
Numbering a grammar gives them consecutive numbers (`Rule.labelsOf_numberAll`), so that no two fixed
values share one. A grammar without fixed values reads the same wherever the numbers begin, and so do
copies of it in a row (`Rule.numberAll_copies`).
-/

namespace SceneGrammar

namespace Expr
variable {ι : Type}

mutual
/-- The labels of the fixed values in an argument. -/
def labels : Expr ι → List ι
  | .literal _ | .range _ _ => []
  | .weighted entries => entriesLabels entries
  | .fixed label e => label :: e.labels
/-- The labels of the fixed values in entries. -/
def entriesLabels : List (Literal × Expr ι) → List ι
  | [] => []
  | (_, e) :: rest => e.labels ++ entriesLabels rest
end

mutual
/-- Numbering gives consecutive labels. -/
lemma labels_number : ∀ (e : Expr ι) (next : Nat),
    ∃ k, (e.number next).2 = next + k ∧ (e.number next).1.labels = List.range' next k
  | .literal _, next => ⟨0, rfl, rfl⟩
  | .range _ _, next => ⟨0, rfl, rfl⟩
  | .weighted entries, next => entriesLabels_number entries next
  | .fixed _ e, next => by
    obtain ⟨k, hk, hl⟩ := labels_number e (next + 1)
    refine ⟨k + 1, ?_, ?_⟩
    · simp only [number, hk]
      omega
    · simp only [number, labels, hl, List.range'_succ]
/-- Numbering gives the fixed values in entries the next labels in a row. -/
lemma entriesLabels_number : ∀ (entries : List (Literal × Expr ι)) (next : Nat),
    ∃ k, (numberEntries entries next).2 = next + k ∧
      entriesLabels (numberEntries entries next).1 = List.range' next k
  | [], next => ⟨0, rfl, rfl⟩
  | (w, e) :: rest, next => by
    obtain ⟨k, hk, hl⟩ := labels_number e next
    obtain ⟨k', hk', hl'⟩ := entriesLabels_number rest (next + k)
    refine ⟨k + k', ?_, ?_⟩
    · simp only [numberEntries, hk, hk', Nat.add_assoc]
    · simp only [numberEntries, entriesLabels, hk, hl, hl', List.range'_append_1]
end

mutual
/-- Without fixed values no number is used. -/
lemma number_of_labels : ∀ {e : Expr ι}, e.labels = [] → ∃ e', ∀ next, e.number next = (e', next)
  | .literal v, _ => ⟨.literal v, fun _ => rfl⟩
  | .range least most, _ => ⟨.range least most, fun _ => rfl⟩
  | .weighted entries, h => by
    have h : entriesLabels entries = [] := h
    obtain ⟨entries', he⟩ := numberEntries_of_labels h
    exact ⟨.weighted entries', fun next => by simp only [number, he]⟩
/-- Entries without fixed values are numbered alike from every label on. -/
lemma numberEntries_of_labels : ∀ {entries : List (Literal × Expr ι)}, entriesLabels entries = [] →
    ∃ entries', ∀ next, numberEntries entries next = (entries', next)
  | [], _ => ⟨[], fun _ => rfl⟩
  | (w, e) :: rest, h => by
    obtain ⟨he, hrest⟩ := List.append_eq_nil_iff.mp h
    obtain ⟨e', he⟩ := number_of_labels he
    obtain ⟨rest', hrest⟩ := numberEntries_of_labels hrest
    exact ⟨(w, e') :: rest', fun next => by simp only [numberEntries, he, hrest]⟩
end

end Expr

namespace Rule
variable {ι : Type}

/-- The labels in the argument of a rule. -/
def ownLabels (r : Rule ι) : List ι :=
  match r.argument? with
  | some (_, e) => e.labels
  | none => []

/-- The labels in a rule and in all that is inside it. -/
def labels (r : Rule ι) : List ι := r.preorder.flatMap ownLabels

/-- The labels in rules. -/
def labelsOf (rs : List (Rule ι)) : List ι := rs.flatMap labels

/-- Rules are listed one after the other, each with all that is inside it. -/
lemma preorderAll_eq (rs : List (Rule ι)) : preorderAll rs = rs.flatMap preorder := by
  induction rs with
  | nil => rfl
  | cons r rs ih => rw [preorderAll, ih, List.flatMap_cons]

/-- The labels in a rule are its own and those in its body. -/
lemma labels_eq (r : Rule ι) : r.labels = r.ownLabels ++ labelsOf r.body := by
  rw [labels, preorder_eq, List.flatMap_cons, preorderAll_eq, List.flatMap_assoc]
  rfl

/-- The labels in rules are those in the first one and in the others. -/
lemma labelsOf_cons (r : Rule ι) (rs : List (Rule ι)) : labelsOf (r :: rs) = r.labels ++ labelsOf rs :=
  List.flatMap_cons

/-- A rule of a sequence has labels of the sequence. -/
lemma labels_subset_labelsOf {r : Rule ι} {rs : List (Rule ι)} (h : r ∈ rs) : r.labels ⊆ labelsOf rs :=
  fun _ hl => List.mem_flatMap.mpr ⟨r, h, hl⟩

/-- What is inside a rule has labels of the rule. -/
lemma labelsOf_body_subset (r : Rule ι) : labelsOf r.body ⊆ r.labels := by
  rw [labels_eq r]
  exact List.subset_append_right _ _

/-- So has its argument. -/
lemma labels_subset_of_argument? {r : Rule ι} {shape : Shape} {e : Expr ι}
    (h : r.argument? = some (shape, e)) : e.labels ⊆ r.labels := by
  rw [labels_eq r, ownLabels, h]
  exact List.subset_append_left _ _

mutual
/-- Numbering gives consecutive labels. -/
lemma labels_number : ∀ (r : Rule ι) (next : Nat),
    ∃ k, (r.number next).2 = next + k ∧ (r.number next).1.labels = List.range' next k
  | .define name body, next => by
    simpa only [labels_eq, number, ownLabels, argument?, Rule.body, List.nil_append]
      using labelsOf_numberAll body next
  | .block body, next => by
    simpa only [labels_eq, number, ownLabels, argument?, Rule.body, List.nil_append]
      using labelsOf_numberAll body next
  | .forLinks pattern body, next => by
    simpa only [labels_eq, number, ownLabels, argument?, Rule.body, List.nil_append]
      using labelsOf_numberAll body next
  | .times e body, next => by
    obtain ⟨k, hk, hl⟩ := e.labels_number next
    obtain ⟨k', hk', hl'⟩ := labelsOf_numberAll body (next + k)
    refine ⟨k + k', ?_, ?_⟩
    · simp only [number, hk, hk', Nat.add_assoc]
    · simp only [labels_eq, number, ownLabels, argument?, Rule.body, hk, hl, hl', List.range'_append_1]
  | .maybe e body, next => by
    obtain ⟨k, hk, hl⟩ := e.labels_number next
    obtain ⟨k', hk', hl'⟩ := labelsOf_numberAll body (next + k)
    refine ⟨k + k', ?_, ?_⟩
    · simp only [number, hk, hk', Nat.add_assoc]
    · simp only [labels_eq, number, ownLabels, argument?, Rule.body, hk, hl, hl', List.range'_append_1]
  | .exportLink e, next | .place e, next | .copySibling e _, next | .addLink e, next | .goTo e, next
  | .adjust _ e _, next => by
    simpa only [labels_eq, number, ownLabels, argument?, Rule.body, labelsOf, List.flatMap_nil,
      List.append_nil] using e.labels_number next
/-- Numbering a grammar gives consecutive labels. -/
theorem labelsOf_numberAll : ∀ (rs : List (Rule ι)) (next : Nat),
    ∃ k, (numberAll rs next).2 = next + k ∧ labelsOf (numberAll rs next).1 = List.range' next k
  | [], next => ⟨0, rfl, rfl⟩
  | r :: rs, next => by
    obtain ⟨k, hk, hl⟩ := labels_number r next
    obtain ⟨k', hk', hl'⟩ := labelsOf_numberAll rs (next + k)
    refine ⟨k + k', ?_, ?_⟩
    · simp only [numberAll, hk, hk', Nat.add_assoc]
    · simp only [numberAll, labelsOf_cons, hk, hl, hl', List.range'_append_1]
end

/-! ## Without fixed values -/

/-- The argument of a rule without fixed values uses no number. -/
lemma argument_of_labels {r : Rule ι} {shape : Shape} {e : Expr ι} (h : r.labels = [])
    (he : r.argument? = some (shape, e)) : ∃ e', ∀ next, e.number next = (e', next) :=
  Expr.number_of_labels (List.eq_nil_of_subset_nil (h ▸ labels_subset_of_argument? he))

/-- Without labels in a rule there are none in its body. -/
lemma labelsOf_body_eq_nil {r : Rule ι} (h : r.labels = []) : labelsOf r.body = [] :=
  List.eq_nil_of_subset_nil (h ▸ labelsOf_body_subset r)

mutual
/-- A rule without fixed values is numbered alike from every label on. -/
lemma number_of_labels : ∀ {r : Rule ι}, r.labels = [] → ∃ r', ∀ next, r.number next = (r', next)
  | .define name body, h => by
    have inside : labelsOf body = [] := labelsOf_body_eq_nil h
    obtain ⟨body', hb⟩ := numberAll_of_labelsOf inside
    exact ⟨.define name body', fun next => by simp only [number, hb]⟩
  | .block body, h => by
    have inside : labelsOf body = [] := labelsOf_body_eq_nil h
    obtain ⟨body', hb⟩ := numberAll_of_labelsOf inside
    exact ⟨.block body', fun next => by simp only [number, hb]⟩
  | .forLinks pattern body, h => by
    have inside : labelsOf body = [] := labelsOf_body_eq_nil h
    obtain ⟨body', hb⟩ := numberAll_of_labelsOf inside
    exact ⟨.forLinks pattern body', fun next => by simp only [number, hb]⟩
  | .times e body, h => by
    obtain ⟨e', he⟩ := argument_of_labels h rfl
    have inside : labelsOf body = [] := labelsOf_body_eq_nil h
    obtain ⟨body', hb⟩ := numberAll_of_labelsOf inside
    exact ⟨.times e' body', fun next => by simp only [number, he, hb]⟩
  | .maybe e body, h => by
    obtain ⟨e', he⟩ := argument_of_labels h rfl
    have inside : labelsOf body = [] := labelsOf_body_eq_nil h
    obtain ⟨body', hb⟩ := numberAll_of_labelsOf inside
    exact ⟨.maybe e' body', fun next => by simp only [number, he, hb]⟩
  | .exportLink _, h => by
    obtain ⟨e', he⟩ := argument_of_labels h rfl
    exact ⟨.exportLink e', fun next => by simp only [number, he]⟩
  | .place _, h => by
    obtain ⟨e', he⟩ := argument_of_labels h rfl
    exact ⟨.place e', fun next => by simp only [number, he]⟩
  | .copySibling _ mirror, h => by
    obtain ⟨e', he⟩ := argument_of_labels h rfl
    exact ⟨.copySibling e' mirror, fun next => by simp only [number, he]⟩
  | .addLink _, h => by
    obtain ⟨e', he⟩ := argument_of_labels h rfl
    exact ⟨.addLink e', fun next => by simp only [number, he]⟩
  | .goTo _, h => by
    obtain ⟨e', he⟩ := argument_of_labels h rfl
    exact ⟨.goTo e', fun next => by simp only [number, he]⟩
  | .adjust channel _ absolute, h => by
    obtain ⟨e', he⟩ := argument_of_labels h rfl
    exact ⟨.adjust channel e' absolute, fun next => by simp only [number, he]⟩
/-- Without fixed values no number is used. -/
lemma numberAll_of_labelsOf : ∀ {rs : List (Rule ι)}, labelsOf rs = [] →
    ∃ rs', ∀ next, numberAll rs next = (rs', next)
  | [], _ => ⟨[], fun _ => rfl⟩
  | r :: rs, h => by
    rw [labelsOf_cons] at h
    obtain ⟨hr, hrs⟩ := List.append_eq_nil_iff.mp h
    obtain ⟨r', hr⟩ := number_of_labels hr
    obtain ⟨rs', hrs⟩ := numberAll_of_labelsOf hrs
    exact ⟨r' :: rs', fun next => by simp only [numberAll, hr, hrs]⟩
end

/-- Rules in a row are numbered one part after the other. -/
lemma numberAll_append (rs rs' : List (Rule ι)) (next : Nat) :
    (numberAll (rs ++ rs') next).1 =
      (numberAll rs next).1 ++ (numberAll rs' (numberAll rs next).2).1 := by
  induction rs generalizing next with
  | nil => rfl
  | cons r rs ih => simp only [List.cons_append, numberAll, ih]

/-- Copies of a sequence without fixed values are copies of what numbering makes of it, wherever the
numbers begin. -/
lemma numberAll_copies {rs : List (Rule ι)} (h : labelsOf rs = []) (n next next' : Nat) :
    (numberAll (List.replicate n rs).flatten next).1 =
      (List.replicate n (numberAll rs next').1).flatten := by
  obtain ⟨rs', hrs⟩ := numberAll_of_labelsOf h
  rw [hrs next']
  induction n with
  | zero => rfl
  | succ n ih =>
    simp only [List.replicate_succ, List.flatten_cons]
    rw [numberAll_append, hrs next, ih]

end Rule

end SceneGrammar
