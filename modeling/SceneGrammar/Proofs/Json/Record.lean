import SceneGrammar.Json.Record
import SceneGrammar.Proofs.Json.Sound
import Mathlib.Data.List.Forall2
import Mathlib.Data.List.Perm.Subperm

/-!
# Parts of a record

What a record is made of is found in it as it was written, whether the record stands as an object or
as an array, so a part of a sound record is sound and one level less deep. In an object the order of the
fields does not matter, and a field that is left out is missing (`fieldOf?_subperm`).
-/

namespace SceneGrammar.Json

/-! ## Lists -/

/-- A list is read item by item. -/
lemma mapM_eq_some {α β : Type} {f : α → Option β} {xs : List α} {ys : List β} :
    xs.mapM f = some ys ↔ List.Forall₂ (fun x y => f x = some y) xs ys := by
  induction xs generalizing ys with
  | nil => simp [eq_comm]
  | cons x xs ih =>
    rw [List.mapM_cons, List.forall₂_cons_left_iff]
    simp only [Option.bind_eq_bind, Option.bind_eq_some_iff, Option.pure_def, ih]
    constructor
    · rintro ⟨y, first, ys', others, same⟩
      cases same
      exact ⟨y, ys', first, others, rfl⟩
    · rintro ⟨y, ys', first, others, rfl⟩
      exact ⟨y, first, ys', others, rfl⟩

/-- What is read back item by item is read back as a list. -/
lemma mapM_map_eq_some {α β : Type} {f : α → Option β} {g : β → α} {ys : List β}
    (h : ∀ y ∈ ys, f (g y) = some y) : (ys.map g).mapM f = some ys := by
  refine mapM_eq_some.2 ?_
  rw [List.forall₂_map_left_iff, List.forall₂_same]
  exact h

/-- What holds of everything that is read from a list. -/
lemma forall_of_mapM {α β : Type} {f : α → Option β} {xs : List α} {ys : List β} {P : β → Prop}
    (h : xs.mapM f = some ys) (step : ∀ x ∈ xs, ∀ y, f x = some y → P y) : ∀ y ∈ ys, P y := by
  induction mapM_eq_some.1 h with
  | nil => simp
  | cons read others ih =>
    refine List.forall_mem_cons.2 ⟨step _ List.mem_cons_self _ read, ?_⟩
    exact ih (mapM_eq_some.2 others) fun x mem => step x (List.mem_cons_of_mem _ mem)

/-! ## Records -/

/-- Removing fields leaves an object sound. -/
lemma Sound.filter {d : Nat} {fields : List (String × Json)} (h : Sound d (.obj fields))
    (p : String × Json → Bool) : Sound d (.obj (fields.filter p)) := by
  cases h with
  | obj all => exact .obj fun f mem => all f (List.mem_filter.1 mem).1

/-- A record without its tag is sound. -/
lemma Sound.untag? {d : Nat} {j tag record : Json} {name : String} (h : Sound d j)
    (found : j.untag? name = some (tag, record)) : Sound d record := by
  unfold Json.untag? at found
  split at found
  case h_1 fields =>
    split at found
    case h_1 => cases found; exact h.filter _
    case h_2 => cases found
  case h_2 tag' rest =>
    cases found
    cases h with
    | arr all => exact .arr fun j mem => all j (List.mem_cons_of_mem _ mem)
  case h_3 => cases found

/-- A field of an object is one of its fields. -/
lemma mem_of_fieldOf? {fields : List (String × Json)} {name : String} {value : Json}
    (h : fieldOf? fields name = some (some value)) : ∃ f ∈ fields, f.2 = value := by
  unfold fieldOf? at h
  split at h
  case h_1 => cases h
  case h_2 key value' only =>
    cases h
    have : (key, value) ∈ fields.filter (·.1 == name) := by rw [only]; exact List.mem_singleton_self _
    exact ⟨_, (List.mem_filter.1 this).1, rfl⟩
  case h_3 => cases h

/-- The parts of a sound record are sound and one level less deep. -/
lemma Sound.parts? {d : Nat} {record : Json} {names : List String} {ps : List (Option Json)}
    (h : Sound d record) (found : record.parts? names = some ps) :
    ∃ e, d = e + 1 ∧ ∀ q, some q ∈ ps → Sound e q := by
  unfold Json.parts? at found
  split at found
  case h_1 fields =>
    cases h with
    | @obj e _ all =>
      refine ⟨e, rfl, fun q mem => ?_⟩
      refine forall_of_mapM (P := fun p => ∀ q, p = some q → Sound e q) found ?_ (some q) mem q rfl
      rintro name - p field q rfl
      obtain ⟨f, mem, rfl⟩ := mem_of_fieldOf? field
      exact all f mem
  case h_2 items =>
    split at found
    case isTrue =>
      cases found
      cases h with
      | @arr e _ all =>
        refine ⟨e, rfl, fun q mem => ?_⟩
        cases List.mem_append.1 mem with
        | inl written =>
          obtain ⟨j, item, same⟩ := List.mem_map.1 written
          cases same
          exact all q item
        | inr missing => cases List.eq_of_mem_replicate missing
    case isFalse => cases found
  case h_3 => cases found

/-- The items of a sound array. -/
lemma Sound.items? {d : Nat} {j : Json} {items : List Json} (h : Sound d j)
    (found : j.items? = some items) : ∃ e, d = e + 1 ∧ ∀ i ∈ items, Sound e i := by
  cases h with
  | @arr e _ all => cases found; exact ⟨e, rfl, all⟩
  | _ => cases found

/-! ## Fields in any order -/

variable {fields all : List (String × Json)} {name : String} {value : Json}

/-- Where no key repeats, a key belongs to one field. -/
lemma filter_key (once : (all.map (·.1)).Nodup) (mem : (name, value) ∈ all) :
    all.filter (·.1 == name) = [(name, value)] := by
  induction all with
  | nil => cases mem
  | cons first rest ih =>
    have ⟨apart, others⟩ := List.nodup_cons.mp once
    cases List.mem_cons.mp mem with
    | inl same =>
      subst same
      have alone : ∀ f ∈ rest, ¬ (f.1 == name) = true := fun f later key =>
        apart (List.mem_map.mpr ⟨f, later, eq_of_beq key⟩)
      rw [List.filter_cons, if_pos (beq_self_eq_true name), List.filter_eq_nil_iff.mpr alone]
    | inr later =>
      have differ : ¬ (first.1 == name) = true := fun key =>
        apart (List.mem_map.mpr ⟨_, later, (eq_of_beq key).symm⟩)
      rw [List.filter_cons, if_neg differ, ih others later]

/-- Of some fields of a record, in any order, a field is found if it is among them. -/
lemma fieldOf?_subperm (among : fields.Subperm all) (once : (all.map (·.1)).Nodup)
    (mem : (name, value) ∈ all) :
    fieldOf? fields name = some (if name ∈ fields.map (·.1) then some value else none) := by
  have found : (fields.filter (·.1 == name)).Subperm [(name, value)] := by
    rw [← filter_key once mem]
    exact among.filter _
  unfold fieldOf?
  cases List.subperm_singleton_iff.mp found with
  | inl missing =>
    have absent : name ∉ fields.map (·.1) := by
      rw [List.mem_map]
      rintro ⟨f, written, rfl⟩
      exact List.filter_eq_nil_iff.mp missing f written (beq_self_eq_true f.1)
    rw [missing, if_neg absent]
  | inr there =>
    have written : (name, value) ∈ fields :=
      List.mem_of_mem_filter (there ▸ List.mem_singleton_self (name, value))
    rw [there, if_pos (List.mem_map.mpr ⟨_, written, rfl⟩)]

/-! ## Natural numbers -/

/-- A natural number is read from its tree. -/
lemma nat?_ofNat {width n : Nat} (h : n < 2 ^ width) : (ofNat n).nat? width = some n := by
  have below : (n : Int) < 2 ^ width := by exact_mod_cast h
  simp [ofNat, nat?, below]

lemma legible_ofNat {n : Nat} (h : n < 2 ^ 128) : Legible (ofNat n) :=
  .int (Decimal.isInf_whole h)

end SceneGrammar.Json
