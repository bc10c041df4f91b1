import SceneGrammar.Proofs.Decimal.Range
import SceneGrammar.Proofs.Json.Tree

/-!
# What a text can hold

The numbers of a tree that was read are finite, unless a part of the tree has no value. `Sound`
keeps this together with a bound of the depth, since both pass from a tree to its parts.
-/

namespace SceneGrammar.Json

/-- A tree of at most so many arrays and objects around a part, all of whose parts have values and
all of whose numbers are finite. -/
inductive Sound : Nat → Json → Prop
  | null {d : Nat} : Sound d .null
  | bool {d : Nat} (b : Bool) : Sound d (.bool b)
  | int {d : Nat} {n : Int} (range : (Decimal.mk n.natAbs 0).toFloat.isInf = false) :
    Sound d (.int n)
  | float {d : Nat} {x : Float} (finite : x.isFinite = true) : Sound d (.float x)
  | str {d : Nat} (s : String) : Sound d (.str s)
  | arr {d : Nat} {items : List Json} (all : ∀ j ∈ items, Sound d j) : Sound (d + 1) (.arr items)
  | obj {d : Nat} {fields : List (String × Json)} (all : ∀ f ∈ fields, Sound d f.2) :
    Sound (d + 1) (.obj fields)

mutual
/-- The floats of a tree. -/
def floats : Json → List Float
  | .float x => [x]
  | .arr items => itemsFloats items
  | .obj fields => fieldsFloats fields
  | _ => []
/-- The floats of items. -/
def itemsFloats : List Json → List Float
  | [] => []
  | item :: rest => item.floats ++ itemsFloats rest
/-- The floats of fields. -/
def fieldsFloats : List (String × Json) → List Float
  | [] => []
  | (_, value) :: rest => value.floats ++ fieldsFloats rest
end

/-- The floats of items are those of one of them. -/
lemma mem_itemsFloats {x : Float} {items : List Json} :
    x ∈ itemsFloats items ↔ ∃ j ∈ items, x ∈ j.floats := by
  induction items with
  | nil => simp [itemsFloats]
  | cons j items ih => simp [itemsFloats, ih]

/-- The floats of fields are those of the value of one of them. -/
lemma mem_fieldsFloats {x : Float} {fields : List (String × Json)} :
    x ∈ fieldsFloats fields ↔ ∃ f ∈ fields, x ∈ f.2.floats := by
  induction fields with
  | nil => simp [fieldsFloats]
  | cons f fields ih => simp [fieldsFloats, ih]

/-- Items are no deeper than a bound if none of them is. -/
lemma itemsDepth_le {d : Nat} {items : List Json} :
    itemsDepth items ≤ d ↔ ∀ j ∈ items, j.depth ≤ d := by
  induction items with
  | nil => simp [itemsDepth]
  | cons j items ih => rw [itemsDepth, Nat.max_le, ih, List.forall_mem_cons]

/-- Fields are no deeper than a bound if none of their values is. -/
lemma fieldsDepth_le {d : Nat} {fields : List (String × Json)} :
    fieldsDepth fields ≤ d ↔ ∀ f ∈ fields, f.2.depth ≤ d := by
  induction fields with
  | nil => simp [fieldsDepth]
  | cons f fields ih => rw [fieldsDepth, Nat.max_le, ih, List.forall_mem_cons]

/-- Items can be read if each of them can. -/
lemma itemsReadable_iff {items : List Json} :
    itemsReadable items = true ↔ ∀ j ∈ items, j.readable = true := by
  induction items with
  | nil => simp [itemsReadable]
  | cons j items ih => rw [itemsReadable, Bool.and_eq_true, ih, List.forall_mem_cons]

/-- Fields can be read if the value of each of them can. -/
lemma fieldsReadable_iff {fields : List (String × Json)} :
    fieldsReadable fields = true ↔ ∀ f ∈ fields, f.2.readable = true := by
  induction fields with
  | nil => simp [fieldsReadable]
  | cons f fields ih => rw [fieldsReadable, Bool.and_eq_true, ih, List.forall_mem_cons]

/-- A sound tree is no deeper than its bound. -/
lemma Sound.depth_le {d : Nat} {j : Json} (h : Sound d j) : j.depth ≤ d := by
  induction h with
  | arr all ih => exact Nat.succ_le_succ (itemsDepth_le.2 ih)
  | obj all ih => exact Nat.succ_le_succ (fieldsDepth_le.2 ih)
  | _ => exact Nat.zero_le _

/-- The floats of a sound tree are finite. -/
lemma Sound.isFinite {d : Nat} {j : Json} (h : Sound d j) : ∀ x ∈ j.floats, x.isFinite = true := by
  induction h with
  | float finite => simpa [floats] using finite
  | arr all ih =>
    intro x mem
    obtain ⟨j, item, mem⟩ := mem_itemsFloats.1 mem
    exact ih j item x mem
  | obj all ih =>
    intro x mem
    obtain ⟨f, field, mem⟩ := mem_fieldsFloats.1 mem
    exact ih f field x mem
  | _ => simp [floats]

/-- A sound tree is sound with every greater bound. -/
lemma Sound.mono {d e : Nat} {j : Json} (h : Sound d j) (le : d ≤ e) : Sound e j := by
  induction h generalizing e with
  | null => exact .null
  | bool b => exact .bool b
  | int range => exact .int range
  | float finite => exact .float finite
  | str s => exact .str s
  | arr all ih =>
    obtain ⟨e, rfl⟩ : ∃ f, e = f + 1 := ⟨e - 1, by omega⟩
    exact .arr fun j mem => ih j mem (by omega)
  | obj all ih =>
    obtain ⟨e, rfl⟩ : ∃ f, e = f + 1 := ⟨e - 1, by omega⟩
    exact .obj fun f mem => ih f mem (by omega)

/-- A tree that can be told from its text can be read. -/
lemma Legible.readable {j : Json} (h : Legible j) : j.readable = true := by
  induction h with
  | arr all ih => exact itemsReadable_iff.2 ih
  | obj all ih => exact fieldsReadable_iff.2 ih
  | _ => rfl

/-- Nothing but its floats can keep the tree from being told from its text. -/
def Written (j : Json) : Prop := (∀ x ∈ j.floats, ReadsBack x) → Legible j

/-- An array of written items is written. -/
lemma written_arr {items : List Json} (h : ∀ j ∈ items, Written j) : Written (.arr items) :=
  fun back => .arr fun j mem => h j mem fun x float => back x (mem_itemsFloats.2 ⟨j, mem, float⟩)

/-- An object of written values is written. -/
lemma written_obj {fields : List (String × Json)} (h : ∀ f ∈ fields, Written f.2) :
    Written (.obj fields) :=
  fun back => .obj fun f mem => h f mem fun x float => back x (mem_fieldsFloats.2 ⟨f, mem, float⟩)

/-- A float is told from its text if the text is read as the float. -/
lemma written_float (x : Float) : Written (.float x) := fun back => .float (back x (by simp [floats]))

/-- A text is told from its own text. -/
lemma written_str (s : String) : Written (.str s) := fun _ => .str s

/-! ## Numbers -/

/-- A number with a fraction is sound if it has a value. -/
lemma sound_floatValue (negative : Bool) (d : Decimal) (h : (floatValue negative d).readable = true) :
    Sound 0 (floatValue negative d) := by
  unfold floatValue at h ⊢
  dsimp only at h ⊢
  split at h
  case isTrue => cases h
  case isFalse finite =>
    rw [if_neg finite]
    have := Decimal.isFinite_toFloat (Bool.eq_false_iff.2 finite)
    refine .float ?_
    split
    · exact Decimal.isFinite_neg this
    · exact this

/-- A whole number is sound if it has a value. -/
lemma sound_wholeValue (negative : Bool) (n : Nat) (h : (wholeValue negative n).readable = true) :
    Sound 0 (wholeValue negative n) := by
  unfold wholeValue at h ⊢
  split
  case isTrue => exact .float rfl
  case isFalse other =>
    rw [if_neg other] at h
    split at h
    case isTrue => cases h
    case isFalse finite =>
      rw [if_neg finite]
      refine .int ?_
      have : (if negative = true then -(n : Int) else n).natAbs = n := by split <;> omega
      rw [this]
      exact Bool.eq_false_iff.2 finite

/-- A number that was read without its sign is sound if it has a value. -/
lemma sound_readMagnitude {negative : Bool} {cs r : List Char} {j : Json}
    (h : readMagnitude negative cs = some (j, r)) (readable : j.readable = true) : Sound 0 j := by
  unfold readMagnitude at h
  dsimp only at h
  split at h
  case isTrue => cases h
  case isFalse =>
    obtain ⟨⟨f, afterFraction⟩, -, h⟩ := Option.bind_eq_some_iff.1 h
    obtain ⟨⟨e, last⟩, -, h⟩ := Option.bind_eq_some_iff.1 h
    split at h
    case isTrue => cases h; exact sound_wholeValue _ _ readable
    case isFalse => cases h; exact sound_floatValue _ _ readable

/-- A number that was read is sound if it has a value. -/
lemma sound_readNumber {cs r : List Char} {j : Json} (h : readNumber cs = some (j, r))
    (readable : j.readable = true) : Sound 0 j := by
  unfold readNumber at h
  split at h
  case h_1 => exact sound_readMagnitude h readable
  case h_2 => exact sound_readMagnitude h readable

/-! ## Trees -/

/-- The tree is sound if all its parts have values. -/
def SoundIfReadable (j : Json) : Prop := j.readable = true → Sound j.depth j

/-- An array is sound if all its items are and can be read. -/
lemma soundIfReadable_arr {items : List Json} (h : ∀ j ∈ items, SoundIfReadable j) :
    SoundIfReadable (.arr items) := by
  intro readable
  refine .arr fun j mem => ?_
  have shallow : j.depth ≤ itemsDepth items := itemsDepth_le.1 (Nat.le_refl _) j mem
  exact (h j mem (itemsReadable_iff.1 readable j mem)).mono shallow

/-- An object is sound if all its values are and can be read. -/
lemma soundIfReadable_obj {fields : List (String × Json)} (h : ∀ f ∈ fields, SoundIfReadable f.2) :
    SoundIfReadable (.obj fields) := by
  intro readable
  refine .obj fun f mem => ?_
  have shallow : f.2.depth ≤ fieldsDepth fields := fieldsDepth_le.1 (Nat.le_refl _) f mem
  exact (h f mem (fieldsReadable_iff.1 readable f mem)).mono shallow

/-- One more field in front leaves an object sound if its parts can be read. -/
lemma soundIfReadable_consField {key : Option String} {value j : Json}
    (hv : SoundIfReadable value) (hj : SoundIfReadable j) :
    SoundIfReadable (consField key value j) := by
  unfold consField
  split
  case h_1 fields =>
    split
    case h_1 k =>
      intro readable
      rw [Json.readable, fieldsReadable, Bool.and_eq_true] at readable
      have first := hv readable.1
      cases hj readable.2 with
      | obj others =>
        refine .obj (List.forall_mem_cons.2 ⟨first.mono (Nat.le_max_left _ _), fun f mem => ?_⟩)
        exact (others f mem).mono (Nat.le_max_right _ _)
    case h_2 => intro readable; cases readable
  case h_2 => exact hj

/-- What the readers return is sound if it is readable. -/
lemma soundIfReadable_read (bound : Nat) :
    (∀ cs j r, readValue bound cs = some (j, r) → SoundIfReadable j) ∧
    (∀ cs items r, readItems bound cs = some (items, r) → ∀ j ∈ items, SoundIfReadable j) ∧
    (∀ cs j r, readFields bound cs = some (j, r) → SoundIfReadable j) := by
  induction bound with
  | zero => refine ⟨?_, ?_, ?_⟩ <;> (intro _ _ _ h; cases h)
  | succ bound ih =>
    obtain ⟨readsValue, readsItems, readsFields⟩ := ih
    refine ⟨?value, ?items, ?fields⟩
    case value =>
      intro cs j r h
      cases cs with
      | nil => cases h
      | cons c cs =>
        rw [readValue] at h
        split_ifs at h
        case pos null =>
          obtain ⟨_, -, same⟩ := Option.map_eq_some_iff.1 h
          cases same
          exact fun _ => .null
        case pos true =>
          obtain ⟨_, -, same⟩ := Option.map_eq_some_iff.1 h
          cases same
          exact fun _ => .bool _
        case pos false =>
          obtain ⟨_, -, same⟩ := Option.map_eq_some_iff.1 h
          cases same
          exact fun _ => .bool _
        case pos text =>
          obtain ⟨⟨text, _⟩, -, same⟩ := Option.map_eq_some_iff.1 h
          cases text with
          | none => cases same; intro readable; cases readable
          | some s => cases same; exact fun _ => .str s
        case pos array =>
          split at h
          case h_1 => cases h; exact soundIfReadable_arr (by simp)
          case h_2 =>
            obtain ⟨⟨items, _⟩, read, same⟩ := Option.map_eq_some_iff.1 h
            cases same
            exact soundIfReadable_arr (readsItems _ items _ read)
        case pos object =>
          split at h
          case h_1 => cases h; exact soundIfReadable_obj (by simp)
          case h_2 => exact readsFields _ j _ h
        case neg => exact fun readable => (sound_readNumber h readable).mono (Nat.zero_le _)
    case items =>
      intro cs items r h
      rw [readItems] at h
      obtain ⟨⟨j, rest⟩, read, h⟩ := Option.bind_eq_some_iff.1 h
      have first := readsValue cs j rest read
      dsimp only at h
      split at h
      case h_1 => cases h; simpa using first
      case h_2 =>
        obtain ⟨⟨others, rest⟩, more, h⟩ := Option.bind_eq_some_iff.1 h
        cases h
        exact List.forall_mem_cons.2 ⟨first, readsItems _ others _ more⟩
      case h_3 => cases h
    case fields =>
      intro cs j r h
      rw [readFields.eq_def] at h
      dsimp only at h
      split at h
      case h_1 =>
        obtain ⟨⟨key, afterKey⟩, -, h⟩ := Option.bind_eq_some_iff.1 h
        dsimp only at h
        split at h
        case h_1 =>
          obtain ⟨⟨v, afterValue⟩, read, h⟩ := Option.bind_eq_some_iff.1 h
          have value := readsValue _ v _ read
          dsimp only at h
          split at h
          case h_1 =>
            cases h
            exact soundIfReadable_consField value (soundIfReadable_obj (by simp))
          case h_2 =>
            obtain ⟨⟨others, rest⟩, more, h⟩ := Option.bind_eq_some_iff.1 h
            cases h
            exact soundIfReadable_consField value (readsFields _ others _ more)
          case h_3 => cases h
        case h_2 => cases h
      case h_2 => cases h

/-- What a text is read as is sound, if it is readable and not too deep. -/
theorem sound_parse? {text : String} {j : Json} {d : Nat} (h : parse? text = some j)
    (readable : j.readable = true) (shallow : j.depth ≤ d) : Sound d j := by
  obtain ⟨⟨value, rest⟩, read, h⟩ := Option.bind_eq_some_iff.1 h
  dsimp only at h
  split at h
  case isTrue => cases h; exact ((soundIfReadable_read _).1 _ _ _ read readable).mono shallow
  case isFalse => cases h

end SceneGrammar.Json
