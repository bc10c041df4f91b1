import SceneGrammar.Fault.Interchange
import SceneGrammar.Proofs.Json.Record
import SceneGrammar.Proofs.Random.Interchange
import SceneGrammar.Settings

/-!
# What a host stores

Faults, stored random positions and settings are read from their texts. A fault is read by its tag, a
scene fault by its only key. Of settings any fields may be written, in any order: what is written is
read, and the other settings are the default ones.
-/

namespace SceneGrammar
open Json

/-! ## Settings -/

namespace Settings

/-- The settings of some fields, the others as they are by default. -/
def only (s : Settings) (names : List String) : Settings where
  keyPrefix := if "property_prefix" ∈ names then s.keyPrefix else ({} : Settings).keyPrefix
  seed := if "seed" ∈ names then s.seed else ({} : Settings).seed
  maxDepth := if "max_depth" ∈ names then s.maxDepth else ({} : Settings).maxDepth
  clearChildren := if "clear_children" ∈ names then s.clearChildren else ({} : Settings).clearChildren
  strict := if "strict" ∈ names then s.strict else ({} : Settings).strict

variable {s : Settings} {fields all : List (String × Json)}

/-- A word of 64 bits is read from its number. -/
lemma word64?_ofNat (n : UInt64) : word64? (.ofNat n.toNat) = some n := by
  rw [word64?, nat?_ofNat n.toNat_lt]
  simp

/-- A part that may be missing is read where it is written. -/
lemma part?_ite {β : Type} {read : Json → Option β} {default b : β} {j : Json} {written : Prop}
    [Decidable written] (back : read j = some b) :
    part? read default (if written then some j else none) = some (if written then b else default) := by
  split <;> simp [part?, back]

/-- Some fields of settings, in any order, are read as what they say, and the others as defaults. -/
lemma ofJson?_fields (record : s.toJson = .obj all) (among : fields.Subperm all) :
    ofJson? (.obj fields) = some (s.only (fields.map (·.1))) := by
  cases record
  have found {name : String} {value : Json} : (name, value) ∈ _ → fieldOf? fields name = _ :=
    fieldOf?_subperm among (by simp)
  rw [ofJson?, parts?]
  simp [List.mapM_cons, List.mapM_nil, found, part?_ite, word64?_ofNat, text?, truth?, only]

/-- Nothing can keep some fields of settings from being told from their text. -/
lemma legible_fields (record : s.toJson = .obj all) (among : fields.Subperm all) :
    Legible (.obj fields) := by
  cases record
  have word (n : UInt64) : Legible (ofNat n.toNat) :=
    legible_ofNat (Nat.lt_trans n.toNat_lt (by decide))
  refine .obj fun f written => ?_
  have mem := among.subset written
  simp only [List.mem_cons, List.not_mem_nil, or_false] at mem
  obtain rfl | rfl | rfl | rfl | rfl := mem
  · exact .str _
  · exact word _
  · exact word _
  · exact .bool _
  · exact .bool _

end Settings

/-! ## Faults -/

/-- The nodes that a scene fault names. -/
def SceneFault.nodes : SceneFault → List NodeId
  | .unknownNode n => [n]
  | .cycle child parent => [child, parent]
  | .host _ => []

/-- The nodes that a fault names. -/
def Fault.nodes : Fault → List NodeId
  | .scene f => f.nodes
  | _ => []

/-- The number of a node is read from itself. -/
lemma NodeId.ofJson?_ofNat {n : NodeId} (h : n < 2 ^ 64) : NodeId.ofJson? (.ofNat n) = some n :=
  nat?_ofNat h

/-- A cycle is read from its two nodes, whatever their trees are. -/
lemma SceneFault.ofJson?_cycle {child parent : NodeId} {c p : Json}
    (first : NodeId.ofJson? c = some child) (second : NodeId.ofJson? p = some parent) :
    ofJson? (.obj [("Cycle", .obj [("child", c), ("parent", p)])]) = some (cycle child parent) := by
  have parts : (Json.obj [("child", c), ("parent", p)]).parts? ["child", "parent"] =
      some [some c, some p] := rfl
  simp [ofJson?, parts, first, second]

/-- A scene fault is read from its tree. -/
lemma SceneFault.ofJson?_toJson (f : SceneFault) (h : ∀ n ∈ f.nodes, n < 2 ^ 64) :
    ofJson? f.toJson = some f := by
  cases f with
  | unknownNode n =>
    have node := NodeId.ofJson?_ofNat (h n (by simp [nodes]))
    simp [toJson, ofJson?, node]
  | cycle child parent =>
    have first := NodeId.ofJson?_ofNat (h child (by simp [nodes]))
    have second := NodeId.ofJson?_ofNat (h parent (by simp [nodes]))
    exact ofJson?_cycle first second
  | host text => rfl

/-- A kind of cursor is read from its word. -/
lemma CursorKind.ofJson?_word (held : Bool) (k : CursorKind) : ofJson? held (.str k.word) = some k := by
  cases k <;> rfl

/-- A detail is read by the tag of its fault. -/
lemma Fault.ofDetail?_detail (f : Fault) (h : ∀ n ∈ f.nodes, n < 2 ^ 64) :
    ofDetail? false f.word f.detail = some f := by
  cases f with
  | structural subject message =>
    have parts : detailParts? ["op", "message"] (structural subject message).detail =
        some [some (.str subject), some (.str message)] := rfl
    simp [ofDetail?, word, parts, text?]
  | precondition subject expected found =>
    have parts : detailParts? ["op", "expected", "found"] (precondition subject expected found).detail =
        some [some (.str subject), some (.str expected.word), some (.str found.word)] := rfl
    simp [ofDetail?, word, parts, text?, CursorKind.ofJson?_word]
  | argument subject expected found =>
    have parts : detailParts? ["op", "expected", "found"] (argument subject expected found).detail =
        some [some (.str subject), some (.str expected), some (.str found)] := rfl
    simp [ofDetail?, word, parts, text?]
  | scene f =>
    have fault := f.ofJson?_toJson h
    simp [ofDetail?, word, detail, fault]
  | randomState message => simp [ofDetail?, word, detail, text?]

/-- A fault is read from its tree. -/
lemma Fault.ofJson?_toJson (f : Fault) (h : ∀ n ∈ f.nodes, n < 2 ^ 64) : ofJson? f.toJson = some f := by
  have tag : (Json.str f.word).unitWord? false words = some f.word := by cases f <;> rfl
  have detail := f.ofDetail?_detail h
  have both : [("kind", Json.str f.word), ("detail", f.detail)].filter
      (fun field => field.1 == "kind" || field.1 == "detail") =
        [("kind", .str f.word), ("detail", f.detail)] := rfl
  simp [toJson, ofJson?, both, tag, detail]

/-- Nothing can keep a scene fault from being told from its text. -/
lemma SceneFault.legible_toJson (f : SceneFault) (h : ∀ n ∈ f.nodes, n < 2 ^ 64) :
    Legible f.toJson := by
  have node : ∀ n ∈ f.nodes, Legible (ofNat n) := fun n mem =>
    legible_ofNat (Nat.lt_trans (h n mem) (by decide))
  cases f with
  | unknownNode n => exact .obj (by simpa using node n (by simp [nodes]))
  | cycle child parent =>
    have both : Legible (.obj [("child", .ofNat child), ("parent", .ofNat parent)]) :=
      .obj (by simpa using ⟨node child (by simp [nodes]), node parent (by simp [nodes])⟩)
    exact .obj (by simpa using both)
  | host text => exact .obj (by simpa using .str text)

/-- Nothing can keep a fault from being told from its text. -/
lemma Fault.legible_toJson (f : Fault) (h : ∀ n ∈ f.nodes, n < 2 ^ 64) : Legible f.toJson := by
  have detail : Legible f.detail := by
    cases f with
    | structural subject message => exact .obj (by simpa using ⟨.str subject, .str message⟩)
    | precondition subject expected found => exact .obj (by simpa using ⟨.str subject, .str _, .str _⟩)
    | argument subject expected found =>
      exact .obj (by simpa using ⟨.str subject, .str expected, .str found⟩)
    | scene f => exact f.legible_toJson h
    | randomState message => exact .str message
  exact .obj (by simpa using ⟨.str f.word, detail⟩)

/-! ## Texts -/

/-- Faults, stored random positions and settings are read from their texts, and so are settings of which some
fields are written, in any order. -/
theorem stored_read_back :
    (∀ f : Fault, (∀ n ∈ f.nodes, n < 2 ^ 64) →
      (Json.parse? f.toJson.print).bind Fault.ofJson? = some f) ∧
    (∀ p : Random.Snapshot, Random.Snapshot.parse? p.toJson.print = some p) ∧
    (∀ s : Settings, (Json.parse? s.toJson.print).bind Settings.ofJson? = some s) ∧
    -- The fields that are not written stand for the default ones.
    ∀ (s : Settings) (fields all : List (String × Json)), s.toJson = .obj all → fields.Subperm all →
      (Json.parse? (Json.obj fields).print).bind Settings.ofJson? =
        some (s.only (fields.map (·.1))) := by
  refine ⟨fun f h => ?fault, Random.Snapshot.parse?_print, fun s => ?whole,
    fun s fields all record among => ?some⟩
  case fault => rw [(f.legible_toJson h).parse?_print, Option.bind_some, f.ofJson?_toJson h]
  case whole =>
    have legible : Legible s.toJson := Settings.legible_fields rfl (List.Subperm.refl _)
    rw [legible.parse?_print, Option.bind_some]
    exact Settings.ofJson?_fields rfl (List.Subperm.refl _)
  case some =>
    have legible : Legible (.obj fields) := Settings.legible_fields record among
    rw [legible.parse?_print, Option.bind_some, Settings.ofJson?_fields record among]

/-- A fault that names the greatest node of 64 bits, and settings of which two fields are written, the last
one first. -/
theorem stored_read_back_some :
    (Json.parse? (Fault.scene (.cycle 18446744073709551615 1)).toJson.print).bind Fault.ofJson? =
      some (.scene (.cycle 18446744073709551615 1)) ∧
    (Json.parse? (Json.obj [("strict", .bool false), ("seed", .ofNat 18446744073709551615)]).print).bind
      Settings.ofJson? = some { seed := 18446744073709551615, strict := false } := by
  obtain ⟨faults, -, -, settings⟩ := stored_read_back
  refine ⟨faults _ (by simp [Fault.nodes, SceneFault.nodes]), ?_⟩
  refine settings { seed := 18446744073709551615, strict := false } _ _ rfl ?_
  exact List.subperm_of_subset (by simp) (by simp [ofNat])

end SceneGrammar
