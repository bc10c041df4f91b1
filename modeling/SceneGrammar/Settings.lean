import SceneGrammar.Json.Record

/-!
# Settings

What can be set about a run. As an interchange record every part may be missing, so the empty
object stands for the default settings.
-/

namespace SceneGrammar

/-- The settings of a run. -/
structure Settings where
  /-- Stands before the keys of properties, if it is not empty. -/
  keyPrefix : String := "gen"
  /-- The seed of a new random stream. -/
  seed : UInt64 := 0
  /-- How deep instances may nest; a deeper one is left out. -/
  maxDepth : UInt64 := 10
  /-- Whether the children of the start link are removed first. -/
  clearChildren : Bool := false
  /-- Whether faults that are not fatal are recorded. -/
  strict : Bool := true
deriving Repr, DecidableEq, Inhabited

namespace Settings

/-- A key of a property, with the prefix in front. -/
def key (s : Settings) (name : String) : String :=
  if s.keyPrefix.isEmpty then name else s.keyPrefix ++ "_" ++ name

/-- The property that holds the name of a link. -/
def linkKey (s : Settings) : String := s.key "link"

/-- The property that holds the weight of a template. -/
def weightKey (s : Settings) : String := s.key "weight"

/-- The property that holds the directive of a leaf. -/
def directiveKey (s : Settings) : String := s.key "instance"

/-- The tree of settings. -/
def toJson (s : Settings) : Json :=
  .obj [("property_prefix", .str s.keyPrefix), ("seed", .ofNat s.seed.toNat),
    ("max_depth", .ofNat s.maxDepth.toNat), ("clear_children", .bool s.clearChildren),
    ("strict", .bool s.strict)]

/-- A part of a record, or its default. -/
def part? {β : Type} (read : Json → Option β) (default : β) : Option Json → Option β
  | none => some default
  | some j => read j

/-- A number of 64 bits. -/
def word64? (j : Json) : Option UInt64 := (j.nat? 64).map UInt64.ofNat

/-- The settings of a tree. -/
def ofJson? (j : Json) : Option Settings := do
  let d : Settings := {}
  match ← j.parts? ["property_prefix", "seed", "max_depth", "clear_children", "strict"] with
  | [keyPrefix, seed, maxDepth, clearChildren, strict] =>
    pure
      { keyPrefix := ← part? Json.text? d.keyPrefix keyPrefix
        seed := ← part? word64? d.seed seed
        maxDepth := ← part? word64? d.maxDepth maxDepth
        clearChildren := ← part? Json.truth? d.clearChildren clearChildren
        strict := ← part? Json.truth? d.strict strict }
  | _ => none

end Settings

end SceneGrammar
