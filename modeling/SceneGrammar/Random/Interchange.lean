import SceneGrammar.Json.Reader
import SceneGrammar.Json.Record
import SceneGrammar.Random.Stream

/-!
# Snapshots

The position of a stream as a record that can be stored, and its interchange tree. A snapshot names its
format; one of another format restores nothing.
-/

namespace SceneGrammar.Random

/-- A stored position. -/
structure Snapshot where
  format : String
  key : Key
  stream : UInt64
  position : BitVec 128
deriving Repr, DecidableEq

namespace Snapshot

/-- The name of the format that streams write and restore. -/
def format₁ : String := "chacha8/1"

end Snapshot

namespace Stream

/-- The position of a stream. -/
def snapshot (s : Stream) : Snapshot := ⟨Snapshot.format₁, s.key, s.stream, s.position.setWidth 128⟩

/-- The stream at a stored position, none if the snapshot has a foreign format. -/
def restore? (p : Snapshot) : Option Stream :=
  if p.format = Snapshot.format₁ then some ⟨p.key, p.stream, p.position.setWidth 68⟩ else none

/-- A snapshot restores the stream it was taken of. -/
theorem restore?_snapshot (s : Stream) : restore? s.snapshot = some s := by
  simp [restore?, snapshot]

end Stream

namespace Snapshot

/-- The tree of a snapshot. -/
def toJson (p : Snapshot) : Json :=
  .obj [("format", .str p.format), ("seed", .arr (p.key.toList.map fun b => .ofNat b.toNat)),
    ("stream", .ofNat p.stream.toNat), ("word_pos", .ofNat p.position.toNat)]

/-- A key of thirty-two bytes. -/
def keyOfJson? (j : Json) : Option Key := do
  let bytes ← (← j.items?).mapM (·.nat? 8)
  if h : bytes.length = 32 then pure ⟨(bytes.map UInt8.ofNat).toArray, by simp [h]⟩ else none

/-- The snapshot of a tree. -/
def ofJson? (j : Json) : Option Snapshot := do
  match ← j.parts? ["format", "seed", "stream", "word_pos"] with
  | [some format, some key, some stream, some position] =>
    pure ⟨← format.text?, ← keyOfJson? key, UInt64.ofNat (← stream.nat? 64),
      BitVec.ofNat 128 (← position.nat? 128)⟩
  | _ => none

/-- The snapshot of a text. -/
def parse? (text : String) : Option Snapshot := do ofJson? (← Json.parse? text)

end Snapshot

end SceneGrammar.Random
