import SceneGrammar.Proofs.Json.Record
import SceneGrammar.Random.Interchange

/-!
# Snapshots as interchange text

A snapshot is read from its text, whatever its format is called and wherever it stands: the bytes of
the key and the numbers of 64 and of 128 bits are written digit by digit, so none of them is rounded.
-/

namespace SceneGrammar
open Json

namespace Random.Snapshot

/-- A key is read from its bytes. -/
lemma keyOfJson?_toList (key : Key) :
    keyOfJson? (.arr (key.toList.map fun b => .ofNat b.toNat)) = some key := by
  have numbers : ∀ n ∈ key.toList.map UInt8.toNat, (ofNat n).nat? 8 = some n :=
    List.forall_mem_map.2 fun b _ => nat?_ofNat b.toNat_lt
  have read := mapM_map_eq_some (f := (·.nat? 8)) (g := ofNat) numbers
  rw [List.map_map, Function.comp_def] at read
  have same : (key.toList.map UInt8.toNat).map UInt8.ofNat = key.toList := by
    simp [Function.comp_def]
  change Option.bind (List.mapM _ _) _ = _
  rw [read, Option.bind_some, dif_pos (by simp)]
  simp only [same, Option.pure_def]
  rfl

/-- A snapshot is read from its tree. -/
lemma ofJson?_toJson (p : Snapshot) : ofJson? p.toJson = some p := by
  have parts : p.toJson.parts? ["format", "seed", "stream", "word_pos"] =
      some [some (.str p.format), some (.arr (p.key.toList.map fun b => .ofNat b.toNat)),
        some (.ofNat p.stream.toNat), some (.ofNat p.position.toNat)] := rfl
  have stream : (ofNat p.stream.toNat).nat? 64 = some p.stream.toNat := nat?_ofNat p.stream.toNat_lt
  have position : (ofNat p.position.toNat).nat? 128 = some p.position.toNat :=
    nat?_ofNat p.position.isLt
  rw [ofJson?, parts]
  simp [text?, keyOfJson?_toList, stream, position]

/-- Nothing can keep a snapshot from being told from its text. -/
lemma legible_toJson (p : Snapshot) : Legible p.toJson := by
  have byte (b : UInt8) : Legible (ofNat b.toNat) :=
    legible_ofNat (Nat.lt_trans b.toNat_lt (by decide))
  have key : Legible (.arr (p.key.toList.map fun b => .ofNat b.toNat)) :=
    .arr (List.forall_mem_map.2 fun b _ => byte b)
  have stream : Legible (ofNat p.stream.toNat) :=
    legible_ofNat (Nat.lt_trans p.stream.toNat_lt (by decide))
  have position : Legible (ofNat p.position.toNat) := legible_ofNat p.position.isLt
  refine .obj ?_
  simpa using ⟨.str p.format, key, stream, position⟩

/-- A snapshot is read from its text. -/
theorem parse?_print (p : Snapshot) : parse? p.toJson.print = some p := by
  rw [parse?, (legible_toJson p).parse?_print]
  exact ofJson?_toJson p

end Random.Snapshot

end SceneGrammar
