import Mathlib.Data.Finset.Card
import Mathlib.Tactic.Lemma
import SceneGrammar.Bindings

/-!
# Bindings made one after the other

Binding a key keeps the keys apart (`nodup_keys_insert`), and a new key comes behind all others. So a map
that is bound entry by entry has one entry for each key that came up, in the order in which the keys came
up first and with the values with which they came up last.
-/

namespace SceneGrammar.Bindings

variable {κ β : Type} [DecidableEq κ] {b : Bindings κ β} {k k' : κ}

/-- The map that is bound entry by entry. -/
def ofEntries (entries : List (κ × β)) : Bindings κ β :=
  entries.foldl (fun b p => b.insert p.1 p.2) ∅

lemma ofEntries_concat (entries : List (κ × β)) (p : κ × β) :
    ofEntries (entries ++ [p]) = (ofEntries entries).insert p.1 p.2 := by
  simp [ofEntries]

/-! ## Keys -/

/-- Binding a key adds it to the keys. -/
lemma mem_keys_insert (v : β) : k' ∈ (b.insert k v).keys ↔ k' ∈ b.keys ∨ k' = k := by
  by_cases h : k ∈ b.keys
  · rw [keys_insert_of_mem v h]
    exact ⟨.inl, fun m => m.elim id fun e => e ▸ h⟩
  · rw [keys_insert_of_not_mem v h, List.mem_append, List.mem_singleton]

/-- The keys of a map are those that came up. -/
lemma mem_keys_ofEntries (entries : List (κ × β)) :
    k ∈ (ofEntries entries).keys ↔ k ∈ entries.map (·.1) := by
  induction entries using List.reverseRecOn with
  | nil => rfl
  | append_singleton entries p ih =>
    rw [ofEntries_concat, mem_keys_insert, ih, List.map_append, List.mem_append]
    simp

/-- Binding a key keeps the keys apart. -/
lemma nodup_keys_insert (h : b.keys.Nodup) (k : κ) (v : β) : (b.insert k v).keys.Nodup := by
  by_cases hk : k ∈ b.keys
  · rwa [keys_insert_of_mem v hk]
  · rw [keys_insert_of_not_mem v hk, ← List.concat_eq_append]
    exact h.concat hk

/-- No key is listed twice. -/
lemma nodup_keys_ofEntries (entries : List (κ × β)) : (ofEntries entries).keys.Nodup := by
  induction entries using List.reverseRecOn with
  | nil => exact List.nodup_nil
  | append_singleton entries p ih =>
    rw [ofEntries_concat]
    exact nodup_keys_insert ih p.1 p.2

/-- Of two keys the one that came up first stands first. -/
lemma pairwise_keys_ofEntries (entries : List (κ × β)) :
    (ofEntries entries).keys.Pairwise fun k k' =>
      (entries.map (·.1)).idxOf k < (entries.map (·.1)).idxOf k' := by
  induction entries using List.reverseRecOn with
  | nil => exact .nil
  | append_singleton entries p ih =>
    rw [ofEntries_concat, List.map_append]
    -- What came up before keeps its place, and a new key comes up behind all of it.
    have old : ∀ k ∈ (ofEntries entries).keys,
        (entries.map (·.1) ++ [p.1]).idxOf k = (entries.map (·.1)).idxOf k := fun k hk =>
      List.idxOf_append_of_mem ((mem_keys_ofEntries entries).mp hk)
    have before : (ofEntries entries).keys.Pairwise fun k k' =>
        (entries.map (·.1) ++ [p.1]).idxOf k < (entries.map (·.1) ++ [p.1]).idxOf k' :=
      ih.imp_of_mem fun {k k'} hk hk' lt => by rwa [old k hk, old k' hk']
    by_cases h : p.1 ∈ (ofEntries entries).keys
    · rw [keys_insert_of_mem p.2 h]
      exact before
    · rw [keys_insert_of_not_mem p.2 h, List.pairwise_append]
      refine ⟨before, List.pairwise_singleton _ _, fun k hk k' hk' => ?_⟩
      obtain rfl := List.mem_singleton.mp hk'
      rw [mem_keys_ofEntries] at h hk
      rw [List.idxOf_append_of_mem hk, List.idxOf_append_of_notMem h]
      exact Nat.lt_of_lt_of_le (List.idxOf_lt_length_of_mem hk) (Nat.le_add_right _ _)

/-! ## Values -/

/-- Each key has the value with which it comes up last. -/
lemma get?_ofEntries (entries : List (κ × β)) (k : κ) :
    (ofEntries entries).get? k = (entries.filter (·.1 = k)).getLast?.map (·.2) := by
  induction entries using List.reverseRecOn with
  | nil => rfl
  | append_singleton entries p ih =>
    rw [ofEntries_concat, get?_insert, List.filter_append]
    by_cases h : p.1 = k
    · simp [h]
    · simp [h, ih]

/-- Where no key is listed twice, a look-up finds the entry of its key. -/
lemma get?_of_mem (h : b.keys.Nodup) {entry : κ × β} (mem : entry ∈ b.toList) :
    b.get? entry.1 = some entry.2 := by
  obtain ⟨entries⟩ := b
  induction entries with
  | nil => cases mem
  | cons first rest ih =>
    have ⟨apart, others⟩ := List.nodup_cons.mp h
    unfold get?
    cases List.mem_cons.mp mem with
    | inl same => simp [same]
    | inr later =>
      have ne : first.1 ≠ entry.1 := fun e => apart (List.mem_map.mpr ⟨entry, later, e.symm⟩)
      rw [List.find?_cons_of_neg (by simpa using ne)]
      exact ih others later

/-- A map that is bound entry by entry has each key once, in the order in which keys came up first, with the
value with which it came up last; a key that is bound again keeps its place. -/
theorem ofEntries_ordered (entries : List (κ × β)) :
    (ofEntries entries).keys.Nodup ∧
    (∀ k, k ∈ (ofEntries entries).keys ↔ k ∈ entries.map (·.1)) ∧
    (ofEntries entries).keys.Pairwise (fun k k' =>
      (entries.map (·.1)).idxOf k < (entries.map (·.1)).idxOf k') ∧
    -- A look-up finds the last value, and so does each listed entry.
    (∀ k, (ofEntries entries).get? k = (entries.filter (·.1 = k)).getLast?.map (·.2)) ∧
    (ofEntries entries).toList.map (fun entry => (entry.1, some entry.2)) =
      (ofEntries entries).keys.map (fun k => (k, (ofEntries entries).get? k)) ∧
    -- The size is the number of different keys.
    (ofEntries entries).size = (entries.map (·.1)).toFinset.card ∧
    -- To bind a key again changes no value but its own.
    ∀ k ∈ (ofEntries entries).keys, ∀ v,
      ((ofEntries entries).insert k v).keys = (ofEntries entries).keys ∧
      ∀ k' ≠ k, ((ofEntries entries).insert k v).get? k' = (ofEntries entries).get? k' := by
  have once := nodup_keys_ofEntries entries
  refine ⟨once, fun k => mem_keys_ofEntries entries, pairwise_keys_ofEntries entries,
    get?_ofEntries entries, ?listed, ?size, fun k hk v => ⟨keys_insert_of_mem v hk, fun k' ne => ?_⟩⟩
  case listed =>
    rw [keys, List.map_map]
    refine List.map_congr_left fun entry mem => ?_
    rw [Function.comp_apply, get?_of_mem once mem]
  case size =>
    have same : (entries.map (·.1)).toFinset = (ofEntries entries).keys.toFinset := by
      ext k
      rw [List.mem_toFinset, List.mem_toFinset, mem_keys_ofEntries]
    rw [same, List.toFinset_card_of_nodup once, size, keys, List.length_map]
  · rw [get?_insert, if_neg (Ne.symm ne)]

/-- A link that is published a second time, between two others. -/
theorem ofEntries_ordered_republished :
    "z_win" ∈ (ofEntries [("z_win", 1), ("a_win", 2), ("z_win", 3)]).keys ∧
    (ofEntries [("z_win", 1), ("a_win", 2), ("z_win", 3)]).toList = [("z_win", 3), ("a_win", 2)] ∧
    ((ofEntries [("z_win", 1), ("a_win", 2), ("z_win", 3)]).insert "z_win" 4).get? "a_win" = some 2 := by
  have mem : "z_win" ∈ (ofEntries [("z_win", 1), ("a_win", 2), ("z_win", 3)]).keys := by decide
  obtain ⟨-, -, -, -, -, -, again⟩ := ofEntries_ordered [("z_win", 1), ("a_win", 2), ("z_win", 3)]
  obtain ⟨-, others⟩ := again "z_win" mem 4
  exact ⟨mem, by decide, others "a_win" (by decide)⟩

end SceneGrammar.Bindings
