/-!
# Bindings

A finite map that remembers the order in which its keys were first bound. Binding a key again
keeps its place and changes its value only: `keys_insert_of_mem` says that the keys stay,
`get?_insert` says what every look-up answers afterwards.
-/

namespace SceneGrammar

/-- A finite map whose entries stand in the order of their first binding. -/
structure Bindings (κ β : Type) where
  toList : List (κ × β)
deriving Repr

namespace Bindings
variable {κ β : Type}

/-- The map that binds nothing. -/
def empty : Bindings κ β := ⟨[]⟩

instance : EmptyCollection (Bindings κ β) := ⟨empty⟩
instance : Inhabited (Bindings κ β) := ⟨empty⟩

instance [BEq κ] [BEq β] : BEq (Bindings κ β) := ⟨fun a b => a.toList == b.toList⟩

/-- The bound keys, in order of their first binding. -/
def keys (b : Bindings κ β) : List κ := b.toList.map (·.1)

/-- The number of bound keys. -/
def size (b : Bindings κ β) : Nat := b.toList.length

/-- Whether no key is bound. -/
def isEmpty (b : Bindings κ β) : Bool := b.toList.isEmpty

variable [DecidableEq κ]

/-- The value of the first entry for `k`. -/
def get? (b : Bindings κ β) (k : κ) : Option β :=
  (b.toList.find? fun entry => entry.1 = k).map (·.2)

/-- Replaces the entry for `k` where it stands, or appends one. -/
def insertEntry (k : κ) (v : β) : List (κ × β) → List (κ × β)
  | [] => [(k, v)]
  | entry :: rest => if entry.1 = k then (k, v) :: rest else entry :: insertEntry k v rest

/-- Binds `k` to `v`, in its old place if it was bound before and at the end otherwise. -/
def insert (b : Bindings κ β) (k : κ) (v : β) : Bindings κ β := ⟨insertEntry k v b.toList⟩

@[simp] theorem get?_empty (k : κ) : (∅ : Bindings κ β).get? k = none := rfl

/-- What is found for a key after another one was bound in a list of entries. -/
theorem find?_insertEntry (k k' : κ) (v : β) (l : List (κ × β)) :
    ((insertEntry k v l).find? fun entry => entry.1 = k').map (·.2) =
      if k = k' then some v else (l.find? fun entry => entry.1 = k').map (·.2) := by
  induction l with
  | nil => by_cases h : k = k' <;> simp [insertEntry, h]
  | cons entry rest ih =>
    unfold insertEntry
    split
    · next hk => subst hk; by_cases h : entry.1 = k' <;> simp [h]
    · next hk =>
      by_cases h : entry.1 = k'
      · have : k ≠ k' := fun e => hk (h.trans e.symm)
        simp [h, this]
      · simp only [List.find?_cons, h, decide_false]
        exact ih

/-- A look-up finds the new value at its key and the old ones elsewhere. -/
theorem get?_insert (b : Bindings κ β) (k k' : κ) (v : β) :
    (b.insert k v).get? k' = if k = k' then some v else b.get? k' :=
  find?_insertEntry k k' v b.toList

/-- The keys after one was bound in a list of entries. -/
theorem map_fst_insertEntry (k : κ) (v : β) (l : List (κ × β)) :
    (insertEntry k v l).map (·.1) =
      if k ∈ l.map (·.1) then l.map (·.1) else l.map (·.1) ++ [k] := by
  induction l with
  | nil => simp [insertEntry]
  | cons entry rest ih =>
    unfold insertEntry
    split
    · next hk => simp [hk]
    · next hk =>
      have hk' : ¬ k = entry.1 := fun e => hk e.symm
      simp only [List.map_cons, List.mem_cons, hk', false_or, ih]
      split <;> simp

/-- A bound key keeps its place when it is bound again. -/
theorem keys_insert_of_mem {b : Bindings κ β} {k : κ} (v : β) (h : k ∈ b.keys) :
    (b.insert k v).keys = b.keys := by
  unfold keys at h ⊢
  rw [insert, map_fst_insertEntry, if_pos h]

/-- A new key comes last. -/
theorem keys_insert_of_not_mem {b : Bindings κ β} {k : κ} (v : β) (h : k ∉ b.keys) :
    (b.insert k v).keys = b.keys ++ [k] := by
  unfold keys at h ⊢
  rw [insert, map_fst_insertEntry, if_neg h]

end Bindings

end SceneGrammar
