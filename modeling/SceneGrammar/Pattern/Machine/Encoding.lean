import SceneGrammar.Pattern.Machine.Basic
import SceneGrammar.Text.Utf8

/-!
# Sets of characters in machines

The part of a machine that reads one character out of a set, byte by byte. States that do the same
are shared as far as they are remembered: what is remembered of a state has one slot of a table, and
another state may take the slot over. The slot depends on the numbers of the states, so the same set
can take more room in one place than in another.
-/

namespace SceneGrammar.Machine

open Text.Utf8 (ByteRange)

/-- Mixes a number into a hash. -/
def mix (hash : UInt64) (n : Nat) : UInt64 := (hash ^^^ n.toUInt64) * 1099511628211

/-- What is remembered of a state: what it does, and its number. -/
abbrev Note := List Nat × Nat

/-- A table of notes by their slots. Slots come in pages, and a page without a note is empty. -/
structure Memory where
  slots : Nat
  pages : Array (Array (Option Note))

namespace Memory

/-- The number of slots of a page. -/
def pageSize : Nat := 100

/-- A memory without a note. -/
def ofSlots (slots : Nat) : Memory := ⟨slots, Array.replicate (slots / pageSize) #[]⟩

/-- The slot of a list of numbers. -/
def slot (memory : Memory) (key : List Nat) : Nat :=
  (key.foldl mix 14695981039346656037 % memory.slots.toUInt64).toNat

/-- The note in a slot. -/
def note? (memory : Memory) (i : Nat) : Option Note :=
  match memory.pages[i / pageSize]? with
  | some page => page[i % pageSize]?.join
  | none => none

/-- The memory with a note in a slot. -/
def insert (memory : Memory) (i : Nat) (note : Note) : Memory :=
  { memory with
    pages := memory.pages.modify (i / pageSize) fun page =>
      (if page.isEmpty then Array.replicate pageSize none else page).setIfInBounds (i % pageSize)
        (some note) }

end Memory

/-- The number of a state that does what the key says: one that is remembered, or a new one, which
is then remembered. -/
def share? (key : List Nat) (new : Part) (m : Size) (memory : Memory) :
    Option (Nat × Size × Memory) :=
  let i := memory.slot key
  match (memory.note? i).filter (·.1 = key) with
  | some (_, n) => some (n, m, memory)
  | none => (new.addTo? m).map fun m' => (m.states, m', memory.insert i (key, m.states))

/-! ## Forward -/

/-- Sequences by their first ranges: each with what follows it. -/
def byFirst (seqs : List (List ByteRange)) : List (ByteRange × List (List ByteRange)) :=
  (seqs.splitBy fun s t => s.head? == t.head?).filterMap fun group =>
    (group.head?.bind List.head?).map fun first => (first, group.map List.tail)

/-- The state from which sequences lead to a target: a state for each list of what can follow, added
before the states that lead to it. No sequence is longer than the bound. -/
def addForward? (target : Nat) : Nat → List (List ByteRange) → Size → Memory →
    Option (Nat × Size × Memory)
  | 0, _, m, memory => some (target, m, memory)
  | bound + 1, seqs, m, memory =>
    if seqs.all (·.isEmpty) then some (target, m, memory)
    else do
      let (key, m, memory) ← (byFirst seqs).foldlM
        (fun (key, m, memory) (first, rest) => do
          let (next, m, memory) ← addForward? target bound rest m memory
          pure (next :: first.2 :: first.1 :: key, m, memory))
        (([], m, memory) : List Nat × Size × Memory)
      share? key.reverse (.ranges (key.length / 3)) m memory

/-- The part that reads a character forward. -/
def forwardSet (seqs : List (List ByteRange)) : Part where
  addTo? m := do
    let target := m.states
    let m ← Part.state.addTo? m
    let (_, m, _) ← addForward? target 4 seqs m (.ofSlots 10000)
    pure m

/-! ## Backward -/

/-- States for the ranges of one sequence, the first of which leads to `next`. -/
def addBackward? : List ByteRange → Nat → Size → Memory → Option (Size × Memory)
  | [], _, m, memory => some (m, memory)
  | (first, last) :: rest, next, m, memory =>
    match share? [next, first, last] .state m memory with
    | some (next, m, memory) => addBackward? rest next m memory
    | none => none

/-- The part that reads a character backward: a state with a way to the last range of every
sequence, and one where the sequences end. -/
def backwardSet (seqs : List (List ByteRange)) : Part where
  addTo? m := do
    let m ← Part.addTo? (.branch 0) m
    let target := m.states
    let m ← Part.state.addTo? m
    let (m, _) ← seqs.foldlM
      (fun (m, memory) seq => do
        let (m, memory) ← addBackward? seq target m memory
        pure (← Part.way.addTo? m, memory))
      ((m, .ofSlots 1000) : Size × Memory)
    pure m

end SceneGrammar.Machine
