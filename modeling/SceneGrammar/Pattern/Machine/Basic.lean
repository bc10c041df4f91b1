/-!
# Sizes of machines

A machine is a list of states, numbered in the order in which they are added, and takes a number of
bytes for each. A part of a machine is what adding it does to the size of a machine; it fails where
the bytes go beyond a limit.
-/

namespace SceneGrammar.Machine

/-- The number of states of a machine and the bytes that they take. -/
structure Size where
  states : Nat
  bytes : Nat
deriving Repr, DecidableEq, Inhabited

/-- The bytes that a machine may take. -/
def byteLimit : Nat := 10 * 1024 * 1024

/-- The size with more states and bytes. -/
def Size.add? (m : Size) (states bytes : Nat) : Option Size :=
  if m.bytes + bytes ≤ byteLimit then some ⟨m.states + states, m.bytes + bytes⟩ else none

/-- What is added to a machine. -/
structure Part where
  addTo? : Size → Option Size

namespace Part

/-- No state at all. -/
def nothing : Part := ⟨some⟩

/-- One state that holds some bytes beside those that every state takes. -/
def stateWith (bytes : Nat) : Part := ⟨fun m => m.add? 1 (32 + bytes)⟩

/-- A state that leads on to one other. -/
def state : Part := stateWith 0

/-- A state that leads on to several others. -/
def branch (ways : Nat) : Part := stateWith (4 * ways)

/-- A state that tells apart some ranges of bytes. -/
def ranges (count : Nat) : Part := stateWith (8 * count)

/-- One more way from a state that is there already. -/
def way : Part := ⟨fun m => m.add? 0 4⟩

/-- One part after the other. -/
def andThen (p q : Part) : Part := ⟨fun m => (p.addTo? m).bind q.addTo?⟩

instance : Append Part := ⟨andThen⟩

/-- Adds something a number of times. -/
def addTimes (add? : Size → Option Size) : Nat → Size → Option Size
  | 0, m => some m
  | n + 1, m =>
    match add? m with
    | some m => addTimes add? n m
    | none => none

/-- A number of copies of a part. -/
def times (n : Nat) (p : Part) : Part := ⟨addTimes p.addTo? n⟩

end Part

end SceneGrammar.Machine
