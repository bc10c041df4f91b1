import SceneGrammar.Derivation.Run
import SceneGrammar.Proofs.Random.Interchange
import SceneGrammar.Proofs.Scene.Keep

/-!
# Going on from a stored position

Runs on one scene, each from the position at which the one before it ended, come to the same as on
one stream that is never put down, whether the positions are handed on as they are or as interchange
text. The proof is an induction on the runs that are left, for any position of the stream: a run
restores the stream it was handed and touches it nowhere else but in its draws.
-/

namespace SceneGrammar.Derivation
open SceneGrammar.Random

variable {σ α : Type} [Scalar α] [Host σ α]

/-- What a run is to do. `asText` says whether the position it goes on from is handed to it as
interchange text. -/
structure Task where
  settings : Settings
  grammar : Grammar
  start : NodeId
  asText : Bool

namespace Task

/-- The position that a run is handed, none if its text cannot be read. -/
def receive? (t : Task) : Option Snapshot → Option (Option Snapshot)
  | none => some none
  | some p => if t.asText then (Snapshot.parse? p.toJson.print).map some else some (some p)

/-- Whichever way a position is handed on, it arrives. -/
lemma receive?_eq (t : Task) (prior : Option Snapshot) : t.receive? prior = some prior := by
  cases prior with
  | none => rfl
  | some p =>
    rw [receive?, Snapshot.parse?_print]
    exact ite_self _

end Task

/-- Carries out runs on one scene, the first from a given position and each other from the one at
which the run before it ended. None if a run is refused or its position cannot be read. -/
def runEach? : Option Snapshot → List Task → σ → Option (List Outcome × σ)
  | _, [], scene => some ([], scene)
  | prior, t :: rest, scene => do
    match run t.settings t.grammar t.start (← t.receive? prior) scene with
    | (.error _, _) => none
    | (.ok outcome, scene) =>
      let (outcomes, scene) ← runEach? (some outcome.random) rest scene
      pure (outcome :: outcomes, scene)

/-- Carries out runs on one scene and one stream, and says after each of them where the stream
stands. -/
def generateEach : List Task → σ → Stream → List Outcome × σ × Stream
  | [], scene, stream => ([], scene, stream)
  | t :: rest, scene, stream =>
    let (generation, scene, stream) := generate t.settings t.grammar t.start scene stream
    let (outcomes, scene, last) := generateEach rest scene stream
    (⟨generation, stream.snapshot⟩ :: outcomes, scene, last)

/-- A run without a position to go on from is one on the stream of its seed. -/
lemma run_fresh (settings : Settings) (grammar : Grammar) (start : NodeId) (scene : σ) :
    run settings grammar start none scene =
      let (generation, scene, stream) :=
        generate settings grammar start scene (Stream.ofSeed settings.seed)
      (.ok ⟨generation, stream.snapshot⟩, scene) := rfl

/-- A run from the position of a stream is one on the stream. -/
lemma run_snapshot (settings : Settings) (grammar : Grammar) (start : NodeId) (scene : σ)
    (stream : Stream) :
    run settings grammar start (some stream.snapshot) scene =
      let (generation, scene, stream) := generate settings grammar start scene stream
      (.ok ⟨generation, stream.snapshot⟩, scene) := by
  simp only [run, Stream.restore?_snapshot]

/-- A run from a position of a foreign format is refused and leaves the scene as it is. -/
lemma run_foreign (settings : Settings) (grammar : Grammar) (start : NodeId) (scene : σ) {p : Snapshot}
    (foreign : p.format ≠ Snapshot.format₁) :
    run settings grammar start (some p) scene = (.error (.foreignSnapshot p.format), scene) := by
  simp only [run, Stream.restore?, if_neg foreign]

/-- Runs from the position of a stream are runs on the stream. -/
lemma runEach?_snapshot (tasks : List Task) (scene : σ) (stream : Stream) :
    runEach? (some stream.snapshot) tasks scene =
      let (outcomes, scene, _) := generateEach tasks scene stream
      some (outcomes, scene) := by
  induction tasks generalizing scene stream with
  | nil => rfl
  | cons t rest ih =>
    rw [runEach?, t.receive?_eq, Option.bind_eq_bind, Option.bind_some, run_snapshot]
    dsimp only
    rw [ih]
    rfl

/-- The position that the last of some runs returns is that of the stream after them, and the one at
which they began if there are none. -/
lemma random_generateEach (tasks : List Task) (scene : σ) (stream : Stream) :
    let (outcomes, _, last) := generateEach tasks scene stream
    (outcomes.getLast?.map (·.random)).getD stream.snapshot = last.snapshot := by
  induction tasks generalizing scene stream with
  | nil => rfl
  | cons t rest ih =>
    refine Eq.trans ?_ (ih _ _)
    dsimp only [generateEach]
    rw [List.getLast?_cons, Option.map_some, Option.getD_some]
    exact (Option.getD_map _ _ _).symm

/-- Runs one after another, each from the position at which the one before it ended, come to the same as on
one stream; a position of a foreign format is refused before anything is run. -/
theorem runEach?_continuous (scene : σ) :
    -- From the seed of the first run on; the other seeds do not count.
    (∀ (first : Task) (rest : List Task), ∃ outcomes scene' last,
      generateEach (first :: rest) scene (Stream.ofSeed first.settings.seed) =
        (outcomes, scene', last) ∧
      runEach? none (first :: rest) scene = some (outcomes, scene') ∧
      outcomes.getLast?.map (·.random) = some last.snapshot) ∧
    -- From any position that a stream can have.
    (∀ (tasks : List Task) (stream : Stream), ∃ outcomes scene' last,
      generateEach tasks scene stream = (outcomes, scene', last) ∧
      runEach? (some stream.snapshot) tasks scene = some (outcomes, scene')) ∧
    ∀ (settings : Settings) (grammar : Grammar) (start : NodeId) (p : Snapshot),
      p.format ≠ Snapshot.format₁ →
        run settings grammar start (some p) scene =
          (.error (.randomState ("unsupported snapshot format '" ++ p.format ++ "'")), scene) := by
  refine ⟨fun first rest => ⟨_, _, _, rfl, ?same, ?last⟩, ?anywhere, ?foreign⟩
  case same =>
    rw [runEach?, first.receive?_eq, Option.bind_eq_bind, Option.bind_some, run_fresh]
    dsimp only
    rw [runEach?_snapshot]
    rfl
  case last =>
    have last := random_generateEach (first :: rest) scene (Stream.ofSeed first.settings.seed)
    rw [← last]
    rfl
  case anywhere => exact fun tasks stream => ⟨_, _, _, rfl, runEach?_snapshot tasks scene stream⟩
  case foreign => exact fun settings grammar start p foreign => run_foreign _ _ _ _ foreign

/-- Two runs that place a tree in the orchard each, with the position between them handed on as text,
and one that is to clear the orchard but goes on from a foreign position. -/
theorem runEach?_continuous_orchard :
    let scene : Scene Float := Scene.orchard
    let task (seed : UInt64) : Task := ⟨{ seed }, [.place (.literal (.str "trees"))], 2, true⟩
    let foreign : Snapshot := { (Stream.ofSeed 5).snapshot with format := "mt19937" }
    (∃ outcomes scene', runEach? none [task 5, task 8] scene = some (outcomes, scene') ∧
      outcomes.map (fun o => (o.generation.generated, o.random.position)) = [([3], 2), ([4], 4)]) ∧
    foreign.format ≠ Snapshot.format₁ ∧
    run { clearChildren := true } [] 2 (some foreign) scene =
      (.error (.randomState "unsupported snapshot format 'mt19937'"), scene) := by
  intro scene task foreign
  obtain ⟨continuous, -, refused⟩ := runEach?_continuous scene
  have other : foreign.format ≠ Snapshot.format₁ := by decide
  obtain ⟨outcomes, scene', last, together, apart, -⟩ := continuous (task 5) [task 8]
  refine ⟨⟨outcomes, scene', apart, ?_⟩, other, refused _ [] 2 foreign other⟩
  obtain rfl : (generateEach [task 5, task 8] scene (Stream.ofSeed 5)).1 = outcomes :=
    congrArg Prod.fst together
  decide +kernel

end SceneGrammar.Derivation
