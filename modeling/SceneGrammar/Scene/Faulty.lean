import SceneGrammar.Scene.Host

/-!
# Faulty hosts

A host that forwards every request to another one, except one that it refuses: the call of a chosen
request that comes after a chosen number of others of its kind.
-/

namespace SceneGrammar

/-- The requests that can be refused. -/
inductive Request where
  | setProperty
  | world
  | setWorld
  | duplicate
  | reparent
  | moveTo
  | flip
  | bake
  | addMarker
  | remove
deriving Repr, DecidableEq

namespace Request

/-- The word for a request. -/
def word : Request → String
  | .setProperty => "set_property"
  | .world => "world_transform"
  | .setWorld => "set_world_transform"
  | .duplicate => "duplicate_subtree"
  | .reparent => "reparent"
  | .moveTo => "move_to_container"
  | .flip => "flip_normals"
  | .bake => "apply_scale"
  | .addMarker => "create_marker_node"
  | .remove => "remove_subtree"

/-- All requests. -/
def all : List Request :=
  [.setProperty, .world, .setWorld, .duplicate, .reparent, .moveTo, .flip, .bake, .addMarker, .remove]

/-- The request of a word. -/
def ofWord? (s : String) : Option Request := all.find? (·.word == s)

/-- The fault of a refused request. -/
def refusal (r : Request) : SceneFault := .host ("injected " ++ r.word ++ " failure")

end Request

/-- A request that is to be refused, and how many of its kind are let through before. -/
structure Refusal where
  request : Request
  after : Nat

/-- A host with at most one refusal ahead. -/
structure Faulty (σ : Type) where
  host : σ
  refusal : Option Refusal := none

namespace Faulty
variable {σ β : Type}

/-- Lets a request through, or refuses it if its turn has come. -/
def forward (r : Request) (act : Edit σ β) : Edit (Faulty σ) β := fun s =>
  let pass (refusal : Option Refusal) : EStateM.Result SceneFault (Faulty σ) β :=
    match act s.host with
    | .ok b host => .ok b ⟨host, refusal⟩
    | .error e host => .error e ⟨host, refusal⟩
  match s.refusal with
  | some ⟨request, after⟩ =>
    if request = r then
      match after with
      | 0 => .error r.refusal ⟨s.host, none⟩
      | after + 1 => pass (some ⟨request, after⟩)
    else pass s.refusal
  | none => pass none

instance {α : Type} [Host σ α] : Host (Faulty σ) α where
  size s := Host.size s.host
  parent? s := Host.parent? s.host
  children s := Host.children s.host
  property? s := Host.property? s.host
  container? s := Host.container? s.host
  topLevel? s := Host.topLevel? s.host
  setProperty n key value := forward .setProperty (Host.setProperty n key value)
  world n := forward .world (Host.world n)
  setWorld n world := forward .setWorld (Host.setWorld n world)
  duplicate n := forward .duplicate (Host.duplicate n)
  reparent n parent := forward .reparent (Host.reparent n parent)
  moveTo n origin target := forward .moveTo (Host.moveTo n origin target)
  flip n := forward .flip (Host.flip n)
  bake n := forward .bake (Host.bake n)
  addMarker world parent := forward .addMarker (Host.addMarker world parent)
  remove n := forward .remove (Host.remove n)
  observe event s := { s with host := Host.observe event s.host }

end Faulty

end SceneGrammar
