import Mathlib.Data.List.Forall2
import SceneGrammar.Proofs.Paired
import SceneGrammar.Scene.Host

/-!
# Hosts that are alike

A `Likeness` says when two hosts are alike and when places in the world are. Cursors, definitions that
are being expanded and events are alike if they differ in alike places only. A likeness `Lasts` if alike
hosts answer alike and stay alike through requests, unless one of them refuses with an excuse.
-/

namespace SceneGrammar

section
variable {α : Type} (P : Matrix4 α → Matrix4 α → Prop)

/-- Links with alike places in the world. -/
structure LinkPlace.Alike (p p' : LinkPlace α) : Prop where
  node : p'.node = p.node
  offset : p'.offset = p.offset
  world : P p.world p'.world

/-- Cursors that differ in places of the world only. -/
inductive Cursor.Alike : Cursor α → Cursor α → Prop where
  | object (n : NodeId) : Cursor.Alike (.object n) (.object n)
  | aliased (n : NodeId) (aliases : Aliases) : Cursor.Alike (.aliased n aliases) (.aliased n aliases)
  | link {p p' : LinkPlace α} : p.Alike P p' → Cursor.Alike (.link p) (.link p')

/-- Expansions of a definition that differ in places of the world only. -/
structure Capture.Alike (c c' : Capture α) : Prop where
  entry : c.entry.Alike P c'.entry
  object : c'.object = c.object
  aliases : c'.aliases = c.aliases

/-- Events that differ in places of the world only. -/
inductive Event.Alike : Event α → Event α → Prop where
  | same (e : Event α) : Event.Alike e e
  | rule (depth : Nat) (r : Rule Nat) {cursor cursor' : Cursor α} {scopes scopes' : List (Cursor α)}
      {captures captures' : List (Capture α)} (hcursor : cursor.Alike P cursor')
      (hscopes : scopes.Forall₂ (Cursor.Alike P) scopes')
      (hcaptures : captures.Forall₂ (Capture.Alike P) captures') :
      Event.Alike (.rule depth r cursor scopes captures) (.rule depth r cursor' scopes' captures')

variable {P}

/-- Alike cursors are at the same object. -/
lemma Cursor.Alike.object? {c c' : Cursor α} (h : c.Alike P c') : c'.object? = c.object? := by
  cases h <;> rfl

/-- Alike cursors are of the same kind. -/
lemma Cursor.Alike.kind {c c' : Cursor α} (h : c.Alike P c') : c'.kind = c.kind := by
  cases h <;> rfl

end

/-- How two hosts are alike. -/
structure Likeness (σ τ α : Type) where
  host : σ → τ → Prop
  /-- Alike places in the world. -/
  place : Matrix4 α → Matrix4 α → Prop
  /-- Refusals that excuse what comes after them. -/
  excused : SceneFault → Prop
  /-- Alike faults so far. -/
  faults : Array Fault → Array Fault → Prop

namespace Likeness
variable {σ τ α β β' : Type}

/-- Requests of two hosts that end alike. -/
abbrev Pairs (L : Likeness σ τ α) (V : β → β' → Prop) (act : Edit σ β) (act' : Edit τ β') (s : σ)
    (s' : τ) : Prop := Paired L.excused V L.host act act' s s'

variable [Host σ α] [Host τ α]

/-- Alike hosts answer alike, as far as properties with some keys are concerned, and stay alike. -/
structure Lasts (L : Likeness σ τ α) (keys : List String) : Prop where
  /-- What is made of alike places is alike. -/
  combine : ∀ (f : Matrix4 α → Matrix4 α → Matrix4 α) {a a' b b'}, L.place a a' → L.place b b' →
    L.place (f a b) (f a' b')
  size : ∀ {s s'}, L.host s s' → Host.size s' = Host.size s
  parent? : ∀ {s s'}, L.host s s' → Host.parent? s' = Host.parent? s
  children : ∀ {s s'}, L.host s s' → Host.children s' = Host.children s
  property? : ∀ {s s'}, L.host s s' → ∀ n, ∀ key ∈ keys,
    Host.property? s' n key = Host.property? s n key
  container? : ∀ {s s'}, L.host s s' → Host.container? s' = Host.container? s
  topLevel? : ∀ {s s'}, L.host s s' → Host.topLevel? s' = Host.topLevel? s
  observe : ∀ {s s' e e'}, L.host s s' → e.Alike L.place e' →
    L.host (Host.observe e s) (Host.observe e' s')
  setProperty : ∀ {s s'} n key v, L.host s s' →
    L.Pairs Eq (Host.setProperty n key v) (Host.setProperty n key v) s s'
  world : ∀ {s s'} n, L.host s s' → L.Pairs L.place (Host.world n) (Host.world n) s s'
  setWorld : ∀ {s s' w w'} n, L.host s s' → L.place w w' →
    L.Pairs Eq (Host.setWorld n w) (Host.setWorld n w') s s'
  duplicate : ∀ {s s'} n, L.host s s' → L.Pairs Eq (Host.duplicate n) (Host.duplicate n) s s'
  reparent : ∀ {s s'} n p, L.host s s' → L.Pairs Eq (Host.reparent n p) (Host.reparent n p) s s'
  moveTo : ∀ {s s'} n origin target, L.host s s' →
    L.Pairs Eq (Host.moveTo n origin target) (Host.moveTo n origin target) s s'
  flip : ∀ {s s'} n, L.host s s' → L.Pairs Eq (Host.flip n) (Host.flip n) s s'
  bake : ∀ {s s'} n, L.host s s' → L.Pairs Eq (Host.bake n) (Host.bake n) s s'
  addMarker : ∀ {s s' w w'} p, L.host s s' → L.place w w' →
    L.Pairs Eq (Host.addMarker w p) (Host.addMarker w' p) s s'
  remove : ∀ {s s'} n, L.host s s' → L.Pairs Eq (Host.remove n) (Host.remove n) s s'

namespace Lasts
variable {L : Likeness σ τ α} {keys : List String} {s : σ} {s' : τ}

/-- Alike hosts move a node to another collection alike. -/
lemma moveAll (h : L.Lasts keys) (n : NodeId) (origin target : Option String) (hs : L.host s s') :
    L.Pairs Eq (Host.moveAll n origin target) (Host.moveAll n origin target) s s' := by
  have within : ∀ bound n {s s'}, L.host s s' → L.Pairs Eq (Host.moveAllWithin bound n origin target)
      (Host.moveAllWithin bound n origin target) s s' := by
    intro bound
    induction bound with
    | zero => exact fun n s s' hs => .pure rfl hs
    | succ bound ih =>
      intro n s s' hs
      refine .bind (h.moveTo n origin target hs) fun _ _ t t' _ ht => .get ?_
      rw [h.children ht]
      exact .forM ht fun child _ u u' hu => ih child hu
  unfold Host.moveAll
  apply Paired.get
  rw [h.size hs]
  exact within _ n hs

/-- Alike hosts have the same nodes below a node. -/
lemma descendants (h : L.Lasts keys) (n : NodeId) (hs : L.host s s') :
    Host.descendants s' n = Host.descendants s n := by
  unfold Host.descendants
  rw [h.children hs, h.size hs]

end Lasts

end Likeness

end SceneGrammar
