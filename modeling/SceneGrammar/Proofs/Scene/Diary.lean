import SceneGrammar.Proofs.Scene.Keep
import SceneGrammar.Proofs.Scene.View

/-!
# Hosts with a diary

A host that does what another one does and keeps a diary: each event that it is told, together with the
form that the other host has at that point. It is only a view away from the host without a diary
(`Diary.view`), and requests add nothing to it (`Diary.entries_lasts`).
-/

namespace SceneGrammar

variable {σ α β : Type}

/-- A host with a diary. -/
structure Diary (σ α : Type) where
  host : σ
  /-- The events so far and the host that heard them, the last first. -/
  entries : List (Event α × σ) := []

namespace Diary

/-- A request of a host that keeps a diary. -/
def request (act : Edit σ β) : Edit (Diary σ α) β := fun d =>
  match act d.host with
  | .ok b host => .ok b { d with host }
  | .error f host => .error f { d with host }

instance [Host σ α] : Host (Diary σ α) α where
  size d := Host.size d.host
  parent? d := Host.parent? d.host
  children d := Host.children d.host
  property? d := Host.property? d.host
  container? d := Host.container? d.host
  topLevel? d := Host.topLevel? d.host
  setProperty n key v := request (Host.setProperty n key v)
  world n := request (Host.world n)
  setWorld n w := request (Host.setWorld n w)
  duplicate n := request (Host.duplicate n)
  reparent n p := request (Host.reparent n p)
  moveTo n origin target := request (Host.moveTo n origin target)
  flip n := request (Host.flip n)
  bake n := request (Host.bake n)
  addMarker w p := request (Host.addMarker w p)
  remove n := request (Host.remove n)
  observe e d := { host := Host.observe e d.host, entries := (e, d.host) :: d.entries }

lemma request_pairs (act : Edit σ β) {d : Diary σ α} {s : σ} (h : s = d.host) :
    (Likeness.view host : Likeness (Diary σ α) σ α).Pairs Eq (request act) act d s := by
  refine Likeness.view_pairs (fun d => ?_) h
  unfold request
  cases act d.host <;> rfl

/-- A diary does not change what a host does. -/
theorem view [Host σ α] {keys : List String} :
    (Likeness.view host : Likeness (Diary σ α) σ α).Lasts keys where
  combine f _ _ _ _ ha hb := congrArg₂ f ha hb
  size h := congrArg Host.size h
  parent? h := congrArg Host.parent? h
  children h := congrArg Host.children h
  property? h n key _ := congrArg (Host.property? · n key) h
  container? h := congrArg Host.container? h
  topLevel? h := congrArg Host.topLevel? h
  observe h he := congrArg₂ Host.observe he.eq h
  setProperty _ _ _ := request_pairs _
  world _ := request_pairs _
  setWorld _ h hw := hw ▸ request_pairs _ h
  duplicate _ := request_pairs _
  reparent _ _ := request_pairs _
  moveTo _ _ _ := request_pairs _
  flip _ := request_pairs _
  bake _ := request_pairs _
  addMarker _ h hw := hw ▸ request_pairs _ h
  remove _ := request_pairs _

lemma entries_request (P : List (Event α × σ) → Prop) (act : Edit σ β) (d : Diary σ α)
    (hd : P d.entries) :
    Ends (request act) d (fun _ d' => P d'.entries) (fun _ d' => P d'.entries) := by
  unfold Ends request
  cases act d.host with
  | ok b s => exact hd
  | error f s => exact hd

/-- Requests are not entered in a diary. -/
theorem entries_lasts [Host σ α] (P : List (Event α × σ) → Prop) :
    Host.Lasts (fun d : Diary σ α => P d.entries) where
  offer ha d hd := by
    cases ha with
    | setProperty n key v => exact entries_request P _ d hd
    | world n => exact entries_request P _ d hd
    | setWorld n w => exact entries_request P _ d hd
    | duplicate n => exact entries_request P _ d hd
    | reparent n p => exact entries_request P _ d hd
    | moveTo n origin target => exact entries_request P _ d hd
    | flip n => exact entries_request P _ d hd
    | bake n => exact entries_request P _ d hd
    | addMarker w p => exact entries_request P _ d hd

end Diary

end SceneGrammar
