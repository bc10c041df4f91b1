import SceneGrammar.Proofs.Scene.Keep
import SceneGrammar.Proofs.Scene.View

/-!
# Watched hosts

A host that does what another one does and remembers all of it: the events that it was told, and each
form that the other host went through. A run on it shows what a run is like on its way. It goes the way
that it goes without being watched, as a watched host is only a view away (`Watched.view`).
-/

namespace SceneGrammar

variable {σ α β : Type}

/-- A host with its past. -/
structure Watched (σ α : Type) where
  host : σ
  /-- The events so far, the last first. -/
  told : List (Event α) := []
  /-- The forms that the host has had, the present one first. -/
  held : List σ := [host]

namespace Watched

/-- Remembers the form that a host has taken. -/
def became (w : Watched σ α) (s : σ) : Watched σ α := { w with host := s, held := s :: w.held }

/-- A request, remembered. -/
def request (act : Edit σ β) : Edit (Watched σ α) β := fun w =>
  match act w.host with
  | .ok b s => .ok b (w.became s)
  | .error f s => .error f (w.became s)

instance [Host σ α] : Host (Watched σ α) α where
  size w := Host.size w.host
  parent? w := Host.parent? w.host
  children w := Host.children w.host
  property? w := Host.property? w.host
  container? w := Host.container? w.host
  topLevel? w := Host.topLevel? w.host
  setProperty n key v := request (Host.setProperty n key v)
  world n := request (Host.world n)
  setWorld n w := request (Host.setWorld n w)
  duplicate n := request (Host.duplicate n)
  reparent n p := request (Host.reparent n p)
  moveTo n origin target := request (Host.moveTo n origin target)
  flip n := request (Host.flip n)
  bake n := request (Host.bake n)
  addMarker w p := request (Host.addMarker w p)
  remove n := request (Host.remove n)
  observe e w := { w.became (Host.observe e w.host) with told := e :: w.told }

/-- A watched request is the request. -/
lemma request_pairs (act : Edit σ β) {w : Watched σ α} {s : σ} (h : s = w.host) :
    (Likeness.view host : Likeness (Watched σ α) σ α).Pairs Eq (request act) act w s := by
  refine Likeness.view_pairs (fun w => ?_) h
  unfold request
  cases act w.host <;> rfl

/-- What is watched is a view of the watched host. -/
theorem view [Host σ α] {keys : List String} :
    (Likeness.view host : Likeness (Watched σ α) σ α).Lasts keys where
  combine f _ _ _ _ ha hb := congrArg₂ f ha hb
  size h := congrArg Host.size h
  parent? h := congrArg Host.parent? h
  children h := congrArg Host.children h
  property? h n key _ := congrArg (Host.property? · n key) h
  container? h := congrArg Host.container? h
  topLevel? h := congrArg Host.topLevel? h
  observe h he := congrArg₂ Host.observe he.eq h
  setProperty _ _ _ := request_pairs _
  world _ := request_pairs _
  setWorld _ h hw := hw ▸ request_pairs _ h
  duplicate _ := request_pairs _
  reparent _ _ := request_pairs _
  moveTo _ _ _ := request_pairs _
  flip _ := request_pairs _
  bake _ := request_pairs _
  addMarker _ h hw := hw ▸ request_pairs _ h
  remove _ := request_pairs _

/-- What a host has always been. -/
structure Always (P : σ → Prop) (w : Watched σ α) : Prop where
  now : P w.host
  past : ∀ s ∈ w.held, P s

/-- What holds of a host holds of all that a new watch has seen. -/
lemma Always.start {P : σ → Prop} {s : σ} (h : P s) : Always P ({ host := s } : Watched σ α) := by
  refine ⟨h, fun t ht => ?_⟩
  obtain rfl := List.mem_singleton.mp ht
  exact h

/-- What has always held still does when the host becomes one of which it holds. -/
lemma Always.became {P : σ → Prop} {w : Watched σ α} {s : σ} (hw : Always P w) (h : P s) :
    Always P (w.became s) := by
  refine ⟨h, fun t ht => ?_⟩
  cases List.mem_cons.mp ht with
  | inl e => exact e ▸ h
  | inr ht => exact hw.past t ht

/-- What a request keeps, a watched request keeps always. -/
lemma Always.request {P : σ → Prop} {act : Edit σ β}
    (h : ∀ s, P s → Ends act s (fun _ => P) (fun _ => P)) (w : Watched σ α) (hw : Always P w) :
    Ends (Watched.request act) w (fun _ => Always P) (fun _ => Always P) := by
  have hs := h w.host hw.now
  unfold Ends Watched.request
  cases e : act w.host with
  | ok b s => exact hw.became (hs.ok e)
  | error f s => exact hw.became (hs.error e)

/-- A request tells no events. -/
lemma told_request (P : List (Event α) → Prop) (act : Edit σ β) (w : Watched σ α) (hw : P w.told) :
    Ends (request act) w (fun _ v => P v.told) (fun _ v => P v.told) := by
  unfold Ends request
  cases act w.host with
  | ok b s => exact hw
  | error f s => exact hw

variable [Host σ α]

/-- A request of a watched host is a watched request. -/
lemma offers {act : Edit (Watched σ α) β} (h : Host.Offers act) :
    ∃ act' : Edit σ β, Host.Offers act' ∧ act = request act' := by
  cases h with
  | setProperty n key v => exact ⟨_, .setProperty n key v, rfl⟩
  | world n => exact ⟨_, .world n, rfl⟩
  | setWorld n w => exact ⟨_, .setWorld n w, rfl⟩
  | duplicate n => exact ⟨_, .duplicate n, rfl⟩
  | reparent n p => exact ⟨_, .reparent n p, rfl⟩
  | moveTo n origin target => exact ⟨_, .moveTo n origin target, rfl⟩
  | flip n => exact ⟨_, .flip n, rfl⟩
  | bake n => exact ⟨_, .bake n, rfl⟩
  | addMarker w p => exact ⟨_, .addMarker w p, rfl⟩

/-- What lasts, lasts always. -/
theorem always_keeps {P : σ → Prop} (h : Host.Keeps P) :
    Host.Keeps (Always P : Watched σ α → Prop) where
  observe e w hw := by
    have he := hw.became (h.observe e w.host hw.now)
    exact ⟨he.now, he.past⟩
  offer ha := by
    obtain ⟨act, hact, rfl⟩ := offers ha
    exact Always.request (h.offer hact)

/-- Requests tell a watched host nothing. -/
theorem told_lasts (P : List (Event α) → Prop) :
    Host.Lasts (fun w : Watched σ α => P w.told) where
  offer ha := by
    obtain ⟨act, -, rfl⟩ := offers ha
    exact told_request P act

end Watched

end SceneGrammar
