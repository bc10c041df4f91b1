import SceneGrammar.Derivation.Links
import SceneGrammar.Derivation.Prepare

/-!
# Carrying out rules

What each rule does where the cursor stands. A rule checks the kind of the place before it draws
its arguments, and draws them before it changes anything. Placing a name is left to the
surroundings, which know how deep instances may still nest.
-/

namespace SceneGrammar.Derivation
variable {σ ρ α : Type} [Scalar α] [Host σ α] [RandomSource ρ]

/-- What a rule is carried out in. -/
structure Surroundings (σ ρ α : Type) where
  settings : Settings
  /-- Places what a name stands for at the cursor. -/
  place : String → Action σ ρ α Unit

/-- Publishes a link in the innermost definition. -/
def publish (name : String) (link : NodeId) : Action σ ρ α Unit := do
  note (.exported name link (← get).captures.length)
  modify (·.publish name link)

/-- Puts a copy into the collection of a link and under the link. -/
def adopt (copy link : NodeId) : Action σ ρ α Unit := do
  let scene := (← get).scene
  request (Host.moveAll copy (Host.container? scene copy) (Host.container? scene link))
  request (Host.reparent copy link)

/-- Reflects a node along an axis of a link's frame, or of its own where that frame has no inverse. -/
def mirrorAt (link : NodeId) (axis : Axis) (n : NodeId) : Action σ ρ α Unit := do
  let frame ← request (Host.world link)
  let world ← request (Host.world n)
  let flip := Matrix4.scaling axis.reflection
  let mirrored := match frame.inverse? with
    | some inverse => frame * flip * inverse * world
    | none => world * flip
  request (Host.setWorld n mirrored)
  request (Host.bake n)
  request (Host.flip n)

/-- Copies one child of a neighbouring link to a place under a link. -/
def copyChild (place : LinkPlace α) (mirror : Option Axis) (child : NodeId) : Action σ ρ α Unit := do
  let copy ← request (Host.duplicate child)
  request (Host.setWorld copy place.composed)
  adopt copy place.node
  match mirror with
  | some axis => mirrorAt place.node axis copy
  | none => pure ()
  modify (·.addGenerated copy)

/-- Copies the children of the neighbouring link with a name under the current link. -/
def copySiblingChildren (settings : Settings) (place : LinkPlace α) (name : String)
    (mirror : Option Axis) : Action σ ρ α Unit := do
  let scene := (← get).scene
  match Host.parent? scene place.node with
  | none => pure ()
  | some parent =>
    match childLink? settings scene parent name with
    | none => pure ()
    | some sibling => (Host.children scene sibling).forM (copyChild place mirror)

/-- Adds a link with a name to an object, in the object's own place. -/
def addLinkTo (settings : Settings) (object : NodeId) (name : String) : Action σ ρ α Unit := do
  let world ← request (Host.world object)
  let marker ← request (Host.addMarker world object)
  request (Host.setProperty marker settings.linkKey (.str name))

/-- Changes a channel of the offset at the cursor, if it stands at a link. -/
def adjustOffset (channel : Channel) (v : Vec3 Float) (absolute : Bool) : Action σ ρ α Unit :=
  modify fun s =>
    match s.cursor with
    | .link place =>
      let offset := place.offset.adjust channel (v.map Scalar.ofFloat) absolute
      { s with cursor := .link { place with offset } }
    | _ => s

mutual
/-- Carries out a rule. -/
def execute (env : Surroundings σ ρ α) : Rule Nat → Action σ ρ α Unit
  | .define name body => do
    note (.defined name body)
    define name body
  | .exportLink e => do
    let place ← requireLink "export_link"
    publish (← resolveAs .text "export_link" e) place.node
  | .block body => inScope (executeAll env body)
  | .times e body => do
    let count ← resolveAs .count "repeat" e
    inScope (iterate count (executeAll env body))
  | .place e => do
    let _ ← requireLink "instance"
    env.place (← resolveAs .text "instance" e)
  | .copySibling e mirror => do
    let place ← requireLink "copy_parent_link_children"
    let name ← resolveAs .text "copy_parent_link_children" e
    copySiblingChildren env.settings place name mirror
  | .addLink e => do
    let object ← requireObject "create_link"
    addLinkTo env.settings object (← resolveAs .text "create_link" e)
  | .goTo e => do
    let name ← resolveAs .text "move_to_link" e
    let s ← get
    match findLink? env.settings s.scene s.cursor name with
    | some link => enterLink link
    | none => pure ()
  | .forLinks source body => do
    let _ ← requireObject "each_link"
    let pattern ← compile source
    let s ← get
    (visibleLinks env.settings s.scene s.cursor pattern.isMatch).forM fun link =>
      inScope do
        enterLink link
        executeAll env body
  | .maybe e body => do
    let ratio ← resolveAs .number "maybe" e
    if (← uniform) ≤ ratio then inScope (executeAll env body) else pure ()
  | .adjust channel e absolute => do
    let subject := Rule.word (.adjust channel e absolute)
    let _ ← requireLink subject
    adjustOffset channel (← resolveAs .vector subject e) absolute
/-- Carries out rules one after the other. A rule that fails without ending the run is recorded, and
the next one follows. -/
def executeAll (env : Surroundings σ ρ α) : List (Rule Nat) → Action σ ρ α Unit
  | [] => pure ()
  | r :: rs => do
    let s ← get
    note (.rule s.depth r s.cursor s.scopes s.captures)
    tolerate env.settings (execute env r)
    executeAll env rs
end

end SceneGrammar.Derivation
