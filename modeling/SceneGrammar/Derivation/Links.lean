import SceneGrammar.Derivation.State

/-!
# Links

A node is a link if it has a text under the link key, which is its name. A search for links does not
go below a link, so that a link sees the next links only.
-/

namespace SceneGrammar.Derivation
variable {σ ρ α : Type} [Host σ α]

/-- The name of a link. -/
def linkName? (settings : Settings) (scene : σ) (n : NodeId) : Option String :=
  (Host.property? scene n settings.linkKey).bind (·.text?)

/-- The links below a node with an accepted name, in the order in which they are found. -/
def linksBelow (settings : Settings) (scene : σ) (root : NodeId) (accept : String → Bool) :
    List NodeId :=
  Walk.tagged (Host.children scene) (linkName? settings scene) accept (Host.size scene)
    (Host.children scene root)

/-- The links with an accepted name that a cursor sees: the published ones at an object of a
definition, those below it elsewhere. -/
def visibleLinks (settings : Settings) (scene : σ) (cursor : Cursor α) (accept : String → Bool) :
    List NodeId :=
  match cursor with
  | .aliased _ aliases => (aliases.toList.filter fun (name, _) => accept name).map (·.2)
  | .object n => linksBelow settings scene n accept
  | .link place => linksBelow settings scene place.node accept

/-- The link with a name that a cursor sees. -/
def findLink? (settings : Settings) (scene : σ) (cursor : Cursor α) (name : String) : Option NodeId :=
  match cursor with
  | .aliased _ aliases => aliases.get? name
  | .object n => (linksBelow settings scene n (· == name)).head?
  | .link place => (linksBelow settings scene place.node (· == name)).head?

/-- The first child of a node that is a link with a name. -/
def childLink? (settings : Settings) (scene : σ) (parent : NodeId) (name : String) : Option NodeId :=
  (Host.children scene parent).find? fun n => linkName? settings scene n == some name

end SceneGrammar.Derivation
