import SceneGrammar.Proofs.Derivation.Links
import SceneGrammar.Proofs.Scene.History
import SceneGrammar.Proofs.Scene.Preorder

/-!
# Which links are seen

In a forest, the links that are found below a node are those that a recursion finds which goes from a
node to its children and stops at every link, whether its name is accepted or not. So a link hides the
links below it, and a search for a name finds the first of all visible links that has it. At an object
of a definition the published links alone are seen.
-/

namespace SceneGrammar

/-- The node below which a cursor looks for links, if it does. -/
def Cursor.searched? {α : Type} : Cursor α → Option NodeId
  | .object n => some n
  | .aliased _ _ => none
  | .link place => some place.node

namespace Derivation

variable {σ α : Type} [Host σ α]

/-- The link of a name is the first one that a search for that name finds. -/
lemma findLink?_eq_head? (settings : Settings) (scene : σ) (cursor : Cursor α) (name : String) :
    findLink? settings scene cursor name =
      (visibleLinks settings scene cursor (· == name)).head? := by
  cases cursor with
  | aliased n aliases =>
    rw [findLink?, visibleLinks, Bindings.get?, List.head?_map, List.head?_filter]
    rfl
  | object n => rfl
  | link place => rfl

/-- A search for some of the links finds those of all links whose names are accepted. -/
lemma linksBelow_filter (settings : Settings) (scene : σ) (root : NodeId) (accept : String → Bool) :
    linksBelow settings scene root accept =
      (linksBelow settings scene root fun _ => true).filter fun m =>
        (linkName? settings scene m).any accept :=
  Walk.tagged_eq_filter _ _ _ _ _

section
variable {cursor : Cursor α} {root : NodeId} (searched : cursor.searched? = some root)
include searched

/-- Where a cursor searches, the visible links are those below its node. -/
lemma visibleLinks_searched (settings : Settings) (scene : σ) (accept : String → Bool) :
    visibleLinks settings scene cursor accept = linksBelow settings scene root accept := by
  cases cursor <;> cases searched <;> rfl

/-- Where links are searched for, the link of a name is the first visible one that has it. -/
lemma findLink?_searched (settings : Settings) (scene : σ) (name : String) :
    findLink? settings scene cursor name =
      (visibleLinks settings scene cursor fun _ => true).find? fun m =>
        linkName? settings scene m == some name := by
  rw [findLink?_eq_head?, visibleLinks_searched searched, visibleLinks_searched searched,
    linksBelow_filter, List.head?_filter]
  congr 1
  funext m
  cases linkName? settings scene m <;> rfl

end

variable [Scalar α] {s : Scene α}

/-- The links below a node of a forest are those that a recursion finds which stops at links, and a cursor
at an object or a link sees these, one at an object of a definition what is published. -/
theorem linksBelow_recursion (hs : s.WellFormed) (settings : Settings) (accept : String → Bool) :
    -- The recursion goes from a node to its children and has one solution.
    (∀ f : NodeId → List NodeId,
      (∀ n, f n = (s.children n).flatMap (Walk.atNode (linkName? settings s) accept f)) ↔
        f = fun n => linksBelow settings s n accept) ∧
    -- Between the node and a link that is found there is no other link.
    (∀ root m, m ∈ linksBelow settings s root accept ↔
      (∃ name, linkName? settings s m = some name ∧ accept name = true) ∧
        Relation.TransGen s.ParentOf m root ∧
          ∀ q, Relation.TransGen s.ParentOf m q → Relation.TransGen s.ParentOf q root →
            linkName? settings s q = none) ∧
    -- Each link is found once, and a node before its children.
    (∀ root, (linksBelow settings s root accept).Nodup ∧
      (linksBelow settings s root accept).Sublist (s.descendants root)) ∧
    -- Which names are accepted does not hide or show other links.
    (∀ root, linksBelow settings s root accept =
      (linksBelow settings s root fun _ => true).filter fun m =>
        (linkName? settings s m).any accept) ∧
    -- A name leads to the first visible link that has it.
    (∀ (cursor : Cursor α) root, cursor.searched? = some root →
      visibleLinks settings s cursor accept = linksBelow settings s root accept ∧
        ∀ name, findLink? settings s cursor name =
          (visibleLinks settings s cursor fun _ => true).find? fun m =>
            linkName? settings s m == some name) ∧
    ∀ n (aliases : Aliases),
      visibleLinks settings s (.aliased n aliases) accept =
        (aliases.toList.filter (accept ·.1)).map (·.2) ∧
      ∀ name, findLink? settings s (.aliased n aliases) name = aliases.get? name := by
  refine ⟨fun f => ⟨fun hf => hs.eq_taggedBelow hf, ?recursion⟩, fun root m => hs.mem_taggedBelow_iff,
    fun root => ?order, fun root => linksBelow_filter settings s root accept,
    fun cursor root searched => ⟨visibleLinks_searched searched settings s accept,
      findLink?_searched searched settings s⟩, fun n aliases => ⟨rfl, fun name => rfl⟩⟩
  case recursion =>
    rintro rfl n
    exact hs.taggedBelow_eq n
  case order =>
    have part : (linksBelow settings s root accept).Sublist (s.descendants root) :=
      hs.taggedBelow_sublist root
    exact ⟨part.nodup (List.nodup_cons.mp (hs.nodup_tree root)).2, part⟩

/-- A gallery with a door, behind which there is another one, a passage to a third one, and a panel whose
mark is no name. -/
def gallery : Scene Float :=
  Scene.empty.applyAll [.addNode "gallery" none, .addNode "wall" (some 1), .addNode "door" (some 2),
    .tag 3 "gen_link" (.str "inside"), .addNode "vault" (some 3), .tag 4 "gen_link" (.str "outside"),
    .addNode "gate" (some 1), .tag 5 "gen_link" (.str "outside"), .addNode "panel" (some 1),
    .tag 6 "gen_link" (.bool true), .addNode "hatch" (some 6), .tag 7 "gen_link" (.str "outside")]

/-- The gallery is a forest. -/
lemma gallery_wellFormed : gallery.WellFormed :=
  Scene.wellFormed_empty.applyAll _ (by decide)

/-- In the gallery two links lead outside, and the one behind the door is not among them, although the
door leads inside. -/
theorem linksBelow_recursion_gallery :
    gallery.WellFormed ∧ linkName? {} gallery 4 = some "outside" ∧
      4 ∉ linksBelow {} gallery 1 (· == "outside") ∧
      visibleLinks {} gallery (.object 1) (· == "outside") = [5, 7] ∧
      findLink? {} gallery (.object 1) "outside" = some 5 := by
  obtain ⟨-, found, -, -, seen, -⟩ := linksBelow_recursion gallery_wellFormed {} (· == "outside")
  obtain ⟨visible, first⟩ := seen (.object 1) 1 rfl
  refine ⟨gallery_wellFormed, by decide, fun h => ?hidden, visible.trans (by decide),
    (first "outside").trans (by decide)⟩
  case hidden =>
    obtain ⟨-, -, between⟩ := (found 1 4).mp h
    have door := between 3 (.single (by decide)) (.tail (b := 2) (.single (by decide))
      (by decide))
    exact absurd door (by decide)

end Derivation

end SceneGrammar
