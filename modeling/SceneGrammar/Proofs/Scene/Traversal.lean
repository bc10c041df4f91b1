import SceneGrammar.Proofs.Scene.Copy
import SceneGrammar.Proofs.Scene.Moving
import SceneGrammar.Proofs.Scene.Search

/-!
# Traversals

A search for all nodes below a node may also be run with a stack, without any bound: `Walk.Round` is one
round of it. On a forest the rounds come to an end, and there they have visited what the recursion over
the tree lists (`traversals_exact`). A move to another collection follows the same tree while it changes
the nodes in it.
-/

namespace SceneGrammar

/-- One round of a search, from the nodes that wait on a stack and the nodes that were visited. The node
at the end of the stack is visited, and its children come in its place, the first of them at the end. -/
inductive Walk.Round (children : NodeId → List NodeId) :
    List NodeId × List NodeId → List NodeId × List NodeId → Prop where
  | visit (stack visited : List NodeId) (n : NodeId) :
    Round children (stack ++ [n], visited) (stack ++ (children n).reverse, visited ++ [n])

namespace Walk.Round

variable {children : NodeId → List NodeId} {r r' r'' : List NodeId × List NodeId}

/-- A round can go on in one way only. -/
lemma unique (h : Round children r r') (h' : Round children r r'') : r' = r'' := by
  cases h with
  | visit stack visited n =>
    generalize e : stack ++ [n] = whole at h'
    cases h' with
    | visit stack' visited n' =>
      obtain ⟨rfl, same⟩ := List.append_inj' e rfl
      cases same
      rfl

/-- Nothing is done on an empty stack. -/
lemma not_empty {visited : List NodeId} : ¬ Round children ([], visited) r := by
  intro h
  generalize e : ([] : List NodeId) = whole at h
  cases h with
  | visit stack visited n => exact List.append_ne_nil_of_right_ne_nil stack (by simp) e.symm

/-- Rounds that lead to an empty stack cannot go on for ever. -/
lemma acc_of_empty {visited : List NodeId}
    (h : Relation.ReflTransGen (Round children) r ([], visited)) :
    Acc (fun r r' => Round children r' r) r := by
  induction h using Relation.ReflTransGen.head_induction_on with
  | refl => exact .intro _ fun _ next => absurd next not_empty
  | head first _ ih => exact .intro _ fun _ next => unique first next ▸ ih

end Walk.Round

namespace Scene

variable {α : Type} {s : Scene α} {n m : NodeId}

namespace WellFormed

/-- The rounds of a search visit the waiting nodes and all below them, the last on the stack first. -/
lemma rounds_preorder (h : s.WellFormed) (bound : Nat) (waiting visited : List NodeId)
    (hl : ∀ w ∈ waiting, s.Live w) (hb : (waiting.map s.weight).sum ≤ bound) :
    Relation.ReflTransGen (Walk.Round s.children) (waiting.reverse, visited)
      ([], visited ++ Walk.preorder s.children bound waiting) := by
  induction bound generalizing waiting visited with
  | zero =>
    cases waiting with
    | nil => simpa [Walk.preorder] using Relation.ReflTransGen.refl
    | cons n waiting => exact absurd hb (not_light hl)
  | succ bound ih =>
    cases waiting with
    | nil => simpa [Walk.preorder] using Relation.ReflTransGen.refl
    | cons n waiting =>
      have hn := hl n List.mem_cons_self
      have visit : Walk.Round s.children (waiting.reverse ++ [n], visited)
          (waiting.reverse ++ (s.children n).reverse, visited ++ [n]) := .visit _ visited n
      have later := ih (s.children n ++ waiting) (visited ++ [n]) (h.live_visit hl)
        (h.weight_visit_le hn hb)
      rw [List.reverse_append, List.append_assoc, List.singleton_append] at later
      rw [List.reverse_cons, Walk.preorder]
      exact .head visit later

/-- A node is listed below those that its parents lead to. -/
lemma mem_descendants_iff_transGen (h : s.WellFormed) :
    m ∈ s.descendants n ↔ Relation.TransGen s.ParentOf m n := by
  rw [h.mem_descendants_iff, Relation.TransGen.tail'_iff]
  exact ⟨fun ⟨c, hc, hu⟩ => ⟨c, hu, h.named hc⟩, fun ⟨c, hu, e⟩ => ⟨c, h.listed e, hu⟩⟩

lemma nodup_descendants (h : s.WellFormed) (n : NodeId) : (s.descendants n).Nodup :=
  (List.nodup_cons.mp (h.nodup_tree n)).2

/-- There is one way to list the children of a node, each with all below it. -/
lemma eq_descendants_iff (h : s.WellFormed) {below : NodeId → List NodeId} :
    below = s.descendants ↔ ∀ m, below m = (s.children m).flatMap fun c => c :: below c := by
  constructor
  · rintro rfl
    exact h.descendants_eq
  · intro recursion
    funext m
    induction m using h.upwards with
    | step m ih =>
      rw [recursion, h.descendants_eq]
      exact List.flatMap_congr fun c hc => by rw [ih c hc, tree]

/-- The search below a node of a forest ends without a bound in what the recursion over the tree lists, and a
move to another collection changes the collection of just these nodes and of the node. -/
theorem traversals_exact [Scalar α] (h : s.WellFormed) (hn : s.Live n) :
    -- No run of rounds is endless, and the last one has visited what the search lists.
    Acc (fun r r' => Walk.Round s.children r' r) ((s.children n).reverse, []) ∧
    Relation.ReflTransGen (Walk.Round s.children) ((s.children n).reverse, [])
      ([], Host.descendants s n) ∧
    -- The recursion lists a child, then what is below it, then the next child.
    (∀ below : NodeId → List NodeId, below = Host.descendants s ↔
      ∀ m, below m = (s.children m).flatMap fun c => c :: below c) ∧
    -- These are the nodes from which parents lead to the node, each of them once.
    (Host.descendants s n).Nodup ∧
    (∀ m, m ∈ Host.descendants s n ↔ Relation.TransGen s.ParentOf m n) ∧
    -- Every bound above the number of nodes is enough for the move.
    ∀ origin target, ∃ t, Host.moveAll n origin target s = .ok () t ∧
      (∀ bound, s.lastId < bound → Host.moveAllWithin bound n origin target s = .ok () t) ∧
      Moved (fun m => m = n ∨ m ∈ Host.descendants s n) target s t := by
  have visited : Relation.ReflTransGen (Walk.Round s.children) ((s.children n).reverse, [])
      ([], s.descendants n) :=
    h.rounds_preorder s.lastId (s.children n) [] (fun _ hw => h.live_child hw)
      (h.weight_children_le_lastId n)
  refine ⟨Walk.Round.acc_of_empty visited, visited, fun _ => h.eq_descendants_iff,
    h.nodup_descendants n, fun _ => h.mem_descendants_iff_transGen, fun origin target => ?_⟩
  obtain ⟨_, t, run, moved⟩ := (h.moveAll_moved hn origin target).exists_ok
  refine ⟨t, run, fun bound hb => (h.searchable.move n origin target bound hb).trans run, ?_⟩
  exact moved.congr fun m => by rw [← h.mem_tree_iff]; exact List.mem_cons

end WellFormed

/-- The search below the oak visits the first bough and its leaf before the other bough, and moving the oak
to a store leaves the bench where it is. -/
theorem traversals_exact_avenue :
    avenue.WellFormed ∧ avenue.Live 2 ∧ Host.descendants avenue 2 = [3, 4, 5] ∧
      Relation.ReflTransGen (Walk.Round avenue.children) ([5, 3], []) ([], [3, 4, 5]) ∧
      ∃ t, Host.moveAll 2 none (some "store") avenue = .ok () t ∧
        t.container? 4 = some "store" ∧ t.node? 6 = avenue.node? 6 := by
  have hs := avenue_wellFormed
  have hn : avenue.Live 2 := by decide
  have order : Host.descendants avenue 2 = [3, 4, 5] := by decide
  have stack : (avenue.children 2).reverse = [5, 3] := by decide
  obtain ⟨-, visited, -, -, -, moves⟩ := hs.traversals_exact hn
  rw [order, stack] at visited
  obtain ⟨t, run, -, moved⟩ := moves none (some "store")
  rw [order] at moved
  refine ⟨hs, hn, order, visited, t, run, ?leaf, moved.outside 6 (by decide)⟩
  obtain ⟨node, e⟩ : avenue.Live 4 := by decide
  have leaf := moved.inside 4 (by decide)
  rw [e, Option.map_some] at leaf
  rw [container?, leaf]
  rfl

end Scene

end SceneGrammar
