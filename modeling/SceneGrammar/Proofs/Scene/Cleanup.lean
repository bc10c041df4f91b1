import SceneGrammar.Proofs.Scene.Growth

/-!
# Cleaning up

Removing new nodes takes growth back. If every new node is among those to be removed or below a new
node, nothing new is left after `cleanUp`, and the scene is what it has grown from.
-/

namespace SceneGrammar.Scene

variable {α : Type} {b s t : Scene α} {n m : NodeId} {S : NodeId → Prop}

/-- Removes nodes one after the other, those that are still there. -/
def cleanUp (l : List NodeId) : Edit (Scene α) Unit :=
  l.forM fun n => do
    if ((← MonadState.get).node? n).isSome then remove n

namespace Grown

/-- Removing a new node takes growth back. -/
lemma prune (h : Grown b s) (hb : b.WellFormed) (hn : b.lastId < n) : Grown b (s.prune n) := by
  have hu := h.toExtends.unlist hb hn
  have old : ∀ m, m ≤ b.lastId → (s.prune n).node? m = (s.unlist n).node? m := by
    intro m hm
    rw [h.wellFormed.node?_prune, if_neg]
    exact fun hmn => Nat.not_lt_of_le hm (h.fresh_under hb hn hmn)
  refine ⟨⟨?_, ?_, ?_, ?_⟩, h.wellFormed.prune n⟩
  · rw [lastId_prune]
    exact h.lastId
  · rw [collections_prune]
    exact h.collections
  · intro m node e
    rw [old m (le_lastId_of_node? e)]
    exact hu.old m node e
  · intro m hm
    exact h.fresh m (h.wellFormed.live_prune.mp hm).1

/-- A new node that is left after a removal need not stand below what was removed. -/
lemma prune_rooted (h : Grown b s) (hr : Rooted b S s) (n : NodeId) :
    Rooted b (fun m => S m ∧ m ≠ n) (s.prune n) := by
  intro m hm hlt
  obtain ⟨hm, hmn⟩ := h.wellFormed.live_prune.mp hm
  rw [h.wellFormed.parent?_prune hmn]
  exact (hr m hm hlt).imp_left fun hS => ⟨hS, fun e => hmn (e ▸ .refl)⟩

/-- Every new node is below a node that it is rooted in. -/
lemma exists_root (h : Grown b s) (hr : Rooted b S s) (hm : s.Live m) (hlt : b.lastId < m) :
    ∃ g, S g ∧ s.Under m g := by
  -- Parents lead from one new node to the next one until one of `S` is reached.
  induction hk : s.rank m using Nat.strong_induction_on generalizing m with
  | _ k ih =>
    cases hr m hm hlt with
    | inl hS => exact ⟨m, hS, .refl⟩
    | inr hp =>
      obtain ⟨p, e, hp⟩ := hp
      have hrank := h.wellFormed.rank_parent_lt e
      obtain ⟨g, hg, hu⟩ := ih (s.rank p) (hk ▸ hrank) (h.wellFormed.live_parent e) hp rfl
      exact ⟨g, hg, .head e hu⟩

/-- Without new nodes nothing has changed. -/
lemma node?_eq (h : Grown b s) (hnew : ∀ m, s.Live m → m ≤ b.lastId) (n : NodeId) :
    s.node? n = b.node? n := by
  cases e : b.node? n with
  | none =>
    cases e' : s.node? n with
    | none => rfl
    | some node =>
      have hs : s.Live n := ⟨node, e'⟩
      obtain ⟨node', eb⟩ := h.live_old hs (hnew n hs)
      rw [e] at eb
      cases eb
  | some node =>
    obtain ⟨added, e', ha⟩ := h.old n node e
    have hnil : added = [] := by
      refine List.eq_nil_iff_forall_not_mem.mpr fun m hm => ?_
      have hc : m ∈ s.children n := by
        rw [children_eq e']
        exact List.mem_append_right _ hm
      exact Nat.not_le_of_lt (ha m hm) (hnew m (h.wellFormed.live_child hc))
    rw [e', hnil, List.append_nil]

end Grown

/-- Cleaning up leads back to what a scene has grown from. -/
theorem cleanUp_ends (hb : b.WellFormed) (l : List NodeId) (hl : ∀ n ∈ l, b.lastId < n)
    (h : Grown b s) (hr : Rooted b (· ∈ l) s) :
    Ends (cleanUp l) s (fun _ t => (∀ n, t.node? n = b.node? n) ∧ t.collections = b.collections)
      (fun _ _ => False) := by
  induction l generalizing s with
  | nil =>
    have hnew : ∀ m, s.Live m → m ≤ b.lastId := by
      intro m hm
      by_contra hlt
      obtain ⟨g, hg, -⟩ := h.exists_root hr hm (Nat.lt_of_not_le hlt)
      cases hg
    exact Ends.pure ⟨h.node?_eq hnew, h.collections⟩
  | cons n l ih =>
    have hln := hl n List.mem_cons_self
    have hrest := fun m hm => hl m (List.mem_cons_of_mem n hm)
    apply Ends.bind
    apply Ends.get
    split
    · next hn =>
      refine (remove_live h.wellFormed (live_iff.mpr hn)).imp ?_ (fun _ _ => id)
      rintro _ _ rfl
      refine ih hrest (h.prune hb hln) ?_
      refine (h.prune_rooted hr n).mono fun m hm => ?_
      exact (List.mem_cons.mp hm.1).resolve_left hm.2
    · next hn =>
      -- The node is gone already, with one that was removed before.
      refine Ends.pure (ih hrest h fun m hm hlt => ?_)
      refine (hr m hm hlt).imp_left fun hmem => (List.mem_cons.mp hmem).resolve_left ?_
      exact fun e => hn (live_iff.mp (e ▸ hm))

end SceneGrammar.Scene
