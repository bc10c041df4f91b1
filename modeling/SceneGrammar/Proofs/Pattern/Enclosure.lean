import SceneGrammar.Proofs.Pattern.Steps

/-!
# Patterns that are put into a group

A text that stands in a group is read as it is read alone, up to the parenthesis that closes the group: that
is the first one behind a front which is a pattern by itself. Conversely a text that is a pattern by itself
is read the same in a group, unless a comment at its end takes up the closing parenthesis.
-/

namespace SceneGrammar.Pattern

variable {outer : List OpenGroup} {enclosing g : OpenGroup} {names : List String} {cs : List Char} {item : Item}

lemma next_nil (sw : Switches) : sw.next [] = [] := by
  unfold Switches.next
  split <;> rfl

/-- A group ends in front of a verge as it does elsewhere. -/
lemma next_paren {sw : Switches} {rest : List Char} (e : sw.next cs = ')' :: rest) :
    ∃ u, cs = u ++ ')' :: rest ∧ sw.next u = [] ∧ sw.next (u ++ [')']) = [')'] ∧
      ∀ ⦃w w' a⦄, Verge w w' → rest = a ++ w → sw.next (u ++ ')' :: (a ++ w')) = ')' :: (a ++ w') := by
  obtain ⟨u, split, near⟩ := sw.next_verge cs
  rw [e] at split near
  refine ⟨u, split, ?_, ?_, fun w w' a hw hr => ?_⟩
  · simpa using near (a := []) .cut rfl
  · simpa using near (a := []) .close rfl
  · simpa using near (a := ')' :: a) hw (by rw [hr]; rfl)

/-- A token is read in front of a verge as it is elsewhere, if the pattern goes on behind it. -/
lemma nextToken_verge {t : Token} {rest : List Char} (e : nextToken g names cs = some (t, rest)) :
    ∃ u, cs = u ++ rest ∧ ∀ ⦃w w' a⦄, Verge w w' → rest = a ++ w → ∀ {around},
      (read? around t.current t.names a).isSome →
        nextToken g names (u ++ (a ++ w')) = some (t, a ++ w') ∨
          (w = [] ∧ a = [] ∧ nextToken g names (u ++ w') = some (t, [])) := by
  obtain ⟨u, split, near⟩ := nearsighted_nextToken g names e
  refine ⟨u, split, fun w w' a hw hr around on => ?_⟩
  obtain same | lost | ⟨b, rfl, stuck⟩ := near hw hr
  · exact .inl same
  · exact .inr lost
  · simp [read?_stuck stuck] at on

/-- What is read in a group begins with what is read alone, and goes on behind the parenthesis that closes
the group. -/
theorem read?_closes (e : read? (outer ++ [enclosing]) g names cs = some item) :
    ∃ front rest inner names', cs = front ++ ')' :: rest ∧ inner.counted = outermostCounts outer g ∧
      read? outer g names front = some inner.close ∧ read? outer g names (front ++ [')']) = none ∧
        read? [] (enclosing.pushGroup inner) names' rest = some item := by
  induction hn : cs.length using Nat.strong_induction_on generalizing outer g names cs with
  | _ n ih =>
  subst hn
  obtain ⟨-, nothing, -⟩ | ⟨around, outer', rest, ahead, split, e⟩ | ⟨t, rest, token, e⟩ :=
    read?_eq_some_iff.mp e
  · simp at nothing
  · obtain ⟨u, rfl, ends, closes, near⟩ := next_paren ahead
    cases outer with
    | nil =>
      obtain ⟨rfl, rfl⟩ : enclosing = around ∧ [] = outer' := by simpa using split
      exact ⟨u, rest, g, names, rfl, rfl, read?_nil ends, read?_unopened closes, e⟩
    | cons around' outer =>
      obtain ⟨rfl, rfl⟩ : around' = around ∧ outer ++ [enclosing] = outer' := by simpa using split
      obtain ⟨front, rest, inner, names', rfl, counts, alone, unopened, on⟩ :=
        ih rest.length (by simp; omega) e rfl
      rw [outermostCounts_close] at counts
      refine ⟨u ++ ')' :: front, rest, inner, names', by simp, counts, ?_, ?_, on⟩
      · rw [read?_close (by simpa using near .cut rfl), alone]
      · rw [List.append_assoc, List.cons_append, read?_close (near .close rfl), unopened]
  · rw [← List.append_assoc] at e
    obtain ⟨front, rest, inner, names', rfl, counts, alone, unopened, on⟩ :=
      ih rest.length (length_nextToken_lt token) e rfl
    rw [outermostCounts_token token] at counts
    obtain ⟨u, rfl, near⟩ := nextToken_verge token
    have go := fun w' (hw : Verge (')' :: rest) w') => near hw rfl (by rw [alone]; rfl)
    refine ⟨u ++ front, rest, inner, names', by simp, counts, ?_, ?_, on⟩
    · have token' : nextToken g names (u ++ front) = some (t, front) := by simpa using go [] .cut
      rw [read?_token token', alone]
    · have token' : nextToken g names (u ++ (front ++ [')'])) = some (t, front ++ [')']) := by
        simpa using go [')'] .close
      rw [List.append_assoc, read?_token token', unopened]

/-- What is read alone is read in a group, or a comment is open at its end. -/
theorem read?_inside (enclosing : OpenGroup) (e : read? outer g names cs = some item) :
    (∃ inner, inner.counted = outermostCounts outer g ∧ inner.close = item ∧
      read? (outer ++ [enclosing]) g names (cs ++ [')']) = some (enclosing.pushGroup inner).close) ∨
    read? outer g names (cs ++ [')']) = some item := by
  induction hn : cs.length using Nat.strong_induction_on generalizing outer g names cs with
  | _ n ih =>
  subst hn
  obtain ⟨ends, rfl, rfl⟩ | ⟨around, outer, rest, ahead, rfl, on⟩ | ⟨t, rest, token, on⟩ :=
    read?_eq_some_iff.mp e
  · obtain ⟨u, split, near⟩ := g.switches.next_verge cs
    rw [ends, List.append_nil] at split
    subst split
    obtain closes | ⟨-, -, comment⟩ := near (a := []) .extend (by rw [ends]; rfl)
    · refine .inl ⟨g, rfl, rfl, ?_⟩
      rw [List.nil_append, read?_close (by simpa using closes)]
      exact read?_nil (next_nil _)
    · exact .inr (read?_nil comment)
  · obtain ⟨u, rfl, -, -, near⟩ := next_paren ahead
    have next' : g.switches.next (u ++ ')' :: rest ++ [')']) = ')' :: (rest ++ [')']) := by
      simpa using near .extend (List.append_nil rest).symm
    rw [List.cons_append, read?_close next', read?_close next', ← outermostCounts_close]
    exact ih rest.length (by simp; omega) on rfl
  · have inside := ih rest.length (length_nextToken_lt token) on rfl
    obtain ⟨u, rfl, near⟩ := nextToken_verge token
    obtain same | ⟨-, rfl, lost⟩ := near .extend (List.append_nil rest).symm (by rw [on]; rfl)
    · rw [outermostCounts_token token] at inside
      rwa [List.append_assoc u, read?_token same, read?_token same, ← List.append_assoc]
    · right
      rw [List.append_nil, read?_token lost, on]

end SceneGrammar.Pattern
