import Mathlib.Data.List.TakeWhile
import Mathlib.Tactic.Lemma
import SceneGrammar.Pattern.Reader

/-!
# Nearsighted readers

A reader of part of a pattern looks at what stands behind that part, but never further than a closing
parenthesis: it makes no difference to it whether the parenthesis has something behind it, or is there at
all. There is one way in which a parenthesis that is put at the end can be missed, an open comment. What
is nearsighted stays so when it is put together, so that this is said of each reader by its parts.
-/

namespace SceneGrammar.Pattern

/-- What stands behind part of a pattern, and what can stand there instead. -/
inductive Verge : List Char → List Char → Prop where
  | cut {rest} : Verge (')' :: rest) []
  | close {rest} : Verge (')' :: rest) [')']
  | extend : Verge [] [')']

/-- What is ahead is the same before a verge, or it is a closing parenthesis or nothing. -/
lemma Verge.any_head {w w' : List Char} (h : Verge w w') {ahead : Char → Bool} (hp : ahead ')' = false)
    (cs : List Char) : (cs ++ w').head?.any ahead = (cs ++ w).head?.any ahead := by
  cases cs with
  | nil => cases h <;> simp [hp]
  | cons c cs => rfl

/-- A reader stops before something with `a` in front of the verge. With the other text behind it, it
reads the same and stops there too, unless an open comment takes up a parenthesis at the end, or there is
a lapse that the reader allows for. -/
def Nearsighted {β : Type} (lapse : β → List Char → Prop)
    (read : List Char → Option (β × List Char)) : Prop :=
  ∀ ⦃cs x r⦄, read cs = some (x, r) → ∃ u, cs = u ++ r ∧ ∀ ⦃w w' a⦄, Verge w w' → r = a ++ w →
    read (u ++ (a ++ w')) = some (x, a ++ w') ∨
      (w = [] ∧ a = [] ∧ read (u ++ w') = some (x, [])) ∨ lapse x a

/-- No lapses. -/
def never {β : Type} : β → List Char → Prop := fun _ _ => False

namespace Nearsighted
variable {β γ : Type} {lapse : β → List Char → Prop} {lapse' : γ → List Char → Prop}
  {f h : List Char → Option (β × List Char)}

/-- What a nearsighted reader leaves is an end of the text. -/
lemma suffix (hf : Nearsighted lapse f) {cs r : List Char} {x : β} (e : f cs = some (x, r)) :
    r <:+ cs := by
  obtain ⟨u, rfl, -⟩ := hf e
  exact List.suffix_append u r

/-- A nearsighted reader may be allowed more lapses. -/
lemma mono {lapse' : β → List Char → Prop} (hf : Nearsighted lapse f)
    (le : ∀ {x a}, lapse x a → lapse' x a) : Nearsighted lapse' f := by
  intro cs x r e
  obtain ⟨u, split, near⟩ := hf e
  exact ⟨u, split, fun _ _ _ hw hr => (near hw hr).imp_right (Or.imp_right le)⟩

/-- A reader without lapses may be allowed any. -/
lemma of_never (hf : Nearsighted never f) : Nearsighted lapse f := hf.mono False.elim

/-- Readers that do the same are nearsighted together. -/
lemma congr (hf : Nearsighted lapse f) (same : ∀ cs, h cs = f cs) : Nearsighted lapse h := by
  rwa [show h = f from funext same]

/-- A reader that reads nothing is nearsighted. -/
lemma pure (x : β) : Nearsighted lapse fun cs => some (x, cs) := by
  rintro cs _ _ ⟨⟩
  exact ⟨[], rfl, fun _ _ _ _ _ => .inl rfl⟩

/-- A reader that fails is nearsighted. -/
lemma none : Nearsighted lapse fun _ : List Char => (Option.none : Option (β × List Char)) := by
  rintro cs x r ⟨⟩

/-- So is one that reads nothing and may fail. -/
lemma lift (o : Option β) : Nearsighted lapse fun cs => o.bind fun x => some (x, cs) := by
  cases o with
  | none => exact none
  | some x => exact pure x

lemma liftAs (o : Option γ) (φ : γ → β) : Nearsighted lapse fun cs => o.bind fun x => some (φ x, cs) := by
  cases o with
  | none => exact none
  | some x => exact pure (φ x)

/-- One reader after the other, where a lapse of the first is none of both or one of the second. -/
lemma bind_of {g : β → List Char → Option (γ × List Char)} (hf : Nearsighted lapse f)
    (hg : ∀ x, Nearsighted lapse' (g x))
    (safe : ∀ {x u a w y}, lapse x (u ++ a) → g x (u ++ (a ++ w)) = some (y, a ++ w) → lapse' y a) :
    Nearsighted lapse' fun cs => (f cs).bind fun p => g p.1 p.2 := by
  intro cs y r e
  obtain ⟨⟨x, s⟩, first, second⟩ := Option.bind_eq_some_iff.mp e
  obtain ⟨u, rfl, near⟩ := hf first
  obtain ⟨v, rfl, near'⟩ := hg x second
  refine ⟨u ++ v, by simp, fun w w' a hw hr => ?_⟩
  subst hr
  obtain same | ⟨rfl, nothing, lost⟩ | slip := near hw (a := v ++ a) (by simp)
  · obtain same' | ⟨rfl, rfl, lost⟩ | slip := near' hw rfl
    · refine .inl (Option.bind_eq_some_iff.mpr ⟨(x, v ++ (a ++ w')), ?_, same'⟩)
      simpa using same
    · refine .inr (.inl ⟨rfl, rfl, Option.bind_eq_some_iff.mpr ⟨(x, v ++ w'), ?_, lost⟩⟩)
      simpa using same
    · exact .inr (.inr slip)
  · obtain ⟨rfl, rfl⟩ := List.append_eq_nil_iff.mp nothing
    refine .inr (.inl ⟨rfl, rfl, Option.bind_eq_some_iff.mpr ⟨(x, []), ?_, second⟩⟩)
    simpa using lost
  · exact .inr (.inr (safe slip second))

/-- A nearsighted reader without lapses may be followed by another nearsighted one. -/
lemma bind {g : β → List Char → Option (γ × List Char)} (hf : Nearsighted never f)
    (hg : ∀ x, Nearsighted lapse' (g x)) :
    Nearsighted lapse' fun cs => (f cs).bind fun p => g p.1 p.2 :=
  bind_of hf hg fun slip _ => slip.elim

/-- What a nearsighted reader gives may be taken as something else. -/
lemma as (hf : Nearsighted never f) (φ : β → γ) :
    Nearsighted lapse' fun cs => (f cs).bind fun p => some (φ p.1, p.2) := hf.bind fun x => pure (φ x)

/-- What a nearsighted reader gives may be turned into something else. -/
lemma map (hf : Nearsighted never f) (φ : β → γ) :
    Nearsighted lapse' fun cs => (f cs).map fun p => (φ p.1, p.2) :=
  (hf.as φ).congr fun cs => by cases f cs <;> rfl

/-- A reader that looks at the character ahead, which is not a closing parenthesis if it matters. -/
lemma ahead {g : List Char → Option (β × List Char)} (ahead : Char → Bool) (hp : ahead ')' = false)
    (hit : ∀ cs, cs.head?.any ahead = true → f cs = g cs) (hg : Nearsighted lapse g)
    (miss : ∀ cs, cs.head?.any ahead = false → f cs = h cs) (hh : Nearsighted lapse h) :
    Nearsighted lapse f := by
  have same : ∀ {cs}, ∀ {k}, Nearsighted lapse k → (∀ ds, ds.head?.any ahead = cs.head?.any ahead →
      f ds = k ds) → ∀ {x r}, f cs = some (x, r) → ∃ u, cs = u ++ r ∧ ∀ ⦃w w' a⦄, Verge w w' →
        r = a ++ w → f (u ++ (a ++ w')) = some (x, a ++ w') ∨
          (w = [] ∧ a = [] ∧ f (u ++ w') = some (x, [])) ∨ lapse x a := by
    intro cs k hk same x r e
    obtain ⟨u, rfl, near⟩ := hk ((same cs rfl).symm.trans e)
    refine ⟨u, rfl, fun w w' a hw hr => ?_⟩
    subst hr
    have beside : ∀ {b}, (u ++ (b ++ w)).head?.any ahead = (u ++ (a ++ w)).head?.any ahead →
        f (u ++ (b ++ w')) = k (u ++ (b ++ w')) := by
      intro b e
      apply same
      rw [← e, ← List.append_assoc, ← List.append_assoc, hw.any_head hp]
    rw [beside rfl]
    refine (near hw rfl).imp_right (Or.imp_left ?_)
    rintro ⟨rfl, rfl, lost⟩
    exact ⟨rfl, rfl, (beside (b := []) rfl).trans lost⟩
  intro cs x r e
  cases look : cs.head?.any ahead with
  | true => exact same hg (fun ds e => hit ds (e.trans look)) e
  | false => exact same hh (fun ds e => miss ds (e.trans look)) e

/-- A reader that needs a character. -/
lemma cons {k : Char → List Char → Option (β × List Char)} (hk : ∀ c, Nearsighted lapse (k c))
    (nil : f [] = Option.none) (cons : ∀ c cs, f (c :: cs) = k c cs) : Nearsighted lapse f := by
  intro cs x r e
  cases cs with
  | nil => cases nil.symm.trans e
  | cons c cs =>
    rw [cons] at e
    obtain ⟨u, rfl, near⟩ := hk c e
    refine ⟨c :: u, rfl, fun w w' a hw hr => ?_⟩
    rw [List.cons_append, cons, List.cons_append, cons]
    exact near hw hr

/-- A nearsighted reader may be chosen by a condition that does not depend on the text. -/
lemma ite {p : Prop} [Decidable p] (hf : p → Nearsighted lapse f) (hh : ¬ p → Nearsighted lapse h) :
    Nearsighted lapse fun cs => if p then f cs else h cs := by
  by_cases hp : p
  · exact (hf hp).congr fun cs => if_pos hp
  · exact (hh hp).congr fun cs => if_neg hp

/-- A reader that reads the character ahead, if it is of a kind. -/
lemma peekIf (ahead : Char → Bool) (hp : ahead ')' = false)
    {k : Char → List Char → Option (β × List Char)}
    (hit : ∀ c cs, ahead c = true → f (c :: cs) = k c cs)
    (hk : ∀ c, ahead c = true → Nearsighted lapse (k c))
    (miss : ∀ cs, cs.head?.any ahead = false → f cs = h cs) (hh : Nearsighted lapse h) :
    Nearsighted lapse f := by
  have reads : Nearsighted lapse fun cs => cs.head?.bind fun c =>
      if ahead c = true then k c cs.tail else Option.none :=
    cons (fun c => ite (hk c) fun _ => none) rfl fun _ _ => rfl
  refine Nearsighted.ahead ahead hp (fun cs look => ?_) reads miss hh
  cases cs with
  | nil => cases look
  | cons c cs => exact (hit c cs look).trans (if_pos look).symm

/-- A reader that reads a character if it is there. -/
lemma peek (c : Char) (hc : c ≠ ')') {k : List Char → Option (β × List Char)}
    (hit : ∀ cs, f (c :: cs) = k cs) (hk : Nearsighted lapse k)
    (miss : ∀ cs, (∀ ds, cs ≠ c :: ds) → f cs = h cs) (hh : Nearsighted lapse h) :
    Nearsighted lapse f := by
  refine peekIf (· == c) (by simpa using hc.symm) (k := fun _ => k) (fun d cs look => ?_)
    (fun _ _ => hk) (fun cs look => miss cs ?_) hh
  · obtain rfl : d = c := by simpa using look
    exact hit cs
  · rintro ds rfl
    simp at look

/-- A reader that goes one way or another by whether a character is there. -/
lemma peekElse (c : Char) (hc : c ≠ ')') {k : List Char → Option (β × List Char)}
    (hk : Nearsighted lapse k) (hh : Nearsighted lapse h) :
    Nearsighted lapse fun cs => if cs.head? = some c then k cs.tail else h cs := by
  refine peek c hc (fun cs => if_pos rfl) hk (fun cs other => if_neg fun head => ?_) hh
  obtain ⟨ds, same⟩ := List.head?_eq_some_iff.mp head
  exact other ds same

/-- A reader that does not look behind what it reads. -/
lemma of_local (hf : ∀ ⦃cs x r⦄, f cs = some (x, r) → ∃ u, cs = u ++ r ∧ ∀ r', f (u ++ r') = some (x, r')) :
    Nearsighted lapse f := by
  intro cs x r e
  obtain ⟨u, split, near⟩ := hf e
  exact ⟨u, split, fun _ _ _ _ _ => .inl (near _)⟩

end Nearsighted

/-! ## Reading outright -/

/-- A reader that neither looks behind what it reads nor reads a closing parenthesis. -/
def Outright {β : Type} (read : List Char → Option (β × List Char)) : Prop :=
  ∀ ⦃cs x r⦄, read cs = some (x, r) → ∃ u, cs = u ++ r ∧ ')' ∉ u ∧ ∀ r', read (u ++ r') = some (x, r')

/-- What has no closing parenthesis in it ends before a verge. -/
lemma Verge.front {w w' u v r : List Char} (hw : Verge w w') (e : u ++ w' = v ++ r) (hv : ')' ∉ v) :
    ∃ u', u = v ++ u' := by
  obtain ⟨v', rfl, e⟩ | ⟨u', rfl, -⟩ := List.append_eq_append_iff.mp e
  · obtain _ | ⟨c, v'⟩ := v'
    · exact ⟨[], by simp⟩
    · cases hw <;> simp_all
  · exact ⟨u', rfl⟩

/-- A reader that tries another one first, which reads outright. -/
lemma Nearsighted.orElse {β γ : Type} {lapse : β → List Char → Prop} {f h : List Char → Option (β × List Char)}
    {first : List Char → Option (γ × List Char)} (hfirst : Outright first)
    {k : γ → List Char → Option (β × List Char)} (hit : ∀ {cs x r}, first cs = some (x, r) → f cs = k x r)
    (hk : ∀ x, Nearsighted lapse (k x)) (miss : ∀ {cs}, first cs = Option.none → f cs = h cs)
    (hh : Nearsighted lapse h) : Nearsighted lapse f := by
  intro cs y r e
  cases tried : first cs with
  | some p =>
    obtain ⟨x, s⟩ := p
    obtain ⟨v, rfl, -, same⟩ := hfirst tried
    obtain ⟨u, rfl, near⟩ := hk x ((hit tried).symm.trans e)
    refine ⟨v ++ u, by simp, fun w w' a hw hr => ?_⟩
    rw [List.append_assoc, hit (same _), List.append_assoc, hit (same _)]
    exact near hw hr
  | none =>
    obtain ⟨u, rfl, near⟩ := hh ((miss tried).symm.trans e)
    refine ⟨u, rfl, fun w w' a hw hr => ?_⟩
    subst hr
    have still : ∀ {b}, b ++ w = u ++ (a ++ w) → f (b ++ w') = h (b ++ w') := by
      intro b whole
      refine miss (Option.eq_none_iff_forall_ne_some.mpr fun p found => ?_)
      obtain ⟨v, split, noParen, same⟩ := hfirst found
      obtain ⟨b', rfl⟩ := hw.front split noParen
      rw [← whole, List.append_assoc, same] at tried
      cases tried
    rw [← List.append_assoc, still (by simp), List.append_assoc]
    refine (near hw rfl).imp_right (Or.imp_left ?_)
    rintro ⟨rfl, rfl, lost⟩
    exact ⟨rfl, rfl, (still (by simp)).trans lost⟩

/-- A reader that reads a mark if it is there. -/
lemma Nearsighted.mark {β : Type} {lapse : β → List Char → Prop} {f h k : List Char → Option (β × List Char)}
    (mark : List Char) (hm : ')' ∉ mark) (hit : ∀ cs, f (mark ++ cs) = k cs) (hk : Nearsighted lapse k)
    (miss : ∀ cs, (∀ ds, cs ≠ mark ++ ds) → f cs = h cs) (hh : Nearsighted lapse h) :
    Nearsighted lapse f := by
  have outright : Outright fun cs : List Char =>
      if mark <+: cs then some ((), cs.drop mark.length) else Option.none := by
    intro cs x r e
    dsimp only at e
    split at e
    · next front =>
      obtain ⟨r, rfl⟩ := front
      cases e
      exact ⟨mark, by simp, hm, fun r' => by simp⟩
    · cases e
  refine .orElse outright (k := fun _ => k) (fun e => ?_) (fun _ => hk) (fun e => ?_) hh
  · split at e
    · next front =>
      obtain ⟨r, rfl⟩ := front
      cases e
      simp [hit]
    · cases e
  · split at e
    · cases e
    · next other => exact miss _ fun ds e => other ⟨ds, e.symm⟩

/-! ## Blanks -/

/-- A closing parenthesis is no blank. -/
lemma blank_paren : Text.blank.contains ')' = false := by decide

/-- At the other side of a verge there is no space to be passed over. -/
lemma dropSpace_verge {w w' : List Char} (hw : Verge w w') : dropSpace false w' = w' := by
  cases hw with
  | cut => rfl
  | close => simp [dropSpace, blank_paren]
  | extend => simp [dropSpace, blank_paren]

/-- What skips blanks or an open comment. -/
lemma nearsighted_dropSpace (comment : Bool) :
    Nearsighted never fun cs => some ((), dropSpace comment cs) := by
  suffices skips : ∀ cs, ∃ u, cs = u ++ dropSpace comment cs ∧ ∀ ⦃w w' a⦄, Verge w w' →
      dropSpace comment cs = a ++ w → dropSpace comment (u ++ (a ++ w')) = a ++ w' ∨
        (w = [] ∧ a = [] ∧ dropSpace comment (u ++ w') = []) by
    rintro cs _ _ ⟨⟩
    obtain ⟨u, split, near⟩ := skips cs
    refine ⟨u, split, fun w w' a hw hr => (near hw hr).imp (fun e => ?_) fun h => .inl ?_⟩
    · show some ((), dropSpace comment (u ++ (a ++ w'))) = _
      rw [e]
    · refine ⟨h.1, h.2.1, ?_⟩
      show some ((), dropSpace comment (u ++ w')) = _
      rw [h.2.2]
  intro cs
  induction cs generalizing comment with
  | nil =>
    refine ⟨[], rfl, fun w w' a hw hr => ?_⟩
    obtain ⟨rfl, rfl⟩ := List.append_eq_nil_iff.mp hr.symm
    cases comment with
    | true =>
      cases hw
      exact .inr ⟨rfl, rfl, rfl⟩
    | false => exact .inl (dropSpace_verge hw)
  | cons c cs ih =>
    have skip : ∀ comment', (∀ cs, dropSpace comment (c :: cs) = dropSpace comment' cs) →
        ∃ u, c :: cs = u ++ dropSpace comment (c :: cs) ∧ ∀ ⦃w w' a⦄, Verge w w' →
          dropSpace comment (c :: cs) = a ++ w → dropSpace comment (u ++ (a ++ w')) = a ++ w' ∨
            (w = [] ∧ a = [] ∧ dropSpace comment (u ++ w') = []) := by
      intro comment' same
      obtain ⟨u, split, near⟩ := ih comment'
      refine ⟨c :: u, by rw [same, List.cons_append, ← split], fun w w' a hw hr => ?_⟩
      rw [List.cons_append, same, List.cons_append, same]
      exact near hw ((same cs).symm.trans hr)
    cases comment with
    | true => exact skip _ fun _ => rfl
    | false =>
      by_cases blank : Text.blank.contains c = true
      · exact skip false fun cs => by simp [dropSpace, blank]
      by_cases sign : c = '#'
      · exact skip true fun cs => by simp [dropSpace, blank, if_pos sign]
      have stays : ∀ cs, dropSpace false (c :: cs) = c :: cs := fun cs => by
        simp [dropSpace, blank, sign]
      rw [stays]
      refine ⟨[], rfl, fun w w' a hw hr => .inl ?_⟩
      cases a with
      | nil => exact dropSpace_verge hw
      | cons d a =>
        obtain ⟨rfl, -⟩ := List.cons.inj hr
        exact stays _

/-- Passing over the space of a pattern does not look behind it. -/
lemma nearsighted_next (sw : Switches) : Nearsighted never fun cs => some ((), sw.next cs) := by
  by_cases spaced : sw.spaced = true
  · exact (nearsighted_dropSpace false).congr fun cs => by simp only [Switches.next, if_pos spaced]
  · exact (Nearsighted.pure ()).congr fun cs => by simp only [Switches.next, if_neg spaced]

/-- Space is passed over up to the same spot on either side of a verge, or to the end of the text. -/
lemma Switches.next_verge (sw : Switches) (cs : List Char) : ∃ u, cs = u ++ sw.next cs ∧
    ∀ ⦃w w' a⦄, Verge w w' → sw.next cs = a ++ w →
      sw.next (u ++ (a ++ w')) = a ++ w' ∨ (w = [] ∧ a = [] ∧ sw.next (u ++ w') = []) := by
  have skipped : (fun cs => some ((), sw.next cs)) cs = some ((), sw.next cs) := rfl
  obtain ⟨u, split, near⟩ := nearsighted_next sw skipped
  refine ⟨u, split, fun w w' a hw hr => ?_⟩
  simpa [never] using near hw hr

/-- Dropping blanks does not look behind them. -/
lemma nearsighted_dropBlanks : Nearsighted never fun cs => some ((), dropBlanks cs) := by
  rintro cs _ _ ⟨⟩
  refine ⟨cs.takeWhile Text.blank.contains, List.takeWhile_append_dropWhile.symm,
    fun w w' a hw hr => .inl ?_⟩
  have blank : ∀ c ∈ cs.takeWhile Text.blank.contains, Text.blank.contains c = true :=
    fun c hc => List.mem_takeWhile_imp hc
  show some ((), (cs.takeWhile Text.blank.contains ++ (a ++ w')).dropWhile Text.blank.contains) = _
  rw [List.dropWhile_append_of_pos blank]
  cases a with
  | nil => cases hw <;> simp [blank_paren]
  | cons c a =>
    have stays : ¬ Text.blank.contains c = true := by
      have head := List.head?_dropWhile_not Text.blank.contains cs
      rw [show cs.dropWhile Text.blank.contains = c :: a ++ w from hr] at head
      simpa using head
    rw [List.cons_append, List.dropWhile_cons_of_neg stays]

variable {β : Type} {lapse : β → List Char → Prop} {f : List Char → Option (β × List Char)}

/-- A nearsighted reader may have space in front. -/
lemma Nearsighted.next (hf : Nearsighted lapse f) (sw : Switches) :
    Nearsighted lapse fun cs => f (sw.next cs) :=
  (nearsighted_next sw).bind fun _ => hf

/-- A nearsighted reader may have blanks in front. -/
lemma Nearsighted.dropBlanks (hf : Nearsighted lapse f) :
    Nearsighted lapse fun cs => f (dropBlanks cs) :=
  nearsighted_dropBlanks.bind fun _ => hf

end SceneGrammar.Pattern
