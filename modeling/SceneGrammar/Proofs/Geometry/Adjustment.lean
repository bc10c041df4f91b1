import Mathlib.Data.List.DropRight
import Mathlib.Tactic.Lemma
import SceneGrammar.Geometry.Offset

/-!
# Changes of an offset

Channels do not mix: what a channel holds after changes depends on the changes of that channel alone
(`Offset.get_adjustAll`), and there on the last absolute one and on the relative ones that follow it
(`Offset.get_adjustAll_eq`). So changes of different channels may change places
(`Offset.adjustAll_congr`).
-/

namespace SceneGrammar

/-- A change of one channel of an offset. -/
structure Adjustment (α : Type) where
  channel : Channel
  vector : Vec3 α
  absolute : Bool

namespace Adjustment
variable {α : Type}

/-- The last absolute vector of some changes, or else what was held before them. -/
def anchor (held : Vec3 α) (changes : List (Adjustment α)) : Vec3 α :=
  (changes.reverse.find? (·.absolute)).elim held (·.vector)

/-- The vectors of the relative changes after the last absolute one. -/
def later (changes : List (Adjustment α)) : List (Vec3 α) :=
  (changes.rtakeWhile (!·.absolute)).map (·.vector)

/-- An absolute change makes what came before it forgotten. -/
lemma anchor_concat (held : Vec3 α) (changes : List (Adjustment α)) (c : Adjustment α) :
    anchor held (changes ++ [c]) = if c.absolute then c.vector else anchor held changes := by
  unfold anchor
  rw [List.reverse_concat]
  cases e : c.absolute with
  | true =>
    rw [List.find?_cons_of_pos e]
    rfl
  | false =>
    rw [List.find?_cons_of_neg (by simp [e])]
    rfl

/-- A relative change comes after those that were there. -/
lemma later_concat (changes : List (Adjustment α)) (c : Adjustment α) :
    later (changes ++ [c]) = if c.absolute then [] else later changes ++ [c.vector] := by
  unfold later
  cases e : c.absolute with
  | true =>
    rw [List.rtakeWhile_concat_neg _ _ _ (by simp [e])]
    rfl
  | false =>
    rw [List.rtakeWhile_concat_pos _ _ _ (by simp [e]), List.map_append]
    rfl

end Adjustment

namespace Offset
variable {α : Type}

/-- Two offsets are equal if all their channels are. -/
lemma ext_get {o o' : Offset α} (h : ∀ channel, o.get channel = o'.get channel) : o = o' :=
  Offset.ext (h .location) (h .rotation) (h .scale)

variable [Scalar α]

/-- An offset after changes, one after the other. -/
def adjustAll (o : Offset α) (changes : List (Adjustment α)) : Offset α :=
  changes.foldl (fun o c => o.adjust c.channel c.vector c.absolute) o

/-- A vector of a channel after a change of the channel. -/
def combine (channel : Channel) (held : Vec3 α) (c : Adjustment α) : Vec3 α :=
  if c.absolute then c.vector else accumulate channel held c.vector

/-- A change leaves the other channels alone. -/
lemma get_adjust (o : Offset α) (c : Adjustment α) (channel : Channel) :
    (o.adjust c.channel c.vector c.absolute).get channel =
      if c.channel = channel then combine channel (o.get channel) c else o.get channel := by
  rw [adjust, get_set]
  split
  · next e =>
    subst e
    rfl
  · rfl

/-- A channel sees its own changes only. -/
lemma get_adjustAll (o : Offset α) (changes : List (Adjustment α)) (channel : Channel) :
    (o.adjustAll changes).get channel =
      (changes.filter (·.channel = channel)).foldl (combine channel) (o.get channel) := by
  induction changes generalizing o with
  | nil => rfl
  | cons c changes ih =>
    have step : (o.adjustAll (c :: changes)).get channel =
        (changes.filter (·.channel = channel)).foldl (combine channel)
          ((o.adjust c.channel c.vector c.absolute).get channel) := ih _
    rw [step, get_adjust]
    by_cases e : c.channel = channel
    · rw [if_pos e, List.filter_cons_of_pos (by simpa using e), List.foldl_cons]
    · rw [if_neg e, List.filter_cons_of_neg (by simpa using e)]

/-- Changes of a channel start from the last absolute vector and combine it with the relative ones that
follow. -/
lemma foldl_combine (channel : Channel) (held : Vec3 α) (changes : List (Adjustment α)) :
    changes.foldl (combine channel) held =
      (Adjustment.later changes).foldl (accumulate channel) (Adjustment.anchor held changes) := by
  induction changes using List.reverseRecOn with
  | nil => rfl
  | append_singleton changes c ih =>
    rw [List.foldl_concat, ih, Adjustment.anchor_concat, Adjustment.later_concat]
    unfold combine
    split
    · rfl
    · rw [List.foldl_concat]

/-- What a channel holds after changes, in terms of its own changes. -/
lemma get_adjustAll_eq (o : Offset α) (changes : List (Adjustment α)) (channel : Channel) :
    let own := changes.filter (·.channel = channel)
    (o.adjustAll changes).get channel =
      (Adjustment.later own).foldl (accumulate channel) (Adjustment.anchor (o.get channel) own) := by
  intro own
  rw [get_adjustAll, foldl_combine]

/-- Changes that are the same channel by channel come to the same offset. -/
lemma adjustAll_congr {changes changes' : List (Adjustment α)} (o : Offset α)
    (h : ∀ channel, changes.filter (·.channel = channel) = changes'.filter (·.channel = channel)) :
    o.adjustAll changes = o.adjustAll changes' := by
  apply ext_get
  intro channel
  rw [get_adjustAll, get_adjustAll, h channel]

end Offset

end SceneGrammar
