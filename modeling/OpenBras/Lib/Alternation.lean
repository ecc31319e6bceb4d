/-
  File:      OpenBras/Lib/Alternation.lean
  Subject:   PAIRED NOTIFICATIONS: a history of `true` (begin) and `false` (end), newest first,
             in which the two alternate and a begin comes first.

  * `Alternates` -- the property, decidable;
  * `Alternates.count` -- the begins exceed the ends by one exactly while the last begin is
    unmatched.
-/
import Mathlib.Data.List.Basic

namespace OpenBras

/-- Begin and end alternate, starting with a begin; the list is newest first. -/
def Alternates : List Bool → Prop
  | [] => True
  | true :: t => t.head? ≠ some true ∧ Alternates t
  | false :: t => t.head? = some true ∧ Alternates t

instance Alternates.decide : (l : List Bool) → Decidable (Alternates l)
  | [] => inferInstanceAs (Decidable True)
  | true :: t =>
    have := Alternates.decide t
    inferInstanceAs (Decidable (t.head? ≠ some true ∧ Alternates t))
  | false :: t =>
    have := Alternates.decide t
    inferInstanceAs (Decidable (t.head? = some true ∧ Alternates t))

/-- The last begin is not matched by an end yet. -/
def Pending (l : List Bool) : Prop := l.head? = some true

instance (l : List Bool) : Decidable (Pending l) := inferInstanceAs (Decidable (_ = _))

theorem Alternates.begin {l : List Bool} (h : Alternates l) (hp : ¬ Pending l) :
    Alternates (true :: l) := ⟨hp, h⟩

theorem Alternates.finish {l : List Bool} (h : Alternates l) (hp : Pending l) :
    Alternates (false :: l) := ⟨hp, h⟩

@[simp] theorem pending_true (l : List Bool) : Pending (true :: l) := rfl

@[simp] theorem not_pending_false (l : List Bool) : ¬ Pending (false :: l) := by
  simp [Pending]

@[simp] theorem not_pending_nil : ¬ Pending [] := by simp [Pending]

/-- **As many ends as begins, but for one unmatched begin.** -/
theorem Alternates.count {l : List Bool} (h : Alternates l) :
    l.count true = l.count false + if Pending l then 1 else 0 := by
  induction l with
  | nil => rfl
  | cons b t ih =>
    cases b with
    | true =>
      obtain ⟨hp, ht⟩ := h
      have hc := ih ht
      rw [if_neg (show ¬ Pending t from hp)] at hc
      simp [hc]
    | false =>
      obtain ⟨hp, ht⟩ := h
      have hc := ih ht
      rw [if_pos (show Pending t from hp)] at hc
      simp [hc]

end OpenBras
