/-
  File:      OpenBras/Lib/Pool.lean
  Subject:   A POOL OF NUMBERS: those not in use wait in a list, the others are the keys of a
             table, and together they are the numbers of the pool, each once.

  `Pooled` is kept by taking the first free number for a new entry (`take`), by giving the
  number of an entry back when the entry goes (`put`), and by changing an entry (`change`).
-/
import Mathlib.Data.List.Nodup
import Mathlib.Logic.Function.Basic

namespace OpenBras

variable {κ α : Type} [DecidableEq κ] {ids : κ → Prop} [DecidablePred ids] {free : List κ}
  {f : κ → Option α} {i : κ}

/-- Every number of the pool is free or in use, once, and no other is either. -/
def Pooled (ids : κ → Prop) [DecidablePred ids] (free : List κ) (f : κ → Option α) : Prop :=
  ∀ i, free.count i + (if (f i).isSome then 1 else 0) = if ids i then 1 else 0

namespace Pooled

theorem start {l : List κ} (hn : l.Nodup) (hm : ∀ i, i ∈ l ↔ ids i) :
    Pooled ids l (fun _ => (none : Option α)) := by
  intro i
  rw [if_neg (by simp)]
  by_cases hi : ids i
  · rw [if_pos hi, List.count_eq_one_of_mem hn ((hm i).mpr hi)]
  · rw [if_neg hi, List.count_eq_zero.mpr fun h => hi ((hm i).mp h)]

theorem of_some (h : Pooled ids free f) (hi : (f i).isSome) : ids i ∧ i ∉ free := by
  have hc := h i
  rw [if_pos hi] at hc
  split at hc
  · rename_i hids
    exact ⟨hids, List.count_eq_zero.mp (by omega)⟩
  · omega

theorem head (h : Pooled ids (i :: free) f) : ids i ∧ f i = none := by
  have hc := h i
  rw [List.count_cons_self] at hc
  split at hc
  · split at hc <;> omega
  rename_i hnone
  split at hc
  · rename_i hids
    exact ⟨hids, Option.not_isSome_iff_eq_none.mp hnone⟩
  · omega

theorem take (h : Pooled ids (i :: free) f) (u : α) :
    Pooled ids free (Function.update f i (some u)) := by
  intro j
  have hc := h j
  by_cases hj : j = i
  · subst hj
    rw [h.head.2, List.count_cons_self] at hc
    rw [Function.update_self]
    simpa using hc
  · rw [List.count_cons_of_ne (Ne.symm hj)] at hc
    rw [Function.update_of_ne hj]
    exact hc

theorem put (h : Pooled ids free f) (hi : (f i).isSome) :
    Pooled ids (free ++ [i]) (Function.update f i none) := by
  intro j
  have hc := h j
  rw [List.count_append]
  by_cases hj : j = i
  · subst hj
    rw [if_pos hi] at hc
    rw [Function.update_self, List.count_singleton_self]
    simpa using hc
  · rw [Function.update_of_ne hj, List.count_singleton, if_neg (by simpa using Ne.symm hj)]
    exact hc

theorem change (h : Pooled ids free f) (hi : (f i).isSome) (u : α) :
    Pooled ids free (Function.update f i (some u)) := by
  intro j
  by_cases hj : j = i
  · subst hj
    have hc := h j
    rw [if_pos hi] at hc
    rw [Function.update_self]
    exact hc
  · rw [Function.update_of_ne hj]
    exact h j

end Pooled

end OpenBras
