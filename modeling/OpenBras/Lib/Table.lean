/-
  File:      OpenBras/Lib/Table.lean
  Subject:   TABLES, AS PARTIAL FUNCTIONS AND AS LISTS OF ENTRIES: what is found after one entry
             has changed.
-/
import Mathlib.Data.List.AList
import Mathlib.Logic.Function.Basic

namespace OpenBras

variable {κ α : Type} [DecidableEq κ] {f : κ → Option α} {k i : κ} {x : Option α} {u : α}

theorem update_some (h : Function.update f k x i = some u) :
    i = k ∧ x = some u ∨ i ≠ k ∧ f i = some u := by
  by_cases hi : i = k
  · subst hi
    rw [Function.update_self] at h
    exact .inl ⟨rfl, h⟩
  · rw [Function.update_of_ne hi] at h
    exact .inr ⟨hi, h⟩

variable {s : AList fun _ : κ => α} {v : α}

theorem entries_perm_erase (h : (⟨k, v⟩ : Sigma fun _ : κ => α) ∈ s.entries) :
    s.entries.Perm (⟨k, v⟩ :: (s.erase k).entries) := by
  obtain ⟨w, l₁, l₂, -, hl, hk⟩ := List.exists_of_kerase (List.mem_keys_of_mem h)
  have hw : v = w := s.nodupKeys.eq_of_mk_mem h (by rw [hl]; simp)
  subst hw
  change s.entries.Perm (⟨k, v⟩ :: s.entries.kerase k)
  rw [hk, hl]
  exact List.perm_middle

theorem length_erase (h : k ∈ s) : s.entries.length = (s.erase k).entries.length + 1 := by
  obtain ⟨v, hv⟩ := List.exists_of_mem_keys h
  rw [(entries_perm_erase hv).length_eq, List.length_cons]

end OpenBras
