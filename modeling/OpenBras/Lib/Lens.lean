/-
  File:      OpenBras/Lib/Lens.lean
  Subject:   A COMPONENT OF A STATE: reading it, replacing it, updating it.

  A machine that is written once and embedded twice (two automata inside one session) needs
  its own record inside a larger state. `Lens σ α` is that place, with the three laws; `upd`
  rewrites the component in place. Nothing here knows which machine it is. Of many writes to one
  component the last one counts (`foldl_last`).
-/
import Mathlib.Logic.Basic

namespace OpenBras

/-- The place of an `α` inside a `σ`. -/
structure Lens (σ α : Type) where
  get : σ → α
  set : α → σ → σ
  get_set : ∀ a s, get (set a s) = a
  set_set : ∀ a b s, set a (set b s) = set a s
  set_get : ∀ s, set (get s) s = s

namespace Lens

variable {σ α : Type} (L : Lens σ α)

attribute [simp] Lens.get_set Lens.set_set Lens.set_get

/-- Rewrite the component in place. -/
def upd (g : α → α) (s : σ) : σ := L.set (g (L.get s)) s

@[simp] theorem get_upd (g : α → α) (s : σ) : L.get (L.upd g s) = g (L.get s) :=
  L.get_set _ _

theorem upd_upd (f g : α → α) (s : σ) : L.upd f (L.upd g s) = L.upd (f ∘ g) s := by
  simp [upd]

theorem upd_eq_self {g : α → α} {s : σ} (h : g (L.get s) = L.get s) : L.upd g s = s := by
  unfold upd
  rw [h, L.set_get]

end Lens

/-! ## The last write -/

variable {σ α β : Type}

theorem getLast_filterMap_cons (w : α → Option β) (a : α) (as : List α) (b : β) :
    (((a :: as).filterMap w).getLast?).getD b =
      ((as.filterMap w).getLast?).getD ((w a).getD b) := by
  cases hw : w a with
  | none => rw [List.filterMap_cons_none hw, Option.getD_none]
  | some v =>
    rw [List.filterMap_cons_some hw, List.getLast?_cons, Option.getD_some, Option.getD_some]

/-- A component that a step writes or leaves alone holds, after many steps, what the last of the
    writes put there. -/
theorem foldl_last (get : σ → β) {step : σ → α → σ} {w : α → Option β}
    (h : ∀ s a, get (step s a) = (w a).getD (get s)) (as : List α) (s : σ) :
    get (as.foldl step s) = ((as.filterMap w).getLast?).getD (get s) := by
  induction as generalizing s with
  | nil => rfl
  | cons a as ih => rw [List.foldl_cons, ih, h, getLast_filterMap_cons]

end OpenBras
