/-
  File:      OpenBras/Lib/Loop.lean
  Subject:   LOOPS THAT MAY NOT END: a body that goes on or returns, run with fuel.

  `loop body n s` runs at most `n` turns. `Returns body s r` says that some number of turns is
  enough; one turn can be peeled off it (`returns_of_inl`), and a set of states the body never
  leaves returns nothing (`not_returns_of_cycle`).
-/
import Mathlib.Logic.Basic

namespace OpenBras

variable {σ ρ : Type}

/-- At most `n` turns of a body that goes on (`inl`) or returns (`inr`). -/
def loop (body : σ → σ ⊕ ρ) : Nat → σ → Option ρ
  | 0, _ => none
  | n + 1, s =>
    match body s with
    | .inl t => loop body n t
    | .inr r => some r

/-- The loop returns `r`. -/
def Returns (body : σ → σ ⊕ ρ) (s : σ) (r : ρ) : Prop := ∃ n, loop body n s = some r

variable {body : σ → σ ⊕ ρ}

theorem returns_of_inr {s : σ} {r r' : ρ} (h : body s = .inr r) : Returns body s r' ↔ r' = r := by
  constructor
  · rintro ⟨n, hn⟩
    cases n with
    | zero => cases hn
    | succ n =>
      simp only [loop, h, Option.some.injEq] at hn
      exact hn.symm
  · rintro rfl
    exact ⟨1, by simp only [loop, h]⟩

/-- **One turn.** -/
theorem returns_of_inl {s t : σ} {r : ρ} (h : body s = .inl t) :
    Returns body s r ↔ Returns body t r := by
  constructor
  · rintro ⟨n, hn⟩
    cases n with
    | zero => cases hn
    | succ n =>
      simp only [loop, h] at hn
      exact ⟨n, hn⟩
  · rintro ⟨n, hn⟩
    exact ⟨n + 1, by simp only [loop, h, hn]⟩

/-- **What every turn keeps and every return has, the result has.** -/
theorem returns_keeps {P : σ → Prop} {Q : ρ → Prop} (hgo : ∀ s t, P s → body s = .inl t → P t)
    (hret : ∀ s r, P s → body s = .inr r → Q r) {s : σ} {r : ρ} (h : Returns body s r) (hs : P s) :
    Q r := by
  obtain ⟨n, hn⟩ := h
  induction n generalizing s with
  | zero => cases hn
  | succ n ih =>
    unfold loop at hn
    cases hb : body s with
    | inl t =>
      rw [hb] at hn
      exact ih (hgo s t hs hb) hn
    | inr q =>
      rw [hb] at hn
      cases hn
      exact hret s _ hs hb

/-- **A set of states the body does not leave returns nothing.** -/
theorem not_returns_of_cycle {C : σ → Prop} (hC : ∀ s, C s → ∃ t, body s = .inl t ∧ C t) {s : σ}
    {r : ρ} (hs : C s) : ¬ Returns body s r := by
  intro h
  refine returns_keeps (P := C) (Q := fun _ => False) (fun u t hu hb => ?_) (fun u q hu hb => ?_)
    h hs
  · obtain ⟨t', ht', hc⟩ := hC u hu
    rw [hb] at ht'
    cases ht'
    exact hc
  · obtain ⟨t', ht', -⟩ := hC u hu
    rw [hb] at ht'
    cases ht'

end OpenBras
