/-
  File:      OpenBras/Lib/Custody.lean
  Subject:   WHO HOLDS A HANDLE: handles are made one after the other, each is held by one owner
             or was released once.

  A `Custody` is a table of owners, the number of handles made, and the record of releases. A
  new handle is released at once (`pass`) or given to an owner that holds none (`give`); an
  owner that goes, or gets another handle, releases what it holds (`drop`). These keep the
  books (`Accounted`): no handle is lost, shared or released twice.
-/
import Mathlib.Data.List.Count
import Mathlib.Logic.Function.Basic
import Mathlib.Order.Basic

namespace OpenBras

structure Custody (κ : Type) where
  held : κ → Option Nat
  next : Nat
  released : List Nat

namespace Custody

variable {κ : Type}

/-- Somebody holds the handle. -/
def Held (h : Nat) (c : Custody κ) : Prop := ∃ k, c.held k = some h

/-- Every handle made is held and not released, or was released once and is not held; no two
    owners hold the same. -/
structure Accounted (c : Custody κ) : Prop where
  once : ∀ h, h < c.next →
    (c.Held h ∧ c.released.count h = 0) ∨ (¬ c.Held h ∧ c.released.count h = 1)
  made : ∀ h, c.next ≤ h → ¬ c.Held h ∧ c.released.count h = 0
  single : ∀ k k' h, c.held k = some h → c.held k' = some h → k = k'

variable {c : Custody κ}

theorem Accounted.unreleased (a : Accounted c) {k : κ} {h : Nat} (hk : c.held k = some h) :
    h ∉ c.released := by
  obtain hlt | hge := Nat.lt_or_ge h c.next
  · obtain ⟨-, h0⟩ | ⟨hn, -⟩ := a.once h hlt
    · exact List.count_eq_zero.mp h0
    · exact absurd ⟨k, hk⟩ hn
  · exact absurd ⟨k, hk⟩ (a.made h hge).1

theorem Accounted.lt_next (a : Accounted c) {k : κ} {h : Nat} (hk : c.held k = some h) :
    h < c.next :=
  Nat.lt_of_not_le fun hge => (a.made h hge).1 ⟨k, hk⟩

/-- A new handle, released at once. -/
def pass (c : Custody κ) : Custody κ :=
  { c with next := c.next + 1, released := c.next :: c.released }

theorem Accounted.pass (a : Accounted c) : Accounted c.pass where
  once := by
    intro h hlt
    obtain hlt | rfl := Nat.lt_succ_iff_lt_or_eq.mp hlt
    · have hcount : (c.next :: c.released).count h = c.released.count h :=
        List.count_cons_of_ne (by omega)
      exact (a.once h hlt).imp (fun ⟨hh, h0⟩ => ⟨hh, hcount.trans h0⟩)
        (fun ⟨hh, h1⟩ => ⟨hh, hcount.trans h1⟩)
    · obtain ⟨hn, h0⟩ := a.made c.next (Nat.le_refl _)
      exact .inr ⟨hn, List.count_cons_self.trans (by rw [h0])⟩
  made := by
    intro h hge
    have hge : c.next + 1 ≤ h := hge
    obtain ⟨hn, h0⟩ := a.made h (by omega)
    exact ⟨hn, (List.count_cons_of_ne (by omega)).trans h0⟩
  single := a.single

variable [DecidableEq κ]

/-- A new handle for the owner `k`. -/
def give (k : κ) (c : Custody κ) : Custody κ :=
  { c with held := Function.update c.held k (some c.next), next := c.next + 1 }

/-- The owner `k` releases what it holds. -/
def drop (k : κ) (c : Custody κ) : Custody κ :=
  { c with held := Function.update c.held k none, released := (c.held k).toList ++ c.released }

theorem give_held {k k' : κ} {h : Nat} :
    (c.give k).held k' = some h ↔ k' = k ∧ h = c.next ∨ k' ≠ k ∧ c.held k' = some h := by
  by_cases hk : k' = k
  · subst hk
    simp [give, eq_comm]
  · simp [give, hk]

theorem drop_held {k k' : κ} {h : Nat} :
    (c.drop k).held k' = some h ↔ k' ≠ k ∧ c.held k' = some h := by
  by_cases hk : k' = k
  · subst hk
    simp [drop]
  · simp [drop, hk]

theorem Accounted.give (a : Accounted c) {k : κ} (hk : c.held k = none) :
    Accounted (c.give k) where
  once := by
    intro h hlt
    obtain hlt | rfl := Nat.lt_succ_iff_lt_or_eq.mp hlt
    · have hiff : (c.give k).Held h ↔ c.Held h := by
        refine exists_congr fun k' => give_held.trans ⟨?_, fun hh => .inr ⟨?_, hh⟩⟩
        · rintro (⟨-, rfl⟩ | ⟨-, hh⟩)
          · exact absurd hlt (Nat.lt_irrefl _)
          · exact hh
        · rintro rfl
          rw [hk] at hh
          cases hh
      rw [hiff]
      exact a.once h hlt
    · exact .inl ⟨⟨k, give_held.mpr (.inl ⟨rfl, rfl⟩)⟩, (a.made _ (Nat.le_refl _)).2⟩
  made := by
    intro h hge
    have hge : c.next + 1 ≤ h := hge
    refine ⟨?_, (a.made h (by omega)).2⟩
    rintro ⟨k', hk'⟩
    obtain ⟨-, rfl⟩ | ⟨-, hh⟩ := give_held.mp hk'
    · omega
    · exact (a.made h (by omega)).1 ⟨k', hh⟩
  single := by
    intro k₁ k₂ h h₁ h₂
    rw [give_held] at h₁ h₂
    obtain ⟨rfl, rfl⟩ | ⟨-, h₁⟩ := h₁
    · obtain ⟨rfl, -⟩ | ⟨-, h₂⟩ := h₂
      · rfl
      · exact absurd (a.lt_next h₂) (Nat.lt_irrefl _)
    · obtain ⟨rfl, rfl⟩ | ⟨-, h₂⟩ := h₂
      · exact absurd (a.lt_next h₁) (Nat.lt_irrefl _)
      · exact a.single k₁ k₂ h h₁ h₂

theorem Accounted.drop (a : Accounted c) (k : κ) : Accounted (c.drop k) := by
  -- nobody but `k` holds what `k` holds
  have hcount : ∀ h, (c.drop k).released.count h =
      c.released.count h + if c.held k = some h then 1 else 0 := by
    intro h
    show ((c.held k).toList ++ c.released).count h = _
    cases hk : c.held k with
    | none => simp
    | some d => simp [List.count_cons, Option.some.injEq]
  have hheld : ∀ h, (c.drop k).Held h ↔ c.Held h ∧ c.held k ≠ some h := by
    intro h
    constructor
    · rintro ⟨k', hk'⟩
      obtain ⟨hne, hk'⟩ := drop_held.mp hk'
      exact ⟨⟨k', hk'⟩, fun hk => hne (a.single k' k h hk' hk)⟩
    · rintro ⟨⟨k', hk'⟩, hne⟩
      exact ⟨k', drop_held.mpr ⟨fun hk => hne (hk ▸ hk'), hk'⟩⟩
  refine ⟨?_, ?_, ?_⟩
  · intro h hlt
    rw [hcount, hheld]
    by_cases hk : c.held k = some h
    · have h0 := List.count_eq_zero.mpr (a.unreleased hk)
      rw [if_pos hk, h0]
      exact .inr ⟨fun hh => hh.2 hk, rfl⟩
    · rw [if_neg hk]
      exact (a.once h hlt).imp (fun ⟨hh, h0⟩ => ⟨⟨hh, hk⟩, h0⟩)
        (fun ⟨hh, h1⟩ => ⟨fun hd => hh hd.1, h1⟩)
  · intro h hge
    obtain ⟨hn, h0⟩ := a.made h hge
    rw [hcount, hheld, if_neg fun hk => hn ⟨k, hk⟩]
    exact ⟨fun hd => hn hd.1, h0⟩
  · intro k₁ k₂ h h₁ h₂
    exact a.single k₁ k₂ h (drop_held.mp h₁).2 (drop_held.mp h₂).2

end Custody

end OpenBras
