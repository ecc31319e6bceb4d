/-
  File:      OpenBras/Lib/Ledger.lean
  Subject:   A LEDGER OF LOANS: owners take items and give them back.

  * `holding`   -- what an owner has taken and not given back;
  * `history`   -- when an item was taken (`true`) and given back (`false`), newest first;
  * `Returned`  -- only what its owner holds is given back;
  * `Proper`    -- moreover nobody takes a second item, or one that somebody holds;
  * `Proper.alternates`, `Proper.returned` -- the items of a proper ledger are taken and given
    back by turns, each by the owner that took it;
  * `Proper.free_of_alternates` -- where an item is taken by turns, nobody held it.
-/
import OpenBras.Lib.Alternation

namespace OpenBras

structure Entry (κ μ : Type) where
  owner : κ
  takes : Bool
  item : μ
deriving DecidableEq, Repr

variable {κ μ : Type}

/-! ## Owners -/

section Owners

variable [DecidableEq κ]

/-- What the owner holds after the entries `l` (newest first). -/
def holding : List (Entry κ μ) → κ → Option μ
  | [], _ => none
  | e :: l, k => if e.owner = k then (if e.takes then some e.item else none) else holding l k

/-- An item is given back by the owner that holds it. -/
def Returned : List (Entry κ μ) → Prop
  | [] => True
  | e :: l => (e.takes = false → holding l e.owner = some e.item) ∧ Returned l

/-- Nobody takes a second item or one that is held; what is given back is held. -/
def Proper : List (Entry κ μ) → Prop
  | [] => True
  | e :: l =>
    (e.takes = true → holding l e.owner = none ∧ ∀ k, holding l k ≠ some e.item) ∧
      (e.takes = false → holding l e.owner = some e.item) ∧ Proper l

theorem holding_cons_self (l : List (Entry κ μ)) (k : κ) (takes : Bool) (m : μ) :
    holding (⟨k, takes, m⟩ :: l) k = if takes then some m else none := if_pos rfl

theorem holding_cons_of_ne (l : List (Entry κ μ)) {e : Entry κ μ} {k : κ} (h : e.owner ≠ k) :
    holding (e :: l) k = holding l k := if_neg h

namespace Proper

variable {l : List (Entry κ μ)}

theorem returned (h : Proper l) : Returned l := by
  induction l with
  | nil => trivial
  | cons e l ih => exact ⟨h.2.1, ih h.2.2⟩

theorem unique (h : Proper l) {k k' : κ} {m : μ} (hk : holding l k = some m)
    (hk' : holding l k' = some m) : k = k' := by
  induction l with
  | nil => cases hk
  | cons e l ih =>
    obtain ⟨o, takes, i⟩ := e
    obtain ⟨htakes, -, hl⟩ := h
    by_cases ho : o = k
    · by_cases ho' : o = k'
      · exact ho.symm.trans ho'
      -- the newest entry gives `m` to `k`, and `k'` has had it before
      subst ho
      rw [holding_cons_of_ne l ho'] at hk'
      rw [holding_cons_self] at hk
      cases takes with
      | false => cases hk
      | true =>
        cases hk
        exact absurd hk' ((htakes rfl).2 k')
    · rw [holding_cons_of_ne l ho] at hk
      by_cases ho' : o = k'
      · subst ho'
        rw [holding_cons_self] at hk'
        cases takes with
        | false => cases hk'
        | true =>
          cases hk'
          exact absurd hk ((htakes rfl).2 k)
      · rw [holding_cons_of_ne l ho'] at hk'
        exact ih hl hk hk'

end Proper

end Owners

/-! ## Items -/

section Items

variable [DecidableEq μ]

/-- What became of the item. -/
def history (l : List (Entry κ μ)) (m : μ) : List Bool :=
  l.filterMap fun e => if e.item = m then some e.takes else none

theorem history_cons_self (l : List (Entry κ μ)) (e : Entry κ μ) :
    history (e :: l) e.item = e.takes :: history l e.item := by
  simp only [history, List.filterMap_cons, if_true]

theorem history_cons_of_ne (l : List (Entry κ μ)) {e : Entry κ μ} {m : μ} (h : e.item ≠ m) :
    history (e :: l) m = history l m := by
  simp only [history, List.filterMap_cons, if_neg h]

end Items

namespace Proper

variable [DecidableEq κ] [DecidableEq μ] {l : List (Entry κ μ)}

/-- The last thing that happened to an item is that it was taken, exactly if it is held. -/
theorem pending_iff (h : Proper l) (m : μ) :
    Pending (history l m) ↔ ∃ k, holding l k = some m := by
  induction l with
  | nil => exact ⟨fun hp => absurd hp not_pending_nil, fun ⟨_, hk⟩ => by cases hk⟩
  | cons e l ih =>
    obtain ⟨o, takes, i⟩ := e
    obtain ⟨htakes, hgives, hl⟩ := h
    by_cases hm : i = m
    · subst hm
      rw [history_cons_self l ⟨o, takes, i⟩]
      cases takes with
      | true => exact ⟨fun _ => ⟨o, holding_cons_self l o true i⟩, fun _ => pending_true _⟩
      | false =>
        refine ⟨fun hp => absurd hp (not_pending_false _), ?_⟩
        rintro ⟨k, hk⟩
        by_cases ho : o = k
        · subst ho
          rw [holding_cons_self] at hk
          cases hk
        · rw [holding_cons_of_ne l ho] at hk
          exact absurd (hl.unique (hgives rfl) hk) ho
    · rw [history_cons_of_ne l (e := ⟨o, takes, i⟩) hm, ih hl]
      -- the owner of the newest entry holds another item, or none, before and after
      refine exists_congr fun k => ?_
      by_cases ho : o = k
      · subst ho
        rw [holding_cons_self]
        cases takes with
        | true =>
          rw [(htakes rfl).1]
          exact ⟨nofun, fun hi => absurd (Option.some.inj hi) hm⟩
        | false =>
          rw [hgives rfl]
          exact ⟨fun hi => absurd (Option.some.inj hi) hm, nofun⟩
      · rw [holding_cons_of_ne l ho]

/-- **The items of a proper ledger are taken and given back by turns.** -/
theorem alternates (h : Proper l) (m : μ) : Alternates (history l m) := by
  induction l with
  | nil => trivial
  | cons e l ih =>
    obtain ⟨o, takes, i⟩ := e
    obtain ⟨htakes, hgives, hl⟩ := h
    by_cases hm : i = m
    · subst hm
      rw [history_cons_self l ⟨o, takes, i⟩]
      cases takes with
      | true =>
        refine (ih hl).begin fun hp => ?_
        obtain ⟨k, hk⟩ := (hl.pending_iff i).mp hp
        exact (htakes rfl).2 k hk
      | false => exact (ih hl).finish ((hl.pending_iff i).mpr ⟨o, hgives rfl⟩)
    · rw [history_cons_of_ne l (e := ⟨o, takes, i⟩) hm]
      exact ih hl

theorem free_of_alternates (h : Proper l) {o : κ} {m : μ}
    (ha : Alternates (history (⟨o, true, m⟩ :: l) m)) (k : κ) : holding l k ≠ some m := by
  intro hk
  rw [history_cons_self l ⟨o, true, m⟩] at ha
  exact ha.1 ((h.pending_iff m).mpr ⟨k, hk⟩)

end Proper

end OpenBras
