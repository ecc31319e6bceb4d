/-
  File:      OpenBras/Include/ReferenceControl.lean
  Subject:   SHARED OBJECTS: `CReferenceControl` and `CCmAutoPtr` of
             src/include/CReferenceControl.h, by which sessions, tunnels and users are held.

  THE QUESTION. Pointers are made, copied, assigned and dropped in any order. Is every object
  destroyed when its last pointer lets it go, not before, and not twice?

  It is, if there are fewer than `2 ^ 32` pointers and nobody makes a pointer to an object that
  has been destroyed (`destroyed_once`). `ParaInOut`, which hands out `m_pRawPtr` itself, is not
  here.
-/
import Mathlib.Data.List.Perm.Basic
import Mathlib.Logic.Function.Basic
import OpenBras.Lib.Run

namespace OpenBras

/-- The pointers there are, with the object each holds; the counts of the objects; and for the
    record, the objects ever held and the calls of `OnReferenceDestory`. -/
structure Shared (ω : Type) where
  ptrs : List (Option ω) := []
  atomic : ω → UInt32 := fun _ => 0
  held : List ω := []
  destroyed : List ω := []

namespace Shared

variable {ω : Type} [DecidableEq ω]

def addReference (o : ω) (s : Shared ω) : Shared ω :=
  { s with atomic := Function.update s.atomic o (s.atomic o + 1), held := o :: s.held }

def releaseReference (o : ω) (s : Shared ω) : Shared ω :=
  let ref := s.atomic o - 1
  let s := { s with atomic := Function.update s.atomic o ref }
  if ref = 0 then { s with destroyed := o :: s.destroyed } else s

/-- `if (p) p->AddReference()`. -/
def add (p : Option ω) (s : Shared ω) : Shared ω := p.elim s (addReference · s)

def release (p : Option ω) (s : Shared ω) : Shared ω := p.elim s (releaseReference · s)

/-- What is done to pointers; `i` and `j` are pointers there are. -/
inductive Event (ω : Type) where
  | construct (p : Option ω)
  | copy (i : Nat)
  | destruct (i : Nat)
  | assign (i : Nat) (p : Option ω)
  | assignPtr (i j : Nat)
  | paraOut (i : Nat)

def raw (s : Shared ω) (i : Nat) : Option ω := s.ptrs.getD i none

def construct (p : Option ω) (s : Shared ω) : Shared ω := { s.add p with ptrs := p :: s.ptrs }

def assign (i : Nat) (p : Option ω) (s : Shared ω) : Shared ω :=
  if s.raw i = p then s
  else { (s.add p).release (s.raw i) with ptrs := s.ptrs.set i p }

def step (s : Shared ω) : Event ω → Shared ω
  | .construct p => s.construct p
  | .copy i => s.construct (s.raw i)
  | .destruct i => { s.release (s.raw i) with ptrs := s.ptrs.eraseIdx i }
  | .assign i p => s.assign i p
  | .assignPtr i j => s.assign i (s.raw j)
  | .paraOut i => { s.release (s.raw i) with ptrs := s.ptrs.set i none }

/-- The pointers named are there, there is room for one more, and an object given by a plain
    pointer has not been destroyed. -/
def Allowed (s : Shared ω) (e : Event ω) : Prop :=
  s.ptrs.length + 1 < 4294967296 ∧ match e with
    | .construct p => ∀ o, p = some o → o ∉ s.destroyed
    | .copy i | .destruct i | .paraOut i => i < s.ptrs.length
    | .assign i p => i < s.ptrs.length ∧ ∀ o, p = some o → o ∉ s.destroyed
    | .assignPtr i j => i < s.ptrs.length ∧ j < s.ptrs.length

/-- The books, if the pointers are those of `l`. -/
structure Counted (l : List (Option ω)) (s : Shared ω) : Prop where
  refs : ∀ o, (s.atomic o).toNat = l.count (some o)
  held : ∀ o, some o ∈ l → o ∈ s.held
  once : ∀ o, s.destroyed.count o = if o ∈ s.held ∧ some o ∉ l then 1 else 0

variable {s : Shared ω} {l : List (Option ω)} {p : Option ω}

theorem Counted.perm {m : List (Option ω)} (h : Counted l s) (hp : l.Perm m) : Counted m s where
  refs o := (h.refs o).trans (hp.count_eq _)
  held o ho := h.held o (hp.mem_iff.mpr ho)
  once o := by simpa [hp.mem_iff] using h.once o

theorem Counted.at (h : Counted l s) (m : List (Option ω)) : Counted l { s with ptrs := m } :=
  ⟨h.refs, h.held, h.once⟩

theorem Counted.alive (h : Counted l s) {o : ω} (ho : some o ∈ l) : o ∉ s.destroyed := by
  have hc := h.once o
  rw [if_neg fun hn => hn.2 ho] at hc
  exact List.count_eq_zero.mp hc

/-- A null pointer holds nothing. -/
theorem counted_none : Counted (none :: l) s ↔ Counted l s := by
  constructor <;> intro h
  all_goals exact ⟨by simpa using h.refs, by simpa using h.held, by simpa using h.once⟩

theorem Counted.add (h : Counted l s) (hp : ∀ o, p = some o → o ∉ s.destroyed)
    (hl : l.length + 1 < 4294967296) : Counted (p :: l) (s.add p) := by
  cases p with
  | none => exact counted_none.mpr h
  | some x =>
    refine ⟨fun o => ?_, fun o ho => ?_, fun o => ?_⟩ <;> by_cases hx : o = x
    · subst hx
      have hle : l.count (some o) ≤ l.length := List.count_le_length
      simp only [Shared.add, Option.elim_some, addReference, Function.update_self]
      rw [UInt32.toNat_add, h.refs, List.count_cons_self]
      exact Nat.mod_eq_of_lt (by simp; omega)
    · simpa [Shared.add, addReference, hx, Ne.symm hx] using h.refs o
    · exact List.mem_cons.mpr (.inl hx)
    · exact List.mem_cons_of_mem x (h.held o (by simpa [hx] using ho))
    · subst hx
      simpa [Shared.add, addReference] using List.count_eq_zero.mpr (hp o rfl)
    · simpa [Shared.add, addReference, hx] using h.once o

/-- **The last pointer destroys the object**, and only the last one. -/
theorem Counted.release (h : Counted (p :: l) s) : Counted l (s.release p) := by
  cases p with
  | none => exact counted_none.mp h
  | some x =>
    have hx := h.refs x
    rw [List.count_cons_self] at hx
    have href : (s.atomic x - 1).toNat = l.count (some x) := by
      rw [UInt32.toNat_sub_of_le _ _ (UInt32.le_iff_toNat_le.mpr (by simp [hx])), hx]
      rfl
    have hzero : s.atomic x - 1 = 0 ↔ some x ∉ l := by
      rw [← List.count_eq_zero, ← href]
      exact UInt32.toNat_inj.symm
    have hnone := List.count_eq_zero.mpr (h.alive List.mem_cons_self)
    have hheld := h.held x List.mem_cons_self
    simp only [Shared.release, Option.elim_some, releaseReference]
    refine ⟨fun o => ?_, fun o ho => ?_, fun o => ?_⟩
    · have ho := h.refs o
      by_cases hox : o = x <;> split <;> simp_all [Ne.symm]
    · have := h.held o (List.mem_cons_of_mem _ ho)
      split <;> exact this
    · have ho := h.once o
      by_cases hox : o = x <;> split <;> simp_all [Ne.symm]

omit [DecidableEq ω] in
theorem raw_cons {i : Nat} (hi : i < s.ptrs.length) :
    s.ptrs.Perm (s.raw i :: s.ptrs.eraseIdx i) := by
  have hraw : s.raw i = s.ptrs[i] := by simp [raw, List.getElem?_eq_getElem hi]
  rw [hraw]
  exact (List.getElem_cons_eraseIdx_perm hi).symm

theorem Counted.raw {i : Nat} (h : Counted s.ptrs s) (hi : i < s.ptrs.length) (o : ω)
    (ho : s.raw i = some o) : o ∉ s.destroyed :=
  h.alive (ho ▸ (raw_cons hi).mem_iff.mpr List.mem_cons_self)

/-- The new object is counted before the old one is released. -/
theorem Counted.assign {i : Nat} (h : Counted s.ptrs s) (hi : i < s.ptrs.length)
    (hp : ∀ o, p = some o → o ∉ s.destroyed) (hl : s.ptrs.length + 1 < 4294967296) :
    Counted (s.assign i p).ptrs (s.assign i p) := by
  unfold Shared.assign
  split
  · exact h
  · have hadd := (h.add hp hl).perm (((raw_cons hi).cons p).trans (.swap ..))
    exact (hadd.release.perm (List.set_perm_cons_eraseIdx hi p).symm).at _

theorem Counted.step {e : Event ω} (h : Counted s.ptrs s) (ha : Allowed s e) :
    Counted (s.step e).ptrs (s.step e) := by
  obtain ⟨hl, he⟩ := ha
  cases e with
  | construct p => exact (h.add he hl).at _
  | copy i => exact (h.add (h.raw he) hl).at _
  | destruct i => exact (h.perm (raw_cons he)).release.at _
  | assign i p => exact h.assign he.1 he.2 hl
  | assignPtr i j => exact h.assign he.1 (h.raw he.2) hl
  | paraOut i =>
    have hrest := counted_none.mpr (h.perm (raw_cons he)).release
    exact (hrest.perm (List.set_perm_cons_eraseIdx he none).symm).at _

/-- The count of an object is the number of its pointers, and one that was ever held has been
    destroyed once if no pointer holds it any more, and not at all while one does. -/
def Booked (s : Shared ω) : Prop :=
  ∀ o, (s.atomic o).toNat = s.ptrs.count (some o) ∧
    s.destroyed.count o = if o ∈ s.held ∧ some o ∉ s.ptrs then 1 else 0

/-- **Every object is destroyed with its last pointer, and once**, in every history of allowed
    calls. -/
theorem destroyed_once (es : List (Event ω)) (h : Along step Allowed {} es) :
    Throughout step Booked ({} : Shared ω) es :=
  throughout_of_along (I := fun s => Counted s.ptrs s) (fun _ _ hs ha => hs.step ha)
    (fun _ hs o => ⟨hs.refs o, hs.once o⟩) ⟨by simp, by simp, by simp⟩ h

/-- The second pointer to 7 keeps it; the last call destroys it. -/
theorem destroyed_once_two : Throughout step Booked ({} : Shared Nat)
    [.construct (some 7), .copy 0, .destruct 0, .assign 0 (some 8)] :=
  destroyed_once _ (by simp [Along, Allowed, step, construct, add, addReference, raw, release,
    releaseReference])

end Shared

end OpenBras
