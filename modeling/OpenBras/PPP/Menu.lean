/-
  File:      OpenBras/PPP/Menu.lean
  Subject:   THE OPTIONS WE MAY ASK FOR, AS A MENU: what `Addci`, `Ackci` and `Rejci` of a
             protocol have in common.

  LCP and IPCP walk the same list of options three times: `Addci` writes those that are asked
  for, `Ackci` reads them back, `Rejci` reads back some of them and gives them up. A `Menu` says
  for each kind of option how it is written and read; that the two agree is a field
  (`shape`), so a menu whose reader misreads its own option cannot be built.

  **Results.** `ack_iff`: an Ack is accepted exactly if it repeats the request. `rej_iff`: a
  Reject is accepted exactly if it is made of some of the options, in order, and then exactly
  these are given up. `given_off`: what was given up is not asked for again.
-/
import OpenBras.PPP.Ci
import Mathlib.Data.List.Infix

namespace OpenBras

open Wire

/-! ## 1. One option, written and read -/

/-- The reader recognises exactly the option `b`: type, length and value. -/
structure Shape (opt : UInt8) (n : Nat) (value : Bytes → Bool) (b : Bytes) : Prop where
  length : b.length = n
  /-- an option has a type and a length -/
  two : 2 ≤ n
  reads : ∀ p : Bytes, n ≤ p.length →
    ((byteAt p 1).toNat = n ∧ byteAt p 0 = opt ∧ value p = true ↔ p.take n = b)

theorem Shape.of_reads {opt n : UInt8} {v : Bytes} {value : Bytes → Bool}
    (hn : n.toNat = v.length + 2) (hv : Reads value 2 v) :
    Shape opt (v.length + 2) value (opt :: n :: v) where
  length := rfl
  two := Nat.le_add_left 2 v.length
  reads p hp := by
    rw [hv p (by omega)]
    match p, hp with
    | x :: y :: q, hp =>
      show y.toNat = _ ∧ x = opt ∧ q.take v.length = v ↔ x :: y :: q.take v.length = opt :: n :: v
      rw [List.cons.injEq, List.cons.injEq, ← hn, UInt8.toNat_inj]
      tauto

namespace Shape

variable {opt : UInt8} {n : Nat} {value : Bytes → Bool} {b : Bytes}

/-- The option itself is recognised, whatever stands behind it. -/
theorem self (h : Shape opt n value b) (rest : Bytes) :
    (byteAt (b ++ rest) 1).toNat = n ∧ byteAt (b ++ rest) 0 = opt ∧ value (b ++ rest) = true :=
  (h.reads (b ++ rest) (by simp [h.length])).mpr (by rw [← h.length, List.take_left])

end Shape

namespace Cursor

/-- The bytes of the packet that are left. -/
def body (c : Cursor) : Bytes := c.p.take c.len

/-- The packet ends inside the buffer. -/
def Fits (c : Cursor) : Prop := c.len ≤ c.p.length

variable {c : Cursor}

theorem Fits.skip (h : c.Fits) (n : Nat) : (c.skip n).Fits := by
  unfold Fits at h ⊢
  simp only [Cursor.skip, List.length_drop]
  omega

theorem length_body (h : c.Fits) : c.body.length = c.len := by
  simp only [body, List.length_take]
  exact Nat.min_eq_left h

theorem body_skip (c : Cursor) (n : Nat) : (c.skip n).body = c.body.drop n := by
  simp only [body, skip, List.drop_take]

theorem len_eq_zero_iff (h : c.Fits) : c.len = 0 ↔ c.body = [] := by
  rw [← length_body h, List.length_eq_zero_iff]

theorem at_and_value_iff (h : c.Fits) {opt : UInt8} {n : Nat} {value : Bytes → Bool} {b : Bytes}
    (hb : Shape opt n value b) :
    (c.at_ opt n && value c.p) = true ↔ ∃ rest, c.body = b ++ rest := by
  have hlen := length_body h
  simp only [at_, Bool.and_eq_true, decide_eq_true_eq, beq_iff_eq]
  constructor
  · rintro ⟨⟨⟨hn, h1⟩, h0⟩, hv⟩
    have htake := (hb.reads c.p (hn.trans h)).mp ⟨h1, h0, hv⟩
    have hb' : c.body.take n = b := by rw [body, List.take_take, Nat.min_eq_left hn, htake]
    exact ⟨c.body.drop n, by rw [← hb', List.take_append_drop]⟩
  · rintro ⟨rest, hr⟩
    have hn : n ≤ c.len := by rw [← hlen, hr, List.length_append, hb.length]; omega
    have htake : c.p.take n = b := by
      have : c.body.take n = b := by rw [hr, ← hb.length, List.take_left]
      rwa [body, List.take_take, Nat.min_eq_left hn] at this
    obtain ⟨h1, h0, hv⟩ := (hb.reads c.p (hn.trans h)).mpr htake
    exact ⟨⟨⟨hn, h1⟩, h0⟩, hv⟩

theorem body_of_at (h : c.Fits) {opt : UInt8} {n : Nat} (hn : 2 ≤ n) (hat : c.at_ opt n = true) :
    ∃ b rest, c.body = opt :: b :: rest := by
  simp only [at_, Bool.and_eq_true, decide_eq_true_eq, beq_iff_eq] at hat
  obtain ⟨⟨hlen, -⟩, h0⟩ := hat
  have hbody := length_body h
  match hb : c.body with
  | [] => rw [hb] at hbody; simp at hbody; omega
  | [_] => rw [hb] at hbody; simp at hbody; omega
  | x :: y :: rest =>
    have hx : byteAt c.body 0 = x := by rw [hb]; rfl
    rw [body, byteAt_take (by omega), h0] at hx
    exact ⟨y, rest, by rw [hx]⟩

end Cursor

/-! ## 2. Option lists put together -/

/-- A byte string that is one option: its length byte counts it. -/
structure Framed (b : Bytes) : Prop where
  two : 2 ≤ b.length
  length : (byteAt b 1).toNat = b.length

theorem walk_append {b : Bytes} (h : Framed b) (fuel : Nat) (p : Bytes) (l : Nat) :
    walk (fuel + 1) (b ++ p) (b.length + l) =
      ⟨byteAt b 0, b.length, b ++ p, true⟩ :: walk fuel p l := by
  have htwo := h.two
  have h1 : byteAt (b ++ p) 1 = byteAt b 1 := byteAt_append (by omega) p
  have h0 : byteAt (b ++ p) 0 = byteAt b 0 := byteAt_append (by omega) p
  rw [walk, if_neg (by omega), h1, h0, h.length, if_neg (by omega), List.drop_left,
    Nat.add_sub_cancel_left]

/-- Options put together are taken apart again, also if only some are asked for. -/
theorem filter_walk {l : List Bytes} (h : ∀ b ∈ l, Framed b) {P : Ci → Bool} {Q : Bytes → Bool}
    (hP : ∀ b p, P ⟨byteAt b 0, b.length, b ++ p, true⟩ = Q b) {fuel : Nat}
    (hf : l.flatten.length ≤ fuel) :
    ((walk fuel l.flatten l.flatten.length).filter P).map Ci.bytes = l.filter Q := by
  induction l generalizing fuel with
  | nil => cases fuel <;> rfl
  | cons b l ih =>
    obtain ⟨hb, hl⟩ := List.forall_mem_cons.mp h
    have htwo := hb.two
    rw [List.flatten_cons, List.length_append] at hf
    obtain ⟨fuel, rfl⟩ : ∃ n, fuel = n + 1 := ⟨fuel - 1, by omega⟩
    have hrest := ih hl (show l.flatten.length ≤ fuel by omega)
    rw [List.flatten_cons, List.length_append, walk_append hb, List.filter_cons,
      List.filter_cons, ← hrest, hP]
    split
    · simp [Ci.bytes]
    · rfl

/-- The options of a body, one byte string each. -/
def optionBytes (p : Bytes) : List Bytes := (options p p.length).map Ci.bytes

/-- **Options put together are taken apart again.** -/
theorem optionBytes_flatten {l : List Bytes} (h : ∀ b ∈ l, Framed b) :
    optionBytes l.flatten = l := by
  have hall := filter_walk h (P := fun _ => true) (fun _ _ => rfl) (Nat.le_refl _)
  rwa [List.filter_true, List.filter_true] at hall

/-! ## 3. A menu of options -/

/-- The options of a protocol: `κ` are the kinds, `α` the record they are asked for in. -/
structure Menu (κ α : Type) where
  /-- the kinds in the order they are sent -/
  kinds : List κ
  opt : κ → UInt8
  /-- the option as `Addci` writes it -/
  bytes : κ → α → Bytes
  /-- the test of the value in `Ackci` and `Rejci` -/
  value : κ → α → Bytes → Bool
  /-- what a Reject of the option does to the record -/
  clear : κ → α → α
  shape : ∀ k a, Shape (opt k) (bytes k a).length (value k a) (bytes k a)

namespace Menu

variable {κ α : Type} (M : Menu κ α)

/-- The options that are asked for, one byte string each. -/
def offers (asked : κ → Bool) (a : α) : List Bytes :=
  (M.kinds.filter asked).map fun k => M.bytes k a

def ackStep (asked : κ → Bool) (a : α) (c : Cursor) (k : κ) : Option Cursor :=
  ackOption (M.opt k) (asked k) (M.bytes k a).length (M.value k a) c

/-- `Ackci` up to the end of the packet. -/
def ack (asked : κ → Bool) (a : α) (c : Cursor) : Option Cursor :=
  M.kinds.foldlM (M.ackStep asked a) c

def rejStep (asked : κ → Bool) (a : α) (s : Cursor × α) (k : κ) : Option (Cursor × α) :=
  rejOption (asked k) (M.opt k) (M.bytes k a).length (M.value k a) (M.clear k) s

/-- `Rejci` up to the end of the packet. -/
def rej (asked : κ → Bool) (a : α) (s : Cursor × α) : Option (Cursor × α) :=
  M.kinds.foldlM (M.rejStep asked a) s

theorem rej_keeps {P : α → Prop} (hclear : ∀ k t, P t → P (M.clear k t)) {asked : κ → Bool} {a : α}
    {s s' : Cursor × α} (h : M.rej asked a s = some s') (hs : P s.2) : P s'.2 := by
  unfold rej at h
  revert h
  induction M.kinds generalizing s with
  | nil =>
    intro h
    exact Option.some.inj h ▸ hs
  | cons k ks ih =>
    intro h
    obtain ⟨u, hu, h⟩ := Option.bind_eq_some_iff.mp h
    refine ih ?_ h
    unfold rejStep rejOption at hu
    split at hu
    · split at hu
      · exact Option.some.inj hu ▸ hclear k _ hs
      · cases hu
    · exact Option.some.inj hu ▸ hs

theorem framed (k : κ) (a : α) : Framed (M.bytes k a) := by
  have hself := ((M.shape k a).self []).1
  rw [List.append_nil] at hself
  exact ⟨(M.shape k a).two, hself⟩

theorem optionBytes_sub (a : α) (sub : List κ) :
    optionBytes (sub.map fun k => M.bytes k a).flatten = sub.map fun k => M.bytes k a := by
  refine optionBytes_flatten fun b hb => ?_
  obtain ⟨k, -, rfl⟩ := List.mem_map.mp hb
  exact M.framed k a

theorem optionBytes_offers (asked : κ → Bool) (a : α) :
    optionBytes (M.offers asked a).flatten = M.offers asked a :=
  M.optionBytes_sub a (M.kinds.filter asked)

theorem byteAt_bytes (k : κ) (a : α) : byteAt (M.bytes k a) 0 = M.opt k := by
  have h := ((M.shape k a).self []).2.1
  rwa [List.append_nil] at h

theorem find?_offers (asked : κ → Bool) (a : α) (t : UInt8) :
    (optionBytes (M.offers asked a).flatten).find? (fun o => byteAt o 0 == t) =
      (M.kinds.find? fun k => asked k && M.opt k == t).map fun k => M.bytes k a := by
  rw [optionBytes_offers, offers, List.find?_map, List.find?_filter]
  congr 2
  funext k
  show decide (asked k = true ∧ (byteAt (M.bytes k a) 0 == t) = true) = _
  rw [byteAt_bytes, Bool.decide_and, Bool.decide_eq_true, Bool.decide_eq_true]

/-- Picking from the options that are asked for is picking kinds. -/
theorem sublist_offers_iff (asked : κ → Bool) (a : α) (body : Bytes) :
    (∃ l : List Bytes, l.Sublist (M.offers asked a) ∧ body = l.flatten) ↔
      ∃ sub : List κ, sub.Sublist (M.kinds.filter asked) ∧
        body = (sub.map fun k => M.bytes k a).flatten := by
  constructor
  · rintro ⟨l, hl, rfl⟩
    obtain ⟨sub, hsub, rfl⟩ := List.sublist_map_iff.mp hl
    exact ⟨sub, hsub, rfl⟩
  · rintro ⟨sub, hsub, rfl⟩
    exact ⟨_, hsub.map _, rfl⟩

/-! ## 4. Acks -/

section Ack

variable {M} {asked : κ → Bool} {a : α} {c : Cursor}

theorem ackStep_of_body (h : c.Fits) {k : κ} (hk : asked k = true) {rest : Bytes}
    (hr : c.body = M.bytes k a ++ rest) :
    M.ackStep asked a c k = some (c.skip (M.bytes k a).length) ∧
      (c.skip (M.bytes k a).length).body = rest := by
  have hat := (Cursor.at_and_value_iff h (M.shape k a)).mpr ⟨rest, hr⟩
  refine ⟨?_, ?_⟩
  · unfold ackStep ackOption
    rw [if_pos hk, if_pos hat]
  · rw [Cursor.body_skip, hr, List.drop_left]

theorem ackStep_none (h : c.Fits) {k : κ} (hk : asked k = true)
    (hr : ¬ ∃ rest, c.body = M.bytes k a ++ rest) : M.ackStep asked a c k = none := by
  unfold ackStep ackOption
  rw [if_pos hk, if_neg fun hat => hr ((Cursor.at_and_value_iff h (M.shape k a)).mp hat)]

theorem ackStep_skip {k : κ} (hk : asked k = false) : M.ackStep asked a c k = some c := by
  unfold ackStep ackOption
  rw [hk]
  rfl

theorem foldlM_ackStep_iff (ks : List κ) (h : c.Fits) :
    (∃ c', ks.foldlM (M.ackStep asked a) c = some c' ∧ c'.len = 0) ↔
      c.body = ((ks.filter asked).map fun k => M.bytes k a).flatten := by
  induction ks generalizing c with
  | nil =>
    simp only [List.foldlM_nil, List.filter_nil, List.map_nil, List.flatten_nil]
    rw [← Cursor.len_eq_zero_iff h]
    exact ⟨fun ⟨c', hc, h0⟩ => Option.some.inj hc ▸ h0, fun h0 => ⟨c, rfl, h0⟩⟩
  | cons k ks ih =>
    rw [List.foldlM_cons]
    cases hk : asked k with
    | false => rw [ackStep_skip hk, List.filter_cons_of_neg (by simp [hk])]; exact ih h
    | true =>
      rw [List.filter_cons_of_pos hk, List.map_cons, List.flatten_cons]
      by_cases hr : ∃ rest, c.body = M.bytes k a ++ rest
      · obtain ⟨rest, hr⟩ := hr
        obtain ⟨hstep, hrest⟩ := ackStep_of_body h hk hr
        rw [hstep, hr, List.append_cancel_left_eq, ← hrest]
        exact ih (h.skip _)
      · rw [ackStep_none h hk hr]
        exact ⟨fun ⟨_, hc, _⟩ => (by cases hc), fun e => absurd ⟨_, e⟩ hr⟩

/-- **An Ack is accepted exactly if it repeats the request.** -/
theorem ack_iff {p : Bytes} {len : Nat} (hp : len ≤ p.length) :
    (M.ack asked a ⟨p, len⟩).elim false (·.len == 0) = true ↔
      p.take len = (M.offers asked a).flatten := by
  have hiff : (∃ c', M.ack asked a ⟨p, len⟩ = some c' ∧ c'.len = 0) ↔ _ :=
    foldlM_ackStep_iff M.kinds (c := ⟨p, len⟩) hp
  refine Iff.trans ?_ hiff
  cases M.ack asked a ⟨p, len⟩ with
  | none => simp
  | some c => simp

end Ack

/-! ## 5. Rejects -/

/-- The record after some options were given up. -/
def given (ks : List κ) (t : α) : α := ks.foldl (fun t k => M.clear k t) t

/-- No two options that are asked for have the same type. -/
def Distinct (asked : κ → Bool) (ks : List κ) : Prop :=
  (ks.filter asked).Pairwise fun j k => M.opt j ≠ M.opt k

section Rej

variable {M} {asked : κ → Bool} {a t : α} {c : Cursor}

variable {k : κ}

theorem rejStep_of_body (h : c.Fits) (hk : asked k = true) {rest : Bytes}
    (hr : c.body = M.bytes k a ++ rest) :
    M.rejStep asked a (c, t) k = some (c.skip (M.bytes k a).length, M.clear k t) ∧
      (c.skip (M.bytes k a).length).body = rest := by
  have hat := (Cursor.at_and_value_iff h (M.shape k a)).mpr ⟨rest, hr⟩
  rw [Bool.and_eq_true] at hat
  refine ⟨?_, ?_⟩
  · unfold rejStep rejOption
    simp only [hk, hat.1, hat.2, Bool.and_self, if_true]
  · rw [Cursor.body_skip, hr, List.drop_left]

/-- An option that does not stand here is left for the next reader, or makes the Reject bad:
    then one of its type stands here. -/
theorem rejStep_other (h : c.Fits) (hk : asked k = true)
    (hr : ¬ ∃ rest, c.body = M.bytes k a ++ rest) :
    M.rejStep asked a (c, t) k = some (c, t) ∨
      (M.rejStep asked a (c, t) k = none ∧ ∃ b rest, c.body = M.opt k :: b :: rest) := by
  have hval : ¬ (c.at_ (M.opt k) (M.bytes k a).length && M.value k a c.p) = true := fun hat =>
    hr ((Cursor.at_and_value_iff h (M.shape k a)).mp hat)
  unfold rejStep rejOption
  by_cases hat : c.at_ (M.opt k) (M.bytes k a).length = true
  · right
    have hv : M.value k a c.p = false := by simpa [hat] using hval
    simp only [hk, hat, hv, Bool.and_self, if_true, Bool.false_eq_true, if_false, true_and]
    exact Cursor.body_of_at h (M.shape k a).two hat
  · left
    simp only [hat, Bool.and_false, Bool.false_eq_true, if_false]

theorem rejStep_skip (hk : asked k = false) : M.rejStep asked a (c, t) k = some (c, t) := by
  unfold rejStep rejOption
  rw [hk]
  rfl

/-- Options of other types do not begin with the type of `k`. -/
theorem flatten_ne_of_opt {ks sub : List κ} (hd : ∀ j ∈ ks, M.opt k ≠ M.opt j)
    (hsub : sub.Sublist ks) (b : UInt8) (rest : Bytes) :
    (sub.map fun j => M.bytes j a).flatten ≠ M.opt k :: b :: rest := by
  intro e
  cases sub with
  | nil => cases e
  | cons j sub =>
    have hj : byteAt (M.bytes j a ++ (sub.map fun j => M.bytes j a).flatten) 0 = M.opt j :=
      ((M.shape j a).self _).2.1
    rw [List.map_cons, List.flatten_cons] at e
    rw [e] at hj
    exact hd j (hsub.subset List.mem_cons_self) hj

/-- An option that stands at the front of a body made of options of pairwise different types is
    the first of them. -/
theorem sublist_tail_of_body {ks sub : List κ} {rest : Bytes} (hd : ∀ j ∈ ks, M.opt k ≠ M.opt j)
    (hsub : sub.Sublist (k :: ks))
    (hb : M.bytes k a ++ rest = (sub.map fun j => M.bytes j a).flatten) :
    ∃ tail, sub = k :: tail ∧ tail.Sublist ks ∧
      rest = (tail.map fun j => M.bytes j a).flatten := by
  cases hsub with
  | cons _ hsub =>
    -- the body would begin with an option of another type
    have hself := ((M.shape k a).self rest).2.1
    have htwo := (M.shape k a).two
    obtain ⟨x, y, tail, hxy⟩ : ∃ x y tail, M.bytes k a = x :: y :: tail := by
      match M.bytes k a, htwo with
      | x :: y :: tail, _ => exact ⟨x, y, tail, rfl⟩
    rw [hxy] at hself hb
    have hx : x = M.opt k := hself
    subst hx
    exact absurd hb.symm (flatten_ne_of_opt hd hsub _ _)
  | cons_cons _ hsub =>
    rw [List.map_cons, List.flatten_cons, List.append_cancel_left_eq] at hb
    exact ⟨_, rfl, hsub, hb⟩

theorem foldlM_rejStep_iff (ks : List κ) (hd : M.Distinct asked ks) (h : c.Fits) (t' : α) :
    (∃ c', ks.foldlM (M.rejStep asked a) (c, t) = some (c', t') ∧ c'.len = 0) ↔
      ∃ sub, sub.Sublist (ks.filter asked) ∧ c.body = (sub.map fun k => M.bytes k a).flatten ∧
        t' = M.given sub t := by
  induction ks generalizing c t with
  | nil =>
    constructor
    · rintro ⟨c', hc, h0⟩
      cases hc
      exact ⟨[], .slnil, (Cursor.len_eq_zero_iff h).mp h0, rfl⟩
    · rintro ⟨sub, hsub, hb, rfl⟩
      cases List.sublist_nil.mp hsub
      exact ⟨c, rfl, (Cursor.len_eq_zero_iff h).mpr hb⟩
  | cons k ks ih =>
    rw [List.foldlM_cons]
    cases hk : asked k with
    | false =>
      have hf : (k :: ks).filter asked = ks.filter asked :=
        List.filter_cons_of_neg (by simp [hk])
      rw [rejStep_skip hk, hf]
      unfold Distinct at hd
      rw [hf] at hd
      exact ih hd h
    | true =>
      unfold Distinct at hd
      rw [List.filter_cons_of_pos hk, List.pairwise_cons] at hd
      rw [List.filter_cons_of_pos hk]
      by_cases hr : ∃ rest, c.body = M.bytes k a ++ rest
      · obtain ⟨rest, hr⟩ := hr
        obtain ⟨hstep, hrest⟩ := rejStep_of_body (t := t) h hk hr
        rw [hstep]
        show (∃ c', ks.foldlM _ _ = _ ∧ _) ↔ _
        rw [ih hd.2 (h.skip _), hrest, hr]
        constructor
        · rintro ⟨sub, hsub, hb, rfl⟩
          exact ⟨k :: sub, hsub.cons_cons k, by rw [hb]; rfl, rfl⟩
        · rintro ⟨sub, hsub, hb, rfl⟩
          obtain ⟨tail, rfl, htail, hb⟩ := sublist_tail_of_body hd.1 hsub hb
          exact ⟨tail, htail, hb, rfl⟩
      · -- the option is not among those rejected
        have hskip : ∀ sub : List κ, sub.Sublist (k :: ks.filter asked) →
            c.body = (sub.map fun j => M.bytes j a).flatten →
            sub.Sublist (ks.filter asked) := by
          intro sub hsub hb
          cases hsub with
          | cons _ hsub => exact hsub
          | cons_cons _ hsub => exact absurd ⟨_, hb⟩ hr
        rcases rejStep_other (t := t) h hk hr with hstep | ⟨hstep, b, rest, hb⟩
        · rw [hstep]
          show (∃ c', ks.foldlM _ _ = _ ∧ _) ↔ _
          rw [ih hd.2 h]
          constructor
          · rintro ⟨sub, hsub, hb, rfl⟩
            exact ⟨sub, hsub.cons k, hb, rfl⟩
          · rintro ⟨sub, hsub, hb, rfl⟩
            exact ⟨sub, hskip sub hsub hb, hb, rfl⟩
        · rw [hstep]
          constructor
          · rintro ⟨_, hc, _⟩
            cases hc
          · rintro ⟨sub, hsub, hs, rfl⟩
            exact absurd (hs.symm.trans hb) (flatten_ne_of_opt hd.1 (hskip sub hsub hs) b rest)

/-- **A Reject is accepted exactly if it is made of some of the options asked for, in order**,
    and then these are given up. -/
theorem rej_iff (hd : M.Distinct asked M.kinds) {p : Bytes} {len : Nat} (hp : len ≤ p.length)
    (t' : α) :
    ((M.rej asked a (⟨p, len⟩, t)).bind fun s => if s.1.len = 0 then some s.2 else none) =
        some t' ↔
      ∃ sub, sub.Sublist (M.kinds.filter asked) ∧
        p.take len = (sub.map fun k => M.bytes k a).flatten ∧ t' = M.given sub t := by
  have hiff : (∃ c', M.rej asked a (⟨p, len⟩, t) = some (c', t') ∧ c'.len = 0) ↔ _ :=
    foldlM_rejStep_iff M.kinds hd (c := ⟨p, len⟩) hp t'
  refine Iff.trans ?_ hiff
  cases M.rej asked a (⟨p, len⟩, t) with
  | none => simp
  | some s => simp [Prod.ext_iff, and_comm]

/-- What was given up stays given up: `neg k` is a flag that `clear k` takes away and no other
    `clear` sets. -/
theorem given_off {neg : κ → α → Bool} (hself : ∀ k a, neg k (M.clear k a) = false)
    (hkeep : ∀ j k a, neg k a = false → neg k (M.clear j a) = false) {ks : List κ} (hk : k ∈ ks)
    (t : α) : neg k (M.given ks t) = false := by
  have hrest : ∀ (ks : List κ) (t : α), neg k t = false → neg k (M.given ks t) = false := by
    intro ks
    induction ks with
    | nil => exact fun t h => h
    | cons j ks ih => exact fun t h => ih _ (hkeep j k t h)
  induction ks generalizing t with
  | nil => cases hk
  | cons j ks ih =>
    rcases List.mem_cons.mp hk with rfl | hk
    · exact hrest ks _ (hself k t)
    · exact ih hk _

end Rej

end Menu

end OpenBras
