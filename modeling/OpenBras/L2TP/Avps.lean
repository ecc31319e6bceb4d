/-
  File:      OpenBras/L2TP/Avps.lean
  Subject:   WHICH DATAGRAMS `HandleAVPs` WALKS SAFELY: it returns, and every header and value it
             or a handler reads lies inside the datagram.

  The loop looks at the header of an AVP as soon as one byte is left, and at the value of a
  Message Type, Assigned Tunnel ID, Assigned Call ID, Proxy Authen Type or Proxy Authen ID as
  soon as the header fits. An AVP of an unknown attribute is skipped BEFORE its length is
  looked at: with length 0 the pointer stays where it is, and the next turn exchanges the bytes
  of the same header once more. `Framed` reads this off the bytes of the datagram alone; the
  walk is safe exactly on those (`decode_safe_iff`).
-/
import OpenBras.L2TP.Message

namespace OpenBras

open Wire

/-! ## 1. Memory -/

theorem swaps_append {n : Nat} {p : Bytes} (h : 2 * n ≤ p.length) (q : Bytes) :
    swaps n (p ++ q) = swaps n p ++ q := by
  induction n generalizing p with
  | zero => rfl
  | succ n ih =>
    simp only [swaps, List.cons_append]
    rw [byteAt_append (by omega), byteAt_append (by omega),
      List.drop_append_of_le_length (by omega), ih (by simp only [List.length_drop]; omega)]

theorem length_swaps {n : Nat} {p : Bytes} (h : 2 * n ≤ p.length) :
    (swaps n p).length = p.length := by
  induction n generalizing p with
  | zero => rfl
  | succ n ih =>
    simp only [swaps, List.length_cons]
    rw [ih (by simp only [List.length_drop]; omega), List.length_drop]
    omega

theorem swaps_swaps {n : Nat} {p : Bytes} (h : 2 * n ≤ p.length) : swaps n (swaps n p) = p := by
  induction n generalizing p with
  | zero => rfl
  | succ n ih =>
    match p, h with
    | a :: b :: q, h =>
      simp only [List.length_cons] at h
      simp [swaps, byteAt, ih (p := q) (by omega)]

namespace CL2TPControllMessage

/-! ## 2. One turn -/

/-- The checks behind which an AVP ends the walk with -1. -/
def Refused (first : Bool) (len : Int) (length attr : UInt16) : Prop :=
  if attr > AVP_MAX then AMBIT length = true
  else
    len < ALENGTH length ∨ (attr ≠ 0 ∧ first) ∨ ALENGTH length < AVP_HDR ∨
      (AMBIT length ∧ (AZBITS length ∨ attr ∈ [5, 12, 16, 17, 34, 37]))

instance (first : Bool) (len : Int) (length attr : UInt16) :
    Decidable (Refused first len length attr) := by
  unfold Refused
  exact inferInstance

/-- The AVP's handler reads the half word behind the header. -/
def Valued (length attr : UInt16) : Prop := ¬ AZBITS length ∧ attr ∈ [0, 9, 14, 29, 32]

/-- The handler's work on an AVP that is not refused. -/
def AvpLoop.handled (length attr : UInt16) (s : AvpLoop) : AvpLoop :=
  if AZBITS length then s
  else
    match handler attr with
    | some h => (s.call h length).2
    | none => s

variable {attr : UInt16} (length : UInt16) {D : Nat} {s : AvpLoop} {r : Int × AvpLoop}

theorem handler_none (h : handler attr = none) (hle : ¬ attr > AVP_MAX) :
    attr ∈ [5, 12, 16, 17, 34, 37] := by
  have all : ∀ n < 40, (avps[n]?).join.isNone → n.toUInt16 ∈ [5, 12, 16, 17, 34, 37] := by
    decide +kernel
  have hlt : attr.toNat < 40 := by
    have := UInt16.le_iff_toNat_le.mp (UInt16.not_lt.mp hle)
    simpa [AVP_MAX] using Nat.lt_succ_of_le this
  have := all attr.toNat hlt (by rw [← handler, h]; rfl)
  simpa using this

/-- The kind of a handler, by its attribute. -/
structure Handler.Fits (attr : UInt16) (h : Handler) : Prop where
  known : attr ≤ AVP_MAX
  handled : attr ∉ [5, 12, 16, 17, 34, 37]
  succeeds : ∀ p n m, (h.run p n m).1 = 0
  reads : (attr ∈ [0, 9, 14, 29, 32] ∧ ∀ n, h.reads n = [(AVP_HDR, 2)]) ∨
    (attr ∉ [0, 9, 14, 29, 32] ∧ ((∀ n, h.reads n = [(0, n)]) ∨ ∀ n, h.reads n = []))

/-- **The table is as `Fits` says.** -/
theorem handler_some {h : Handler} (hh : handler attr = some h) : h.Fits attr := by
  have hlt : attr.toNat < 40 := by
    by_contra hge
    rw [handler, List.getElem?_eq_none (by simpa [avps] using hge)] at hh
    cases hh
  obtain ⟨n, hn⟩ : ∃ n, n = attr.toNat := ⟨_, rfl⟩
  obtain rfl : attr = n.toUInt16 := by rw [hn]; simp
  rw [← hn] at hlt
  rw [handler, ← hn] at hh
  clear hn
  -- one case per row of the table; a row without a handler is not met
  interval_cases n <;> cases hh
  all_goals
    refine ⟨by decide, by decide, fun _ _ _ => rfl, ?_⟩
    first
      | exact .inl ⟨by decide, fun _ => rfl⟩
      | exact .inr ⟨by decide, .inl fun _ => rfl⟩
      | exact .inr ⟨by decide, .inr fun _ => rfl⟩

/-- **What a turn does**: refused, or handled and passed. -/
theorem avpBody_eq (attr : UInt16) (s : AvpLoop) :
    avpBody length attr s =
      if Refused s.firstavp s.len length attr then .inr (-1, s)
      else .inl ((s.handled length attr).next length) := by
  unfold avpBody Refused AvpLoop.handled
  by_cases hmax : attr > AVP_MAX
  · have hn : handler attr = none := by
      cases hh : handler attr with
      | none => rfl
      | some h => exact absurd (handler_some hh).known (UInt16.not_le.mpr hmax)
    simp [if_pos hmax, hn]
  simp only [if_neg hmax]
  by_cases h1 : (ALENGTH length : Int) > s.len
  · rw [if_pos h1, if_pos (.inl h1)]
  by_cases h2 : attr ≠ 0 ∧ s.firstavp = true
  · rw [if_neg h1, if_pos h2, if_pos (.inr (.inl h2))]
  by_cases h3 : ALENGTH length < AVP_HDR
  · rw [if_neg h1, if_neg h2, if_pos h3, if_pos (.inr (.inr (.inl h3)))]
  simp only [h1, h2, h3, if_false, false_or]
  cases hz : AZBITS length with
  | true => simp
  | false =>
    cases hh : handler attr with
    | none => simp [handler_none hh hmax]
    | some h =>
      have f := handler_some hh
      simp [AvpLoop.call, f.succeeds, f.handled]

@[simp] theorem handled_data (attr : UInt16) (s : AvpLoop) :
    (s.handled length attr).data = s.data := by
  unfold AvpLoop.handled
  split <;> [rfl; split <;> rfl]

@[simp] theorem handled_len (attr : UInt16) (s : AvpLoop) :
    (s.handled length attr).len = s.len := by
  unfold AvpLoop.handled
  split <;> [rfl; split <;> rfl]

@[simp] theorem handled_pos (attr : UInt16) (s : AvpLoop) :
    (s.handled length attr).pos = s.pos := by
  unfold AvpLoop.handled
  split <;> [rfl; split <;> rfl]

/-- The reads lie inside a datagram of `D` bytes. -/
def Inside (D : Nat) (reads : List (Nat × Nat)) : Prop := ∀ r ∈ reads, r.1 + r.2 ≤ D

theorem inside_note (rs : List (Nat × Nat)) :
    Inside D (s.note rs).reads ↔ (∀ r ∈ rs, s.pos + r.1 + r.2 ≤ D) ∧ Inside D s.reads := by
  unfold Inside AvpLoop.note
  simp only [List.forall_mem_append, List.forall_mem_map]

theorem inside_of_handled {length : UInt16} (h : Inside D (s.handled length attr).reads) :
    Inside D s.reads := by
  unfold AvpLoop.handled at h
  split at h
  · exact h
  · split at h
    · exact ((inside_note _).mp h).2
    · exact h

/-- **The handler's reads** lie inside the datagram, unless they are of a half word that is not
    there. -/
theorem inside_handled {length : UInt16} (hs : Inside D s.reads)
    (hk : attr ≤ AVP_MAX → s.pos + ALENGTH length ≤ D) :
    Inside D (s.handled length attr).reads ↔
      (Valued length attr → s.pos + (AVP_HDR + 2) ≤ D) := by
  unfold AvpLoop.handled Valued
  cases hz : AZBITS length with
  | true => simpa using hs
  | false =>
    cases hh : handler attr with
    | none =>
      have hv : attr ∉ [0, 9, 14, 29, 32] := by
        intro hv
        revert hh
        simp only [List.mem_cons, List.not_mem_nil, or_false] at hv
        rcases hv with rfl | rfl | rfl | rfl | rfl <;> decide
      simpa [hv] using hs
    | some h =>
      have f := handler_some hh
      refine (inside_note (h.reads (ALENGTH length))).trans ?_
      obtain ⟨hv, hr⟩ | ⟨hv, hr | hr⟩ := f.reads
      · simp [hr, hv, hs, Nat.add_assoc]
      · simpa [hr, hv, hs] using hk f.known
      · simp [hr, hv, hs]

/-! ## 3. The AVPs of a datagram -/

/-- The bytes `d` are a sequence of AVPs that can be walked. An AVP needs its header, and its
    value where a handler looks at it. `again` says that this header has been looked at before,
    with its bytes in the other order: such an AVP has to move the pointer. -/
def Framed (first again : Bool) (d : Bytes) : Prop :=
  if d = [] then True
  else if h : d.length < AVP_HDR then False
  else if Refused first d.length (getShort d 0) (getShort d 4) then True
  else
    (Valued (getShort d 0) (getShort d 4) → AVP_HDR + 2 ≤ d.length) ∧
      if hk : ALENGTH (getShort d 0) = 0 then
        if again then False else Framed false true (swaps (AVP_HDR / 2) d)
      else Framed false false ((swaps (AVP_HDR / 2) d).drop (ALENGTH (getShort d 0)))
termination_by 2 * d.length + (!again).toNat
decreasing_by
  · rename_i ha
    simp only [AVP_HDR] at h
    rw [length_swaps (by simp only [AVP_HDR]; omega)]
    simp [ha]
  · simp only [AVP_HDR] at h
    rw [List.length_drop, length_swaps (by simp only [AVP_HDR]; omega)]
    simp only [Bool.not_false, Bool.toNat_true]
    omega

/-- The loop stands at the bytes `d` of a datagram of `D` bytes. -/
structure At (D : Nat) (first : Bool) (d : Bytes) (s : AvpLoop) : Prop where
  len : s.len = d.length ∨ (d = [] ∧ s.len < 0)
  firstavp : s.firstavp = first
  data : ∃ rest, s.data = d ++ rest
  pos : d ≠ [] → s.pos + d.length = D
  reads : Inside D s.reads

/-- A look at the header. -/
def AvpLoop.look (s : AvpLoop) : AvpLoop :=
  { s.note [(0, AVP_HDR)] with data := swaps (AVP_HDR / 2) s.data }

theorem inside_look : Inside D s.look.reads ↔ s.pos + AVP_HDR ≤ D ∧ Inside D s.reads := by
  refine (inside_note [(0, AVP_HDR)]).trans ?_
  simp

theorem avpTurn_eq (h : s.len > 0) :
    avpTurn s =
      if Refused s.firstavp s.len (getShort s.data 0) (getShort s.data 4) then .inr (-1, s.look)
      else .inl ((s.look.handled (getShort s.data 0) (getShort s.data 4)).next
        (getShort s.data 0)) := by
  rw [avpTurn, if_pos h]
  exact avpBody_eq _ _ s.look

theorem not_inside_returns (h : Returns avpTurn s r) (hs : ¬ Inside D s.reads) :
    ¬ Inside D r.2.reads := by
  have turn : ∀ u : AvpLoop, ¬ Inside D u.reads → ¬ Inside D u.look.reads :=
    fun u hu hi => hu (inside_look.mp hi).2
  refine returns_keeps (P := fun u => ¬ Inside D u.reads) (Q := fun q => ¬ Inside D q.2.reads)
    (fun u t hu hb => ?_) (fun u q hu hb => ?_) h hs
  · by_cases hl : u.len > 0
    · rw [avpTurn_eq hl] at hb
      split at hb <;> cases hb
      exact fun hi => turn u hu (inside_of_handled hi)
    · rw [avpTurn, if_neg hl] at hb
      cases hb
  · by_cases hl : u.len > 0
    · rw [avpTurn_eq hl] at hb
      split at hb <;> cases hb
      exact turn u hu
    · rw [avpTurn, if_neg hl] at hb
      cases hb
      exact hu

/-- An optional AVP of an unknown attribute and of length 0. -/
def Skips (d : Bytes) : Prop :=
  getShort d 4 > AVP_MAX ∧ AMBIT (getShort d 0) = false ∧ ALENGTH (getShort d 0) = 0

instance (d : Bytes) : Decidable (Skips d) := inferInstanceAs (Decidable (_ ∧ _ ∧ _))

/-- **Skipped in either byte order, an AVP of length 0 is never left.** -/
theorem not_returns_skips (hl : s.len > 0) (hd : AVP_HDR ≤ s.data.length) (h : Skips s.data)
    (h' : Skips (swaps (AVP_HDR / 2) s.data)) : ¬ Returns avpTurn s r := by
  refine not_returns_of_cycle (C := fun u : AvpLoop => u.len > 0 ∧ AVP_HDR ≤ u.data.length ∧
    Skips u.data ∧ Skips (swaps (AVP_HDR / 2) u.data)) ?_ ⟨hl, hd, h, h'⟩
  rintro u ⟨hl, hd, hu, hu'⟩
  have hr : ¬ Refused u.firstavp u.len (getShort u.data 0) (getShort u.data 4) := by
    simp [Refused, hu.1, hu.2.1]
  refine ⟨_, (avpTurn_eq hl).trans (if_neg hr), ?_⟩
  have h2 : 2 * (AVP_HDR / 2) ≤ u.data.length := hd
  simp only [AvpLoop.next, handled_len, handled_data, hu.2.2, List.drop_zero]
  refine ⟨by simpa [AvpLoop.look, AvpLoop.note] using hl, ?_, ?_, ?_⟩
  · exact (length_swaps h2).symm ▸ hd
  · exact hu'
  · exact (swaps_swaps h2).symm ▸ hu

/-! ## 4. The walk -/

section
variable {D : Nat} {first : Bool} {d : Bytes} {s : AvpLoop}

theorem At.head (h : At D first d s) (hd : AVP_HDR ≤ d.length) :
    getShort s.data 0 = getShort d 0 ∧ getShort s.data 4 = getShort d 4 := by
  obtain ⟨rest, hr⟩ := h.data
  simp only [AVP_HDR] at hd
  rw [hr, getShort_append (by omega), getShort_append (by omega)]
  exact ⟨rfl, rfl⟩

theorem At.len_eq (h : At D first d s) (hd : d ≠ []) : s.len = d.length := by
  obtain hl | ⟨he, -⟩ := h.len
  · exact hl
  · exact absurd he hd

theorem At.turn (h : At D first d s) (hd : AVP_HDR ≤ d.length) :
    avpTurn s =
      if Refused first d.length (getShort d 0) (getShort d 4) then .inr (-1, s.look)
      else .inl ((s.look.handled (getShort d 0) (getShort d 4)).next (getShort d 0)) := by
  have hne : d ≠ [] := by
    rintro rfl
    simp [AVP_HDR] at hd
  have hl := h.len_eq hne
  have hpos : s.len > 0 := by
    rw [hl]
    exact_mod_cast List.length_pos_iff.mpr hne
  rw [avpTurn_eq hpos, (h.head hd).1, (h.head hd).2, h.firstavp, hl]

theorem At.inside_look (h : At D first d s) (hd : AVP_HDR ≤ d.length) :
    Inside D s.look.reads := by
  have hne : d ≠ [] := by
    rintro rfl
    simp [AVP_HDR] at hd
  have := h.pos hne
  exact CL2TPControllMessage.inside_look.mpr ⟨by omega, h.reads⟩

/-- The handler of an AVP that is not refused reads inside the datagram exactly when the value
    it looks at is there. -/
theorem At.inside_handled (h : At D first d s) (hd : AVP_HDR ≤ d.length)
    (hr : ¬ Refused first d.length (getShort d 0) (getShort d 4)) :
    Inside D (s.look.handled (getShort d 0) (getShort d 4)).reads ↔
      (Valued (getShort d 0) (getShort d 4) → AVP_HDR + 2 ≤ d.length) := by
  have hne : d ≠ [] := by
    rintro rfl
    simp [AVP_HDR] at hd
  have hpos : s.pos + d.length = D := h.pos hne
  have hk : getShort d 4 ≤ AVP_MAX → s.look.pos + ALENGTH (getShort d 0) ≤ D := by
    intro hle
    rw [Refused, if_neg (UInt16.not_lt.mpr hle)] at hr
    push Not at hr
    have := hr.1
    simp only [AvpLoop.look, AvpLoop.note]
    omega
  rw [CL2TPControllMessage.inside_handled (h.inside_look hd) hk]
  simp only [AvpLoop.look, AvpLoop.note]
  rw [← hpos, Nat.add_le_add_iff_left]

theorem At.next (h : At D first d s) (hd : AVP_HDR ≤ d.length)
    (hi : Inside D (s.look.handled (getShort d 0) (getShort d 4)).reads) :
    At D false ((swaps (AVP_HDR / 2) d).drop (ALENGTH (getShort d 0)))
      ((s.look.handled (getShort d 0) (getShort d 4)).next (getShort d 0)) := by
  have hne : d ≠ [] := by
    rintro rfl
    simp [AVP_HDR] at hd
  have h2 : 2 * (AVP_HDR / 2) ≤ d.length := hd
  have hl := h.len_eq hne
  have hpos := h.pos hne
  obtain ⟨rest, hrest⟩ := h.data
  refine ⟨?_, rfl, ?_, ?_, hi⟩
  · simp only [AvpLoop.next, handled_len, List.length_drop, length_swaps h2,
      List.drop_eq_nil_iff]
    simp only [AvpLoop.look, AvpLoop.note]
    omega
  · refine ⟨rest.drop (ALENGTH (getShort d 0) - d.length), ?_⟩
    simp only [AvpLoop.next, handled_data]
    simp only [AvpLoop.look, hrest, swaps_append h2, List.drop_append, length_swaps h2]
  · intro hn
    rw [Ne, List.drop_eq_nil_iff, length_swaps h2] at hn
    simp only [AvpLoop.next, handled_pos, List.length_drop, length_swaps h2]
    simp only [AvpLoop.look, AvpLoop.note]
    omega

end

/-- An AVP that is passed without moving the pointer is one that is skipped. -/
theorem skips_of_passed {first : Bool} {len : Int} {d : Bytes}
    (hr : ¬ Refused first len (getShort d 0) (getShort d 4))
    (hk : ALENGTH (getShort d 0) = 0) : Skips d := by
  by_cases ha : getShort d 4 > AVP_MAX
  · rw [Refused, if_pos ha, Bool.not_eq_true] at hr
    exact ⟨ha, hr, hk⟩
  · rw [Refused, if_neg ha] at hr
    exact absurd (.inr (.inr (.inl (by rw [hk]; decide)))) hr

/-- The loop returns, and all reads are inside. -/
def Safe (D : Nat) (s : AvpLoop) : Prop := ∃ r, Returns avpTurn s r ∧ Inside D r.2.reads

theorem safe_of_inr (h : avpTurn s = .inr r) : Safe D s ↔ Inside D r.2.reads := by
  simp only [Safe, returns_of_inr h, exists_eq_left]

theorem safe_of_inl {t : AvpLoop} (h : avpTurn s = .inl t) : Safe D s ↔ Safe D t := by
  simp only [Safe, returns_of_inl h]

theorem inside_of_safe (h : Safe D s) : Inside D s.reads := by
  obtain ⟨r, hr, hi⟩ := h
  by_contra hs
  exact not_inside_returns hr hs hi

theorem skips_append {d : Bytes} (hd : AVP_HDR ≤ d.length) (rest : Bytes) :
    Skips (d ++ rest) ↔ Skips d := by
  simp only [AVP_HDR] at hd
  rw [Skips, Skips, getShort_append (by omega), getShort_append (by omega)]

theorem At.not_safe {first : Bool} {d : Bytes} (h : At D first d s) (hd : AVP_HDR ≤ d.length)
    (hs : Skips d) (hs' : Skips (swaps (AVP_HDR / 2) d)) : ¬ Safe D s := by
  rintro ⟨r, hr, -⟩
  obtain ⟨rest, hrest⟩ := h.data
  have hlen : (swaps (AVP_HDR / 2) d).length = d.length := length_swaps hd
  refine not_returns_skips ?_ ?_ ?_ ?_ hr
  · have hl := h.len
    simp only [AVP_HDR] at hd
    grind
  · rw [hrest, List.length_append]
    omega
  · rw [hrest]
    exact (skips_append hd rest).mpr hs
  · rw [hrest, swaps_append hd]
    exact (skips_append (hlen.symm ▸ hd) rest).mpr hs'

/-- **The walk is safe exactly on framed bytes.** Induction along `Framed`; a header that is met
    again stands there because the AVP was skipped in the other byte order. -/
theorem safe_iff_framed (first again : Bool) (d : Bytes) (s : AvpLoop) (h : At D first d s)
    (ha : again = true → Skips (swaps (AVP_HDR / 2) d)) : Safe D s ↔ Framed first again d := by
  induction first, again, d using Framed.induct generalizing s with
  | case1 first again =>
    have hl : ¬ s.len > 0 := by
      have := h.len
      simp only [List.length_nil] at this
      omega
    have ht : avpTurn s = .inr (if s.len ≠ 0 then -1 else 0, s) := if_neg hl
    rw [safe_of_inr ht, Framed, if_pos rfl]
    exact iff_true_intro h.reads
  | case2 first again d hne hlt =>
    rw [Framed, if_neg hne, dif_pos hlt, iff_false]
    intro hsafe
    have hpos := h.pos hne
    have hl : s.len > 0 := by
      rw [h.len_eq hne]
      exact_mod_cast List.length_pos_iff.mpr hne
    -- the read of the header reaches past the end, whatever is made of it
    have hout : ¬ Inside D s.look.reads := fun hi => by
      have := (inside_look.mp hi).1
      omega
    have ht := avpTurn_eq hl
    split at ht
    · exact hout ((safe_of_inr ht).mp hsafe)
    · have hi := inside_of_safe ((safe_of_inl ht).mp hsafe)
      exact hout (inside_of_handled hi)
  | case3 first again d hne hlt hr =>
    have hd : AVP_HDR ≤ d.length := Nat.not_lt.mp hlt
    rw [safe_of_inr ((h.turn hd).trans (if_pos hr)), Framed, if_neg hne, dif_neg hlt, if_pos hr]
    exact iff_true_intro (h.inside_look hd)
  | case4 first again d hne hlt hr ihAgain ihNext =>
    have hd : AVP_HDR ≤ d.length := Nat.not_lt.mp hlt
    have ht := safe_of_inl (D := D) ((h.turn hd).trans (if_neg hr))
    rw [Framed, if_neg hne, dif_neg hlt, if_neg hr]
    by_cases hv : Valued (getShort d 0) (getShort d 4) → AVP_HDR + 2 ≤ d.length
    · have hnext := h.next hd ((h.inside_handled hd hr).mpr hv)
      by_cases hk : ALENGTH (getShort d 0) = 0
      · have hskip := skips_of_passed hr hk
        rw [dif_pos hk, and_iff_right hv]
        cases again with
        | true => exact iff_of_false (h.not_safe hd hskip (ha rfl)) id
        | false =>
          rw [hk, List.drop_zero] at hnext
          have hback : swaps (AVP_HDR / 2) (swaps (AVP_HDR / 2) d) = d := swaps_swaps hd
          exact ht.trans (ihAgain nofun _ hnext fun _ => hback.symm ▸ hskip)
      · rw [dif_neg hk, and_iff_right hv]
        exact ht.trans (ihNext hk _ hnext nofun)
    · refine iff_of_false (fun hsafe => hv ?_) (fun hf => hv hf.1)
      have hi := inside_of_safe (ht.mp hsafe)
      exact (h.inside_handled hd hr).mp hi

/-! ## 5. Datagrams -/

theorem decode_of_gt {fuel n : Nat} (h : CONTROL_HDR < n) (buffer : Bytes)
    (m : CL2TPControllMessage) :
    decode fuel buffer n m =
      (loop avpTurn fuel (avpStart buffer n { controlHdr buffer m with bzlb := false }
        [(0, CONTROL_HDR)])).map fun r => (0, r.2.msg, r.2.reads) := by
  unfold decode
  simp only [if_neg h.not_gt, if_neg h.ne']

theorem at_start {datagram : Bytes} (rest : Bytes) (m : CL2TPControllMessage)
    (h : CONTROL_HDR < datagram.length) :
    At datagram.length true (datagram.drop CONTROL_HDR)
      (avpStart (datagram ++ rest) datagram.length m [(0, CONTROL_HDR)]) where
  len := by
    simp only [avpStart, List.length_drop]
    omega
  firstavp := rfl
  data := ⟨rest, List.drop_append_of_le_length h.le⟩
  pos := fun _ => by
    simp only [avpStart, List.length_drop]
    omega
  reads := by
    simp only [avpStart, Inside, List.forall_mem_singleton]
    omega

/-- **`Decode` ends and reads inside the datagram exactly when the bytes behind the header are
    framed AVPs**, whatever the receive buffer holds behind the datagram. -/
theorem decode_safe_iff (datagram rest : Bytes) (m : CL2TPControllMessage) :
    (∃ fuel r, decode fuel (datagram ++ rest) datagram.length m = some r ∧
        ∀ read ∈ r.2.2, read.1 + read.2 ≤ datagram.length) ↔
      Framed true false (datagram.drop CONTROL_HDR) := by
  obtain hlt | heq | hgt := Nat.lt_trichotomy datagram.length CONTROL_HDR
  · rw [List.drop_eq_nil_of_le hlt.le, Framed, if_pos rfl, iff_true]
    exact ⟨0, _, if_pos hlt, by simp⟩
  · rw [List.drop_eq_nil_of_le heq.le, Framed, if_pos rfl, iff_true]
    refine ⟨0, _, (if_neg heq.not_lt).trans (if_pos heq), ?_⟩
    simp [heq]
  · rw [← safe_iff_framed true false _ _ (at_start rest _ hgt) nofun]
    simp only [decode_of_gt hgt]
    constructor
    · rintro ⟨fuel, r, hr, hi⟩
      obtain ⟨q, hq, rfl⟩ := Option.map_eq_some_iff.mp hr
      exact ⟨q, ⟨fuel, hq⟩, hi⟩
    · rintro ⟨q, ⟨fuel, hq⟩, hi⟩
      exact ⟨fuel, _, Option.map_eq_some_iff.mpr ⟨q, hq, rfl⟩, hi⟩

/-- A control message whose only AVP is optional, of an unknown attribute and of length 0; its
    header reads the same in either byte order. -/
def endless : Bytes := [0xC8, 2, 0, 18, 0, 1, 0, 0, 0, 0, 0, 0] ++ [0, 0, 0, 0, 0x40, 0x40]

/-- **A datagram of 18 bytes keeps `HandleAVPs` in its loop for ever.** -/
theorem endless_not_decoded :
    ¬ ∃ fuel r, decode fuel (endless ++ []) endless.length {} = some r ∧
        ∀ read ∈ r.2.2, read.1 + read.2 ≤ endless.length := by
  rintro ⟨fuel, r, hr, -⟩
  rw [decode_of_gt (by decide)] at hr
  obtain ⟨q, hq, -⟩ := Option.map_eq_some_iff.mp hr
  refine not_returns_skips ?_ ?_ ?_ ?_ ⟨fuel, hq⟩ <;> decide

end CL2TPControllMessage

end OpenBras
