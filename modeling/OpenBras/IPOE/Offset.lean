/-
  File:      OpenBras/IPOE/Offset.lean
  Subject:   THE OFFSET OF `marshall`: when a datagram that begins `offset` octets into the buffer
             gives the packet that it gives at the beginning of one.

  The loop and the checks look at the datagram. What is copied does not all come from there: the
  octet `hops` comes from `offset` octets further on, the values of the options and the padding
  come from `offset` octets before. So the packets agree exactly where these octets do, or where
  no packet is made (`marshall_offset_iff`).
-/
import OpenBras.IPOE.Packet

namespace OpenBras

open Wire

namespace DHCPPacket

variable (mem : Nat → Bool)

/-! ## 1. The pieces of a datagram -/

/-- Where the values of the options and the padding of a datagram lie; `none` if there is no
    memory for one of the options. -/
def pieces (p : Bytes) (length o : Nat) : Option (List (Nat × Nat)) :=
  if o ≥ length then some (paddingAt mem length o).toList
  else if byteAt p o = DHO_PAD then pieces p length (o + 1)
  else if byteAt p o = DHO_END then some (paddingAt mem length (o + 1)).toList
  else
    let len : Int := (byteAt p (o + 1)).toInt8.toInt
    if ((o + 2 : Nat) : Int) + len > length - 1 then some (paddingAt mem length (o + 2)).toList
    else if malloc mem sizeofOption && malloc mem len then
      (pieces p length (o + 2 + len.toNat)).map ((o + 2, len.toNat) :: ·)
    else none
termination_by length - o

/-- A datagram that is refused before its options are looked at. -/
def Dropped (p : Bytes) (length : Nat) : Prop :=
  length < BOOTP_ABSOLUTE_MIN_LEN ∨ length > DHCP_MAX_MTU ∨ ¬ malloc mem sizeofPacket ∨
    bytesAt p 236 4 ≠ DHCP_MAGIC_COOKIE

instance (p : Bytes) (length : Nat) : Decidable (Dropped mem p length) :=
  inferInstanceAs (Decidable (_ ∨ _ ∨ _ ∨ _))

/-- The pieces of a datagram of which a packet is made. -/
def copied (p : Bytes) (length : Nat) : Option (List (Nat × Nat)) :=
  if Dropped mem p length then none else pieces mem p length 240

/-- The two memories have the same octets in the pieces. -/
def Agree (buffer p : Bytes) (ps : Option (List (Nat × Nat))) : Prop :=
  ∀ l, ps = some l → ∀ r ∈ l, bytesAt buffer r.1 r.2 = bytesAt p r.1 r.2

section
variable {buffer p : Bytes}

theorem agree_none : Agree buffer p none := fun _ h => by cases h

theorem agree_some (l : List (Nat × Nat)) :
    Agree buffer p (some l) ↔ ∀ r ∈ l, bytesAt buffer r.1 r.2 = bytesAt p r.1 r.2 := by
  simp only [Agree, Option.some.injEq, forall_eq']

theorem agree_cons (r : Nat × Nat) (l : List (Nat × Nat)) :
    Agree buffer p ((some l).map (r :: ·)) ↔
      bytesAt buffer r.1 r.2 = bytesAt p r.1 r.2 ∧ Agree buffer p (some l) := by
  rw [Option.map_some, agree_some, agree_some, List.forall_mem_cons]

theorem agree_padding (r : Option (Nat × Nat)) :
    Agree buffer p (some r.toList) ↔
      r.map (fun r => bytesAt buffer r.1 r.2) = r.map fun r => bytesAt p r.1 r.2 := by
  cases r with
  | none => simp [agree_some]
  | some r => rw [agree_some, Option.toList_some, List.forall_mem_singleton, Option.map_some,
      Option.map_some, Option.some.injEq]

end

/-! ## 2. The loop -/

/-- What becomes of the packet behind the loop: its options and its padding. -/
def Walk.finish (buffer : Bytes) (length : Nat) (w : Walk) :
    Option (List DhcpOption × Option Bytes) :=
  w.options.map fun options =>
    (options, (paddingAt mem length w.options_offset).map fun r => bytesAt buffer r.1 r.2)

section
variable {mem} {buffer : Bytes} {offset length o : Nat}

theorem Walk.finish_note (rs : List (Nat × Nat)) (w : Walk) :
    (w.note rs).finish mem buffer length = w.finish mem buffer length := rfl

theorem Walk.finish_found (option : DhcpOption) (w : Walk) :
    (w.found option).finish mem buffer length =
      (w.finish mem buffer length).map fun r => (option :: r.1, r.2) := by
  unfold Walk.finish Walk.found
  cases w.options <;> rfl

theorem Opens.pieces (h : Opens buffer offset length o) :
    pieces mem (buffer.drop offset) length o =
      let len : Int := (byteAt buffer (offset + o + 1)).toInt8.toInt
      if ((o + 2 : Nat) : Int) + len > length - 1 then some (paddingAt mem length (o + 2)).toList
      else if malloc mem sizeofOption && malloc mem len then
        (pieces mem (buffer.drop offset) length (o + 2 + len.toNat)).map ((o + 2, len.toNat) :: ·)
      else none := by
  rw [DHCPPacket.pieces, if_neg h.lt.not_ge, byteAt_drop, byteAt_drop, if_neg h.not_pad,
    if_neg h.not_end, Nat.add_assoc]

/-- A packet is made of the options exactly if they have their pieces. -/
theorem isSome_optionLoop (buffer : Bytes) (offset : Nat) :
    (optionLoop mem buffer offset length o).options.isSome =
      (DHCPPacket.pieces mem (buffer.drop offset) length o).isSome := by
  induction hk : length - o using Nat.strong_induction_on generalizing o with
  | _ k ih =>
  obtain hge | hlt := le_or_gt length o
  · rw [optionLoop_done hge, DHCPPacket.pieces, if_pos hge]
    rfl
  obtain hpad | hend | hopen := opens_of_lt buffer offset hlt
  · rw [optionLoop_pad hlt hpad, DHCPPacket.pieces, if_neg hlt.not_ge, byteAt_drop, if_pos hpad]
    exact ih _ (by omega) rfl
  · rw [optionLoop_end hlt hend, DHCPPacket.pieces, if_neg hlt.not_ge, byteAt_drop, hend,
      if_neg (by decide), if_pos rfl]
    rfl
  · rw [hopen.loop, hopen.pieces]
    dsimp only
    split
    · rfl
    split
    · simp only [Walk.note, Walk.found, Option.isSome_map]
      exact ih _ (by omega) rfl
    · rfl

theorem isSome_finish (mem : Nat → Bool) (buffer : Bytes) (offset length o : Nat) :
    ((optionLoop mem buffer offset length o).finish mem buffer length).isSome =
      (DHCPPacket.pieces mem (buffer.drop offset) length o).isSome := by
  rw [Walk.finish, Option.isSome_map, isSome_optionLoop]

theorem finish_end (buffer p : Bytes) (o : Nat) (rs ss : List (Nat × Nat)) :
    (Walk.finish mem buffer length { options := some [], options_offset := o, reads := rs } =
        Walk.finish mem p length { options := some [], options_offset := o, reads := ss }) ↔
      Agree buffer p (some (paddingAt mem length o).toList) := by
  rw [agree_padding]
  simp only [Walk.finish, Option.map_some, Option.some.injEq, Prod.mk.injEq, true_and]

theorem found_iff {buffer p : Bytes} {a b : Option (List DhcpOption × Option Bytes)}
    {ps : Option (List (Nat × Nat))} (ha : a.isSome = ps.isSome) (hb : b.isSome = ps.isSome)
    (h : a = b ↔ Agree buffer p ps) (code : UInt8) (r : Nat × Nat) :
    (a.map (fun x => ({ code, value := bytesAt buffer r.1 r.2 } :: x.1, x.2)) =
        b.map fun x => ({ code, value := bytesAt p r.1 r.2 } :: x.1, x.2)) ↔
      Agree buffer p (ps.map (r :: ·)) := by
  cases ps with
  | none =>
    rw [Option.isSome_none, Option.isSome_eq_false_iff, Option.isNone_iff_eq_none] at ha hb
    rw [ha, hb]
    exact iff_of_true rfl agree_none
  | some l =>
    obtain ⟨x, rfl⟩ := Option.isSome_iff_exists.mp ha
    obtain ⟨y, rfl⟩ := Option.isSome_iff_exists.mp hb
    rw [agree_cons, ← h]
    simp only [Option.map_some, Option.some.injEq, Prod.ext_iff, List.cons.injEq,
      DhcpOption.mk.injEq, true_and, and_assoc]

/-- **The loop and the pieces**: what is made of the options is the same exactly if the two
    memories have the same octets in the pieces. -/
theorem finish_offset_iff (buffer : Bytes) (offset : Nat) :
    ((optionLoop mem buffer offset length o).finish mem buffer length =
        (optionLoop mem (buffer.drop offset) 0 length o).finish mem (buffer.drop offset) length) ↔
      Agree buffer (buffer.drop offset) (DHCPPacket.pieces mem (buffer.drop offset) length o) := by
  induction hk : length - o using Nat.strong_induction_on generalizing o with
  | _ k ih =>
  have hbyte : ∀ i, byteAt (buffer.drop offset) (0 + i) = byteAt buffer (offset + i) := by
    intro i
    rw [Nat.zero_add, byteAt_drop]
  obtain hge | hlt := le_or_gt length o
  · rw [optionLoop_done hge, optionLoop_done hge, DHCPPacket.pieces, if_pos hge]
    exact finish_end buffer _ o [] []
  obtain hpad | hend | hopen := opens_of_lt buffer offset hlt
  · rw [optionLoop_pad hlt hpad, optionLoop_pad hlt ((hbyte o).trans hpad), Walk.finish_note,
      Walk.finish_note, DHCPPacket.pieces, if_neg hlt.not_ge, byteAt_drop, if_pos hpad]
    exact ih _ (by omega) rfl
  · rw [optionLoop_end hlt hend, optionLoop_end hlt ((hbyte o).trans hend), DHCPPacket.pieces,
      if_neg hlt.not_ge, byteAt_drop, hend, if_neg (by decide), if_pos rfl]
    exact finish_end buffer _ (o + 1) _ _
  · have hopen' : Opens (buffer.drop offset) 0 length o :=
      ⟨hlt, (hbyte o).trans_ne hopen.not_pad, (hbyte o).trans_ne hopen.not_end⟩
    rw [hopen.loop, hopen'.loop, hopen.pieces]
    dsimp only
    rw [Nat.add_assoc 0 o 1, hbyte, hbyte, ← Nat.add_assoc]
    split
    · exact finish_end buffer _ (o + 2) _ _
    split
    · rw [Walk.finish_note, Walk.finish_note, Walk.finish_found, Walk.finish_found]
      refine found_iff (isSome_finish mem buffer offset length _) ?_ (ih _ (by omega) rfl) _
        (o + 2, _)
      rw [isSome_finish, List.drop_zero]
    · exact iff_of_true rfl agree_none

/-! ## 3. The packet -/

theorem bytesAt_drop (p : Bytes) (i j n : Nat) : bytesAt (p.drop i) j n = bytesAt p (i + j) n := by
  refine List.map_congr_left fun k _ => ?_
  rw [byteAt_drop, Nat.add_assoc]

theorem marshall_fst (mem : Nat → Bool) (buffer : Bytes) (offset length : Nat) :
    (marshall mem buffer offset length).1 =
      if Dropped mem (buffer.drop offset) length then none
      else
        ((optionLoop mem buffer offset length 240).finish mem buffer length).map fun r =>
          { staticPart buffer offset with options := r.1, padding := r.2 } := by
  have hdrop : Dropped mem (buffer.drop offset) length ↔
      length < BOOTP_ABSOLUTE_MIN_LEN ∨ length > DHCP_MAX_MTU ∨ ¬ malloc mem sizeofPacket ∨
        bytesAt buffer (offset + 236) 4 ≠ DHCP_MAGIC_COOKIE := by
    rw [Dropped, bytesAt_drop]
  unfold marshall
  by_cases hmin : length < BOOTP_ABSOLUTE_MIN_LEN
  · rw [if_pos hmin, if_pos (hdrop.mpr (.inl hmin))]
  by_cases hmax : length > DHCP_MAX_MTU
  · rw [if_neg hmin, if_pos hmax, if_pos (hdrop.mpr (.inr (.inl hmax)))]
  by_cases hmem : ¬ malloc mem sizeofPacket = true
  · rw [if_neg hmin, if_neg hmax, if_pos hmem, if_pos (hdrop.mpr (.inr (.inr (.inl hmem))))]
  by_cases hcookie : bytesAt buffer (offset + 236) 4 ≠ DHCP_MAGIC_COOKIE
  · rw [if_neg hmin, if_neg hmax, if_neg hmem, if_pos hcookie,
      if_pos (hdrop.mpr (.inr (.inr (.inr hcookie))))]
  have hkept : ¬ Dropped mem (buffer.drop offset) length := by
    rw [hdrop]
    tauto
  rw [if_neg hmin, if_neg hmax, if_neg hmem, if_neg hcookie, if_neg hkept, Walk.finish]
  dsimp only
  cases (optionLoop mem buffer offset length 240).options with
  | none => rfl
  | some options => rfl

/-- Only `hops` is not taken from the datagram. -/
theorem staticPart_offset (buffer : Bytes) (offset : Nat) :
    staticPart buffer offset =
      { staticPart (buffer.drop offset) 0 with hops := byteAt buffer (offset + offset + 3) } := by
  simp only [staticPart, byteAt_drop, bytesAt_drop, Nat.zero_add, Nat.add_zero]

/-- **The packets are the same exactly where the octets are**: a packet is not made, or `hops` and
    the octets of the option values and of the padding stand where they are copied from. -/
theorem marshall_offset_iff (mem : Nat → Bool) (buffer : Bytes) (offset length : Nat) :
    (marshall mem buffer offset length).1 = (marshall mem (buffer.drop offset) 0 length).1 ↔
      ∀ ps, copied mem (buffer.drop offset) length = some ps →
        byteAt buffer (offset + offset + 3) = byteAt buffer (offset + 3) ∧
          ∀ r ∈ ps, bytesAt buffer r.1 r.2 = bytesAt buffer (offset + r.1) r.2 := by
  rw [marshall_fst, marshall_fst, List.drop_zero, copied]
  by_cases hdrop : Dropped mem (buffer.drop offset) length
  · rw [if_pos hdrop, if_pos hdrop, if_pos hdrop]
    exact iff_of_true rfl fun _ h => by cases h
  rw [if_neg hdrop, if_neg hdrop, if_neg hdrop]
  have hloop : _ ↔ Agree buffer (buffer.drop offset) (pieces mem (buffer.drop offset) length 240) :=
    finish_offset_iff buffer offset
  have hb := isSome_finish mem buffer offset length 240
  have hp := isSome_finish mem (buffer.drop offset) 0 length 240
  rw [List.drop_zero] at hp
  cases hps : pieces mem (buffer.drop offset) length 240 with
  | none =>
    rw [hps, Option.isSome_none, Option.isSome_eq_false_iff, Option.isNone_iff_eq_none] at hb hp
    rw [hb, hp]
    exact iff_of_true rfl fun _ h => by cases h
  | some l =>
    rw [hps] at hb hp hloop
    obtain ⟨x, hx⟩ := Option.isSome_iff_exists.mp hb
    obtain ⟨y, hy⟩ := Option.isSome_iff_exists.mp hp
    rw [hx, hy, agree_some] at hloop
    simp only [bytesAt_drop, Option.some.injEq] at hloop
    have hhops : (staticPart (buffer.drop offset) 0).hops = byteAt buffer (offset + 3) :=
      byteAt_drop buffer offset 3
    rw [hx, hy, staticPart_offset, ← hhops]
    simp only [Option.map_some, Option.some.injEq, DhcpDatagram.mk.injEq, DhcpPacket.mk.injEq,
      true_and, forall_eq', ← hloop, Prod.ext_iff, and_assoc]

/-- Four octets before a DHCPDISCOVER. -/
def behindFour : Bytes :=
  [1, 2, 3, 4] ++ List.replicate 236 0 ++ DHCP_MAGIC_COOKIE ++ [53, 1, DHCP_DISCOVER, DHO_END]

/-- **Four octets into the buffer, the message type is an octet of the cookie.** -/
theorem marshall_offset_four :
    (marshall (fun _ => true) behindFour 4 244).1.map (·.options) =
        some [{ code := 53, value := [0x53] }] ∧
      (marshall (fun _ => true) (behindFour.drop 4) 0 244).1.map (·.options) =
        some [{ code := 53, value := [DHCP_DISCOVER] }] := by
  constructor <;> decide +kernel

end

end DHCPPacket

end OpenBras
