/-
  File:      OpenBras/L2TP/DataMessages.lean
  Subject:   WHERE THE FIELDS OF A DATA MESSAGE STAND, AND WHERE THE CODE READS THEM.

  RFC 2661, section 3.1: behind the flags stand up to six fields of two bytes each, in a fixed
  order, and a field that is not there takes no room. The offset size says how many bytes of
  padding stand between the header and the payload.

  1. `HdrField.position`-- the place of a field under given flags; `value`, `payloadAt`.
  2. `Right`             -- the decoded message holds the fields and the payload of the datagram.
  3. Round trip          -- messages built from fields are decoded to the same fields.

  `Decode` reads the two ids only under the Length or the Sequence bit, counts the offset size
  into the header but never the padding, and trusts the announced length to cover the header.
-/
import OpenBras.L2TP.Tunnel
import OpenBras.Lib.Fields

namespace OpenBras

open Wire
open CL2TPControllMessage (VER_L2TP LBIT FBIT)

namespace CL2TPDataMessage

/-! ## 1. The header of RFC 2661 -/

/-- The fields behind the flags. -/
inductive HdrField where
  | length | tid | cid | Ns | Nr | offsetSize
  deriving DecidableEq, Repr

namespace HdrField

/-- The fields in their order. -/
def order : List HdrField := [.length, .tid, .cid, .Ns, .Nr, .offsetSize]

/-- Do the flags announce the field? -/
def present (ver : UInt16) : HdrField → Bool
  | .length => PLBIT ver
  | .tid | .cid => true
  | .Ns | .Nr => PFBIT ver
  | .offsetSize => PSBIT ver

/-- A field stands behind the flags and behind the fields before it that are there. -/
def position (ver : UInt16) (f : HdrField) : Nat :=
  2 + 2 * (order.takeWhile (· != f)).countP (present ver)

/-- The value of a field in a datagram, 0 for one that is not there. -/
def value (d : Bytes) (f : HdrField) : UInt16 :=
  if present (getShort d 0) f then getShort d (position (getShort d 0) f) else 0

end HdrField

open HdrField

/-- The size of the header under given flags. -/
def headerSize (ver : UInt16) : Nat := 2 + 2 * order.countP (present ver)

/-- Where the payload of a datagram begins: behind the header and the padding. -/
def payloadAt (d : Bytes) : Nat := headerSize (getShort d 0) + (value d .offsetSize).toNat

variable (ver : UInt16) (v : HdrField → UInt16) (f l : Bool)

theorem headerSize_eq_ehlen : headerSize ver = ehlen ver := by
  rw [headerSize, ehlen]
  cases hl : PLBIT ver <;> cases hs : PFBIT ver <;> cases ho : PSBIT ver <;>
    simp [order, List.countP_cons, present, hl, hs, ho, MIN_PAYLOAD_HDR_LEN]

theorem positions :
    position ver .tid = (if PLBIT ver then 4 else 2) ∧
      position ver .cid = (if PLBIT ver then 6 else 4) ∧
      position ver .Ns = (if PLBIT ver then 8 else 6) ∧
      (PFBIT ver → position ver .Nr = if PLBIT ver then 10 else 8) := by
  cases hl : PLBIT ver <;> cases hs : PFBIT ver <;>
    simp [position, order, List.countP_cons, present, hl, hs]

/-! ## 2. What the decoded message holds -/

/-- The message holds the fields of the datagram, and its payload is what stands behind header
    and padding, inside the datagram. -/
structure Right (d : Bytes) (m : CL2TPDataMessage) : Prop where
  tid : m.tid = value d .tid
  cid : m.cid = value d .cid
  Ns : m.Ns = value d .Ns
  Nr : m.Nr = value d .Nr
  inside : payloadAt d ≤ d.length
  size : m.payloadsize = d.length - payloadAt d
  payload : m.payload.take m.payloadsize = d.drop (payloadAt d)

/-- The ids are read: under either bit, or because the message held them before. -/
def IdsRead (d : Bytes) (m : CL2TPDataMessage) : Prop :=
  PLBIT (getShort d 0) ∨ PFBIT (getShort d 0) ∨ m.tid = value d .tid ∧ m.cid = value d .cid

theorem payloadHdr_append {d : Bytes} (hin : headerSize (getShort d 0) ≤ d.length) (rest : Bytes)
    (m : CL2TPDataMessage) : payloadHdr (d ++ rest) m = payloadHdr d m := by
  rw [headerSize_eq_ehlen, ehlen, MIN_PAYLOAD_HDR_LEN] at hin
  have hread : ∀ i, i + 1 < d.length → getShort (d ++ rest) i = getShort d i :=
    fun i hi => getShort_append hi rest
  rw [payloadHdr, payloadHdr, hread 0 (by omega)]
  cases hl : PLBIT (getShort d 0) <;> cases hs : PFBIT (getShort d 0) <;>
    simp only [hl, hs, if_true, if_false, Bool.false_eq_true] at hin ⊢
  · rw [hread 2 (by omega), hread 4 (by omega), hread 6 (by omega), hread 8 (by omega)]
  · rw [hread 2 (by omega), hread 4 (by omega), hread 6 (by omega)]
  · rw [hread 2 (by omega), hread 4 (by omega), hread 6 (by omega), hread 8 (by omega),
      hread 10 (by omega)]

theorem payloadHdr_seq (d : Bytes) (m : CL2TPDataMessage) :
    (payloadHdr d m).Ns = value d .Ns ∧ (payloadHdr d m).Nr = value d .Nr := by
  obtain ⟨-, -, hns, hnr⟩ := positions (getShort d 0)
  rw [value, value, hns, payloadHdr]
  cases hl : PLBIT (getShort d 0) <;> cases hs : PFBIT (getShort d 0) <;>
    simp [present, hl, hs, hnr]

theorem payloadHdr_ids_iff (d : Bytes) (m : CL2TPDataMessage) :
    ((payloadHdr d m).tid = value d .tid ∧ (payloadHdr d m).cid = value d .cid) ↔
      IdsRead d m := by
  obtain ⟨hpt, hpc, -, -⟩ := positions (getShort d 0)
  have htid : value d .tid = getShort d (if PLBIT (getShort d 0) then 4 else 2) := by
    rw [← hpt]
    rfl
  have hcid : value d .cid = getShort d (if PLBIT (getShort d 0) then 6 else 4) := by
    rw [← hpc]
    rfl
  rw [IdsRead, htid, hcid, payloadHdr]
  cases PLBIT (getShort d 0) <;> cases PFBIT (getShort d 0) <;> simp

/-- The message that an accepted datagram of `n` bytes leaves. -/
def decoded (buffer : Bytes) (n : Nat) (m : CL2TPDataMessage) : CL2TPDataMessage :=
  { payloadHdr buffer m with
    payload := buffer.drop (headerSize (getShort buffer 0)),
    payloadsize := (n + 2 ^ 64 - headerSize (getShort buffer 0)) % 2 ^ 64 }

/-- What `Decode` asks of a datagram of `n` bytes. The header's size is compared with `n` only if
    the datagram does not announce its length. -/
structure Accepted (buffer : Bytes) (n : Nat) : Prop where
  minimum : MIN_PAYLOAD_HDR_LEN ≤ n
  data : ¬ PTBIT (getShort buffer 0)
  version : PVER (getShort buffer 0) = VER_L2TP
  announced : PLBIT (getShort buffer 0) → n = (getShort buffer 2).toNat
  header : ¬ PLBIT (getShort buffer 0) → headerSize (getShort buffer 0) ≤ n

theorem decode_of_accepted {buffer : Bytes} {n : Nat} (h : Accepted buffer n)
    (m : CL2TPDataMessage) : decode buffer n m = (0, decoded buffer n m) := by
  have hhdr := h.header
  rw [decoded, decode]
  rw [headerSize_eq_ehlen] at hhdr ⊢
  dsimp only
  rw [if_neg (Nat.not_lt_of_le h.minimum), if_neg h.data, if_neg (not_not_intro h.version),
    if_neg (fun hl => hl.1 (h.announced hl.2)),
    if_neg (fun hs => Nat.not_le_of_lt hs.1 (hhdr hs.2))]

theorem decode_ok_iff {buffer : Bytes} {n : Nat} {m : CL2TPDataMessage} :
    (decode buffer n m).1 = 0 ↔ Accepted buffer n := by
  constructor
  · intro hok
    rw [decode] at hok
    dsimp only at hok
    split_ifs at hok with hmin hdata hver hlen hhdr
    iterate 5 exact absurd hok (by simp)
    exact ⟨Nat.le_of_not_lt hmin, hdata, not_not.mp hver,
      fun hl => by_contra fun hn => hlen ⟨hn, hl⟩,
      fun hl => by rw [headerSize_eq_ehlen]; exact Nat.le_of_not_lt fun hn => hhdr ⟨hn, hl⟩⟩
  · intro h
    rw [decode_of_accepted h]

theorem payload_right_iff {d : Bytes} (hd : d.length < 2 ^ 64)
    (hin : headerSize (getShort d 0) ≤ d.length) (rest : Bytes) :
    (payloadAt d ≤ d.length ∧
        (d.length + 2 ^ 64 - headerSize (getShort d 0)) % 2 ^ 64 = d.length - payloadAt d ∧
        ((d ++ rest).drop (headerSize (getShort d 0))).take
            ((d.length + 2 ^ 64 - headerSize (getShort d 0)) % 2 ^ 64) =
          d.drop (payloadAt d)) ↔
      value d .offsetSize = 0 := by
  have hsize : (d.length + 2 ^ 64 - headerSize (getShort d 0)) % 2 ^ 64 =
      d.length - headerSize (getShort d 0) := by omega
  have hzero : value d .offsetSize = 0 ↔ (value d .offsetSize).toNat = 0 :=
    ⟨fun h => by rw [h]; rfl, fun h => UInt16.toNat_inj.mp h⟩
  rw [hsize, hzero]
  constructor
  · -- the size alone tells whether padding was skipped
    rintro ⟨hinside, hlen, -⟩
    rw [payloadAt] at hinside hlen
    omega
  · intro hpad
    have hat : payloadAt d = headerSize (getShort d 0) := by rw [payloadAt, hpad, Nat.add_zero]
    rw [hat]
    refine ⟨hin, rfl, ?_⟩
    rw [List.drop_append_of_le_length hin, ← List.length_drop, List.take_left]

theorem decoded_right_iff {d : Bytes} (hd : d.length < 2 ^ 64) (hmin : 6 ≤ d.length)
    (rest : Bytes) (m : CL2TPDataMessage) :
    Right d (decoded (d ++ rest) d.length m) ↔
      IdsRead d m ∧ headerSize (getShort d 0) ≤ d.length ∧ value d .offsetSize = 0 := by
  have hver : getShort (d ++ rest) 0 = getShort d 0 := getShort_append (by omega) rest
  rw [decoded, hver]
  constructor
  · intro h
    have hin : headerSize (getShort d 0) ≤ d.length :=
      Nat.le_trans (Nat.le_add_right _ _) h.inside
    have hids := (payloadHdr_ids_iff d m).mp
      (by rw [← payloadHdr_append hin rest m]; exact ⟨h.tid, h.cid⟩)
    exact ⟨hids, hin, (payload_right_iff hd hin rest).mp ⟨h.inside, h.size, h.payload⟩⟩
  · rintro ⟨hids, hin, hpad⟩
    obtain ⟨htid, hcid⟩ := (payloadHdr_ids_iff d m).mpr hids
    obtain ⟨hns, hnr⟩ := payloadHdr_seq d m
    obtain ⟨hinside, hsize, hpayload⟩ := (payload_right_iff hd hin rest).mpr hpad
    rw [payloadHdr_append hin rest m]
    exact ⟨htid, hcid, hns, hnr, hinside, hsize, hpayload⟩

/-- For every accepted datagram the message holds what RFC 2661 puts there, exactly if the ids
    are read, the header lies inside the datagram and no padding follows it. -/
theorem decode_right_iff (d rest : Bytes) (m : CL2TPDataMessage) (hd : d.length < 2 ^ 64)
    (hok : (decode (d ++ rest) d.length m).1 = 0) :
    Right d (decode (d ++ rest) d.length m).2 ↔
      IdsRead d m ∧ headerSize (getShort d 0) ≤ d.length ∧ value d .offsetSize = 0 := by
  have hacc := decode_ok_iff.mp hok
  rw [decode_of_accepted hacc]
  exact decoded_right_iff hd hacc.minimum rest m

/-- All three parts at once: length and sequence numbers, an offset size of 0, two bytes of
    payload, and other bytes behind the datagram. -/
theorem decode_right_full :
    Right [0x4A, 0x02, 0, 16, 0, 1, 0, 2, 0, 3, 0, 4, 0, 0, 0xAA, 0xBB]
      (decode ([0x4A, 0x02, 0, 16, 0, 1, 0, 2, 0, 3, 0, 4, 0, 0, 0xAA, 0xBB] ++ [9, 9]) 16 {}).2 :=
  (decode_right_iff [0x4A, 0x02, 0, 16, 0, 1, 0, 2, 0, 3, 0, 4, 0, 0, 0xAA, 0xBB] [9, 9] {}
    (by decide) (by decide)).mpr ⟨.inl (by decide), by decide, by decide⟩

/-- Three accepted datagrams that are read wrongly: bare ids 1 and 2, which become 0; a byte of
    padding, which becomes payload; a length of 6 under flags whose header takes 8 bytes, which
    gives a payload of 2^64 - 2 bytes. -/
theorem decode_misread :
    ((decode [0, 2, 0, 1, 0, 2, 0xAA] 7 {}).1 = 0 ∧
        (decode [0, 2, 0, 1, 0, 2, 0xAA] 7 {}).2.tid = 0 ∧
        ¬ Right [0, 2, 0, 1, 0, 2, 0xAA] (decode [0, 2, 0, 1, 0, 2, 0xAA] 7 {}).2) ∧
      ((decode [0x0A, 2, 0, 1, 0, 2, 0, 3, 0, 4, 0, 1, 0, 0xAA] 14 {}).1 = 0 ∧
        ¬ Right [0x0A, 2, 0, 1, 0, 2, 0, 3, 0, 4, 0, 1, 0, 0xAA]
          (decode [0x0A, 2, 0, 1, 0, 2, 0, 3, 0, 4, 0, 1, 0, 0xAA] 14 {}).2) ∧
      (decode [0x40, 2, 0, 6, 0, 1] 6 {}).1 = 0 ∧
        (decode [0x40, 2, 0, 6, 0, 1] 6 {}).2.payloadsize = 2 ^ 64 - 2 ∧
        ¬ Right [0x40, 2, 0, 6, 0, 1] (decode [0x40, 2, 0, 6, 0, 1] 6 {}).2 :=
  ⟨⟨by decide, by decide, fun h => absurd h.tid (by decide)⟩,
    ⟨by decide, fun h => absurd h.size (by decide)⟩,
    by decide, by decide, fun h => absurd h.inside (by decide)⟩

/-! ## 3. Messages built from fields -/

/-- The header with the given flags and field values. -/
def header (ver : UInt16) (v : HdrField → UInt16) : Bytes :=
  putShort ver ++ ((order.filter (present ver)).map fun f => putShort (v f)).flatten

theorem length_putShorts (fs : List HdrField) :
    ((fs.map fun f => putShort (v f)).flatten).length = 2 * fs.length := by
  induction fs with
  | nil => rfl
  | cons f fs ih =>
    rw [List.map_cons, List.flatten_cons, List.length_append, ih, List.length_cons]
    change 2 + 2 * fs.length = 2 * (fs.length + 1)
    omega

theorem length_header : (header ver v).length = headerSize ver := by
  rw [header, List.length_append, length_putShorts, ← List.countP_eq_length_filter]
  rfl

theorem getShort_header_flags (q : Bytes) : getShort (header ver v ++ q) 0 = ver := by
  rw [header, List.append_assoc, getShort_putShort]

theorem getShort_header {ver : UInt16} {f : HdrField} (hf : present ver f)
    (v : HdrField → UInt16) (q : Bytes) :
    getShort (header ver v ++ q) (position ver f) = v f := by
  obtain ⟨fs, hfs⟩ : ∃ fs, order = order.takeWhile (· != f) ++ f :: fs := by
    cases f <;> exact ⟨_, rfl⟩
  -- the header, cut before the field
  let front := putShort ver ++
    (((order.takeWhile (· != f)).filter (present ver)).map fun f => putShort (v f)).flatten
  have hfront : front.length = position ver f := by
    rw [position, List.countP_eq_length_filter, ← length_putShorts v, List.length_append]
    rfl
  have hcut : header ver v = front ++ (putShort (v f) ++
      ((fs.filter (present ver)).map fun f => putShort (v f)).flatten) := by
    rw [header, hfs, List.filter_append, List.filter_cons_of_pos hf, List.map_append,
      List.map_cons, List.flatten_append, List.flatten_cons, ← List.append_assoc]
  have hdrop := getShort_drop (header ver v ++ q) (position ver f) 0
  rw [Nat.add_zero] at hdrop
  rw [← hdrop, hcut, ← hfront, List.append_assoc, List.drop_left, List.append_assoc,
    getShort_putShort]

theorem value_header (q : Bytes) (f : HdrField) :
    value (header ver v ++ q) f = if present ver f then v f else 0 := by
  rw [value, getShort_header_flags]
  by_cases hf : present ver f = true
  · rw [if_pos hf, if_pos hf, getShort_header hf]
  · rw [if_neg hf, if_neg hf]

/-- The datagram is decoded, by a fresh message and whatever stands behind it in memory, to these
    ids, sequence numbers and payload. -/
structure Recovered (d rest : Bytes) (tid cid ns nr : UInt16) (data : Bytes) : Prop where
  accepted : (decode (d ++ rest) d.length {}).1 = 0
  tid : (decode (d ++ rest) d.length {}).2.tid = tid
  cid : (decode (d ++ rest) d.length {}).2.cid = cid
  Ns : (decode (d ++ rest) d.length {}).2.Ns = ns
  Nr : (decode (d ++ rest) d.length {}).2.Nr = nr
  size : (decode (d ++ rest) d.length {}).2.payloadsize = data.length
  payload : (decode (d ++ rest) d.length {}).2.payload.take data.length = data

/-- What the flags of a message that is built here have in common. -/
structure Plain (ver : UInt16) : Prop where
  data : ¬ PTBIT ver
  version : PVER ver = VER_L2TP
  bare : ¬ present ver .offsetSize

section built

variable {ver : UInt16} (hplain : Plain ver) (v : HdrField → UInt16) (data rest : Bytes)

include hplain

theorem payloadAt_header : payloadAt (header ver v ++ data) = headerSize ver := by
  rw [payloadAt, getShort_header_flags, value_header, if_neg hplain.bare]
  rfl

theorem accepted_header_iff :
    Accepted (header ver v ++ data ++ rest) (header ver v ++ data).length ↔
      (PLBIT ver → headerSize ver + data.length = (v .length).toNat) := by
  have hver : getShort (header ver v ++ data ++ rest) 0 = ver := by
    rw [List.append_assoc, getShort_header_flags]
  have hlen : (header ver v ++ data).length = headerSize ver + data.length := by
    rw [List.length_append, length_header]
  have hann : PLBIT ver → getShort (header ver v ++ data ++ rest) 2 = v .length := fun hl => by
    have hpresent : present ver .length := hl
    have hread := getShort_header hpresent v (data ++ rest)
    rw [← List.append_assoc] at hread
    exact hread
  rw [hlen]
  constructor
  · intro h hl
    rw [← hann hl]
    exact h.announced (by rw [hver]; exact hl)
  · intro h
    refine ⟨?_, by rw [hver]; exact hplain.data, by rw [hver]; exact hplain.version,
      fun hl => ?_, fun _ => by rw [hver]; exact Nat.le_add_right _ _⟩
    · rw [headerSize_eq_ehlen, ehlen]
      omega
    · rw [hver] at hl
      rw [hann hl, h hl]

theorem recovered_iff_right :
    Recovered (header ver v ++ data) rest (v .tid) (v .cid) (if PFBIT ver then v .Ns else 0)
        (if PFBIT ver then v .Nr else 0) data ↔
      Accepted (header ver v ++ data ++ rest) (header ver v ++ data).length ∧
        Right (header ver v ++ data)
          (decoded (header ver v ++ data ++ rest) (header ver v ++ data).length {}) := by
  have hat := payloadAt_header hplain v data
  have hvalue := value_header ver v data
  have hlen : (header ver v ++ data).length = headerSize ver + data.length := by
    rw [List.length_append, length_header]
  have hsize : (header ver v ++ data).length - headerSize ver = data.length := by omega
  have hdrop : (header ver v ++ data).drop (headerSize ver) = data := by
    rw [← length_header ver v, List.drop_left]
  constructor
  · rintro ⟨hok, htid, hcid, hns, hnr, hn, hp⟩
    have hacc := decode_ok_iff.mp hok
    rw [decode_of_accepted hacc] at htid hcid hns hnr hn hp
    refine ⟨hacc, htid.trans (hvalue .tid).symm, hcid.trans (hvalue .cid).symm,
      hns.trans (hvalue .Ns).symm, hnr.trans (hvalue .Nr).symm, by omega, ?_, ?_⟩
    · rw [hat, hsize]
      exact hn
    · rw [hat, hdrop, hn]
      exact hp
  · rintro ⟨hacc, h⟩
    have hn := h.size
    have hp := h.payload
    rw [hat, hsize] at hn
    rw [hat, hdrop, hn] at hp
    refine ⟨decode_ok_iff.mpr hacc, ?_, ?_, ?_, ?_, ?_, ?_⟩ <;> rw [decode_of_accepted hacc]
    · exact h.tid.trans (hvalue .tid)
    · exact h.cid.trans (hvalue .cid)
    · exact h.Ns.trans (hvalue .Ns)
    · exact h.Nr.trans (hvalue .Nr)
    · exact hn
    · exact hp

/-- A message built from fields is recovered exactly if the length it announces is its own and the
    ids are not both left to chance. -/
theorem header_recovered_iff (hd : headerSize ver + data.length < 2 ^ 64) :
    Recovered (header ver v ++ data) rest (v .tid) (v .cid) (if PFBIT ver then v .Ns else 0)
        (if PFBIT ver then v .Nr else 0) data ↔
      (PLBIT ver → headerSize ver + data.length = (v .length).toNat) ∧
        (PLBIT ver ∨ PFBIT ver ∨ v .tid = 0 ∧ v .cid = 0) := by
  have hlen : (header ver v ++ data).length = headerSize ver + data.length := by
    rw [List.length_append, length_header]
  have hmin : 6 ≤ headerSize ver := by
    rw [headerSize_eq_ehlen, ehlen, MIN_PAYLOAD_HDR_LEN]
    omega
  have hids : IdsRead (header ver v ++ data) {} ↔
      (PLBIT ver ∨ PFBIT ver ∨ v .tid = 0 ∧ v .cid = 0) := by
    rw [IdsRead, getShort_header_flags, value_header, value_header]
    exact or_congr_right (or_congr_right (and_congr eq_comm eq_comm))
  rw [recovered_iff_right hplain, accepted_header_iff hplain,
    decoded_right_iff (by omega) (by omega), hids, getShort_header_flags, value_header,
    if_neg hplain.bare, hlen]
  exact and_congr_right fun _ => ⟨fun h => h.1, fun h => ⟨h, Nat.le_add_right _ _, rfl⟩⟩

end built

/-! ## 4. `AddPayloadHdr` and `SendData` -/

/-- A flag as `AddPayloadHdr` takes it: its bit, or nothing. -/
def flag (bit : UInt16) (b : Bool) : UInt32 := if b then bit.toUInt32 else 0

/-- The flags word that is written. -/
def flags (f l : Bool) : UInt16 := (flag FBIT f ||| flag LBIT l ||| VER_L2TP.toUInt32).toUInt16

theorem flags_plain : Plain (flags f l) := by
  cases f <;> cases l <;> exact ⟨by decide, by decide, by decide⟩

@[simp] theorem PFBIT_flags : PFBIT (flags f l) = f := by
  cases f <;> cases l <;> rfl

@[simp] theorem PLBIT_flags : PLBIT (flags f l) = l := by
  cases f <;> cases l <;> rfl

theorem hdrsize_flags : hdrsize (flag FBIT f) (flag LBIT l) = headerSize (flags f l) := by
  cases f <;> cases l <;> rfl

/-- The values of the fields, without an offset. -/
def fields (length tid cid ns nr : UInt16) : HdrField → UInt16
  | .length => length
  | .tid => tid
  | .cid => cid
  | .Ns => ns
  | .Nr => nr
  | .offsetSize => 0

theorem addPayloadHdr_eq (buffer : Bytes) (f l : Bool) (tid cid ns nr : UInt16) (data : Bytes)
    (hfit : headerSize (flags f l) + data.length ≤ buffer.length) :
    addPayloadHdr buffer (flag FBIT f) (flag LBIT l) tid cid ns nr data =
      some (headerSize (flags f l) + data.length,
        header (flags f l) (fields buffer.length.toUInt16 tid cid ns nr) ++ data ++
          buffer.drop (headerSize (flags f l) + data.length)) := by
  let v := fields buffer.length.toUInt16 tid cid ns nr
  let pieces := putShort (flags f l) ::
    (((order.filter (present (flags f l))).map fun f => putShort (v f)) ++ [data])
  have hpieces : pieces.flatten = header (flags f l) v ++ data := by
    rw [List.flatten_cons, List.flatten_append, List.flatten_singleton, ← List.append_assoc]
    rfl
  have hwritten := putFields_eq pieces [] buffer
  rw [hpieces, List.nil_append, List.nil_append, List.length_append, length_header] at hwritten
  rw [← hwritten, addPayloadHdr, hdrsize_flags, if_neg (Nat.not_lt_of_le hfit)]
  cases f <;> cases l <;> rfl

/-- The datagram of `CL2TPSession::SendData` announces its own length and has both ids. -/
theorem sendData_recovered (tid cid : UInt16) (data rest : Bytes)
    (hsize : 8 + data.length ≤ MAX_RECV_SIZE) :
    Recovered (putShort (LBIT ||| VER_L2TP) ++ putShort (8 + data.length).toUInt16 ++
      putShort tid ++ putShort cid ++ data) rest tid cid 0 0 data := by
  have hmax : MAX_RECV_SIZE = 4096 := rfl
  have himage : putShort (LBIT ||| VER_L2TP) ++ putShort (8 + data.length).toUInt16 ++
      putShort tid ++ putShort cid ++ data =
      header (flags false true) (fields (8 + data.length).toUInt16 tid cid 0 0) ++ data := rfl
  have hlen : ((8 + data.length).toUInt16).toNat = 8 + data.length :=
    UInt16.toNat_ofNat_of_lt (Nat.lt_of_le_of_lt hsize (by decide))
  have hhdr : headerSize (flags false true) = 8 := rfl
  rw [himage]
  exact (header_recovered_iff (flags_plain false true) _ data rest (by omega)).mpr
    ⟨fun _ => hlen.symm, .inl rfl⟩

/-- What `AddPayloadHdr` writes is decoded again exactly if the buffer's size, which it announces,
    is the message's (modulo 2^16), and if the flags are not both absent or the ids are 0. What
    `SendData` sends is decoded in every case. -/
theorem payload_recovered_iff (buffer data rest : Bytes) (f l : Bool) (tid cid ns nr : UInt16)
    (hfit : headerSize (flags f l) + data.length ≤ buffer.length)
    (hbuf : buffer.length < 2 ^ 31) :
    (∃ n out,
        addPayloadHdr buffer (flag FBIT f) (flag LBIT l) tid cid ns nr data = some (n, out) ∧
        (Recovered (out.take n) rest tid cid (if f then ns else 0) (if f then nr else 0) data ↔
          (l → headerSize (flags f l) + data.length = buffer.length % 2 ^ 16) ∧
            (l ∨ f ∨ tid = 0 ∧ cid = 0))) ∧
      ∀ (t : CL2TPTunnel) (call : UInt16) (s : CL2TPSession), t.sessions call = some s →
        8 + data.length ≤ MAX_RECV_SIZE →
        ∃ d, t.sessionSendData call data = [.sendData d] ∧
          Recovered d rest t.peertid s.peercid 0 0 data := by
  constructor
  · refine ⟨_, _, addPayloadHdr_eq buffer f l tid cid ns nr data hfit, ?_⟩
    have hlen : (header (flags f l) (fields buffer.length.toUInt16 tid cid ns nr) ++ data).length =
        headerSize (flags f l) + data.length := by
      rw [List.length_append, length_header]
    have hiff := header_recovered_iff (flags_plain f l)
      (fields buffer.length.toUInt16 tid cid ns nr) data rest (by omega)
    have hann : (fields buffer.length.toUInt16 tid cid ns nr .length).toNat =
        buffer.length % 2 ^ 16 := UInt16.toNat_ofNat
    rw [PFBIT_flags, PLBIT_flags, hann] at hiff
    rw [← hlen, List.take_left]
    rw [hlen]
    exact hiff
  · intro t call s hs hsize
    refine ⟨_, ?_, sendData_recovered t.peertid s.peercid data rest hsize⟩
    rw [CL2TPTunnel.sessionSendData, hs]
    exact if_neg (Nat.not_lt_of_le hsize)

/-- A buffer that the message fills. -/
theorem payload_recovered_filled :
    ∃ n out,
      addPayloadHdr (List.replicate 14 0) (flag FBIT true) (flag LBIT true) 1 2 3 4 [0xAA, 0xBB] =
          some (n, out) ∧
        Recovered (out.take n) [] 1 2 3 4 [0xAA, 0xBB] := by
  obtain ⟨⟨n, out, hout, hiff⟩, -⟩ :=
    payload_recovered_iff (List.replicate 14 0) [0xAA, 0xBB] [] true true 1 2 3 4
      (by decide) (by decide)
  exact ⟨n, out, hout, hiff.mpr ⟨fun _ => by decide, .inl rfl⟩⟩

/-- One byte of room left in the buffer, and the message is refused; neither flag, and the ids 1
    and 2 come back as 0. -/
theorem payload_lost :
    (addPayloadHdr (List.replicate 10 0) 0 0x4000 1 2 0 0 [0xAA] =
          some (9, [0x40, 2, 0, 10, 0, 1, 0, 2, 0xAA, 0]) ∧
        ¬ Recovered [0x40, 2, 0, 10, 0, 1, 0, 2, 0xAA] [] 1 2 0 0 [0xAA]) ∧
      addPayloadHdr (List.replicate 7 0) 0 0 1 2 0 0 [0xAA] = some (7, [0, 2, 0, 1, 0, 2, 0xAA]) ∧
        ¬ Recovered [0, 2, 0, 1, 0, 2, 0xAA] [] 1 2 0 0 [0xAA] :=
  ⟨⟨by decide, fun h => absurd h.accepted (by decide)⟩,
    by decide, fun h => absurd h.tid (by decide)⟩

end CL2TPDataMessage

end OpenBras
