/-
  File:      OpenBras/L2TP/Builders.lean
  Subject:   WHAT THE `add_*_avp` CALLS BUILD, `HandleAVPs` READS BACK.

  Some thirty functions append an AVP each, with a length and an attribute number written into
  the code. All of them have one shape (`bytes_eq`): a header that announces the size of the
  AVP, and a value. The walk over a sequence of such AVPs needs nothing else (`walk_avps`).
-/
import OpenBras.L2TP.Contents

namespace OpenBras

open Wire

namespace CL2TPControllMessage

/-! ## 1. The calls -/

/-- A call of an `add_*_avp` function with its arguments. -/
inductive AddCall where
  | message_type (type : UInt16)
  | protocol (protocol : UInt16)
  | frame_caps (caps : UInt16)
  | bearer_caps (caps : UInt16)
  | firmware (version : UInt16)
  | hostname (hostname : Bytes)
  | vendor (vendorname : Bytes)
  | tunnelid (tid : UInt16)
  | rws (rws : UInt16)
  | challenge (c : Bytes) (len : UInt16)
  | chalresp (c : Bytes) (len : UInt16)
  | randvect (c : Bytes) (len : UInt16)
  | result_code (result error : UInt16) (msg : Bytes) (len : Nat)
  | callid (callid : UInt16)
  | serno (serno : UInt32)
  | bearer (bearer : UInt32)
  | frame (frame : UInt32)
  | txspeed (speed : UInt32)
  | rxspeed (speed : UInt32)
  | physchan (physchan : UInt32)
  | ppd (ppd : UInt16)
  | seqreqd
  | minbps (speed : UInt32)
  | maxbps (speed : UInt32)
  | number (no : Bytes)
  | init_lcp_req (c : Bytes) (len : UInt16)
  | last_lcp_send (c : Bytes) (len : UInt16)
  | last_lcp_recv (c : Bytes) (len : UInt16)
  | proxy_auth_type (type : UInt16)
  | proxy_auth_name (c : Bytes) (len : UInt16)
  | proxy_auth_challenge (c : Bytes) (len : UInt16)
  | proxy_auth_id (id : UInt16)
  | proxy_auth_response (c : Bytes) (len : UInt16)

/-- An AVP: is it mandatory, its attribute and its value. -/
structure Avp where
  mandatory : Bool
  attr : UInt16
  value : Bytes

/-- The bytes of an AVP: a header that announces its size, and the value. -/
def Avp.bytes (a : Avp) : Bytes :=
  (if a.mandatory then add_header else add_nonmandatory_header)
    (AVP_HDR + a.value.length).toUInt16 a.attr ++ a.value

namespace AddCall

/-- The bytes that a call appends. -/
def bytes : AddCall → Bytes
  | .message_type v => add_message_type_avp v
  | .protocol v => add_protocol_avp v
  | .frame_caps v => add_frame_caps_avp v
  | .bearer_caps v => add_bearer_caps_avp v
  | .firmware v => add_firmware_avp v
  | .hostname t => add_hostname_avp t
  | .vendor t => add_vendor_avp t
  | .tunnelid v => add_tunnelid_avp v
  | .rws v => add_avp_rws v
  | .challenge c len => add_challenge_avp c len
  | .chalresp c len => add_chalresp_avp c len
  | .randvect c len => add_randvect_avp c len
  | .result_code result error msg len => add_result_code_avp result error msg len
  | .callid v => add_callid_avp v
  | .serno v => add_serno_avp v
  | .bearer v => add_bearer_avp v
  | .frame v => add_frame_avp v
  | .txspeed v => add_txspeed_avp v
  | .rxspeed v => add_rxspeed_avp v
  | .physchan v => add_physchan_avp v
  | .ppd v => add_ppd_avp v
  | .seqreqd => add_seqreqd_avp
  | .minbps v => add_minbps_avp v
  | .maxbps v => add_maxbps_avp v
  | .number t => add_number_avp t
  | .init_lcp_req c len => add_init_lcp_req_avp c len
  | .last_lcp_send c len => add_last_lcp_send_avp c len
  | .last_lcp_recv c len => add_last_lcp_recv_avp c len
  | .proxy_auth_type v => add_proxy_auth_type_avp v
  | .proxy_auth_name c len => add_proxy_auth_name_avp c len
  | .proxy_auth_challenge c len => add_proxy_auth_challenge_avp c len
  | .proxy_auth_id v => add_proxy_auth_id_avp v
  | .proxy_auth_response c len => add_proxy_auth_response_avp c len

/-- The AVP that a call means, by the attribute numbers of RFC 2661. -/
def avp : AddCall → Avp
  | .message_type v => ⟨true, 0, putShort v⟩
  | .protocol v => ⟨true, 2, putShort v⟩
  | .frame_caps v => ⟨true, 3, putShort 0 ++ putShort v⟩
  | .bearer_caps v => ⟨true, 4, putShort 0 ++ putShort v⟩
  | .firmware v => ⟨false, 6, putShort v⟩
  | .hostname t => ⟨true, 7, t.take (MAXAVPSIZE - AVP_HDR)⟩
  | .vendor t => ⟨false, 8, t⟩
  | .tunnelid v => ⟨true, 9, putShort v⟩
  | .rws v => ⟨true, 10, putShort v⟩
  | .challenge c len => ⟨true, 11, bytesAt c 0 len.toNat⟩
  | .chalresp c len => ⟨true, 13, bytesAt c 0 len.toNat⟩
  | .randvect c len => ⟨true, 36, bytesAt c 0 len.toNat⟩
  | .result_code result error msg len =>
    ⟨true, 1, putShort result ++ putShort error ++ bytesAt msg 0 len⟩
  | .callid v => ⟨true, 14, putShort v⟩
  | .serno v => ⟨true, 15, putLong v⟩
  | .bearer v => ⟨true, 18, putLong v⟩
  | .frame v => ⟨true, 19, putLong v⟩
  | .txspeed v => ⟨true, 24, putLong v⟩
  | .rxspeed v => ⟨false, 38, putLong v⟩
  | .physchan v => ⟨false, 25, putLong v⟩
  | .ppd v => ⟨true, 20, putShort v⟩
  | .seqreqd => ⟨true, 39, []⟩
  | .minbps v => ⟨true, 16, putLong v⟩
  | .maxbps v => ⟨true, 17, putLong v⟩
  | .number t => ⟨true, 21, t⟩
  | .init_lcp_req c len => ⟨true, 26, bytesAt c 0 len.toNat⟩
  | .last_lcp_send c len => ⟨true, 27, bytesAt c 0 len.toNat⟩
  | .last_lcp_recv c len => ⟨true, 28, bytesAt c 0 len.toNat⟩
  | .proxy_auth_type v => ⟨true, 29, putShort v⟩
  | .proxy_auth_name c len => ⟨true, 30, bytesAt c 0 len.toNat⟩
  | .proxy_auth_challenge c len => ⟨true, 31, bytesAt c 0 len.toNat⟩
  | .proxy_auth_id v => ⟨true, 32, putShort v⟩
  | .proxy_auth_response c len => ⟨true, 33, bytesAt c 0 len.toNat⟩

theorem add_copied_avp_eq (type : UInt16) (c : Bytes) (len : UInt16) :
    add_copied_avp type c len = (Avp.mk true type (bytesAt c 0 len.toNat)).bytes := by
  have hlen : 0x6 + len = (AVP_HDR + (bytesAt c 0 len.toNat).length).toUInt16 := by
    rw [length_bytesAt]
    simp [AVP_HDR, Nat.toUInt16_eq]
  rw [add_copied_avp, hlen]
  rfl

theorem add_hostname_avp_eq (t : Bytes) :
    add_hostname_avp t = (Avp.mk true 7 (t.take (MAXAVPSIZE - AVP_HDR))).bytes := by
  have hlen : (t.take (MAXAVPSIZE - AVP_HDR)).length = min t.length (MAXAVPSIZE - 6) := by
    rw [List.length_take, Nat.min_comm]
    rfl
  have htake : t.take (min t.length (MAXAVPSIZE - 6)) = t.take (MAXAVPSIZE - AVP_HDR) := by
    rw [Nat.min_comm, ← List.take_take, List.take_length]
    rfl
  rw [Avp.bytes, hlen, ← htake]
  rfl

theorem bytes_eq (c : AddCall) : c.bytes = c.avp.bytes := by
  cases c with
  | hostname t => exact add_hostname_avp_eq t
  | result_code result error msg len =>
    have hlen : AVP_HDR + (putShort result ++ putShort error ++ bytesAt msg 0 len).length =
        0xA + len := by
      rw [List.length_append, length_bytesAt]
      change 6 + (4 + len) = 10 + len
      omega
    rw [avp, Avp.bytes, hlen, ← List.append_assoc, ← List.append_assoc]
    rfl
  | challenge c len | chalresp c len | randvect c len | init_lcp_req c len | last_lcp_send c len
  | last_lcp_recv c len | proxy_auth_name c len | proxy_auth_challenge c len
  | proxy_auth_response c len => exact add_copied_avp_eq _ c len
  | _ => rfl

end AddCall

/-! ## 2. The walk -/

theorem header_word {n : Nat} (hn : n ≤ MAXAVPSIZE) :
    (ALENGTH n.toUInt16 = n ∧ AZBITS n.toUInt16 = false) ∧
      ALENGTH (n.toUInt16 ||| MBIT) = n ∧ AZBITS (n.toUInt16 ||| MBIT) = false := by
  have all : ∀ n ≤ 1023, (ALENGTH n.toUInt16 = n ∧ AZBITS n.toUInt16 = false) ∧
      ALENGTH (n.toUInt16 ||| MBIT) = n ∧ AZBITS (n.toUInt16 ||| MBIT) = false := by
    decide +kernel
  exact all n hn

theorem getShort_header (length type : UInt16) (q : Bytes) :
    getShort (add_nonmandatory_header length type ++ q) 0 = length ∧
      getShort (add_nonmandatory_header length type ++ q) 4 = type :=
  ⟨getShort_putShort length _,
    (getShort_drop _ 4 0).symm.trans (getShort_putShort type q)⟩

theorem drop_swaps (n : Nat) (p : Bytes) : (swaps n p).drop (2 * n) = p.drop (2 * n) := by
  induction n generalizing p with
  | zero => rfl
  | succ n ih =>
    rw [Nat.mul_succ, Nat.add_comm, ← List.drop_drop, ← List.drop_drop]
    exact ih (p.drop 2)

namespace Avp

theorem length_bytes (a : Avp) : a.bytes.length = AVP_HDR + a.value.length := by
  rw [bytes, List.length_append]
  split <;> rfl

theorem drop_bytes (a : Avp) : a.bytes.drop AVP_HDR = a.value := by
  rw [bytes]
  split <;> rfl

/-- What an AVP says of a number. -/
def number (f : Number) (a : Avp) : Option UInt16 :=
  if f.attr = a.attr then some (getShort a.value 0) else none

/-- An AVP that fits into its header, that the table handles, that has the half word its handler
    looks at and that fits into the array it is copied to. -/
structure Good (a : Avp) : Prop where
  size : a.bytes.length ≤ MAXAVPSIZE
  known : a.attr ≤ AVP_MAX
  handled : a.attr ∉ [5, 12, 16, 17, 34, 37]
  number : ∀ f : Number, f.attr = a.attr → 2 ≤ a.value.length
  array : ∀ x : ProxyArray, x.attr = a.attr → a.bytes.length ≤ x.capacity

end Avp

/-- No array of the proxy holds more than it has room for. -/
def InArrays (proxy : L2tpSessionProxy) : Prop :=
  ∀ x : ProxyArray, (x.get proxy).1.length ≤ x.capacity

/-- The message `m'` after these AVPs were met in `m`. -/
structure After (as : List Avp) (m m' : CL2TPControllMessage) : Prop where
  hdr : m'.hdr = m.hdr
  number : ∀ f : Number, f.get m' = ((as.filterMap (Avp.number f)).getLast?).getD (f.get m)
  arrays : InArrays m.proxy → InArrays m'.proxy

theorem After.cons {a : Avp} {as : List Avp} {m m' m'' : CL2TPControllMessage}
    (h : After [a] m m') (h' : After as m' m'') : After (a :: as) m m'' where
  hdr := h'.hdr.trans h.hdr
  number f := by
    have hone := h.number f
    rw [getLast_filterMap_cons] at hone
    rw [h'.number f, hone, getLast_filterMap_cons]
    rfl
  arrays := h'.arrays ∘ h.arrays

namespace Avp.Good

variable {a : Avp} (h : a.Good)

include h

theorem header (more : Bytes) :
    ALENGTH (getShort (a.bytes ++ more) 0) = a.bytes.length ∧
      AZBITS (getShort (a.bytes ++ more) 0) = false ∧
      getShort (a.bytes ++ more) 4 = a.attr := by
  obtain ⟨hplain, hmandatory⟩ := header_word h.size
  have hlen := a.length_bytes
  rw [hlen] at hplain hmandatory ⊢
  rw [bytes, List.append_assoc]
  cases a.mandatory with
  | false =>
    obtain ⟨hl, ht⟩ := getShort_header (AVP_HDR + a.value.length).toUInt16 a.attr (a.value ++ more)
    simp only [Bool.false_eq_true, if_false]
    rw [hl, ht]
    exact ⟨hplain.1, hplain.2, rfl⟩
  | true =>
    obtain ⟨hl, ht⟩ := getShort_header ((AVP_HDR + a.value.length).toUInt16 ||| MBIT) a.attr
      (a.value ++ more)
    simp only [if_true]
    rw [add_header, hl, ht]
    exact ⟨hmandatory.1, hmandatory.2, rfl⟩

/-- Its handler finds the half word of the value behind the header that was turned round. -/
theorem halfWord {f : Number} (hf : f.attr = a.attr) (more : Bytes) :
    getShort (swaps (AVP_HDR / 2) (a.bytes ++ more)) AVP_HDR = getShort a.value 0 := by
  have htwo := h.number f hf
  have hmin : AVP_HDR ≤ a.bytes.length := by
    rw [a.length_bytes]
    exact Nat.le_add_right _ _
  have hbehind : (swaps (AVP_HDR / 2) (a.bytes ++ more)).drop AVP_HDR = a.value ++ more := by
    refine (drop_swaps (AVP_HDR / 2) _).trans ?_
    change (a.bytes ++ more).drop AVP_HDR = _
    rw [List.drop_append_of_le_length hmin, a.drop_bytes]
  have hread := getShort_drop (swaps (AVP_HDR / 2) (a.bytes ++ more)) AVP_HDR 0
  rw [hbehind, getShort_append (by omega)] at hread
  exact hread.symm

theorem effect (m : CL2TPControllMessage) (more : Bytes) :
    After [a] m
      (Seen.effect m ⟨a.attr, a.bytes.length, swaps (AVP_HDR / 2) (a.bytes ++ more)⟩) where
  hdr := Seen.effect_hdr m _
  number f := by
    rw [Seen.effect_number, getLast_filterMap_cons, Seen.number, Avp.number]
    by_cases hf : f.attr = a.attr
    · rw [if_pos hf, if_pos hf, h.halfWord hf more]
      rfl
    · rw [if_neg hf, if_neg hf]
      rfl
  arrays hm x := by
    rw [Seen.effect_array, Seen.isFor]
    split
    · exact Nat.le_trans (List.length_take_le _ _) (h.array x ‹_›)
    · exact hm x

theorem turn {s : AvpLoop} {more : Bytes} (hdata : s.data = a.bytes ++ more)
    (hlen : (a.bytes.length : Int) ≤ s.len) (hfirst : s.firstavp = true → a.attr = 0) :
    ∃ t, avpTurn s = .inl t ∧ t.firstavp = false ∧ t.data = more ∧
      t.len = s.len - a.bytes.length ∧ After [a] s.msg t.msg := by
  obtain ⟨hsize, hbits, hattr⟩ := h.header more
  have hmin : AVP_HDR ≤ a.bytes.length := by
    rw [a.length_bytes]
    exact Nat.le_add_right _ _
  have hpos : s.len > 0 := by
    have : AVP_HDR = 6 := rfl
    omega
  have hr : ¬ Refused s.firstavp s.len (getShort s.data 0) (getShort s.data 4) := by
    rw [hdata, hattr, Refused, if_neg (UInt16.not_lt.mpr h.known), hsize, hbits]
    rintro (hlt | ⟨hne, hf⟩ | hlt | ⟨-, hz | hmem⟩)
    · omega
    · exact hne (hfirst hf)
    · omega
    · cases hz
    · exact h.handled hmem
  obtain ⟨t, ht, hf, hd, hl, hm⟩ := avpTurn_goes hpos hr
  rw [hdata, hattr, hsize, hbits] at hm
  rw [hdata, hsize] at hd hl
  refine ⟨t, ht, hf, ?_, hl, ?_⟩
  · have hswap : 2 * (AVP_HDR / 2) ≤ a.bytes.length := hmin
    rw [hd, swaps_append hswap, ← length_swaps hswap, List.drop_left]
  · rw [hm]
    exact h.effect s.msg more

end Avp.Good

/-- The walk over a sequence of good AVPs, whatever stands behind them. -/
theorem walk_avps (as : List Avp) (rest : Bytes) (s : AvpLoop) (hgood : ∀ a ∈ as, a.Good)
    (hdata : s.data = as.flatMap Avp.bytes ++ rest) (hlen : s.len = (as.flatMap Avp.bytes).length)
    (hfirst : s.firstavp = true → ∀ a ∈ as.head?, a.attr = 0) :
    ∃ r, Returns avpTurn s (0, r) ∧ After as s.msg r.msg := by
  induction as generalizing s with
  | nil =>
    have hturn : avpTurn s = .inr (0, s) := by
      rw [avpTurn, if_neg (by simp [hlen]), if_neg (by simp [hlen])]
    exact ⟨s, (returns_of_inr hturn).mpr rfl, rfl, fun f => rfl, id⟩
  | cons a as ih =>
    rw [List.flatMap_cons] at hdata hlen
    rw [List.length_append] at hlen
    obtain ⟨ha, has⟩ := List.forall_mem_cons.mp hgood
    obtain ⟨t, ht, hf, hd, hl, hafter⟩ := ha.turn (hdata.trans (List.append_assoc _ _ _))
      (by omega) (fun hf => hfirst hf a rfl)
    obtain ⟨r, hr, hmsg⟩ := ih t has hd (by omega) (fun hf' => by rw [hf] at hf'; cases hf')
    exact ⟨r, (returns_of_inl ht).mpr hr, hafter.cons hmsg⟩

/-! ## 3. Messages -/

namespace AddCall

/-- A call that may follow the message type: its AVP fits its header and the array it is for, it
    is no second message type, and it is not one of the two without a handler. -/
structure Proper (c : AddCall) : Prop where
  size : c.bytes.length ≤ MAXAVPSIZE
  array : ∀ x : ProxyArray, x.attr = c.avp.attr → c.bytes.length ≤ x.capacity
  once : ∀ type, c ≠ .message_type type
  handled : ∀ speed, c ≠ .minbps speed ∧ c ≠ .maxbps speed

/-- The tunnel id that a call assigns. -/
def assignsTunnel : AddCall → Option UInt16
  | .tunnelid tid => some tid
  | _ => none

/-- The call id that a call assigns. -/
def assignsCall : AddCall → Option UInt16
  | .callid cid => some cid
  | _ => none

theorem avp_good {c : AddCall} (hsize : c.bytes.length ≤ MAXAVPSIZE)
    (harray : ∀ x : ProxyArray, x.attr = c.avp.attr → c.bytes.length ≤ x.capacity)
    (hbps : ∀ speed, c ≠ .minbps speed ∧ c ≠ .maxbps speed) : c.avp.Good := by
  rw [bytes_eq] at hsize harray
  refine ⟨hsize, ?_, ?_, ?_, harray⟩
  · cases c <;> exact of_decide_eq_true rfl
  · cases c with
    | minbps speed => exact absurd rfl (hbps speed).1
    | maxbps speed => exact absurd rfl (hbps speed).2
    | _ => exact of_decide_eq_true rfl
  · -- a value of two or four bytes, or an attribute that is no number
    intro f hf
    cases c
    all_goals first
      | exact of_decide_eq_true rfl
      | cases f <;> exact absurd hf (of_decide_eq_true rfl)

theorem number_assigtunenid (c : AddCall) : Avp.number .assigtunenid c.avp = c.assignsTunnel := by
  cases c with
  | tunnelid tid => exact congrArg some (getShort_putShort tid [])
  | _ => rfl

theorem number_assigcallid (c : AddCall) : Avp.number .assigcallid c.avp = c.assignsCall := by
  cases c with
  | callid cid => exact congrArg some (getShort_putShort cid [])
  | _ => rfl

theorem number_messatetype {c : AddCall} (h : ∀ type, c ≠ .message_type type) :
    Avp.number .messatetype c.avp = none := by
  cases c with
  | message_type type => exact absurd rfl (h type)
  | _ => rfl

end AddCall

theorem length_control_hdr (avps : Bytes) (tid cid ns nr : UInt16) :
    (add_control_hdr avps tid cid ns nr).length = avps.length + CONTROL_HDR := by
  rw [add_control_hdr, List.length_append, Nat.add_comm]
  rfl

theorem controlHdr_built (avps rest : Bytes) (tid cid ns nr : UInt16) (m : CL2TPControllMessage) :
    controlHdr (add_control_hdr avps tid cid ns nr ++ rest) m =
      { m with
        ver := TBIT ||| LBIT ||| FBIT ||| VER_L2TP, length := (avps.length + CONTROL_HDR).toUInt16,
        tid := tid, cid := cid, Ns := ns, Nr := nr } := by
  have hread : ∀ (i : Nat) (v : UInt16) (q : Bytes),
      (add_control_hdr avps tid cid ns nr ++ rest).drop i = putShort v ++ q →
      getShort (add_control_hdr avps tid cid ns nr ++ rest) i = v := fun i v q hq => by
    have hdrop := getShort_drop (add_control_hdr avps tid cid ns nr ++ rest) i 0
    rw [hq, getShort_putShort] at hdrop
    exact hdrop.symm
  rw [controlHdr, hread 0 _ _ rfl, hread 2 _ _ rfl, hread 4 _ _ rfl, hread 6 _ _ rfl,
    hread 8 _ _ rfl, hread 10 _ _ rfl]

/-- The message that these calls build, behind the message type. -/
def built (type : UInt16) (calls : List AddCall) (tid cid ns nr : UInt16) : Bytes :=
  add_control_hdr ((AddCall.message_type type :: calls).flatMap AddCall.bytes) tid cid ns nr

/-- The AVPs of the message. -/
def avpsBuilt (type : UInt16) (calls : List AddCall) : List Avp :=
  (AddCall.message_type type :: calls).map AddCall.avp

theorem flatMap_avpsBuilt (type : UInt16) (calls : List AddCall) :
    (avpsBuilt type calls).flatMap Avp.bytes =
      (AddCall.message_type type :: calls).flatMap AddCall.bytes := by
  rw [avpsBuilt, List.flatMap_map]
  exact congrArg (List.flatMap · _) (funext fun c => c.bytes_eq.symm)

theorem avpsBuilt_good {type : UInt16} {calls : List AddCall} (h : ∀ c ∈ calls, c.Proper) :
    ∀ a ∈ avpsBuilt type calls, a.Good := by
  have htype : (AddCall.message_type type).avp.Good :=
    AddCall.avp_good (of_decide_eq_true rfl)
      (fun x hx => by cases x <;> exact absurd hx (of_decide_eq_true rfl))
      (fun speed => ⟨nofun, nofun⟩)
  refine List.forall_mem_cons.mpr ⟨htype, List.forall_mem_map.mpr fun c hc => ?_⟩
  exact AddCall.avp_good (h c hc).size (h c hc).array (h c hc).handled

theorem walk_built (type tid cid ns nr : UInt16) (calls : List AddCall) (rest : Bytes)
    (hcalls : ∀ c ∈ calls, c.Proper) (m : CL2TPControllMessage) :
    ∃ r, Returns avpTurn (avpStart (built type calls tid cid ns nr ++ rest)
        (built type calls tid cid ns nr).length m [(0, CONTROL_HDR)]) (0, r) ∧
      After (avpsBuilt type calls) m r.msg := by
  have hflat := flatMap_avpsBuilt type calls
  refine walk_avps (avpsBuilt type calls) rest _ (avpsBuilt_good hcalls) ?_ ?_ ?_
  · rw [hflat]
    rfl
  · rw [hflat]
    change ((built type calls tid cid ns nr).length : Int) - CONTROL_HDR = _
    rw [built, length_control_hdr]
    omega
  · rintro - a ⟨⟩
    rfl

section

variable (type : UInt16) (calls : List AddCall) (v : UInt16)

theorem number_built {f : Number} {w : AddCall → Option UInt16}
    (h : ∀ c : AddCall, Avp.number f c.avp = w c) (htype : w (.message_type type) = none) :
    (((avpsBuilt type calls).filterMap (Avp.number f)).getLast?).getD v =
      ((calls.filterMap w).getLast?).getD v := by
  have hw : Avp.number f ∘ AddCall.avp = w := funext h
  rw [avpsBuilt, List.filterMap_map, hw, List.filterMap_cons_none htype]

theorem number_built_type (hcalls : ∀ c ∈ calls, c.Proper) :
    (((avpsBuilt type calls).filterMap (Avp.number .messatetype)).getLast?).getD v = type := by
  have hnone : (calls.map AddCall.avp).filterMap (Avp.number .messatetype) = [] := by
    rw [List.filterMap_map, List.filterMap_eq_nil_iff]
    exact fun c hc => AddCall.number_messatetype (hcalls c hc).once
  rw [avpsBuilt, List.map_cons, getLast_filterMap_cons, hnone]
  exact getShort_putShort type []

end

/-- Whatever the calls, `HandleAVPs` accepts the message they build and finds what was put in. -/
theorem built_message_decoded (type tid cid ns nr : UInt16) (calls : List AddCall) (rest : Bytes)
    (hcalls : ∀ c ∈ calls, c.Proper) :
    ∃ fuel r,
      handleAVPs fuel (built type calls tid cid ns nr ++ rest)
          (built type calls tid cid ns nr).length
          { controlHdr (built type calls tid cid ns nr ++ rest) {} with bzlb := false } =
        some (0, r) ∧
      decode fuel (built type calls tid cid ns nr ++ rest)
          (built type calls tid cid ns nr).length {} = some (0, r.msg, r.reads) ∧
      r.msg.tid = tid ∧ r.msg.cid = cid ∧ r.msg.Ns = ns ∧ r.msg.Nr = nr ∧
      r.msg.length.toNat = (built type calls tid cid ns nr).length % 2 ^ 16 ∧
      r.msg.messatetype = type ∧
      r.msg.assigtunenid = ((calls.filterMap AddCall.assignsTunnel).getLast?).getD 0 ∧
      r.msg.assigcallid = ((calls.filterMap AddCall.assignsCall).getLast?).getD 0 ∧
      InArrays r.msg.proxy := by
  have hlen : (built type calls tid cid ns nr).length = _ := length_control_hdr _ tid cid ns nr
  obtain ⟨r, ⟨fuel, hr⟩, hafter⟩ := walk_built type tid cid ns nr calls rest hcalls
    { controlHdr (built type calls tid cid ns nr ++ rest) {} with bzlb := false }
  have hbig : CONTROL_HDR < (built type calls tid cid ns nr).length := by
    rw [hlen]
    exact Nat.lt_add_of_pos_left (Nat.succ_pos _)
  have hdecode : decode fuel (built type calls tid cid ns nr ++ rest)
      (built type calls tid cid ns nr).length {} = some (0, r.msg, r.reads) := by
    rw [decode_of_gt hbig, hr]
    rfl
  have hhdr := hafter.hdr
  rw [built, controlHdr_built] at hhdr
  refine ⟨fuel, r, hr, hdecode, congrArg CL2TPControllMessage.tid hhdr,
    congrArg CL2TPControllMessage.cid hhdr, congrArg CL2TPControllMessage.Ns hhdr,
    congrArg CL2TPControllMessage.Nr hhdr, ?_, ?_, ?_, ?_, hafter.arrays ?_⟩
  · have hlength := congrArg CL2TPControllMessage.length hhdr
    rw [hlen]
    exact (congrArg UInt16.toNat hlength).trans UInt16.toNat_ofNat
  · exact (hafter.number .messatetype).trans (number_built_type type calls _ hcalls)
  · exact (hafter.number .assigtunenid).trans
      (number_built type calls _ AddCall.number_assigtunenid rfl)
  · exact (hafter.number .assigcallid).trans
      (number_built type calls _ AddCall.number_assigcallid rfl)
  · intro x
    cases x <;> exact Nat.zero_le _

/-- A message with two tunnel ids among other AVPs. -/
theorem built_message_two_tunnel_ids :
    ∃ fuel r,
      handleAVPs fuel (built 1 [.protocol 0x100, .tunnelid 7, .proxy_auth_name [0x61] 1, .seqreqd,
          .tunnelid 9] 3 4 5 6 ++ [0xFF]) 57
          { controlHdr (built 1 [.protocol 0x100, .tunnelid 7, .proxy_auth_name [0x61] 1, .seqreqd,
            .tunnelid 9] 3 4 5 6 ++ [0xFF]) {} with bzlb := false } = some (0, r) ∧
        r.msg.tid = 3 ∧ r.msg.length = 57 ∧ r.msg.messatetype = 1 ∧ r.msg.assigtunenid = 9 ∧
        r.msg.assigcallid = 0 := by
  obtain ⟨fuel, r, hr, -, htid, -, -, -, hlen, htype, htunnel, hcall, -⟩ :=
    built_message_decoded 1 3 4 5 6
      [.protocol 0x100, .tunnelid 7, .proxy_auth_name [0x61] 1, .seqreqd, .tunnelid 9] [0xFF]
      (by
        simp only [List.forall_mem_cons, List.not_mem_nil, false_implies, implies_true, and_true]
        refine ⟨?_, ?_, ?_, ?_, ?_⟩
        all_goals exact ⟨by decide, fun x => by cases x <;> decide, nofun, fun _ => ⟨nofun, nofun⟩⟩)
  exact ⟨fuel, r, hr, htid, UInt16.toNat_inj.mp hlen, htype, htunnel, hcall⟩

end CL2TPControllMessage

end OpenBras
