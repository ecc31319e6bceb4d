/-
  File:      OpenBras/L2TP/Message.lean
  Subject:   THE CONTROL MESSAGES OF L2TP: `CL2TPControllMessage::Decode`, `HandleAVPs` and the
             building of a message (src/l2tp/CL2TPMessage.cpp), with the macros and `swaps` of
             src/include/IL2TPInterface.h.

  A control message is a header of 12 bytes and a sequence of AVPs, each with a header of its
  own that says how long it is. `HandleAVPs` walks them with a pointer that only moves forward,
  so the model holds the memory from the pointer on; it reaches past the datagram, into
  whatever the receive buffer held before. The header of an AVP is put into host byte order IN
  PLACE: an AVP that is met twice is read differently the second time.

  Every read is noted, as a position in the datagram and a length.
-/
import OpenBras.Lib.Loop
import OpenBras.Lib.Wire

namespace OpenBras

open Wire

/-! ## 1. Macros and records -/

def AVP_MAX : UInt16 := 39

/-- `sizeof (struct control_hdr)`. -/
def CONTROL_HDR : Nat := 12

/-- `sizeof (struct avp_hdr)`. -/
def AVP_HDR : Nat := 6

def AMBIT (len : UInt16) : Bool := len &&& 0x8000 != 0
def AZBITS (len : UInt16) : Bool := len &&& 0x3C00 != 0
def ALENGTH (len : UInt16) : Nat := (len &&& 0x03FF).toNat

/-- `swaps`: the bytes of the first `n` half words are exchanged (a little-endian host). -/
def swaps : Nat → Bytes → Bytes
  | 0, p => p
  | n + 1, p => byteAt p 1 :: byteAt p 0 :: swaps n (p.drop 2)

structure L2tpSessionProxy where
  initRcvLcpConf : Bytes := []
  initRcvLcpConfLen : UInt16 := 0
  lastSendLcpConf : Bytes := []
  lastSendLcpConfLen : UInt16 := 0
  lastRcvLcpConf : Bytes := []
  lastRcvLcpConfLen : UInt16 := 0
  authenType : UInt16 := 0
  authenName : Bytes := []
  authenNameLen : UInt16 := 0
  authenChallenge : Bytes := []
  authenChallengeLen : UInt16 := 0
  authenID : UInt16 := 0
  authenResponse : Bytes := []
  authenResponseLen : UInt16 := 0
  deriving DecidableEq, Repr

/-- `overrun` says that a copy into the proxy has run past the end of its array. -/
structure CL2TPControllMessage where
  ver : UInt16 := 0
  length : UInt16 := 0
  tid : UInt16 := 0
  cid : UInt16 := 0
  Ns : UInt16 := 0
  Nr : UInt16 := 0
  messatetype : UInt16 := 0
  assigtunenid : UInt16 := 0
  assigcallid : UInt16 := 0
  bzlb : Bool := false
  proxy : L2tpSessionProxy := {}
  overrun : Bool := false
  deriving DecidableEq, Repr

namespace CL2TPControllMessage

/-! ## 2. The handlers -/

/-- A handler of AVPs: what it reads of an AVP of the given length, as offsets and lengths, and
    what it does with the bytes from the AVP on. -/
structure Handler where
  reads : Nat → List (Nat × Nat)
  run : Bytes → Nat → CL2TPControllMessage → Int × CL2TPControllMessage

/-- `raw[3].s`, the half word behind the header, whatever the length of the AVP. -/
def Handler.value (set : UInt16 → CL2TPControllMessage → CL2TPControllMessage) : Handler where
  reads _ := [(AVP_HDR, 2)]
  run data _ m := (0, set (getShort data AVP_HDR) m)

/-- `memcpy` of the whole AVP, its header included, into an array of `capacity` bytes. -/
def Handler.copy (capacity : Nat) (set : Bytes → UInt16 → L2tpSessionProxy → L2tpSessionProxy) :
    Handler where
  reads datalen := [(0, datalen)]
  run data datalen m :=
    (0, { m with
      proxy := set (data.take datalen) datalen.toUInt16 m.proxy
      overrun := m.overrun || decide (capacity < datalen) })

def Handler.ignoring : Handler where
  reads _ := []
  run _ _ m := (0, m)

def message_type_avp : Handler := .value fun v m => { m with messatetype := v }
def result_code_avp : Handler := .ignoring
def protocol_version_avp : Handler := .ignoring
def framing_caps_avp : Handler := .ignoring
def bearer_caps_avp : Handler := .ignoring
def firmware_rev_avp : Handler := .ignoring
def hostname_avp : Handler := .ignoring
def vendor_avp : Handler := .ignoring
def assigned_tunnel_avp : Handler := .value fun v m => { m with assigtunenid := v }
def receive_window_size_avp : Handler := .ignoring
def challenge_avp : Handler := .ignoring
def chalresp_avp : Handler := .ignoring
def assigned_call_avp : Handler := .value fun v m => { m with assigcallid := v }
def call_serno_avp : Handler := .ignoring
def bearer_type_avp : Handler := .ignoring
def frame_type_avp : Handler := .ignoring
def packet_delay_avp : Handler := .ignoring
def dialed_number_avp : Handler := .ignoring
def dialing_number_avp : Handler := .ignoring
def sub_address_avp : Handler := .ignoring
def tx_speed_avp : Handler := .ignoring
def call_physchan_avp : Handler := .ignoring

def init_lcp_req_avp : Handler :=
  .copy 64 fun b n x => { x with initRcvLcpConf := b, initRcvLcpConfLen := n }

def last_lcp_send_avp : Handler :=
  .copy 64 fun b n x => { x with lastSendLcpConf := b, lastSendLcpConfLen := n }

def last_lcp_recv_avp : Handler :=
  .copy 64 fun b n x => { x with lastRcvLcpConf := b, lastRcvLcpConfLen := n }

def proxy_auth_type_avp : Handler :=
  .value fun v m => { m with proxy := { m.proxy with authenType := v } }

def proxy_auth_name_avp : Handler :=
  .copy 73 fun b n x => { x with authenName := b, authenNameLen := n }

def proxy_auth_challenge_avp : Handler :=
  .copy 64 fun b n x => { x with authenChallenge := b, authenChallengeLen := n }

def proxy_auth_id_avp : Handler :=
  .value fun v m => { m with proxy := { m.proxy with authenID := v } }

def proxy_auth_response_avp : Handler :=
  .copy 16 fun b n x => { x with authenResponse := b, authenResponseLen := n }

def ignore_avp : Handler := .ignoring
def rand_vector_avp : Handler := .ignoring
def rx_speed_avp : Handler := .ignoring
def seq_reqd_avp : Handler := .ignoring

/-- The table `avps`, by attribute. -/
def avps : List (Option Handler) :=
  [some message_type_avp, some result_code_avp, some protocol_version_avp, some framing_caps_avp,
   some bearer_caps_avp, none, some firmware_rev_avp, some hostname_avp, some vendor_avp,
   some assigned_tunnel_avp, some receive_window_size_avp, some challenge_avp, none,
   some chalresp_avp, some assigned_call_avp, some call_serno_avp, none, none,
   some bearer_type_avp, some frame_type_avp, some packet_delay_avp, some dialed_number_avp,
   some dialing_number_avp, some sub_address_avp, some tx_speed_avp, some call_physchan_avp,
   some init_lcp_req_avp, some last_lcp_send_avp, some last_lcp_recv_avp,
   some proxy_auth_type_avp, some proxy_auth_name_avp, some proxy_auth_challenge_avp,
   some proxy_auth_id_avp, some proxy_auth_response_avp, none, some ignore_avp,
   some rand_vector_avp, none, some rx_speed_avp, some seq_reqd_avp]

def handler (attr : UInt16) : Option Handler := (avps[attr.toNat]?).join

/-! ## 3. The loop -/

/-- The variables of `HandleAVPs`: the memory from `data` on, `len`, whether `firstavp` still
    is -1, and the message; with the position of `data` in the datagram and the reads so far. -/
structure AvpLoop where
  data : Bytes
  len : Int
  firstavp : Bool := true
  msg : CL2TPControllMessage
  pos : Nat
  reads : List (Nat × Nat) := []

/-- The label `next`. (`hidlen` is 0 throughout.) -/
def AvpLoop.next (length : UInt16) (s : AvpLoop) : AvpLoop :=
  { s with
    data := s.data.drop (ALENGTH length), len := s.len - ALENGTH length, firstavp := false,
    pos := s.pos + ALENGTH length }

/-- A read of `r.2` bytes, `r.1` bytes behind the pointer. -/
def AvpLoop.note (rs : List (Nat × Nat)) (s : AvpLoop) : AvpLoop :=
  { s with reads := rs.map (fun r => (s.pos + r.1, r.2)) ++ s.reads }

/-- The call of a handler. -/
def AvpLoop.call (h : Handler) (length : UInt16) (s : AvpLoop) : Int × AvpLoop :=
  let r := h.run s.data (ALENGTH length) s.msg
  (r.1, { s.note (h.reads (ALENGTH length)) with msg := r.2 })

/-- The body of the loop, behind the exchange of the header's bytes. -/
def avpBody (length attr : UInt16) (s : AvpLoop) : AvpLoop ⊕ Int × AvpLoop :=
  if attr > AVP_MAX then
    if AMBIT length then .inr (-1, s) else .inl (s.next length)
  else if (ALENGTH length : Int) > s.len then .inr (-1, s)
  else if attr ≠ 0 ∧ s.firstavp then .inr (-1, s)
  else if ALENGTH length < AVP_HDR then .inr (-1, s)
  else if AZBITS length then
    if AMBIT length then .inr (-1, s) else .inl (s.next length)
  else
    match handler attr with
    | some h =>
      let r := s.call h length
      if r.1 ≠ 0 ∧ AMBIT length then .inr (-1, r.2) else .inl (r.2.next length)
    | none => if AMBIT length then .inr (-1, s) else .inl (s.next length)

/-- One turn of `while (len > 0)`, or the end of the function. -/
def avpTurn (s : AvpLoop) : AvpLoop ⊕ Int × AvpLoop :=
  if s.len > 0 then
    avpBody (getShort s.data 0) (getShort s.data 4)
      { s.note [(0, AVP_HDR)] with data := swaps (AVP_HDR / 2) s.data }
  else .inr (if s.len ≠ 0 then -1 else 0, s)

/-- The state in which `HandleAVPs` enters its loop. -/
def avpStart (buffer : Bytes) (buffersize : Nat) (m : CL2TPControllMessage)
    (reads : List (Nat × Nat)) : AvpLoop where
  data := buffer.drop CONTROL_HDR
  len := (buffersize : Int) - CONTROL_HDR
  msg := m
  pos := CONTROL_HDR
  reads := reads

/-- The fields of the header. -/
def controlHdr (buffer : Bytes) (m : CL2TPControllMessage) : CL2TPControllMessage :=
  { m with
    ver := getShort buffer 0, length := getShort buffer 2, tid := getShort buffer 4,
    cid := getShort buffer 6, Ns := getShort buffer 8, Nr := getShort buffer 10 }

/-- `Decode`, with a bound on the turns of the loop: the result, the message and the reads. The
    result of `HandleAVPs` is not looked at. -/
def decode (fuel : Nat) (buffer : Bytes) (buffersize : Nat) (m : CL2TPControllMessage) :
    Option (Int × CL2TPControllMessage × List (Nat × Nat)) :=
  if buffersize < CONTROL_HDR then some (-1, m, [])
  else
    let m := controlHdr buffer m
    let reads := [(0, CONTROL_HDR)]
    if buffersize = CONTROL_HDR then some (0, { m with bzlb := true }, reads)
    else
      (loop avpTurn fuel (avpStart buffer buffersize { m with bzlb := false } reads)).map
        fun r => (0, r.2.msg, r.2.reads)

/-! ## 4. Building a message

`m_buffer` starts behind the header and grows by one AVP per call; here each call is the bytes
it appends, and `add_control_hdr` puts the header in front. -/

def TBIT : UInt16 := 0x8000
def LBIT : UInt16 := 0x4000
def FBIT : UInt16 := 0x0800
def MBIT : UInt16 := 0x8000
def VER_L2TP : UInt16 := 2
def VENDOR_ID : UInt16 := 0
def MAXAVPSIZE : Nat := 1023

def CTBIT (ver : UInt16) : Bool := ver &&& 0x8000 != 0

def add_nonmandatory_header (length type : UInt16) : Bytes :=
  putShort length ++ putShort VENDOR_ID ++ putShort type

def add_header (length type : UInt16) : Bytes := add_nonmandatory_header (length ||| MBIT) type

def add_message_type_avp (type : UInt16) : Bytes := add_header 0x8 0 ++ putShort type

def add_protocol_avp (protocol : UInt16) : Bytes := add_header 0x8 0x2 ++ putShort protocol

def add_frame_caps_avp (caps : UInt16) : Bytes := add_header 0xA 0x3 ++ putShort 0 ++ putShort caps

def add_bearer_caps_avp (caps : UInt16) : Bytes :=
  add_header 0xA 0x4 ++ putShort 0 ++ putShort caps

def add_firmware_avp (version : UInt16) : Bytes :=
  add_nonmandatory_header 0x8 0x6 ++ putShort version

def add_hostname_avp (hostname : Bytes) : Bytes :=
  let namelen := min hostname.length (MAXAVPSIZE - 6)
  add_header (0x6 + namelen).toUInt16 0x7 ++ hostname.take namelen

def add_vendor_avp (vendorname : Bytes) : Bytes :=
  add_nonmandatory_header (0x6 + vendorname.length).toUInt16 0x8 ++ vendorname

def add_tunnelid_avp (tid : UInt16) : Bytes := add_header 0x8 0x9 ++ putShort tid

def add_avp_rws (rws : UInt16) : Bytes := add_header 0x8 0xA ++ putShort rws

/-- The AVPs that copy `len` bytes of an array. -/
def add_copied_avp (type : UInt16) (c : Bytes) (len : UInt16) : Bytes :=
  add_header (0x6 + len) type ++ bytesAt c 0 len.toNat

def add_challenge_avp : Bytes → UInt16 → Bytes := add_copied_avp 0xB
def add_chalresp_avp : Bytes → UInt16 → Bytes := add_copied_avp 0xD
def add_randvect_avp : Bytes → UInt16 → Bytes := add_copied_avp 0x24

def add_result_code_avp (result error : UInt16) (msg : Bytes) (len : Nat) : Bytes :=
  add_header (0xA + len).toUInt16 0x1 ++ putShort result ++ putShort error ++ bytesAt msg 0 len

def add_callid_avp (callid : UInt16) : Bytes := add_header 0x8 0xE ++ putShort callid

def add_serno_avp (serno : UInt32) : Bytes := add_header 0xA 0xF ++ putLong serno

def add_bearer_avp (bearer : UInt32) : Bytes := add_header 0xA 0x12 ++ putLong bearer

def add_frame_avp (frame : UInt32) : Bytes := add_header 0xA 0x13 ++ putLong frame

def add_txspeed_avp (speed : UInt32) : Bytes := add_header 0xA 0x18 ++ putLong speed

def add_rxspeed_avp (speed : UInt32) : Bytes := add_nonmandatory_header 0xA 0x26 ++ putLong speed

def add_physchan_avp (physchan : UInt32) : Bytes :=
  add_nonmandatory_header 0xA 0x19 ++ putLong physchan

def add_ppd_avp (ppd : UInt16) : Bytes := add_header 0x8 0x14 ++ putShort ppd

def add_seqreqd_avp : Bytes := add_header 0x6 0x27

def add_minbps_avp (speed : UInt32) : Bytes := add_header 0xA 0x10 ++ putLong speed

def add_maxbps_avp (speed : UInt32) : Bytes := add_header 0xA 0x11 ++ putLong speed

def add_number_avp (no : Bytes) : Bytes := add_header (0x6 + no.length).toUInt16 0x15 ++ no

def add_init_lcp_req_avp : Bytes → UInt16 → Bytes := add_copied_avp 26
def add_last_lcp_send_avp : Bytes → UInt16 → Bytes := add_copied_avp 27
def add_last_lcp_recv_avp : Bytes → UInt16 → Bytes := add_copied_avp 28

def add_proxy_auth_type_avp (type : UInt16) : Bytes := add_header 0x8 29 ++ putShort type

def add_proxy_auth_name_avp : Bytes → UInt16 → Bytes := add_copied_avp 30
def add_proxy_auth_challenge_avp : Bytes → UInt16 → Bytes := add_copied_avp 31

def add_proxy_auth_id_avp (id : UInt16) : Bytes := add_header 0x8 32 ++ putShort id

def add_proxy_auth_response_avp : Bytes → UInt16 → Bytes := add_copied_avp 33

/-- The datagram: the header in front of the AVPs added so far. -/
def add_control_hdr (avps : Bytes) (tid cid ns nr : UInt16) : Bytes :=
  putShort (TBIT ||| LBIT ||| FBIT ||| VER_L2TP) ++ putShort (avps.length + CONTROL_HDR).toUInt16
    ++ putShort tid ++ putShort cid ++ putShort ns ++ putShort nr ++ avps

end CL2TPControllMessage

end OpenBras
