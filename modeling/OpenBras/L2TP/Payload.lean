/-
  File:      OpenBras/L2TP/Payload.lean
  Subject:   THE DATA MESSAGES OF L2TP: `CL2TPDataMessage::Decode` and `AddPayloadHdr`
             (src/l2tp/CL2TPMessage.cpp).

  The tunnel hands the payload on as a pointer into its receive buffer and a size, so the model
  holds the memory from the pointer on. The size is a `size_t`: with the Length bit set it is
  not compared with the header's length, and the subtraction may wrap around.
-/
import OpenBras.L2TP.Message

namespace OpenBras

open Wire
open CL2TPControllMessage (VER_L2TP)

def MIN_PAYLOAD_HDR_LEN : Nat := 6

def PTBIT (ver : UInt16) : Bool := ver &&& 0x8000 != 0
def PLBIT (ver : UInt16) : Bool := ver &&& 0x4000 != 0
def PFBIT (ver : UInt16) : Bool := ver &&& 0x0800 != 0
def PSBIT (ver : UInt16) : Bool := ver &&& 0x0200 != 0
def PVER (ver : UInt16) : UInt16 := ver &&& 0x0007

structure CL2TPDataMessage where
  length : UInt16 := 0
  tid : UInt16 := 0
  cid : UInt16 := 0
  Ns : UInt16 := 0
  Nr : UInt16 := 0
  blf : Bool := false
  bnsf : Bool := false
  payload : Bytes := []
  payloadsize : Nat := 0
  deriving DecidableEq, Repr

namespace CL2TPDataMessage

/-- The fields of the header, by its Length and Sequence bits. Without either, the tunnel id and
    the call id are not read. -/
def payloadHdr (buffer : Bytes) (m : CL2TPDataMessage) : CL2TPDataMessage :=
  let ver := getShort buffer 0
  if PLBIT ver then
    let m := { m with length := getShort buffer 2, blf := true }
    if PFBIT ver then
      { m with
        tid := getShort buffer 4, cid := getShort buffer 6, Ns := getShort buffer 8,
        Nr := getShort buffer 10, bnsf := true }
    else
      { m with tid := getShort buffer 4, cid := getShort buffer 6, Ns := 0, Nr := 0, bnsf := false }
  else
    let m := { m with length := 0, blf := false }
    if PFBIT ver then
      { m with
        tid := getShort buffer 2, cid := getShort buffer 4, Ns := getShort buffer 6,
        Nr := getShort buffer 8, bnsf := true }
    else { m with Ns := 0, Nr := 0, bnsf := false }

/-- `ehlen` at the end of `Decode`. -/
def ehlen (ver : UInt16) : Nat :=
  MIN_PAYLOAD_HDR_LEN + (if PLBIT ver then 2 else 0) + (if PFBIT ver then 4 else 0) +
    (if PSBIT ver then 2 else 0)

/-- `Decode`: its result and the message it leaves. -/
def decode (buffer : Bytes) (buffersize : Nat) (m : CL2TPDataMessage) : Int × CL2TPDataMessage :=
  let ver := getShort buffer 0
  if buffersize < MIN_PAYLOAD_HDR_LEN then (-1, m)
  else if PTBIT ver then (-1, {})
  else if PVER ver ≠ VER_L2TP then (-1, {})
  else if buffersize ≠ (getShort buffer 2).toNat ∧ PLBIT ver then (-1, {})
  else if buffersize < ehlen ver ∧ ¬ PLBIT ver then (-1, {})
  else
    (0, { payloadHdr buffer m with
      payload := buffer.drop (ehlen ver),
      payloadsize := (buffersize + 2 ^ 64 - ehlen ver) % 2 ^ 64 })

/-- `hdrsize` of `AddPayloadHdr`: the `payload_hdr` without its offset size, and without what the
    flags leave out. -/
def hdrsize (fbit lbit : UInt32) : Nat :=
  14 - 2 - (if fbit = 0 then 4 else 0) - (if lbit = 0 then 2 else 0)

/-- `AddPayloadHdr` over the buffer of the message: the size it returns and the buffer it leaves,
    `none` for its `-1`. The flags are `int`s, given by their bits. The length it announces is
    that of the buffer. -/
def addPayloadHdr (buffer : Bytes) (fbit lbit : UInt32) (tid cid ns nr : UInt16) (data : Bytes) :
    Option (Nat × Bytes) :=
  if buffer.length < hdrsize fbit lbit + data.length then none
  else
    let b := memcpy buffer 0 (putShort (fbit ||| lbit ||| VER_L2TP.toUInt32).toUInt16)
    let b := if lbit ≠ 0 then memcpy b 2 (putShort buffer.length.toUInt16) else b
    -- without a length, `p` is moved back by its two bytes
    let p := if lbit ≠ 0 then 2 else 0
    let b := memcpy (memcpy b (p + 2) (putShort tid)) (p + 4) (putShort cid)
    let b :=
      if fbit ≠ 0 then memcpy (memcpy b (p + 6) (putShort ns)) (p + 8) (putShort nr) else b
    some (hdrsize fbit lbit + data.length, memcpy b (hdrsize fbit lbit) data)

end CL2TPDataMessage

end OpenBras
