/-
  File:      OpenBras/IPOE/Packet.lean
  Subject:   DHCP PACKETS AND THEIR BYTES: `marshall` and `serialize` (src/IPOE/DHCPPacket.cpp).

  `marshall` works with two pointers: `buffer`, and `packet_begin`, which is `offset` bytes
  further on. Most fields are taken from `packet_begin`; the octet `hops` is taken `offset` bytes
  too far, the values of the options and the padding `offset` bytes too early. Beside the packet
  the model answers with the pieces of memory that were read, as (position, length) from `buffer`
  on, so that a read behind the datagram shows.

  A `char` is signed: an option of 128 bytes or more has a negative length, for which there is no
  memory. `mem n` says whether `malloc` finds `n` bytes. The buffer is never `NULL` here.
-/
import OpenBras.IPOE.Server

namespace OpenBras

open Wire

/-! ## 1. Packets -/

def DHO_PAD : UInt8 := 0
/-- The source has -1, compared with a signed octet. -/
def DHO_END : UInt8 := 0xff

def BOOTP_ABSOLUTE_MIN_LEN : Nat := 236
def DHCP_VEND_SIZE : Nat := 64
def DHCP_MAX_MTU : Nat := 1500

def DHCP_MAGIC_COOKIE : Bytes := [0x63, 0x82, 0x53, 0x63]

/-- `dhcp_packet` with the fields that the server leaves alone. -/
structure DhcpDatagram extends DhcpPacket where
  secs : Bytes := List.replicate 2 0
  siaddr : Bytes := List.replicate 4 0
  giaddr : Bytes := List.replicate 4 0
  sname : Bytes := List.replicate 64 0
  file : Bytes := List.replicate 128 0
  padding : Option Bytes := none
  deriving DecidableEq, Repr

/-- The arrays of the structure have the sizes they are declared with. -/
structure DhcpDatagram.Sized (p : DhcpDatagram) : Prop where
  xid : p.xid.length = 4
  secs : p.secs.length = 2
  flags : p.flags.length = 2
  ciaddr : p.ciaddr.length = 4
  yiaddr : p.yiaddr.length = 4
  siaddr : p.siaddr.length = 4
  giaddr : p.giaddr.length = 4
  chaddr : p.chaddr.length = 16
  sname : p.sname.length = 64
  file : p.file.length = 128

/-- The member `length`, a `char`. -/
def DhcpOption.length (o : DhcpOption) : Int8 := Int8.ofNat o.value.length

namespace DHCPPacket

/-- `sizeof(struct dhcp_packet)` and `sizeof(struct dhcp_option)`. -/
def sizeofPacket : Nat := 256
def sizeofOption : Nat := 32

variable (mem : Nat → Bool)

/-- `malloc`: a negative size is a huge one as a `size_t`. -/
def malloc (size : Int) : Bool := decide (0 ≤ size) && mem size.toNat

/-! ## 2. `marshall` -/

/-- What the loop over the options leaves: the list, `NULL` for the packet if memory ran out;
    `options_offset`; and what was read. -/
structure Walk where
  options : Option (List DhcpOption)
  options_offset : Nat
  reads : List (Nat × Nat)
  deriving DecidableEq, Repr

/-- An octet read before. -/
def Walk.note (rs : List (Nat × Nat)) (w : Walk) : Walk := { w with reads := rs ++ w.reads }

/-- An option found before. -/
def Walk.found (o : DhcpOption) (w : Walk) : Walk := { w with options := w.options.map (o :: ·) }

/-- The loop over the options, from `options_offset` = `o` on. -/
def optionLoop (buffer : Bytes) (offset length : Nat) (o : Nat) : Walk :=
  if o ≥ length then { options := some [], options_offset := o, reads := [] }
  else
    let code := byteAt buffer (offset + o)
    if code = DHO_PAD then (optionLoop buffer offset length (o + 1)).note [(offset + o, 1)]
    else if code = DHO_END then
      { options := some [], options_offset := o + 1, reads := [(offset + o, 1)] }
    else
      let len : Int := (byteAt buffer (offset + o + 1)).toInt8.toInt
      let reads := [(offset + o, 1), (offset + o + 1, 1)]
      if ((o + 2 : Nat) : Int) + len > length - 1 then
        { options := some [], options_offset := o + 2, reads }
      else if malloc mem sizeofOption && malloc mem len then
        -- from `buffer`, not from `packet_begin`
        let option : DhcpOption := { code, value := bytesAt buffer (o + 2) len.toNat }
        ((optionLoop buffer offset length (o + 2 + len.toNat)).found option).note
          (reads ++ [(o + 2, len.toNat)])
      else { options := none, options_offset := o + 2, reads }
termination_by length - o

theorem toInt_toInt8 (x : UInt8) :
    x.toInt8.toInt = if x < 128 then (x.toNat : Int) else x.toNat - 256 := by
  have hlt : x < 128 ↔ 2 * x.toNat < 2 ^ 8 := by
    rw [UInt8.lt_iff_toNat_lt]
    change x.toNat < 128 ↔ _
    omega
  change x.toBitVec.toInt = _
  rw [BitVec.toInt_eq_toNat_cond]
  simp only [hlt]
  rfl

section
variable {mem} {buffer : Bytes} {offset length o : Nat}

theorem optionLoop_done (h : length ≤ o) :
    optionLoop mem buffer offset length o =
      { options := some [], options_offset := o, reads := [] } := by
  rw [optionLoop, if_pos h]

theorem optionLoop_pad (h : o < length) (hcode : byteAt buffer (offset + o) = DHO_PAD) :
    optionLoop mem buffer offset length o =
      (optionLoop mem buffer offset length (o + 1)).note [(offset + o, 1)] := by
  rw [optionLoop, if_neg h.not_ge]
  exact if_pos hcode

theorem optionLoop_end (h : o < length) (hcode : byteAt buffer (offset + o) = DHO_END) :
    optionLoop mem buffer offset length o =
      { options := some [], options_offset := o + 1, reads := [(offset + o, 1)] } := by
  have hpad : byteAt buffer (offset + o) ≠ DHO_PAD := by
    rw [hcode]
    decide
  rw [optionLoop, if_neg h.not_ge]
  exact (if_neg hpad).trans (if_pos hcode)

/-- The octet at `o` begins an option. -/
structure Opens (buffer : Bytes) (offset length o : Nat) : Prop where
  lt : o < length
  not_pad : byteAt buffer (offset + o) ≠ DHO_PAD
  not_end : byteAt buffer (offset + o) ≠ DHO_END

theorem Opens.loop (h : Opens buffer offset length o) :
    optionLoop mem buffer offset length o =
      let len : Int := (byteAt buffer (offset + o + 1)).toInt8.toInt
      let reads := [(offset + o, 1), (offset + o + 1, 1)]
      if ((o + 2 : Nat) : Int) + len > length - 1 then
        { options := some [], options_offset := o + 2, reads }
      else if malloc mem sizeofOption && malloc mem len then
        ((optionLoop mem buffer offset length (o + 2 + len.toNat)).found
          { code := byteAt buffer (offset + o), value := bytesAt buffer (o + 2) len.toNat }).note
          (reads ++ [(o + 2, len.toNat)])
      else { options := none, options_offset := o + 2, reads } := by
  rw [optionLoop, if_neg h.lt.not_ge]
  exact (if_neg h.not_pad).trans (if_neg h.not_end)

theorem Opens.reads (h : Opens buffer offset length o) :
    (offset + o + 1, 1) ∈ (optionLoop mem buffer offset length o).reads := by
  rw [h.loop]
  dsimp only
  split
  · simp
  · split <;> simp [Walk.note]

theorem Opens.cut (h : Opens buffer offset length o)
    (hlen : byteAt buffer (offset + o + 1) < 128)
    (hend : length ≤ o + 2 + (byteAt buffer (offset + o + 1)).toNat) :
    optionLoop mem buffer offset length o =
      { options := some [], options_offset := o + 2,
        reads := [(offset + o, 1), (offset + o + 1, 1)] } := by
  rw [h.loop]
  dsimp only
  rw [toInt_toInt8, if_pos hlen]
  exact if_pos (by omega)

theorem Opens.option (h : Opens buffer offset length o)
    (hlen : byteAt buffer (offset + o + 1) < 128)
    (hend : o + 2 + (byteAt buffer (offset + o + 1)).toNat < length)
    (hmem : ∀ n, mem n = true) :
    optionLoop mem buffer offset length o =
      let len := (byteAt buffer (offset + o + 1)).toNat
      ((optionLoop mem buffer offset length (o + 2 + len)).found
          { code := byteAt buffer (offset + o), value := bytesAt buffer (o + 2) len }).note
        [(offset + o, 1), (offset + o + 1, 1), (o + 2, len)] := by
  rw [h.loop]
  dsimp only
  rw [toInt_toInt8, if_pos hlen, if_neg (by omega), if_pos]
  · simp only [Int.toNat_natCast, List.cons_append, List.nil_append]
  · simp [malloc, hmem]

/-- A length of 128 or more inside the datagram: no packet. -/
theorem Opens.null (h : Opens buffer offset length o) (hlt : o + 1 < length)
    (hlen : ¬ byteAt buffer (offset + o + 1) < 128) :
    (optionLoop mem buffer offset length o).options = none := by
  have hbyte := (byteAt buffer (offset + o + 1)).toNat_lt
  have hfail : malloc mem ((byteAt buffer (offset + o + 1)).toNat - 256) = false := by
    rw [malloc, decide_eq_false (by omega), Bool.false_and]
  rw [h.loop]
  dsimp only
  rw [toInt_toInt8, if_neg hlen, if_neg (by omega), hfail, Bool.and_false,
    if_neg Bool.false_ne_true]

theorem opens_of_lt (buffer : Bytes) (offset : Nat) (h : o < length) :
    byteAt buffer (offset + o) = DHO_PAD ∨ byteAt buffer (offset + o) = DHO_END ∨
      Opens buffer offset length o := by
  by_cases hpad : byteAt buffer (offset + o) = DHO_PAD
  · exact .inl hpad
  · by_cases hend : byteAt buffer (offset + o) = DHO_END
    · exact .inr (.inl hend)
    · exact .inr (.inr ⟨h, hpad, hend⟩)

end

/-- The static part; `hops` is read at `packet_begin + offset + 3`. -/
def staticPart (buffer : Bytes) (offset : Nat) : DhcpDatagram where
  op := byteAt buffer offset
  htype := byteAt buffer (offset + 1)
  hlen := byteAt buffer (offset + 2)
  hops := byteAt buffer (offset + offset + 3)
  xid := bytesAt buffer (offset + 4) 4
  secs := bytesAt buffer (offset + 8) 2
  flags := bytesAt buffer (offset + 10) 2
  ciaddr := bytesAt buffer (offset + 12) 4
  yiaddr := bytesAt buffer (offset + 16) 4
  siaddr := bytesAt buffer (offset + 20) 4
  giaddr := bytesAt buffer (offset + 24) 4
  chaddr := bytesAt buffer (offset + 28) 16
  sname := bytesAt buffer (offset + 44) 64
  file := bytesAt buffer (offset + 108) 128

/-- What is read for the static part and the cookie. -/
def staticReads (offset : Nat) : List (Nat × Nat) :=
  [(offset, 1), (offset + 1, 1), (offset + 2, 1), (offset + offset + 3, 1), (offset + 4, 4),
   (offset + 8, 2), (offset + 10, 2), (offset + 12, 4), (offset + 16, 4), (offset + 20, 4),
   (offset + 24, 4), (offset + 28, 16), (offset + 44, 64), (offset + 108, 128),
   (offset + 236, 4)]

/-- The padding that stands behind the options: where it is copied from, unless there is none or
    no memory for it. The last octet of the datagram is left out. -/
def paddingAt (length o : Nat) : Option (Nat × Nat) :=
  if o + 1 < length ∧ malloc mem (length - o : Nat) then some (o, length - o - 1) else none

/-- `marshall`, with what it reads. -/
def marshall (buffer : Bytes) (offset length : Nat) :
    Option DhcpDatagram × List (Nat × Nat) :=
  if length < BOOTP_ABSOLUTE_MIN_LEN then (none, [])
  else if length > DHCP_MAX_MTU then (none, [])
  else if ¬ malloc mem sizeofPacket then (none, [])
  else if bytesAt buffer (offset + 236) 4 ≠ DHCP_MAGIC_COOKIE then (none, staticReads offset)
  else
    let w := optionLoop mem buffer offset length 240
    match w.options with
    | none => (none, staticReads offset ++ w.reads)
    | some options =>
      -- from `buffer` once more
      let padding := paddingAt mem length w.options_offset
      (some { staticPart buffer offset with
          options, padding := padding.map fun r => bytesAt buffer r.1 r.2 },
        staticReads offset ++ w.reads ++ padding.toList)

/-! ## 3. `serialize` -/

/-- The size of an option, as it is added to `packet_len`. -/
def optionLen (o : DhcpOption) : Int := 2 + o.length.toInt

/-- `packet_len` before the padding is counted. -/
def packetLen (p : DhcpDatagram) : Int :=
  BOOTP_ABSOLUTE_MIN_LEN + DHCP_MAGIC_COOKIE.length + (p.options.map optionLen).sum + 1

/-- The loop that writes the options; with where it stops. A `memcpy` of a negative size does not
    come back. -/
def writeOptions : List DhcpOption → Nat → Bytes → Option (Nat × Bytes)
  | [], o, buffer => some (o, buffer)
  | option :: options, o, buffer =>
    let buffer := memcpy buffer o [option.code]
    let buffer := memcpy buffer (o + 1) [option.length.toUInt8]
    let len := option.length.toInt
    if len < 0 then none
    else
      writeOptions options (o + 2 + len.toNat)
        (memcpy buffer (o + 2) (option.value.take len.toNat))

/-- The copies into the static part of the buffer, in their order, and the cookie. -/
def writeStatic (p : DhcpDatagram) (buffer : Bytes) : Bytes :=
  let buffer := memcpy buffer 0 [p.op]
  let buffer := memcpy buffer 1 [p.htype]
  let buffer := memcpy buffer 2 [p.hlen]
  let buffer := memcpy buffer 3 [p.hops]
  let buffer := memcpy buffer 4 p.xid
  let buffer := memcpy buffer 8 p.secs
  let buffer := memcpy buffer 10 p.flags
  let buffer := memcpy buffer 12 p.ciaddr
  let buffer := memcpy buffer 16 p.yiaddr
  let buffer := memcpy buffer 20 p.siaddr
  let buffer := memcpy buffer 24 p.giaddr
  let buffer := memcpy buffer 28 p.chaddr
  let buffer := memcpy buffer 44 p.sname
  let buffer := memcpy buffer 108 p.file
  memcpy buffer 236 DHCP_MAGIC_COOKIE

/-- `serialize`: the value it returns and the buffer it leaves; `none` if it does not come back.
    The member `padding` is not looked at. -/
def serialize (p : DhcpDatagram) (buffer : Bytes) (length : Int) : Option (Int × Bytes) :=
  let packet_len := packetLen p
  let minimum : Int := BOOTP_ABSOLUTE_MIN_LEN + DHCP_VEND_SIZE
  let padding_len := if packet_len < minimum then minimum - packet_len else 0
  let packet_len := if packet_len < minimum then minimum else packet_len
  if packet_len > length then some (0, buffer)
  else
    match writeOptions p.options 240 (writeStatic p buffer) with
    | none => none
    | some (o, buffer) =>
      let buffer := memcpy buffer o [DHO_END]
      some (packet_len, memcpy buffer (o + 1) (List.replicate padding_len.toNat 0))

end DHCPPacket

end OpenBras
