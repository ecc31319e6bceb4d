/-
  File:      OpenBras/IPOE/Serialize.lean
  Subject:   WHAT `serialize` WRITES, `marshall` READS.

  The image of a packet is its static part, the cookie, the options, End, and zeros up to 300
  octets. End stands behind every option, so that none of them ends with the datagram, where
  `marshall` would drop it.
-/
import OpenBras.IPOE.Options
import OpenBras.Lib.Fields

namespace OpenBras

open Wire

/-- What can be written and read again: options that are neither Pad nor End, of at most 127
    octets. -/
structure DhcpDatagram.Encodable (p : DhcpDatagram) : Prop extends p.Sized where
  codes : ∀ o ∈ p.options, o.code ≠ DHO_PAD ∧ o.code ≠ DHO_END
  lengths : ∀ o ∈ p.options, o.value.length ≤ 127

namespace DHCPPacket

/-! ## 1. The image of a packet -/

/-- The static part, field by field, with the cookie. -/
def staticFields (p : DhcpDatagram) : List Bytes :=
  [[p.op], [p.htype], [p.hlen], [p.hops], p.xid, p.secs, p.flags, p.ciaddr, p.yiaddr, p.siaddr,
   p.giaddr, p.chaddr, p.sname, p.file, DHCP_MAGIC_COOKIE]

def optionBytes (o : DhcpOption) : Bytes := [o.code, UInt8.ofNat o.value.length] ++ o.value

/-- The octets up to End. -/
def contents (p : DhcpDatagram) : Bytes :=
  (staticFields p).flatten ++ p.options.flatMap optionBytes ++ [DHO_END]

/-- The octets of the packet. -/
def image (p : DhcpDatagram) : Bytes :=
  contents p ++ List.replicate (300 - (contents p).length) 0

/-- The size of the image, as it is announced. -/
def serializedSize (p : DhcpDatagram) : Nat :=
  max 300 (241 + (p.options.map fun o => 2 + o.value.length).sum)

variable {p : DhcpDatagram}

theorem length_static (h : p.Sized) :
    (staticFields p).map List.length = [1, 1, 1, 1, 4, 2, 2, 4, 4, 4, 4, 16, 64, 128, 4] := by
  simp only [staticFields, List.map_cons, List.map_nil, h.xid, h.secs, h.flags, h.ciaddr,
    h.yiaddr, h.siaddr, h.giaddr, h.chaddr, h.sname, h.file]
  rfl

theorem length_flatten_static (h : p.Sized) : (staticFields p).flatten.length = 240 := by
  rw [List.length_flatten, length_static h]
  rfl

theorem length_contents (h : p.Sized) :
    (contents p).length = 241 + (p.options.map fun o => 2 + o.value.length).sum := by
  have hopts : (p.options.flatMap optionBytes).length =
      (p.options.map fun o => 2 + o.value.length).sum := by
    rw [List.length_flatMap]
    congr 1
    refine List.map_congr_left fun o _ => ?_
    rw [optionBytes, List.length_append]
    rfl
  rw [contents, List.length_append, List.length_append, length_flatten_static h, hopts,
    List.length_singleton]
  omega

theorem length_image (h : p.Sized) : (image p).length = serializedSize p := by
  rw [image, List.length_append, List.length_replicate, length_contents h, serializedSize]
  omega

/-! ## 2. Writing -/

theorem writeStatic_eq (h : p.Sized) (buffer : Bytes) :
    writeStatic p buffer = (staticFields p).flatten ++ buffer.drop 240 := by
  have hput := putFields_eq (staticFields p) [] buffer
  rw [List.nil_append, List.nil_append, length_flatten_static h] at hput
  rw [← hput]
  simp only [staticFields, putFields, List.length_cons, List.length_nil, h.xid, h.secs, h.flags,
    h.ciaddr, h.yiaddr, h.siaddr, h.giaddr, h.chaddr, h.sname, h.file]
  rfl

theorem length_of_short {o : DhcpOption} (h : o.value.length ≤ 127) :
    o.length.toInt = o.value.length := by
  have hnat : (UInt8.ofNat o.value.length).toNat = o.value.length :=
    UInt8.toNat_ofNat_of_lt' (by simp only [UInt8.size]; omega)
  have hlt : UInt8.ofNat o.value.length < 128 := by
    rw [UInt8.lt_iff_toNat_lt, hnat]
    exact Nat.lt_succ_of_le h
  have hint := toInt_toInt8 (UInt8.ofNat o.value.length)
  rw [if_pos hlt, hnat] at hint
  exact hint

theorem writeOptions_eq {os : List DhcpOption} (h : ∀ o ∈ os, o.value.length ≤ 127)
    (w buffer : Bytes) :
    writeOptions os w.length (w ++ buffer.drop w.length) =
      some ((w ++ os.flatMap optionBytes).length,
        w ++ os.flatMap optionBytes ++ buffer.drop (w ++ os.flatMap optionBytes).length) := by
  induction os generalizing w with
  | nil => simp only [writeOptions, List.flatMap_nil, List.append_nil]
  | cons o os ih =>
    obtain ⟨ho, hos⟩ := List.forall_mem_cons.mp h
    have hlen := length_of_short ho
    have hput := putFields_eq [[o.code], [o.length.toUInt8], o.value] w buffer
    have hbytes : [[o.code], [o.length.toUInt8], o.value].flatten = optionBytes o := by
      simp only [List.flatten_cons, List.flatten_nil, List.append_nil]
      rfl
    have hend : w.length + 2 + o.value.length = (w ++ optionBytes o).length := by
      simp only [optionBytes, List.length_append, List.length_cons, List.length_nil]
      omega
    rw [hbytes] at hput
    simp only [putFields, List.length_singleton, Nat.add_assoc, Nat.reduceAdd] at hput
    rw [writeOptions, hlen, if_neg (by omega), Int.toNat_natCast, List.take_length, hput, hend, ih hos,
      List.flatMap_cons, List.append_assoc w]

theorem packetLen_eq (h : p.Encodable) : packetLen p = (contents p).length := by
  have hsum : ∀ os : List DhcpOption, (∀ o ∈ os, o.value.length ≤ 127) →
      (os.map optionLen).sum = ((os.map fun o => 2 + o.value.length).sum : Nat) := by
    intro os hos
    induction os with
    | nil => rfl
    | cons o os ih =>
      obtain ⟨ho, hos⟩ := List.forall_mem_cons.mp hos
      simp only [List.map_cons, List.sum_cons, ih hos, optionLen, length_of_short ho]
      omega
  rw [packetLen, hsum p.options h.lengths, length_contents h.toSized]
  simp only [BOOTP_ABSOLUTE_MIN_LEN, DHCP_MAGIC_COOKIE, List.length_cons, List.length_nil]
  omega

/-- **What `serialize` leaves in the buffer**: the image of the packet, and what was behind it. -/
theorem serialize_eq (h : p.Encodable) (buffer : Bytes) {length : Int}
    (hlen : serializedSize p ≤ length) :
    serialize p buffer length =
      some ((serializedSize p : Int), image p ++ buffer.drop (serializedSize p)) := by
  have hopts := writeOptions_eq h.lengths (staticFields p).flatten buffer
  rw [length_flatten_static h.toSized] at hopts
  have hsize : serializedSize p = max 300 (contents p).length := by
    rw [serializedSize, length_contents h.toSized]
  have hpacket : (if ((contents p).length : Int) < (236 : Nat) + (64 : Nat) then
      ((236 : Nat) + (64 : Nat) : Int) else (contents p).length) = serializedSize p := by
    rw [hsize]
    split <;> omega
  have hpadding : (if ((contents p).length : Int) < (236 : Nat) + (64 : Nat) then
      ((236 : Nat) + (64 : Nat) : Int) - (contents p).length else 0).toNat =
        300 - (contents p).length := by
    split <;> omega
  have hend : (staticFields p).flatten ++ p.options.flatMap optionBytes ++ [DHO_END] =
      contents p := rfl
  have hone : 1 = [DHO_END].length := rfl
  unfold serialize
  simp only [packetLen_eq h, BOOTP_ABSOLUTE_MIN_LEN, DHCP_VEND_SIZE, hpacket, hpadding]
  rw [if_neg hlen.not_gt, writeStatic_eq h.toSized, hopts]
  dsimp only
  rw [memcpy_next, hone, ← List.length_append, hend, memcpy_next,
    ← image, length_image h.toSized]

/-! ## 3. Reading -/

theorem rfc2132_written {os : List DhcpOption}
    (hcodes : ∀ o ∈ os, o.code ≠ DHO_PAD ∧ o.code ≠ DHO_END)
    (hlens : ∀ o ∈ os, o.value.length ≤ 127) (tail : Bytes) :
    rfc2132 (os.flatMap optionBytes ++ DHO_END :: tail) = os ∧
      Plain (os.flatMap optionBytes ++ DHO_END :: tail) := by
  induction os with
  | nil => exact ⟨rfc2132_end tail, plain_end tail⟩
  | cons o os ih =>
    obtain ⟨hcode, hcodes⟩ := List.forall_mem_cons.mp hcodes
    obtain ⟨hlen, hlens⟩ := List.forall_mem_cons.mp hlens
    obtain ⟨hrfc, hplain⟩ := ih hcodes hlens
    have hnat : (UInt8.ofNat o.value.length).toNat = o.value.length :=
      UInt8.toNat_ofNat_of_lt' (by simp only [UInt8.size]; omega)
    have hbytes : (o :: os).flatMap optionBytes ++ DHO_END :: tail =
        o.code :: UInt8.ofNat o.value.length ::
          (o.value ++ (os.flatMap optionBytes ++ DHO_END :: tail)) := by
      simp only [List.flatMap_cons, optionBytes, List.cons_append, List.nil_append,
        List.append_assoc]
    rw [hbytes, rfc2132_option hcode.1 hcode.2, plain_option hcode.1 hcode.2, hnat,
      List.take_left, List.drop_left, hrfc, List.length_append, List.length_append,
      List.length_cons]
    refine ⟨if_pos (by omega), ?_, by omega, fun _ => hplain⟩
    rw [UInt8.lt_iff_toNat_lt, hnat]
    exact Nat.lt_succ_of_le hlen

/-- **The static part comes back**, and the cookie stands behind it. -/
theorem staticPart_written (h : p.Sized) (r : Bytes) :
    staticPart ((staticFields p).flatten ++ r) 0 = { p with options := [], padding := none } ∧
      bytesAt ((staticFields p).flatten ++ r) 236 4 = DHCP_MAGIC_COOKIE := by
  have hfields := fieldsAt_flatten (staticFields p) [] r
  rw [length_static h, List.nil_append] at hfields
  generalize (staticFields p).flatten ++ r = m at hfields
  have hone : ∀ i, bytesAt m i 1 = [byteAt m i] := fun _ => rfl
  simp only [staticFields, fieldsAt, List.cons.injEq, List.length_nil, Nat.zero_add,
    Nat.reduceAdd, hone, and_true] at hfields
  obtain ⟨h0, h1, h2, h3, h4, h8, h10, h12, h16, h20, h24, h28, h44, h108, h236⟩ := hfields
  refine ⟨?_, h236⟩
  simp only [staticPart, Nat.zero_add, h0, h1, h2, h3, h4, h8, h10, h12, h16, h20, h24, h28, h44,
    h108]

/-- **What `serialize` writes, `marshall` reads**: the same static part and the same options. What
    was written is at least 300 octets, and as many as `serialize` returns. -/
theorem marshall_serialize {mem : Nat → Bool} (hmem : ∀ n, mem n = true) {p : DhcpDatagram}
    (h : p.Encodable) (hmax : serializedSize p ≤ DHCP_MAX_MTU) (buffer : Bytes) {length : Int}
    (hlen : serializedSize p ≤ length) :
    ∃ written q, serialize p buffer length =
        some ((written.length : Int), written ++ buffer.drop written.length) ∧
      written.length = serializedSize p ∧ 300 ≤ written.length ∧
      (marshall mem (written ++ buffer.drop written.length) 0 written.length).1 = some q ∧
      { q with padding := none } = { p with padding := none } := by
  have hsize := length_image h.toSized
  have hmin : 300 ≤ (image p).length := by
    rw [hsize]
    exact le_max_left _ _
  have himage : image p = (staticFields p).flatten ++
      (p.options.flatMap optionBytes ++
        DHO_END :: List.replicate (300 - (contents p).length) 0) := by
    rw [image, contents]
    simp only [List.append_assoc, List.cons_append, List.nil_append]
  have hdrop : (image p).drop 240 = p.options.flatMap optionBytes ++
      DHO_END :: List.replicate (300 - (contents p).length) 0 := by
    rw [himage]
    exact List.drop_left' (length_flatten_static h.toSized)
  obtain ⟨hrfc, hplain⟩ := rfc2132_written h.codes h.lengths
    (List.replicate (300 - (contents p).length) 0)
  rw [← hdrop] at hrfc hplain
  have hloop := (optionLoop_right_iff (buffer.drop (image p).length) hmem (by omega)).mpr hplain
  have hstatic := staticPart_written h.toSized
    (p.options.flatMap optionBytes ++ DHO_END :: List.replicate (300 - (contents p).length) 0 ++
      buffer.drop (image p).length)
  rw [← List.append_assoc, ← himage] at hstatic
  have hm := marshall_of_cookie hmem (by omega) (hsize.trans_le hmax) hstatic.2
  dsimp only at hm
  rw [hloop.1, hrfc, Option.elim_some, hstatic.1] at hm
  refine ⟨image p, _, ?_, hsize, hmin, congrArg Prod.fst hm, rfl⟩
  rw [hsize]
  exact serialize_eq h buffer hlen

/-- An offer with an empty option and one of 127 octets, in a buffer of zeros. -/
theorem marshall_serialize_offer :
    let p : DhcpDatagram :=
      { op := BOOT_REPLY,
        options := [{ code := 53, value := [DHCP_OFFER] }, { code := 80, value := [] },
          { code := 43, value := List.replicate 127 9 }] }
    let buffer : Bytes := List.replicate 1500 0
    ∃ written q, serialize p buffer 1500 =
        some ((written.length : Int), written ++ buffer.drop written.length) ∧
      written.length = serializedSize p ∧ 300 ≤ written.length ∧
      (marshall (fun _ => true) (written ++ buffer.drop written.length) 0 written.length).1 =
        some q ∧
      { q with padding := none } = { p with padding := none } := by
  refine marshall_serialize (fun _ => rfl) ⟨?_, ?_, ?_⟩ (by decide +kernel) _
    (by decide +kernel)
  · exact ⟨rfl, rfl, rfl, rfl, rfl, rfl, rfl, rfl, rfl, rfl⟩
  · decide
  · decide +kernel

end DHCPPacket

end OpenBras
