/-
  File:      OpenBras/Portal/Digest.lean
  Subject:   THE DIGEST OF A PORTAL PACKET: what `AddAuthentication` puts into a packet and
             `CheckAuthenticator` asks for.

  Both take the digest of the header, the attributes and the key, if that fits into `auth_str`.
  The attributes are a chain of entries (Lib/Tlv), and what the loops put together on a chain are
  its bytes. `addAuthentication_checks` says that the two agree.
-/
import OpenBras.Lib.Tlv
import OpenBras.Portal.Channel

namespace OpenBras

open Wire

namespace CPortalServerChannel

/-! ## 1. What is digested -/

/-- The digest of a packet fits into `auth_str`. -/
def Fits (attrs key : Bytes) : Prop :=
  OPENPORTAL_HEADER + attrs.length + strlen key ≤ MAX_PORTAL_AUTH_STR_LEN

instance (attrs key : Bytes) : Decidable (Fits attrs key) := by
  unfold Fits
  exact inferInstance

/-- What is in the authenticator field of a packet after `AddAuthentication`. -/
def digest (H : Md5) (key head auth attrs : Bytes) : Bytes :=
  if Fits attrs key then H.run (head ++ auth ++ attrs ++ cText key) else auth

theorem length_digest (H : Md5) (key head attrs : Bytes) {auth : Bytes}
    (h : auth.length = MAX_AUTHENTICATOR_LEN) :
    (digest H key head auth attrs).length = MAX_AUTHENTICATOR_LEN := by
  unfold digest
  split
  · exact H.length_run _
  · exact h

/-- The authenticator of a packet before anything is copied into it. -/
def noAuthenticator : Bytes := List.replicate MAX_AUTHENTICATOR_LEN 0

variable {mem : Bytes} {j : Nat} {es : List (UInt8 × Bytes)}

theorem attribBytes_chain {s : Bytes} {pos : Nat} (hchain : Tlv.Chain mem pos es j)
    (hj : j ≤ mem.length) (hs : s.length ≤ MAX_PORTAL_AUTH_STR_LEN) :
    attribBytes mem es.length pos s =
      if s.length + (Tlv.body es).length ≤ MAX_PORTAL_AUTH_STR_LEN then some (s ++ Tlv.body es)
      else none := by
  induction hchain generalizing s with
  | nil pos =>
    rw [Tlv.body_nil, List.append_nil]
    exact (if_pos hs).symm
  | @cons pos j e es head rest ih =>
    have hle := rest.le
    rw [List.length_cons, attribBytes, head.length, Tlv.body_cons, List.length_append,
      Tlv.length_bytes, bytesAt_eq (by omega), head.bytes_eq (by omega)]
    by_cases hroom : s.length + (2 + e.2.length) > MAX_PORTAL_AUTH_STR_LEN
    · rw [if_pos hroom, if_neg (by omega)]
    · have hlen : (s ++ Tlv.bytes e).length = s.length + (2 + e.2.length) := by
        rw [List.length_append, Tlv.length_bytes]
      rw [if_neg hroom, ih hj (by omega), hlen, List.append_assoc, Nat.add_assoc]

theorem authStr_chain {head : Bytes} (key : Bytes) (hhead : head.length = OPENPORTAL_HEADER)
    (hnum : (byteAt mem 15).toNat = es.length) (hchain : Tlv.Chain mem OPENPORTAL_HEADER es j)
    (hj : j ≤ mem.length) :
    authStr head mem key =
      if Fits (Tlv.body es) key then some (head ++ Tlv.body es ++ cText key) else none := by
  have hmax : MAX_PORTAL_AUTH_STR_LEN = 512 := rfl
  have hheader : OPENPORTAL_HEADER = 32 := rfl
  rw [authStr, hnum, attribBytes_chain hchain hj (by omega), hhead]
  by_cases hfits : Fits (Tlv.body es) key
  · rw [if_pos hfits]
    unfold Fits at hfits
    rw [if_pos (by omega)]
    dsimp only
    rw [List.length_append, hhead, if_neg (by omega)]
  · rw [if_neg hfits]
    unfold Fits at hfits
    by_cases hattrs : OPENPORTAL_HEADER + (Tlv.body es).length ≤ MAX_PORTAL_AUTH_STR_LEN
    · rw [if_pos hattrs]
      dsimp only
      rw [List.length_append, hhead, if_pos (by omega)]
    · rw [if_neg hattrs]

/-- **`CheckAuthenticator` on a packet of version 2.** -/
theorem checkAuthenticator_iff (H : Md5) (key : Bytes) (hv : byteAt mem 0 = PORTAL_VERSION_TWO)
    (hnum : (byteAt mem 15).toNat = es.length) (hchain : Tlv.Chain mem OPENPORTAL_HEADER es j)
    (hj : j ≤ mem.length) :
    checkAuthenticator H key mem = true ↔ Fits (Tlv.body es) key ∧
      bytesAt mem 16 MAX_AUTHENTICATOR_LEN =
        H.run (bytesAt mem 0 16 ++ noAuthenticator ++ Tlv.body es ++ cText key) := by
  have hhead : (bytesAt mem 0 16 ++ noAuthenticator).length = OPENPORTAL_HEADER := by
    rw [List.length_append, length_bytesAt]
    rfl
  have hone : byteAt mem 0 ≠ PORTAL_VERSION_ONE := by
    rw [hv]
    decide
  have hstr := authStr_chain key hhead hnum hchain hj
  unfold noAuthenticator at hstr ⊢
  rw [checkAuthenticator, if_neg hone, hstr]
  by_cases hfits : Fits (Tlv.body es) key
  · rw [if_pos hfits]
    simp only [decide_eq_true_eq, hfits, true_and]
    exact eq_comm
  · rw [if_neg hfits]
    exact iff_of_false Bool.false_ne_true fun h => hfits h.1

/-! ## 2. A packet in parts -/

/-- A packet in parts: 16 bytes of header, the authenticator, the attributes, what lies behind. -/
def packet (head auth : Bytes) (es : List (UInt8 × Bytes)) (rest : Bytes) : Bytes :=
  head ++ auth ++ Tlv.body es ++ rest

section

variable {head auth rest : Bytes} {es : List (UInt8 × Bytes)} (hhead : head.length = 16)
  (hauth : auth.length = MAX_AUTHENTICATOR_LEN)

include hhead

theorem byteAt_packet {i : Nat} (hi : i < 16) :
    byteAt (packet head auth es rest) i = byteAt head i := by
  rw [packet, List.append_assoc, List.append_assoc, byteAt_append (by omega)]

theorem bytesAt_packet_head : bytesAt (packet head auth es rest) 0 16 = head := by
  rw [packet, List.append_assoc, List.append_assoc, ← hhead]
  exact bytesAt_zero _ _

include hauth

theorem bytesAt_packet_auth :
    bytesAt (packet head auth es rest) 16 MAX_AUTHENTICATOR_LEN = auth := by
  rw [packet, List.append_assoc _ _ rest, ← hhead, ← hauth]
  exact bytesAt_append head auth (Tlv.body es ++ rest)

theorem packet_chain (hes : ∀ e ∈ es, Tlv.Short e) :
    Tlv.Chain (packet head auth es rest) OPENPORTAL_HEADER es
      (OPENPORTAL_HEADER + (Tlv.body es).length) := by
  have hlen : (head ++ auth).length = OPENPORTAL_HEADER := by
    rw [List.length_append, hhead, hauth]
    rfl
  have hchain := Tlv.chain_body hes (head ++ auth) rest
  rwa [hlen] at hchain

theorem memcpy_packet {auth' : Bytes} (hauth' : auth'.length = MAX_AUTHENTICATOR_LEN) :
    memcpy (packet head auth es rest) 16 auth' = packet head auth' es rest := by
  unfold packet
  rw [List.append_assoc _ _ rest, List.append_assoc _ _ rest, ← hhead]
  exact memcpy_middle (hauth'.trans hauth.symm)

/-- **`AddAuthentication`** on such a packet. -/
theorem addAuthentication_packet (H : Md5) (key : Bytes) (hes : ∀ e ∈ es, Tlv.Short e)
    (hnum : (byteAt head 15).toNat = es.length) :
    addAuthentication H key (packet head auth es rest) =
      packet head (digest H key head auth (Tlv.body es)) es rest := by
  have hlen : (head ++ auth).length = OPENPORTAL_HEADER := by
    rw [List.length_append, hhead, hauth]
    rfl
  have hfront : bytesAt (packet head auth es rest) 0 OPENPORTAL_HEADER = head ++ auth := by
    rw [packet, List.append_assoc _ _ rest, ← hlen]
    exact bytesAt_zero _ _
  have hnum' : (byteAt (packet head auth es rest) 15).toNat = es.length := by
    rw [byteAt_packet hhead (by decide), hnum]
  have hend : OPENPORTAL_HEADER + (Tlv.body es).length ≤ (packet head auth es rest).length := by
    rw [packet, List.length_append, List.length_append, hlen]
    omega
  rw [addAuthentication, hfront,
    authStr_chain key hlen hnum' (packet_chain hhead hauth hes) hend, digest]
  by_cases hfits : Fits (Tlv.body es) key
  · rw [if_pos hfits, if_pos hfits]
    exact memcpy_packet hhead hauth (H.length_run _)
  · rw [if_neg hfits, if_neg hfits]

/-- A packet without attributes, as it is sent. -/
theorem addAuthentication_bare (H : Md5) (key : Bytes) (hnum : byteAt head 15 = 0) :
    (addAuthentication H key (head ++ auth)).take OPENPORTAL_HEADER =
      head ++ digest H key head auth [] := by
  have hadd : addAuthentication H key (packet head auth [] []) = _ :=
    addAuthentication_packet hhead hauth H key (fun _ he => absurd he List.not_mem_nil)
      (by rw [hnum]; rfl)
  simp only [packet, Tlv.body_nil, List.append_nil] at hadd
  rw [hadd]
  apply List.take_of_length_le
  rw [List.length_append, hhead, length_digest H _ _ _ hauth]
  decide

end

theorem eq_packet (hchain : Tlv.Chain mem OPENPORTAL_HEADER es j) (hj : j ≤ mem.length) :
    mem = packet (bytesAt mem 0 16) (bytesAt mem 16 MAX_AUTHENTICATOR_LEN) es (mem.drop j) := by
  have h32 : 32 ≤ j := hchain.le
  have h16 : MAX_AUTHENTICATOR_LEN = 16 := rfl
  obtain ⟨k, rfl⟩ := Nat.exists_eq_add_of_le h32
  have hbody := hchain.body_eq hj
  rw [show 32 + k - OPENPORTAL_HEADER = k from Nat.add_sub_cancel_left 32 k] at hbody
  rw [packet, bytesAt_eq (by omega), bytesAt_eq (by omega), hbody, List.drop_zero, ← List.take_add]
  show mem = mem.take 32 ++ (mem.drop 32).take k ++ mem.drop (32 + k)
  rw [← List.take_add, List.take_append_drop]

/-- **The digest that `AddAuthentication` puts into a packet of version 2 with a zero authenticator
    is the one `CheckAuthenticator` asks for, and it asks for the digest of the header with a zero
    authenticator, the attributes and the key.** -/
theorem addAuthentication_checks (H : Md5) (key : Bytes) {mem : Bytes} {j : Nat}
    {es : List (UInt8 × Bytes)} (hv : byteAt mem 0 = PORTAL_VERSION_TWO)
    (hnum : (byteAt mem 15).toNat = es.length)
    (hchain : Tlv.Chain mem OPENPORTAL_HEADER es j) (hj : j ≤ mem.length) :
    (Fits (Tlv.body es) key →
      checkAuthenticator H key (addAuthentication H key (memcpy mem 16 noAuthenticator)) = true) ∧
    (checkAuthenticator H key mem = true → bytesAt mem 16 MAX_AUTHENTICATOR_LEN =
      H.run (bytesAt mem 0 16 ++ noAuthenticator ++ Tlv.body es ++ cText key)) := by
  refine ⟨fun hfits => ?_, fun h => ((checkAuthenticator_iff H key hv hnum hchain hj).mp h).2⟩
  have hhead : (bytesAt mem 0 16).length = 16 := length_bytesAt ..
  have hauth : (bytesAt mem 16 MAX_AUTHENTICATOR_LEN).length = MAX_AUTHENTICATOR_LEN :=
    length_bytesAt ..
  have hzero : memcpy mem 16 noAuthenticator =
      packet (bytesAt mem 0 16) noAuthenticator es (mem.drop j) := by
    conv_lhs => rw [eq_packet hchain hj]
    exact memcpy_packet hhead hauth rfl
  have hnum' : (byteAt (bytesAt mem 0 16) 15).toNat = es.length := by
    rw [byteAt_bytesAt (by decide), Nat.zero_add, hnum]
  have hdigest : (digest H key (bytesAt mem 0 16) noAuthenticator (Tlv.body es)).length =
      MAX_AUTHENTICATOR_LEN := length_digest H key _ _ rfl
  rw [hzero, addAuthentication_packet hhead rfl H key hchain.short hnum']
  refine (checkAuthenticator_iff H key ?_ ?_ (packet_chain hhead hdigest hchain.short) ?_).mpr
    ⟨hfits, ?_⟩
  · rw [byteAt_packet hhead (by decide), byteAt_bytesAt (by decide), hv]
  · rw [byteAt_packet hhead (by decide), hnum']
  · rw [packet, List.length_append, List.length_append, List.length_append, hhead, hdigest]
    show 32 + _ ≤ 16 + 16 + _ + _
    omega
  · rw [bytesAt_packet_auth hhead hdigest, bytesAt_packet_head hhead, digest, if_pos hfits]

/-- A request of version 2 with a name and a password. -/
def samplePacket : Bytes :=
  packet ([PORTAL_VERSION_TWO, PORTAL_REQ_AUTHEN, PORTAL_PAP_AUTH] ++ List.replicate 12 0 ++ [2])
    (List.replicate 16 5) [(PORTAL_USER_NAME, ascii "bob"), (PORTAL_PASSWORD, ascii "pw")] []

theorem samplePacket_checks :
    checkAuthenticator Md5.utils (ascii "key") (addAuthentication Md5.utils (ascii "key")
      (memcpy samplePacket 16 noAuthenticator)) = true :=
  (addAuthentication_checks Md5.utils (ascii "key") (by decide) (by decide)
    (packet_chain rfl rfl (by decide)) (by decide)).1 (by decide)

end CPortalServerChannel

end OpenBras
