/-
  File:      OpenBras/Radius/Message.lean
  Subject:   RADIUS MESSAGES: `CRadiusMessage` and what it needs of `CRadiusAttribute` and
             `CRadiusData` (src/Radius).

  A message is its raw bytes, its list of attributes and the request authenticator. MD5 is
  not interpreted. Where the source asserts, or follows a null pointer, the process ends: such
  a function returns in `Except Fault`. The contents of memory nobody has written yet are
  arguments (`Uninitialized`), and so is what is found behind the iterator of a list that is
  already destroyed, which `calcAccessRequestAuthenticator` and `hideUserPassword` follow.
-/
import OpenBras.Utils.Md5

namespace OpenBras

open Wire

/-! ## 1. Constants -/

def RadiusPacketHeaderSize : Nat := 20
def RadiusMinPacketSize : Nat := RadiusPacketHeaderSize
def RadiusMaxPacketSize : Nat := 4096
def RadiusAuthenticatorLength : Nat := 16

def RP_ACCESS_REQUEST : UInt8 := 1
def RP_ACCESS_ACCEPT : UInt8 := 2
def RP_ACCESS_REJECT : UInt8 := 3
def RP_ACCOUNTING_REQUEST : UInt8 := 4
def RP_ACCOUNTING_RESPONSE : UInt8 := 5
def RP_ACCESS_CHALLENGE : UInt8 := 11

def RA_USER_PASSWORD : UInt8 := 2
def RA_NAS_IP_ADDRESS : UInt8 := 4
def RA_VENDOR_SPECIFIC : UInt8 := 26

/-- How the process ends. -/
inductive Fault where
  /-- A failed `assert`. -/
  | assertion
  /-- A read through a null pointer. -/
  | nullRead
  deriving DecidableEq, Repr

def assert (p : Prop) [Decidable p] : Except Fault Unit :=
  if p then .ok () else .error .assertion

section Outcomes

variable {α β : Type} {x : Except Fault α} {f : α → Except Fault β} {b : β}

theorem bind_eq_ok : x >>= f = .ok b ↔ ∃ a, x = .ok a ∧ f a = .ok b := by
  cases x with
  | error _ => exact ⟨fun h => (by cases h), fun ⟨_, h, _⟩ => (by cases h)⟩
  | ok a => exact ⟨fun h => ⟨a, rfl, h⟩, fun ⟨_, h, hf⟩ => (by cases h; exact hf)⟩

theorem map_eq_ok {g : α → β} : g <$> x = .ok b ↔ ∃ a, x = .ok a ∧ g a = b := by
  cases x with
  | error _ => exact ⟨fun h => (by cases h), fun ⟨_, h, _⟩ => (by cases h)⟩
  | ok a =>
    exact ⟨fun h => ⟨a, rfl, Except.ok.inj h⟩, fun ⟨_, h, hg⟩ => (by cases h; exact hg ▸ rfl)⟩

/-- If it ends the process, then by an assert. -/
def Asserts (x : Except Fault α) : Prop := ∀ f, x = .error f → f = .assertion

namespace Asserts

theorem ok (a : α) : Asserts (.ok a) := fun _ h => by cases h

theorem assert (p : Prop) [Decidable p] : Asserts (assert p) := by
  unfold OpenBras.assert
  split
  · exact ok ()
  · exact fun _ h => (Except.error.inj h).symm

theorem ite {p : Prop} [Decidable p] {y : Except Fault α} (hx : Asserts x) (hy : Asserts y) :
    Asserts (if p then x else y) := by
  split
  · exact hx
  · exact hy

theorem bind (hx : Asserts x) (hf : ∀ a, Asserts (f a)) : Asserts (x >>= f) := by
  cases x with
  | error _ => exact fun _ h => hx _ (congrArg Except.error (Except.error.inj h))
  | ok a => exact hf a

theorem map {g : α → β} (hx : Asserts x) : Asserts (g <$> x) := by
  cases x with
  | error _ => exact fun _ h => hx _ (congrArg Except.error (Except.error.inj h))
  | ok a => exact ok _

end Asserts

end Outcomes

/-- `CRadiusData(val, len)`, from the memory at `val`. -/
def CRadiusData (val : Bytes) (len : Nat) : Bytes := val.take (min len RadiusMaxPacketSize)

/-- `CRadiusData::append`. What does not fit into the array is left out. -/
def CRadiusData.append (msgDat val : Bytes) : Bytes :=
  if msgDat.length + val.length > RadiusMaxPacketSize then msgDat else msgDat ++ val

/-! ## 2. Attributes -/

structure CRadiusAttribute where
  myType : UInt8
  myValue : Bytes
  myVendorId : UInt32 := 0
  deriving DecidableEq, Repr

/-- The constructor from a `CRadiusData`: a password is filled up to a multiple of 16 octets. -/
def CRadiusAttribute.ofData (type : UInt8) (value : Bytes) (vendorId : UInt32) :
    Except Fault CRadiusAttribute := do
  assert ((type ≠ RA_VENDOR_SPECIFIC ∧ vendorId = 0) ∨ (type = RA_VENDOR_SPECIFIC ∧ vendorId ≠ 0))
  let length := value.length
  if type = RA_USER_PASSWORD ∧ length % 16 ≠ 0 then
    let value16 := value ++ List.replicate (16 - length % 16) 0
    return { myType := type, myValue := CRadiusData value16 ((length + 16) / 16 * 16),
             myVendorId := vendorId }
  else return { myType := type, myValue := value, myVendorId := vendorId }

/-- `CRadiusAttribute::length`. -/
def CRadiusAttribute.length (a : CRadiusAttribute) : Nat :=
  a.myValue.length + 2 + if a.myVendorId = 0 then 0 else 4

/-- `CRadiusAttribute::encode`. The length is cut to a byte. -/
def CRadiusAttribute.encode (a : CRadiusAttribute) : Bytes :=
  let msgDat := CRadiusData.append [] [a.myType]
  if a.myType = RA_VENDOR_SPECIFIC then
    let msgDat := CRadiusData.append msgDat [UInt8.ofNat (a.myValue.length + 6)]
    let msgDat := CRadiusData.append msgDat (putLong a.myVendorId)
    CRadiusData.append msgDat a.myValue
  else
    let msgDat := CRadiusData.append msgDat [UInt8.ofNat (a.myValue.length + 2)]
    CRadiusData.append msgDat a.myValue

/-! ## 3. Messages -/

/-- What the program does not determine: MD5, and the element behind the iterator of a
    destroyed list; with the configuration of `CRadiusConfig`. -/
structure RadiusEnv where
  calcMD5 : Bytes → Bytes
  length_calcMD5 : ∀ b, (calcMD5 b).length = RadiusAuthenticatorLength
  stale : List CRadiusAttribute → CRadiusAttribute
  sharedKey : Bytes
  responsetimeout : UInt32
  retransmit : UInt32

structure CRadiusMessage where
  myRequestAuthenticator : Bytes
  myAttributes : List CRadiusAttribute
  myData : Bytes
  deriving DecidableEq, Repr

/-- The members of a `CRadiusMessage` that its constructor does not set. -/
structure Uninitialized where
  myRequestAuthenticator : Bytes := []
  myData : Bytes := []

namespace CRadiusMessage

def code (m : CRadiusMessage) : UInt8 := byteAt m.myData 0
def identifier (m : CRadiusMessage) : UInt8 := byteAt m.myData 1

/-- `ntohs(myData.msgHdr.length)`. -/
def msgLen (m : CRadiusMessage) : Nat := (getShort m.myData 2).toNat

def authenticator (m : CRadiusMessage) : Bytes := (m.myData.drop 4).take RadiusAuthenticatorLength

/-- A copy into `myData.msgHdr.authenticator`. -/
def setAuthenticator (a : Bytes) (m : CRadiusMessage) : CRadiusMessage :=
  { m with myData := memcpy m.myData 4 a }

def setIdentifier (id : UInt8) (m : CRadiusMessage) : CRadiusMessage :=
  { m with myData := memcpy m.myData 1 [id] }

def getAuthenticator (m : CRadiusMessage) : Bytes := m.myRequestAuthenticator

def getAll (t : UInt8) (m : CRadiusMessage) : List CRadiusAttribute :=
  m.myAttributes.filter fun a => a.myType = t

/-- The constructor of a request, without attributes. -/
def ofCode (u : Uninitialized) (code : UInt8) : Except Fault CRadiusMessage := do
  assert (code = RP_ACCOUNTING_REQUEST ∨ code = RP_ACCESS_REQUEST)
  let msgHdr := [code, 0] ++ putShort RadiusPacketHeaderSize.toUInt16 ++
    List.replicate RadiusAuthenticatorLength 0
  return { myRequestAuthenticator := List.replicate RadiusAuthenticatorLength 0,
           myAttributes := [], myData := memcpy u.myData 0 msgHdr }

/-- `CRadiusMessage::add`. -/
def add (attr : CRadiusAttribute) (m : CRadiusMessage) : Bool × CRadiusMessage :=
  let attrLen := attr.length
  let currLen := m.msgLen
  if currLen + attrLen > RadiusMaxPacketSize then (false, m)
  else
    let data := memcpy m.myData currLen (attr.encode.take attrLen)
    (true, { m with
      myData := memcpy data 2 (putShort (currLen + attrLen).toUInt16),
      myAttributes := m.myAttributes ++ [attr] })

variable (e : RadiusEnv)

/-! ### Passwords -/

/-- The blocks of a hidden password: `prev` is the request authenticator, then the hidden block
    before. -/
def encodeBlocks (secret : Bytes) : Nat → Bytes → Bytes → Bytes
  | 0, _, _ => []
  | n + 1, prev, p =>
    let c := List.zipWith (· ^^^ ·) (p.take 16) (e.calcMD5 (secret ++ prev))
    c ++ encodeBlocks secret n c (p.drop 16)

def decodeBlocks (secret : Bytes) : Nat → Bytes → Bytes → Bytes
  | 0, _, _ => []
  | n + 1, prev, p =>
    List.zipWith (· ^^^ ·) (p.take 16) (e.calcMD5 (secret ++ prev)) ++
      decodeBlocks secret n (p.take 16) (p.drop 16)

def encodeUserPassword (secret oldPassword : Bytes) (m : CRadiusMessage) : Except Fault Bytes := do
  assert (secret.length < 256)
  assert (oldPassword.length % 16 = 0)
  return encodeBlocks e secret (oldPassword.length / 16) m.authenticator oldPassword

def decodeUserPassword (secret oldPassword : Bytes) (m : CRadiusMessage) : Except Fault Bytes := do
  assert (secret.length < 256)
  assert (oldPassword.length % 16 = 0)
  return decodeBlocks e secret (oldPassword.length / 16) m.authenticator oldPassword

/-- The hidden password is written over the value of every password attribute; `offset` is not
    moved past one. -/
def hideUserPassword (secret : Bytes) (m : CRadiusMessage) : Except Fault CRadiusMessage := do
  assert (m.code = RP_ACCESS_REQUEST)
  let password := (e.stale (m.getAll RA_USER_PASSWORD)).myValue
  let hiddenPassword ← encodeUserPassword e secret password m
  let put (s : Nat × Bytes) (a : CRadiusAttribute) : Nat × Bytes :=
    if a.myType = RA_USER_PASSWORD then (s.1, memcpy s.2 (s.1 + 2) hiddenPassword)
    else (s.1 + a.length, s.2)
  return { m with myData := (m.myAttributes.foldl put (RadiusPacketHeaderSize, m.myData)).2 }

/-! ### Authenticators -/

/-- MD5( time + ip + id ). -/
def calcAccessRequestAuthenticator (time : UInt32) (m : CRadiusMessage) : CRadiusMessage :=
  let nasIp := (e.stale (m.getAll RA_NAS_IP_ADDRESS)).myValue
  let auth := e.calcMD5 ((putLong time).reverse ++ nasIp ++ [m.identifier])
  { m with myRequestAuthenticator := auth }.setAuthenticator auth

/-- The secret is put behind the message. -/
def withSecret (msgLen : Nat) (secret : Bytes) (m : CRadiusMessage) : CRadiusMessage :=
  { m with myData := memcpy m.myData msgLen secret }

/-- MD5( Code + ID + Length + myRequestAuthenticator + Attributes + Secret ). -/
def calcResponseAuthenticator (secret : Bytes) (m : CRadiusMessage) :
    Except Fault CRadiusMessage := do
  let msgLen := m.msgLen
  assert (msgLen + secret.length ≤ RadiusMaxPacketSize)
  let m := (m.setAuthenticator m.myRequestAuthenticator).withSecret msgLen secret
  return m.setAuthenticator (e.calcMD5 (m.myData.take (msgLen + secret.length)))

/-- MD5( Code + ID + Length + 16 zero octets + Attributes + Secret ). -/
def calcAccountingRequestAuthenticator (secret : Bytes) (m : CRadiusMessage) :
    Except Fault CRadiusMessage := do
  let msgLen := m.msgLen
  assert (msgLen + secret.length ≤ RadiusMaxPacketSize)
  let m := (m.setAuthenticator (List.replicate RadiusAuthenticatorLength 0)).withSecret msgLen secret
  let auth := e.calcMD5 (m.myData.take (msgLen + secret.length))
  return { m with myRequestAuthenticator := auth }.setAuthenticator auth

def calcAuthenticator (time : UInt32) (secret : Bytes) (m : CRadiusMessage) :
    Except Fault CRadiusMessage :=
  if m.code = RP_ACCESS_REQUEST then
    hideUserPassword e secret (calcAccessRequestAuthenticator e time m)
  else if m.code ∈ [RP_ACCESS_ACCEPT, RP_ACCESS_REJECT, RP_ACCOUNTING_RESPONSE,
      RP_ACCESS_CHALLENGE] then
    calcResponseAuthenticator e secret m
  else if m.code = RP_ACCOUNTING_REQUEST then calcAccountingRequestAuthenticator e secret m
  else .error .assertion

def verifyAccountingRequestAuthenticator (secret : Bytes) (m : CRadiusMessage) :
    Except Fault (Bool × CRadiusMessage) := do
  assert (m.code = RP_ACCOUNTING_REQUEST)
  let auth := m.authenticator
  let m ← calcAccountingRequestAuthenticator e secret m
  return (auth = m.authenticator, m)

/-- `reqAuth` is a pointer, possibly null. -/
def verifyResponseAuthenticator (reqAuth : Option Bytes) (secret : Bytes) (m : CRadiusMessage) :
    Except Fault (Bool × CRadiusMessage) := do
  assert (m.code ∈ [RP_ACCESS_ACCEPT, RP_ACCESS_REJECT, RP_ACCOUNTING_RESPONSE])
  match reqAuth with
  | none => .error .nullRead
  | some reqAuth =>
    let m := { m with myRequestAuthenticator := reqAuth }
    let respAuth := m.authenticator
    let m ← calcResponseAuthenticator e secret m
    return (respAuth = m.authenticator, m)

/-! ### Received messages -/

/-- The loop of `decodeAttributes`, with `parsed` octets behind it. -/
def decodeFrom (secret : Bytes) (totalLen parsed : Nat) (m : CRadiusMessage) :
    Except Fault (Int × CRadiusMessage) :=
  if parsed < totalLen then
    let attrType := byteAt m.myData parsed
    let attrLen := (byteAt m.myData (parsed + 1)).toNat
    let attrPtr := m.myData.drop (parsed + 2)
    if hl : attrLen < 2 ∨ parsed + attrLen > totalLen then .ok (-1, m)
    else if attrType = RA_VENDOR_SPECIFIC then
      if attrLen > 8 then do
        let vendorId := getLong attrPtr 0
        let attr ← CRadiusAttribute.ofData attrType (CRadiusData (attrPtr.drop 4) (attrLen - 6))
          vendorId
        decodeFrom secret totalLen (parsed + attrLen)
          { m with myAttributes := m.myAttributes ++ [attr] }
      else .ok (-1, m)
    else if attrType = RA_USER_PASSWORD then
      if m.code ≠ RP_ACCESS_REQUEST then .ok (-1, m)
      else if (attrLen - 2) % 16 ≠ 0 then .ok (-1, m)
      else do
        let decoded ← decodeUserPassword e secret (CRadiusData attrPtr (attrLen - 2)) m
        let attr ← CRadiusAttribute.ofData attrType (CRadiusData decoded (attrLen - 2)) 0
        decodeFrom secret totalLen (parsed + attrLen)
          { m with myAttributes := m.myAttributes ++ [attr] }
    else do
      let attr ← CRadiusAttribute.ofData attrType (CRadiusData attrPtr (attrLen - 2)) 0
      decodeFrom secret totalLen (parsed + attrLen)
        { m with myAttributes := m.myAttributes ++ [attr] }
  else .ok (0, m)
termination_by totalLen - parsed
decreasing_by all_goals omega

def decodeAttributes (secret : Bytes) (m : CRadiusMessage) : Except Fault (Int × CRadiusMessage) :=
  decodeFrom e secret m.msgLen RadiusPacketHeaderSize m

/-- The constructor from received data. It may return with members that were never set. -/
def ofData (u : Uninitialized) (rawMsg secret : Bytes) : Except Fault CRadiusMessage :=
  let m : CRadiusMessage :=
    { myRequestAuthenticator := u.myRequestAuthenticator, myAttributes := [], myData := u.myData }
  let msgLen := rawMsg.length
  if msgLen < RadiusMinPacketSize ∨ msgLen > RadiusMaxPacketSize then .ok m
  else
    let m := { m with myData := memcpy m.myData 0 rawMsg }
    if msgLen ≠ m.msgLen then .ok m
    else do
      let (_, m) ← decodeAttributes e secret m
      if m.code = RP_ACCOUNTING_REQUEST then
        let (_, m) ← verifyAccountingRequestAuthenticator e secret m
        return m
      else return m

/-! ## 4. The check of a response -/

variable {m : CRadiusMessage}

theorem authenticator_setAuthenticator {a : Bytes} (hm : 4 ≤ m.myData.length)
    (ha : a.length = RadiusAuthenticatorLength) : (m.setAuthenticator a).authenticator = a := by
  have h4 : (m.myData.take 4).length = 4 := by simp [hm]
  rw [setAuthenticator, authenticator, memcpy_eq hm, List.append_assoc,
    List.drop_left' h4, List.take_left' ha]

/-- What is hashed: the secret behind the message, with `a` in the place of the authenticator. -/
theorem take_withSecret {a : Bytes} (secret : Bytes) {n : Nat}
    (ha : a.length = RadiusAuthenticatorLength) (hn : RadiusPacketHeaderSize ≤ n)
    (hm : n ≤ m.myData.length) :
    ((m.setAuthenticator a).withSecret n secret).myData.take (n + secret.length) =
      m.myData.take 4 ++ a ++ (m.myData.take n).drop RadiusPacketHeaderSize ++ secret := by
  simp only [RadiusPacketHeaderSize, RadiusAuthenticatorLength] at *
  have hset : memcpy m.myData 4 a = m.myData.take 4 ++ a ++ m.myData.drop 20 := by
    rw [memcpy_eq (by omega), ha]
  have hlen : n ≤ (memcpy m.myData 4 a).length := by
    rw [hset]
    simp only [List.length_append, List.length_take, List.length_drop]
    omega
  have htake : (memcpy m.myData 4 a).take n = m.myData.take 4 ++ a ++ (m.myData.take n).drop 20 := by
    have hhead : (m.myData.take 4 ++ a).length = 20 := by
      simp only [List.length_append, List.length_take]
      omega
    rw [hset, List.take_append, List.take_of_length_le (by omega), hhead, List.drop_take]
  rw [withSecret, setAuthenticator, memcpy_eq hlen, List.take_left']
  · rw [htake]
  · simp only [List.length_append, List.length_take]
    omega

/-- MD5( Code + ID + Length + Request Authenticator + Attributes + Secret ), as the protocol
    has it, of the bytes of a response. -/
def responseAuthenticator (reqAuth secret data : Bytes) : Bytes :=
  e.calcMD5 (data.take 4 ++ reqAuth ++
    (data.take (getShort data 2).toNat).drop RadiusPacketHeaderSize ++ secret)

theorem calcResponseAuthenticator_ok {secret : Bytes}
    (hauth : m.myRequestAuthenticator.length = RadiusAuthenticatorLength)
    (hmin : RadiusMinPacketSize ≤ m.msgLen) (hmax : m.msgLen + secret.length ≤ RadiusMaxPacketSize)
    (hdata : m.msgLen ≤ m.myData.length) :
    ∃ m', calcResponseAuthenticator e secret m = .ok m' ∧
      m'.authenticator =
        responseAuthenticator e m.myRequestAuthenticator secret m.myData := by
  have hash := take_withSecret secret hauth hmin hdata
  have hlong : 4 ≤ ((m.setAuthenticator m.myRequestAuthenticator).withSecret m.msgLen
      secret).myData.length := by
    have hl := congrArg List.length hash
    simp only [List.length_take, List.length_append, hauth, RadiusAuthenticatorLength] at hl
    omega
  refine ⟨_, ?_, authenticator_setAuthenticator hlong (e.length_calcMD5 _)⟩
  simp only [calcResponseAuthenticator, assert, if_pos hmax, hash]
  rfl

/-- **Given the authenticator of the request, `verifyResponseAuthenticator` compares with what
    the protocol says.** -/
theorem verifyResponseAuthenticator_ok {reqAuth secret : Bytes}
    (hcode : m.code ∈ [RP_ACCESS_ACCEPT, RP_ACCESS_REJECT, RP_ACCOUNTING_RESPONSE])
    (hauth : reqAuth.length = RadiusAuthenticatorLength) (hmin : RadiusMinPacketSize ≤ m.msgLen)
    (hmax : m.msgLen + secret.length ≤ RadiusMaxPacketSize) (hdata : m.msgLen ≤ m.myData.length) :
    ∃ m', verifyResponseAuthenticator e (some reqAuth) secret m =
      .ok (decide (m.authenticator = responseAuthenticator e reqAuth secret m.myData), m') := by
  obtain ⟨m', hm', ha⟩ := calcResponseAuthenticator_ok e
    (m := { m with myRequestAuthenticator := reqAuth }) hauth hmin hmax hdata
  refine ⟨m', ?_⟩
  simp only [verifyResponseAuthenticator, assert, if_pos hcode, hm']
  exact congrArg (fun a => Except.ok (decide (m.authenticator = a), m')) ha

/-- The configuration of sample runs. -/
def sampleEnv : RadiusEnv where
  calcMD5 := md5
  length_calcMD5 := length_md5
  stale _ := { myType := RA_USER_PASSWORD, myValue := [] }
  sharedKey := ascii "shhhh!"
  responsetimeout := 500
  retransmit := 2

/-- The authenticator of a request, and an Access-Accept to it with a reply message. -/
def requestAuth : Bytes := (List.range 16).map UInt8.ofNat

def acceptWithMessage : CRadiusMessage where
  myRequestAuthenticator := []
  myAttributes := []
  myData := [RP_ACCESS_ACCEPT, 1, 0, 24] ++
    md5 ([RP_ACCESS_ACCEPT, 1, 0, 24] ++ requestAuth ++ [18, 4, 104, 105] ++ ascii "shhhh!") ++
    [18, 4, 104, 105]

theorem verifyResponseAuthenticator_accept :
    ∃ m', verifyResponseAuthenticator sampleEnv (some requestAuth) (ascii "shhhh!")
      acceptWithMessage = .ok (true, m') := by
  have hsame : acceptWithMessage.authenticator =
      responseAuthenticator sampleEnv requestAuth (ascii "shhhh!") acceptWithMessage.myData := by
    decide +kernel
  obtain ⟨m', h⟩ := verifyResponseAuthenticator_ok sampleEnv (m := acceptWithMessage)
    (by decide +kernel) (show requestAuth.length = _ from rfl) (by decide +kernel)
    (show _ + (ascii "shhhh!").length ≤ _ by decide +kernel) (by decide +kernel)
  exact ⟨m', by rw [h, decide_eq_true hsame]⟩

/-- A null pointer is followed, if the code is one of a response. -/
theorem verifyResponseAuthenticator_null {secret : Bytes} :
    verifyResponseAuthenticator e none secret m =
      .error (if m.code ∈ [RP_ACCESS_ACCEPT, RP_ACCESS_REJECT, RP_ACCOUNTING_RESPONSE]
        then .nullRead else .assertion) := by
  unfold verifyResponseAuthenticator assert
  split <;> rfl

end CRadiusMessage

end OpenBras
