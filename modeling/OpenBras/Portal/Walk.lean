/-
  File:      OpenBras/Portal/Walk.lean
  Subject:   THE ATTRIBUTES OF A PORTAL REQUEST: the walk of `RcvData`, and what of a datagram is
             read.

  What `RcvData` lets through is a chain of entries (Lib/Tlv), and the other loops are told what
  they find on one. A handler is reached if and only if the attributes are complete inside
  `msgsize`; then nothing behind `msgsize` is read, and what happens does not depend on it
  (`rcvData_reads`).
-/
import OpenBras.Portal.Digest

namespace OpenBras

open Wire

namespace CPortalServerChannel

/-! ## 1. What `RcvData` lets through -/

variable {msg : Bytes} {msgsize : Nat} {mem : Bytes} {j : Nat} {es : List (UInt8 × Bytes)}

theorem attributesFit_iff {n len : Nat} (hmsg : msgsize ≤ msg.length) (hlen : len ≤ msgsize) :
    attributesFit msg msgsize n len = true ↔
      ∃ es j, es.length = n ∧ Tlv.Chain msg len es j ∧ j ≤ msgsize := by
  induction n generalizing len with
  | zero =>
    refine iff_of_true rfl ⟨[], len, rfl, .nil _, hlen⟩
  | succ n ih =>
    rw [attributesFit]
    have htwo : PORTAL_SIZE_OF_ATTR_TYPE_AND_LEN_FIELDS = 2 := rfl
    constructor
    · intro h
      split at h
      · cases h
      split at h
      · cases h
      split at h
      · cases h
      have hat := Tlv.At.of_header (p := msg) (i := len) (by omega) (by omega)
      have hlength := hat.length
      obtain ⟨es, j, hes, hchain, hj⟩ := (ih (by omega)).mp h
      rw [hlength] at hchain
      exact ⟨_ :: es, j, congrArg (· + 1) hes, .cons hat hchain, hj⟩
    · rintro ⟨es, j, hes, hchain, hj⟩
      cases hchain with
      | nil => cases hes
      | cons head rest =>
        have hle := rest.le
        rw [head.length, if_neg (by omega), if_neg (by omega), if_neg (by omega)]
        exact (ih (by omega)).mpr ⟨_, j, Nat.succ.inj hes, rest, hj⟩

/-- The version is known, and the attributes that the header announces are complete entries of the
    datagram. -/
structure Complete (msg : Bytes) (msgsize : Nat) : Prop where
  version : byteAt msg 0 = PORTAL_VERSION_ONE ∨ byteAt msg 0 = PORTAL_VERSION_TWO
  entries : ∃ es j, es.length = (byteAt msg 15).toNat ∧
    Tlv.Chain msg (headerSize (byteAt msg 0)) es j ∧ j ≤ msgsize

/-- **The checks of `RcvData`.** -/
theorem accepts_iff {cfg : PortalServerCfg} (hmsg : msgsize ≤ msg.length) :
    accepts cfg msg msgsize = true ↔ Complete msg msgsize ∧
      (byteAt msg 2 = PORTAL_CHAP_AUTH ∨ byteAt msg 2 = PORTAL_PAP_AUTH) ∧
      byteAt msg 0 = cfg.version := by
  unfold accepts
  simp only [Bool.and_eq_true, Bool.or_eq_true, decide_eq_true_eq]
  constructor
  · rintro ⟨⟨⟨⟨hv, hsize⟩, ha⟩, hfit⟩, hcfg⟩
    exact ⟨⟨hv, (attributesFit_iff hmsg hsize).mp hfit⟩, ha, hcfg⟩
  · rintro ⟨⟨hv, es, j, hes, hchain, hj⟩, ha, hcfg⟩
    have hsize := Nat.le_trans hchain.le hj
    exact ⟨⟨⟨⟨hv, hsize⟩, ha⟩, (attributesFit_iff hmsg hsize).mpr ⟨es, j, hes, hchain, hj⟩⟩, hcfg⟩

/-! ## 2. The handlers -/

def PORTAL_AFF_ACK_AUTHEN : UInt8 := 7
def PORTAL_REQ_INFO : UInt8 := 9
def PORTAL_ACK_INFO : UInt8 := 10
def PORTAL_NTF_USERDISCOVER : UInt8 := 11
def PORTAL_NTF_USERIPCHANGE : UInt8 := 12
def PORTAL_AFF_NTF_USERIPCHANGE : UInt8 := 13

/-- The handlers `RcvData` knows. -/
inductive Handler where
  | challengeRequest | challengeResponse | authenRequest | authenResponse | logoutRequest
  | logoutResponse | authenAFFResponse | ntfLogout | infoResponse | infoRequest | ntfUserDiscovery
  | userIPChangeNotify | affNTFUserIPChange | ntfLogoutResponse
  deriving DecidableEq, Repr

/-- The switch of `RcvData`. The handlers of the two info packets are exchanged; both do nothing. -/
def Handler.ofCode (code : UInt8) : Option Handler :=
  if code = PORTAL_REQ_CHALLENGE then some .challengeRequest
  else if code = PORTAL_ACK_CHALLENGE then some .challengeResponse
  else if code = PORTAL_REQ_AUTHEN then some .authenRequest
  else if code = PORTAL_ACK_AUTHEN then some .authenResponse
  else if code = PORTAL_REQ_LOGOUT then some .logoutRequest
  else if code = PORTAL_ACK_LOGOUT then some .logoutResponse
  else if code = PORTAL_AFF_ACK_AUTHEN then some .authenAFFResponse
  else if code = PORTAL_NTF_LOGOUT then some .ntfLogout
  else if code = PORTAL_REQ_INFO then some .infoResponse
  else if code = PORTAL_ACK_INFO then some .infoRequest
  else if code = PORTAL_NTF_USERDISCOVER then some .ntfUserDiscovery
  else if code = PORTAL_NTF_USERIPCHANGE then some .userIPChangeNotify
  else if code = PORTAL_AFF_NTF_USERIPCHANGE then some .affNTFUserIPChange
  else if code = PORTAL_ACK_NTF_LOGOUT then some .ntfLogoutResponse
  else none

/-- The handler a datagram reaches. -/
def handlerOf (cfg : PortalServerCfg) (msg : Bytes) (msgsize : Nat) : Option Handler :=
  if accepts cfg msg msgsize then Handler.ofCode (byteAt msg 1) else none

/-- What a handler does. -/
def handle (H : Md5) (am : Bool) (msg : Bytes) (msgsize : Nat) (c : CPortalServerChannel)
    (u : CPortalUserMgr) : Handler → Int × CPortalUserMgr × List PortalAct
  | .challengeRequest => c.handleChallengeRequest H msg u
  | .authenRequest => c.handleAuthenRequest H am msg msgsize u
  | .logoutRequest => c.handleLogoutRequest H msg u
  | _ => (0, u, [])

/-- **`RcvData` is the handler of the datagram, or -1.** -/
theorem rcvData_eq (H : Md5) (am : Bool) (msg : Bytes) (msgsize : Nat) (c : CPortalServerChannel)
    (u : CPortalUserMgr) :
    c.rcvData H am msg msgsize u =
      (handlerOf c.cfg msg msgsize).elim (-1, u, []) (c.handle H am msg msgsize u) := by
  unfold rcvData handlerOf
  cases accepts c.cfg msg msgsize with
  | false => rfl
  | true =>
    have hheader : (header msg).code = byteAt msg 1 := rfl
    simp only [hheader, Bool.not_true, Bool.false_eq_true, if_false, if_true]
    generalize byteAt msg 1 = code
    rcases Nat.lt_or_ge 14 code.toNat with hbig | hsmall
    · have hne : ∀ k : UInt8, k.toNat ≤ 14 → code ≠ k := by
        rintro k hk rfl
        omega
      have hlast : ¬ (1 ≤ code ∧ code ≤ PORTAL_ACK_NTF_LOGOUT) :=
        fun h => absurd (UInt8.le_iff_toNat_le.mp h.2) (Nat.not_le.mpr hbig)
      have hnone : Handler.ofCode code = none := by
        unfold Handler.ofCode
        repeat rw [if_neg (hne _ (by decide))]
      rw [hnone, if_neg (hne _ (by decide)), if_neg (hne _ (by decide)),
        if_neg (hne _ (by decide)), if_neg hlast]
      rfl
    · obtain ⟨k, hk, rfl⟩ : ∃ k ≤ 14, code = UInt8.ofNat k :=
        ⟨code.toNat, hsmall, UInt8.ofNat_toNat.symm⟩
      interval_cases k <;> rfl

/-! ## 3. What is read -/

/-- The reads of the loop of `CheckAuthenticator` in the packet, each with position and size;
    `size` is what is in `auth_str`. -/
def attribReads (mem : Bytes) : Nat → Nat → Nat → List (Nat × Nat)
  | 0, _, _ => []
  | n + 1, pos, size =>
    let length := (byteAt mem (pos + 1)).toNat
    (pos + 1, 1) ::
      if size + length > MAX_PORTAL_AUTH_STR_LEN then []
      else (pos, length) :: attribReads mem n (pos + length) (size + length)

/-- The reads of `CheckAuthenticator`. -/
def checkReads (mem : Bytes) : List (Nat × Nat) :=
  (0, 1) ::
    if byteAt mem 0 = PORTAL_VERSION_ONE then []
    else
      [(0, 16), (15, 1), (16, MAX_AUTHENTICATOR_LEN)] ++
        attribReads mem (byteAt mem 15).toNat OPENPORTAL_HEADER OPENPORTAL_HEADER

/-- The fields of a request that go into an answer; its authenticator in version 2 only. -/
def answerReads (mem : Bytes) : List (Nat × Nat) :=
  [(0, 1), (2, 1), (4, 2), (8, 4)] ++
    if byteAt mem 0 = PORTAL_VERSION_TWO then [(16, MAX_AUTHENTICATOR_LEN)] else []

/-- The attribute that the loop of `HandleAuthenRequest` looks at. -/
def attributeReads (mem : Bytes) : List (Nat × Nat) :=
  if byteAt mem 15 = 0 then []
  else
    let pos := headerSize (byteAt mem 0)
    [(pos, 2), (pos + 2, (byteAt mem (pos + 1)).toNat - PORTAL_SIZE_OF_ATTR_TYPE_AND_LEN_FIELDS)]

/-- What a handler reads of the datagram at most. -/
def handlerReads (msg : Bytes) (msgsize : Nat) : Handler → List (Nat × Nat)
  | .challengeRequest => checkReads msg ++ answerReads msg
  | .logoutRequest => checkReads msg ++ answerReads msg
  | .authenRequest =>
    checkReads msg ++ answerReads msg ++ [(0, msgsize), (15, 1)] ++ attributeReads msg
  | _ => []

theorem attribReads_chain {pos : Nat} (hchain : Tlv.Chain mem pos es j) (size : Nat) :
    ∀ r ∈ attribReads mem es.length pos size, r.1 + r.2 ≤ j := by
  induction hchain generalizing size with
  | nil => exact fun r hr => absurd hr List.not_mem_nil
  | @cons pos j e es head rest ih =>
    have hle := rest.le
    intro r hr
    rw [List.length_cons, attribReads, head.length, List.mem_cons] at hr
    rcases hr with rfl | hr
    · show pos + 1 + 1 ≤ j
      omega
    split at hr
    · exact absurd hr List.not_mem_nil
    rcases List.mem_cons.mp hr with rfl | hr
    · exact hle
    · exact ih _ r hr

theorem Complete.header_le (h : Complete msg msgsize) :
    16 ≤ msgsize ∧ (byteAt msg 0 = PORTAL_VERSION_TWO → 32 ≤ msgsize) := by
  obtain ⟨es, j, -, hchain, hj⟩ := h.entries
  have hle := hchain.le
  obtain hv | hv := h.version
  · rw [hv] at hle ⊢
    have h16 : headerSize PORTAL_VERSION_ONE = 16 := rfl
    exact ⟨by omega, fun h => absurd h (by decide)⟩
  · rw [hv] at hle
    have h32 : headerSize PORTAL_VERSION_TWO = 32 := rfl
    exact ⟨by omega, fun _ => by omega⟩

theorem checkReads_inside (h : Complete msg msgsize) :
    ∀ r ∈ checkReads msg, r.1 + r.2 ≤ msgsize := by
  obtain ⟨h16, h32⟩ := h.header_le
  intro r hr
  rcases List.mem_cons.mp hr with rfl | hr
  · show 0 + 1 ≤ msgsize
    omega
  split at hr
  · exact absurd hr List.not_mem_nil
  rename_i hone
  have hv := h.version.resolve_left hone
  have hsize := h32 hv
  obtain ⟨es, j, hes, hchain, hj⟩ := h.entries
  rw [hv] at hchain
  rw [← hes] at hr
  rcases List.mem_append.mp hr with hr | hr
  · simp only [List.mem_cons, List.not_mem_nil, or_false] at hr
    obtain rfl | rfl | rfl := hr
    · show 0 + 16 ≤ msgsize
      omega
    · show 15 + 1 ≤ msgsize
      omega
    · show 16 + 16 ≤ msgsize
      omega
  · exact Nat.le_trans (attribReads_chain hchain _ r hr) hj

theorem answerReads_inside (h : Complete msg msgsize) :
    ∀ r ∈ answerReads msg, r.1 + r.2 ≤ msgsize := by
  obtain ⟨h16, h32⟩ := h.header_le
  intro r hr
  rcases List.mem_append.mp hr with hr | hr
  · simp only [List.mem_cons, List.not_mem_nil, or_false] at hr
    obtain rfl | rfl | rfl | rfl := hr <;> dsimp only <;> omega
  split at hr
  · rename_i hv
    rw [List.mem_singleton] at hr
    have hsize := h32 hv
    rw [hr]
    exact hsize
  · exact absurd hr List.not_mem_nil

theorem attributeReads_inside (h : Complete msg msgsize) :
    ∀ r ∈ attributeReads msg, r.1 + r.2 ≤ msgsize := by
  intro r hr
  unfold attributeReads at hr
  split at hr
  · exact absurd hr List.not_mem_nil
  rename_i hnum
  obtain ⟨es, j, hes, hchain, hj⟩ := h.entries
  cases hchain with
  | nil => exact absurd (UInt8.toNat_inj.mp hes.symm) hnum
  | cons head rest =>
    have hle := rest.le
    dsimp only at hr
    rw [head.length] at hr
    simp only [List.mem_cons, List.not_mem_nil, or_false] at hr
    have htwo : PORTAL_SIZE_OF_ATTR_TYPE_AND_LEN_FIELDS = 2 := rfl
    obtain rfl | rfl := hr <;> dsimp only <;> omega

/-- **No handler reads behind the datagram.** -/
theorem handlerReads_inside (h : Complete msg msgsize) (handler : Handler) :
    ∀ r ∈ handlerReads msg msgsize handler, r.1 + r.2 ≤ msgsize := by
  have hboth : ∀ r ∈ checkReads msg ++ answerReads msg, r.1 + r.2 ≤ msgsize := by
    intro r hr
    rcases List.mem_append.mp hr with hr | hr
    · exact checkReads_inside h r hr
    · exact answerReads_inside h r hr
  intro r hr
  cases handler with
  | challengeRequest => exact hboth r hr
  | logoutRequest => exact hboth r hr
  | authenRequest =>
    rcases List.mem_append.mp hr with hr | hr
    · rcases List.mem_append.mp hr with hr | hr
      · exact hboth r hr
      · have h16 := h.header_le.1
        simp only [List.mem_cons, List.not_mem_nil, or_false] at hr
        obtain rfl | rfl := hr <;> dsimp only <;> omega
    · exact attributeReads_inside h r hr
  | _ => exact absurd hr List.not_mem_nil

/-! ## 4. The request to the authentication manager -/

/-- The entry does not fit into its field of the request. -/
def Overlong (x : UInt8 × Bytes) : Prop :=
  (x.1 = PORTAL_USER_NAME ∧ 31 < x.2.length) ∨ (x.1 = PORTAL_PASSWORD ∧ 31 < x.2.length) ∨
    (x.1 = PORTAL_CHAP_CHALLENGE ∧ 16 < x.2.length) ∨ (x.1 = PORTAL_CHAP_PASSWORD ∧ 20 < x.2.length)

instance (x : UInt8 × Bytes) : Decidable (Overlong x) := inferInstanceAs (Decidable (_ ∨ _))

/-- A value in a field of `n` bytes. -/
def field (n : Nat) (v : Bytes) : Bytes := v ++ List.replicate (n - v.length) 0

/-- The request with the entry in its field. -/
def written (x : UInt8 × Bytes) (r : PortalAuthRequest) : PortalAuthRequest :=
  if x.1 = PORTAL_USER_NAME then { r with username := field 32 x.2 }
  else if x.1 = PORTAL_PASSWORD then { r with authInfo := memcpy r.authInfo 0 (field 32 x.2) }
  else if x.1 = PORTAL_CHAP_CHALLENGE then
    { r with authInfo := memcpy r.authInfo 24 (field 16 x.2) }
  else if x.1 = PORTAL_CHAP_PASSWORD then { r with authInfo := memcpy r.authInfo 0 (field 20 x.2) }
  else r

theorem authAttribute_at {pos : Nat} {x : UInt8 × Bytes} (hx : Tlv.At msg pos x)
    (hend : pos + (2 + x.2.length) ≤ msg.length) (r : PortalAuthRequest) :
    authAttribute (msg.drop pos) r = if Overlong x then none else some (written x r) := by
  have htype : byteAt (msg.drop pos) 0 = x.1 := by rw [byteAt_drop, Nat.add_zero, hx.type]
  have hlength : (byteAt (msg.drop pos) 1).toNat - PORTAL_SIZE_OF_ATTR_TYPE_AND_LEN_FIELDS =
      x.2.length := by
    rw [byteAt_drop, hx.length]
    exact Nat.add_sub_cancel_left 2 _
  have hvalue : bytesAt (msg.drop pos) 2 x.2.length = x.2 := by
    rw [bytesAt_eq (by rw [List.length_drop]; omega), List.drop_drop, hx.value]
  unfold authAttribute
  dsimp only
  rw [htype, hlength, hvalue]
  obtain ⟨type, value⟩ := x
  dsimp only
  by_cases hlong : Overlong (type, value)
  · rw [if_pos hlong]
    obtain ⟨rfl, h⟩ | ⟨rfl, h⟩ | ⟨rfl, h⟩ | ⟨rfl, h⟩ := hlong
    · rw [if_pos rfl, if_pos h]
    · rw [if_neg (by decide), if_pos rfl, if_pos h]
    · rw [if_neg (by decide), if_neg (by decide), if_pos rfl, if_pos h]
    · rw [if_neg (by decide), if_neg (by decide), if_neg (by decide), if_pos rfl, if_pos h]
  · unfold written
    rw [if_neg hlong]
    by_cases hname : type = PORTAL_USER_NAME
    · rw [if_pos hname, if_pos hname, if_neg fun h => hlong (.inl ⟨hname, h⟩)]
      rfl
    by_cases hpassword : type = PORTAL_PASSWORD
    · rw [if_neg hname, if_neg hname, if_pos hpassword, if_pos hpassword,
        if_neg fun h => hlong (.inr (.inl ⟨hpassword, h⟩))]
      rfl
    by_cases hchallenge : type = PORTAL_CHAP_CHALLENGE
    · rw [if_neg hname, if_neg hname, if_neg hpassword, if_neg hpassword, if_pos hchallenge,
        if_pos hchallenge, if_neg fun h => hlong (.inr (.inr (.inl ⟨hchallenge, h⟩)))]
      rfl
    by_cases hchap : type = PORTAL_CHAP_PASSWORD
    · rw [if_neg hname, if_neg hname, if_neg hpassword, if_neg hpassword, if_neg hchallenge,
        if_neg hchallenge, if_pos hchap, if_pos hchap,
        if_neg fun h => hlong (.inr (.inr (.inr ⟨hchap, h⟩)))]
      rfl
    · rw [if_neg hname, if_neg hname, if_neg hpassword, if_neg hpassword, if_neg hchallenge,
        if_neg hchallenge, if_neg hchap, if_neg hchap]

/-- The same attribute a second time changes nothing. -/
theorem written_written (x : UInt8 × Bytes) (r : PortalAuthRequest) :
    written x (written x r) = written x r := by
  unfold written
  split
  · rfl
  split
  · rw [memcpy_twice]
  split
  · rw [memcpy_twice]
  split
  · rw [memcpy_twice]
  · rfl

/-- **All turns of the loop look at the first attribute.** -/
theorem authAttributes_eq {pos n : Nat} {x : UInt8 × Bytes} (hx : Tlv.At msg pos x)
    (hend : pos + (2 + x.2.length) ≤ msg.length) (r : PortalAuthRequest) :
    authAttributes (msg.drop pos) (n + 1) r = if Overlong x then none else some (written x r) := by
  induction n generalizing r with
  | zero =>
    rw [authAttributes, authAttribute_at hx hend]
    by_cases hlong : Overlong x
    · rw [if_pos hlong]
    · rw [if_neg hlong]
      rfl
  | succ n ih =>
    rw [authAttributes, authAttribute_at hx hend]
    by_cases hlong : Overlong x
    · rw [if_pos hlong]
    · rw [if_neg hlong]
      dsimp only
      rw [ih, if_neg hlong, written_written]

/-- The request before the loop. -/
def authBase (q : OpenportalHeader) : PortalAuthRequest :=
  { userType := USER_TYPE_PORTAL, subIp := q.ipAddress,
    authtype := if q.authType = PORTAL_CHAP_AUTH then AUTH_CHAP else AUTH_PAP }

theorem makeAuthRequest_chain (hes : es.length = (byteAt msg 15).toNat)
    (hchain : Tlv.Chain msg (headerSize (byteAt msg 0)) es j) (hj : j ≤ msg.length) :
    makeAuthRequest msg =
      es.head?.elim (some (authBase (header msg))) fun x =>
        if Overlong x then none else some (written x (authBase (header msg))) := by
  have hnum : (header msg).attrNum.toNat = es.length := hes.symm
  unfold makeAuthRequest
  dsimp only
  rw [hnum]
  cases hchain with
  | nil => rfl
  | cons head rest =>
    have hle := rest.le
    exact authAttributes_eq head (by omega) _

/-! ## 5. What lies behind the datagram -/

/-- Headers that a handler cannot tell apart: in version 1 the authenticator is not looked at. -/
structure SameFields (q q' : OpenportalHeader) : Prop where
  version : q.version = q'.version
  authType : q.authType = q'.authType
  serialNo : q.serialNo = q'.serialNo
  ipAddress : q.ipAddress = q'.ipAddress
  auth : q.version = PORTAL_VERSION_TWO → q.authenticator = q'.authenticator

namespace SameFields

variable {q q' : OpenportalHeader} (h : SameFields q q') (H : Md5) (key : Bytes)

include h

theorem response (code errorCode attrNum : UInt8) :
    CPortalServerChannel.response q code errorCode attrNum =
      CPortalServerChannel.response q' code errorCode attrNum := by
  unfold CPortalServerChannel.response
  rw [h.version, h.authType, h.serialNo, h.ipAddress]

theorem authenticated (mem : Bytes) :
    CPortalServerChannel.authenticated H key q mem =
      CPortalServerChannel.authenticated H key q' mem := by
  by_cases hv : q.version = PORTAL_VERSION_TWO
  · rw [CPortalServerChannel.authenticated, CPortalServerChannel.authenticated, h.auth hv,
      h.version]
  · rw [CPortalServerChannel.authenticated, CPortalServerChannel.authenticated, if_neg hv,
      if_neg (h.version ▸ hv)]

theorem challengeAnswer :
    CPortalServerChannel.challengeAnswer H key q = CPortalServerChannel.challengeAnswer H key q' := by
  unfold CPortalServerChannel.challengeAnswer
  simp only [h.response, h.version, h.authenticated]

theorem authenAnswer (errorCode : UInt8) :
    CPortalServerChannel.authenAnswer H key q errorCode =
      CPortalServerChannel.authenAnswer H key q' errorCode := by
  unfold CPortalServerChannel.authenAnswer
  simp only [h.response, h.version, h.authenticated]

theorem logoutAnswer :
    CPortalServerChannel.logoutAnswer H key q = CPortalServerChannel.logoutAnswer H key q' := by
  unfold CPortalServerChannel.logoutAnswer
  simp only [h.response, h.version]

end SameFields

section

variable {msg msg' : Bytes} {msgsize : Nat} (hsame : msg.take msgsize = msg'.take msgsize)

include hsame

theorem byteAt_same {i : Nat} (hi : i < msgsize) : byteAt msg i = byteAt msg' i := by
  rw [← byteAt_take hi, hsame, byteAt_take hi]

theorem bytesAt_same {i n : Nat} (hi : i + n ≤ msgsize) : bytesAt msg i n = bytesAt msg' i n := by
  refine List.map_congr_left fun j hj => byteAt_same hsame ?_
  have hlt := List.mem_range.mp hj
  omega

theorem take_same {j : Nat} (hj : j ≤ msgsize) : msg.take j = msg'.take j := by
  have htake := congrArg (List.take j) hsame
  rwa [List.take_take, List.take_take, Nat.min_eq_left hj] at htake

theorem Complete.same (h : Complete msg msgsize) : Complete msg' msgsize := by
  have h16 := h.header_le.1
  have hversion := byteAt_same hsame (i := 0) (by omega)
  have hnum := byteAt_same hsame (i := 15) (by omega)
  obtain ⟨hv, es, j, hes, hchain, hj⟩ := h
  rw [hversion] at hv hchain
  rw [hnum] at hes
  exact ⟨hv, es, j, hes, hchain.congr (take_same hsame hj), hj⟩

theorem checkAuthenticator_same (H : Md5) (key : Bytes) (hmsg : msgsize ≤ msg.length)
    (hmsg' : msgsize ≤ msg'.length) (h : Complete msg msgsize) :
    checkAuthenticator H key msg = checkAuthenticator H key msg' := by
  obtain ⟨h16, h32⟩ := h.header_le
  have hversion := byteAt_same hsame (i := 0) (by omega)
  have hnum := byteAt_same hsame (i := 15) (by omega)
  obtain ⟨hv, es, j, hes, hchain, hj⟩ := h
  obtain hone | htwo := hv
  · rw [checkAuthenticator, if_pos hone, checkAuthenticator, if_pos (hversion ▸ hone)]
  have hsize := h32 htwo
  rw [htwo] at hchain
  have hchain' := hchain.congr (take_same hsame hj)
  have hauth : bytesAt msg 16 MAX_AUTHENTICATOR_LEN = bytesAt msg' 16 MAX_AUTHENTICATOR_LEN :=
    bytesAt_same hsame hsize
  rw [Bool.eq_iff_iff, checkAuthenticator_iff H key htwo hes.symm hchain (by omega),
    checkAuthenticator_iff H key (hversion ▸ htwo) (hnum ▸ hes.symm) hchain' (by omega),
    hauth, bytesAt_same hsame (by omega)]

theorem header_same (h : Complete msg msgsize) : SameFields (header msg) (header msg') := by
  obtain ⟨h16, h32⟩ := h.header_le
  have hbyte : ∀ i < 16, byteAt msg i = byteAt msg' i := fun i hi => byteAt_same hsame (by omega)
  refine ⟨hbyte 0 (by decide), hbyte 2 (by decide), ?_, ?_, fun hv => bytesAt_same hsame (h32 hv)⟩
  · simp only [header, getShort, hbyte 4 (by decide), hbyte 5 (by decide), Nat.reduceAdd]
  · simp only [header, getLong, hbyte 8 (by decide), hbyte 9 (by decide), hbyte 10 (by decide),
      hbyte 11 (by decide), Nat.reduceAdd]

theorem makeAuthRequest_same (hmsg : msgsize ≤ msg.length) (hmsg' : msgsize ≤ msg'.length)
    (h : Complete msg msgsize) :
    makeAuthRequest msg = makeAuthRequest msg' := by
  have h16 := h.header_le.1
  have hheader := header_same hsame h
  have hnum : byteAt msg 15 = byteAt msg' 15 := byteAt_same hsame (by omega)
  have hversion : byteAt msg 0 = byteAt msg' 0 := byteAt_same hsame (by omega)
  obtain ⟨es, j, hes, hchain, hj⟩ := h.entries
  have hchain' := hchain.congr (take_same hsame hj)
  rw [hversion] at hchain'
  rw [makeAuthRequest_chain hes hchain (by omega),
    makeAuthRequest_chain (hnum ▸ hes) hchain' (by omega), authBase, authBase, hheader.ipAddress,
    hheader.authType]

/-- **What a handler does** is the same. -/
theorem handle_same (H : Md5) (am : Bool) (c : CPortalServerChannel) (u : CPortalUserMgr)
    (hmsg : msgsize ≤ msg.length) (hmsg' : msgsize ≤ msg'.length) (h : Complete msg msgsize)
    (handler : Handler) :
    c.handle H am msg msgsize u handler = c.handle H am msg' msgsize u handler := by
  have hcheck := checkAuthenticator_same hsame H c.cfg.key hmsg hmsg' h
  have hheader := header_same hsame h
  cases handler with
  | challengeRequest =>
    show c.handleChallengeRequest H msg u = c.handleChallengeRequest H msg' u
    rw [handleChallengeRequest, handleChallengeRequest, hcheck, hheader.challengeAnswer]
  | logoutRequest =>
    show c.handleLogoutRequest H msg u = c.handleLogoutRequest H msg' u
    rw [handleLogoutRequest, handleLogoutRequest, hcheck, hheader.logoutAnswer, hheader.ipAddress]
  | authenRequest =>
    show c.handleAuthenRequest H am msg msgsize u = c.handleAuthenRequest H am msg' msgsize u
    unfold handleAuthenRequest
    simp only [hcheck, hheader.authenAnswer, hheader.ipAddress,
      makeAuthRequest_same hsame hmsg hmsg' h, bytesAt_same hsame (show 0 + msgsize ≤ msgsize by omega)]
  | _ => rfl

theorem handlerOf_same (cfg : PortalServerCfg) (hmsg : msgsize ≤ msg.length)
    (hmsg' : msgsize ≤ msg'.length) : handlerOf cfg msg msgsize = handlerOf cfg msg' msgsize := by
  have haccepts : accepts cfg msg msgsize = accepts cfg msg' msgsize := by
    rw [Bool.eq_iff_iff, accepts_iff hmsg, accepts_iff hmsg']
    constructor
    · rintro ⟨hc, hrest⟩
      have h16 := hc.header_le.1
      rw [byteAt_same hsame (by omega), byteAt_same hsame (show 0 < msgsize by omega)] at hrest
      exact ⟨hc.same hsame, hrest⟩
    · rintro ⟨hc, hrest⟩
      have h16 := hc.header_le.1
      rw [← byteAt_same hsame (by omega), ← byteAt_same hsame (show 0 < msgsize by omega)] at hrest
      exact ⟨hc.same hsame.symm, hrest⟩
  unfold handlerOf
  rw [haccepts]
  by_cases hacc : accepts cfg msg' msgsize = true
  · have h16 := ((accepts_iff hmsg').mp hacc).1.header_le.1
    rw [byteAt_same hsame (by omega)]
  · rw [if_neg hacc, if_neg hacc]

end

/-- **A handler is reached exactly by complete datagrams of the configured version; it reads nothing
    behind the datagram, and `RcvData` does the same whatever lies there.** -/
theorem rcvData_reads (H : Md5) (am : Bool) (c : CPortalServerChannel) (u : CPortalUserMgr)
    {msg : Bytes} {msgsize : Nat} (hmsg : msgsize ≤ msg.length) :
    c.rcvData H am msg msgsize u =
      (handlerOf c.cfg msg msgsize).elim (-1, u, []) (c.handle H am msg msgsize u) ∧
    (∀ handler, handlerOf c.cfg msg msgsize = some handler →
      Complete msg msgsize ∧ ∀ r ∈ handlerReads msg msgsize handler, r.1 + r.2 ≤ msgsize) ∧
    (Complete msg msgsize → byteAt msg 0 = c.cfg.version →
      (byteAt msg 2 = PORTAL_CHAP_AUTH ∨ byteAt msg 2 = PORTAL_PAP_AUTH) →
      handlerOf c.cfg msg msgsize = Handler.ofCode (byteAt msg 1)) ∧
    ∀ msg', msgsize ≤ msg'.length → msg'.take msgsize = msg.take msgsize →
      handlerOf c.cfg msg' msgsize = handlerOf c.cfg msg msgsize ∧
      c.rcvData H am msg' msgsize u = c.rcvData H am msg msgsize u := by
  have hcomplete : ∀ handler, handlerOf c.cfg msg msgsize = some handler → Complete msg msgsize := by
    intro handler h
    unfold handlerOf at h
    split at h
    · rename_i hacc
      exact ((accepts_iff hmsg).mp hacc).1
    · cases h
  refine ⟨rcvData_eq H am msg msgsize c u, fun handler h => ?_, fun hc hv ha => ?_,
    fun msg' hmsg' hsame => ?_⟩
  · exact ⟨hcomplete handler h, handlerReads_inside (hcomplete handler h) handler⟩
  · exact if_pos ((accepts_iff hmsg).mpr ⟨hc, ha, hv⟩)
  · have hhandler := handlerOf_same hsame c.cfg hmsg' hmsg
    refine ⟨hhandler, ?_⟩
    rw [rcvData_eq, rcvData_eq, hhandler]
    cases h : handlerOf c.cfg msg msgsize with
    | none => rw [Option.elim_none, Option.elim_none]
    | some handler =>
      rw [Option.elim_some, Option.elim_some]
      exact handle_same hsame H am c u hmsg' hmsg ((hcomplete handler h).same hsame.symm) handler

/-- The sample request on its channel: what lies behind it does not matter. -/
theorem samplePacket_reads :
    let c : CPortalServerChannel :=
      { remoteAddr := (0, 0), cfg := { version := PORTAL_VERSION_TWO, key := ascii "key" } }
    handlerOf c.cfg samplePacket 41 = some .authenRequest ∧
      c.rcvData Md5.utils true (samplePacket ++ [7]) 41 {} =
        c.rcvData Md5.utils true samplePacket 41 {} := by
  have hlen : 41 ≤ samplePacket.length := by decide
  exact ⟨by decide, ((rcvData_reads Md5.utils true _ {} hlen).2.2.2 (samplePacket ++ [7])
    (by decide) (by decide)).2⟩

end CPortalServerChannel

end OpenBras
