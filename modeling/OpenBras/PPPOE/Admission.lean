/-
  File:      OpenBras/PPPOE/Admission.lean
  Subject:   WHAT A PADR COMES TO: nothing, or a session of the sender with its PADS sent and LCP
             opened, and where `processPADR` does something else.

  `CreateSession` fails when all ids are in use, and `processPADR` goes on with the null pointer
  it has got. The tags it echoes are copied without a look at the room, and so are those of
  `sendErrorPADS`. **`all_or_nothing_iff`**: a PADR does what it should exactly if neither
  happens (`Manageable`).
-/
import OpenBras.PPPOE.Replies
import OpenBras.Utils.Md5

namespace OpenBras

open Wire
open PPPoEPacket (overlay)

namespace PppoeServer

variable {env : PppoeEnv} {s t : PppoeServer}

/-! ## 1. The two outcomes -/

/-- The table and the free ids are as they were. -/
def Unchanged (s t : PppoeServer) : Prop :=
  t.sessionMgr = s.sessionMgr ∧ t.psessionid = s.psessionid

/-- One session has come into the table, under an id that was free: it belongs to the sender, the
    PADS with its id has been sent to it, and its LCP negotiates. -/
structure Admitted (env : PppoeEnv) (source : Bytes) (s t : PppoeServer) (id : UInt16) (x : Exec) :
    Prop where
  admits : Admits s t id x
  fresh : s.findSession id = none
  opened : x = Exec.start (s.config env id source)
  owner : x.clientEth = source
  pads : ∃ payload,
    t.sent = discoveryFrame source env.intfMac CODE_PADS id payload :: s.sent
  lcp : x.lcp.fsm.state = .reqSent

/-- The process has not failed, and a PADR has done nothing to the table or all it should. -/
def AllOrNothing (env : PppoeEnv) (source : Bytes) (s t : PppoeServer) : Prop :=
  t.fault = none ∧ (Unchanged s t ∨ ∃ id x, Admitted env source s t id x)

theorem AllOrNothing.tags {source : Bytes} (h : AllOrNothing env source s t) (tags : Statics) :
    AllOrNothing env source s { t with tags := tags } := by
  obtain ⟨hf, hsame | ⟨id, x, ha⟩⟩ := h
  · exact ⟨hf, .inl hsame⟩
  · exact ⟨hf, .inr ⟨id, x, { ha with
      admits := ⟨ha.admits.ids, ha.admits.sessions, ha.admits.gone⟩ }⟩⟩

theorem allOrNothing_tags {source : Bytes} {tags : Statics} :
    AllOrNothing env source s { t with tags := tags } ↔ AllOrNothing env source s t :=
  ⟨fun h => h.tags t.tags, fun h => h.tags tags⟩

/-! ## 2. When a PADR can be served -/

/-- The length of the tags a reply echoes. -/
def echoLength (r : Request) : Nat :=
  (r.relayId.map fun v => TAG_HDR_SIZE + v.length).getD 0 +
    (r.hostUniq.map fun v => TAG_HDR_SIZE + v.length).getD 0

/-- The length of the max-payload tag of a reply. -/
def mtuLength (cfg : DiscoveryConfig) (m : UInt16) : Nat :=
  if wantsMtu cfg m && answeredMtu cfg m > ETH_PPPOE_MTU then TAG_HDR_SIZE + 2 else 0

/-- A request is dropped; or it is refused and the echoed tags fit behind the error tag; or it is
    accepted, there is an id, and they fit behind the tags of the PADS. -/
def manageable (cfg : DiscoveryConfig) (r : Request) (s : PppoeServer) : Verdict → Bool
  | .discard => true
  | .errorPADS errorMsg =>
    TAG_HDR_SIZE + (ascii errorMsg).length + echoLength r ≤ ETH_JUMBO_LEN
  | .accept =>
    s.nextId.isSome &&
      TAG_HDR_SIZE + cfg.svcName.length + mtuLength cfg r.max_ppp_payload + echoLength r ≤
        ETH_JUMBO_LEN

/-- A PADR that is ours to answer can be. -/
def Manageable (env : PppoeEnv) (frame : Bytes) (s : PppoeServer) : Prop :=
  let p := overlay frame
  wellFormed frame = true → p.dest = env.intfMac → notUnicast p.source = false →
    manageable env.toDiscoveryConfig p.request s
      (judge env.toDiscoveryConfig p.source p.request) = true

instance (env : PppoeEnv) (frame : Bytes) (s : PppoeServer) : Decidable (Manageable env frame s) :=
  inferInstanceAs (Decidable (_ → _ → _ → _))

theorem length_tagBytes (type : UInt16) (v : Bytes) :
    (tagBytes type v).length = TAG_HDR_SIZE + v.length := by
  simp only [tagBytes, putShort, List.length_append, List.length_cons, List.length_nil]
  rw [show TAG_HDR_SIZE = 4 from rfl]

theorem length_echo (type : UInt16) (v : Option Bytes) :
    (echo type v).length = (v.map fun v => TAG_HDR_SIZE + v.length).getD 0 := by
  cases v with
  | none => rfl
  | some v => exact length_tagBytes type v

theorem length_errorFor (errorMsg : String) (r : Request) :
    (errorFor errorMsg r).length =
      TAG_HDR_SIZE + (ascii errorMsg).length + echoLength r := by
  simp only [errorFor, echoLength, List.length_append, length_tagBytes, length_echo]
  omega

theorem length_mtuTag (cfg : DiscoveryConfig) (m : UInt16) :
    ((mtuTag cfg m).getD []).length = mtuLength cfg m := by
  unfold mtuTag mtuLength
  split
  · exact length_tagBytes _ _
  · rfl

theorem length_padsFor (cfg : DiscoveryConfig) (r : Request) :
    (padsFor cfg r).length =
      TAG_HDR_SIZE + cfg.svcName.length + mtuLength cfg r.max_ppp_payload + echoLength r := by
  simp only [padsFor, echoLength, List.length_append, length_tagBytes, length_mtuTag, length_echo]
  omega

theorem fault_sendPacket {dest source : Bytes} (hd : dest.length = ETH_ALEN)
    (hs : source.length = ETH_ALEN) (code : UInt8) (session : UInt16) (payload : Bytes)
    (hf : s.fault = none) :
    (s.sendPacket (discoveryFrame dest source code session payload)).fault = none ↔
      payload.length ≤ ETH_JUMBO_LEN := by
  have hlen : (discoveryFrame dest source code session payload).length =
      HDR_SIZE + payload.length := by
    simp only [discoveryFrame, putShort, List.length_append, List.length_cons, List.length_nil]
    rw [hd, hs, show ETH_ALEN = 6 from rfl, show HDR_SIZE = 20 from rfl]
  unfold sendPacket
  dsimp only
  rw [hlen, hf]
  split
  · rename_i h
    exact ⟨fun hnone => (by cases hnone), fun hle => absurd hle (by omega)⟩
  · rename_i h
    exact ⟨fun _ => by omega, fun _ => rfl⟩

/-! ## 3. A PADR -/

/-- Without an id, `SetClientEth` is called on no session. -/
theorem fault_enrol_none (env : PppoeEnv) (h : s.nextId = none) (source : Bytes) (r : Request) :
    (s.enrol env source r).fault = some .nullSession := by
  have hnone := createSession_none env h source
  unfold enrol
  generalize s.createSession env source = made at hnone ⊢
  obtain ⟨x, t⟩ := made
  cases hnone
  rfl

theorem admitted_enrol {id : UInt16} (h : s.nextId = some id) (source : Bytes) (r : Request) :
    Admitted env source s (s.enrol env source r) id
      (Exec.lcpOpen (Exec.pppInit (s.newSession env id source))) where
  admits := (enrol_some env h source r).1
  fresh := by
    have hfree := (Option.filter_eq_some_iff.mp h).2
    rw [Bool.and_eq_true, Option.isNone_iff_eq_none] at hfree
    exact hfree.2
  opened := rfl
  owner := congrArg (·.2.2.1) (Exec.fixed_init (s.newSession env id source))
  pads := ⟨padsFor env.toDiscoveryConfig r, by rw [(enrol_some env h source r).2]; rfl⟩
  lcp := by
    unfold Exec.pppInit
    dsimp only
    split <;> rfl

theorem allOrNothing_enrol {source : Bytes} (r : Request) (hf : s.fault = none)
    (hs : source.length = ETH_ALEN) (hm : env.intfMac.length = ETH_ALEN) :
    AllOrNothing env source s (s.enrol env source r) ↔
      manageable env.toDiscoveryConfig r s .accept = true := by
  unfold manageable
  rw [Bool.and_eq_true, decide_eq_true_iff, ← length_padsFor]
  cases hid : s.nextId with
  | none =>
    have hfault := fault_enrol_none env hid source r
    refine ⟨fun h => ?_, fun h => ?_⟩
    · rw [AllOrNothing, hfault] at h
      cases h.1
    · cases h.1
  | some id =>
    have hfault : (s.enrol env source r).fault = none ↔
        (padsFor env.toDiscoveryConfig r).length ≤ ETH_JUMBO_LEN := by
      rw [(enrol_some env hid source r).2]
      exact fault_sendPacket hs hm CODE_PADS id _ hf
    rw [AllOrNothing, hfault]
    exact ⟨fun h => ⟨rfl, h.1⟩, fun h => ⟨h.2, .inr ⟨id, _, admitted_enrol hid source r⟩⟩⟩

theorem allOrNothing_servePADR {p : PPPoEPacket} (hf : s.fault = none)
    (hs : p.source.length = ETH_ALEN) (hd : p.dest.length = ETH_ALEN) :
    AllOrNothing env p.source s (s.servePADR env p) ↔
      (p.dest = env.intfMac → notUnicast p.source = false →
        manageable env.toDiscoveryConfig p.request s
          (judge env.toDiscoveryConfig p.source p.request) = true) := by
  have hsame : AllOrNothing env p.source s s := ⟨hf, .inl ⟨rfl, rfl⟩⟩
  unfold servePADR
  by_cases hmac : p.dest = env.intfMac
  · cases huni : notUnicast p.source with
    | true =>
      rw [if_pos (.inr rfl)]
      exact ⟨fun _ _ h => (by cases h), fun _ => hsame⟩
    | false =>
      rw [if_neg (by simp [hmac])]
      refine Iff.trans ?_ ⟨fun h _ _ => h, fun h => h hmac rfl⟩
      have hm : env.intfMac.length = ETH_ALEN := hmac ▸ hd
      cases judge env.toDiscoveryConfig p.source p.request with
      | discard => exact ⟨fun _ => rfl, fun _ => hsame⟩
      | errorPADS errorMsg =>
        unfold manageable
        rw [decide_eq_true_iff, ← length_errorFor, ← fault_sendPacket hs hm CODE_PADS 0 _ hf]
        exact ⟨fun h => h.1, fun h => ⟨h, .inl ⟨rfl, rfl⟩⟩⟩
      | accept => exact allOrNothing_enrol p.request hf hs hm
  · rw [if_pos (.inl hmac)]
    exact ⟨fun _ h => absurd h hmac, fun _ => hsame⟩

/-- **A PADR does nothing to the table, or makes one session of the sender, sends it the PADS and
    opens its LCP, exactly if it is manageable.** -/
theorem all_or_nothing_iff (env : PppoeEnv) (frame stale : Bytes) (s : PppoeServer)
    (hf : s.fault = none) (hcode : (overlay frame).code = CODE_PADR) :
    AllOrNothing env (overlay frame).source s
      (s.processDiscoveryPacket env frame stale) ↔ Manageable env frame s := by
  obtain ⟨tags, ht⟩ := processDiscoveryPacket_eq env s frame stale
  rw [ht, allOrNothing_tags]
  unfold serve Manageable
  dsimp only
  rw [hcode, if_neg (show CODE_PADR ≠ CODE_PADI by decide), if_pos rfl]
  cases hw : wellFormed frame with
  | false => exact ⟨fun _ h => (by cases h), fun _ => ⟨hf, .inl ⟨rfl, rfl⟩⟩⟩
  | true =>
    have hlen := (wellFormed_iff.mp hw).1
    have h20 : 20 ≤ frame.length := hlen
    have hs : (overlay frame).source.length = ETH_ALEN := by
      simp only [overlay, ETH_ALEN, List.length_take, List.length_drop]
      omega
    have hd : (overlay frame).dest.length = ETH_ALEN := by
      simp only [overlay, ETH_ALEN, List.length_take]
      omega
    rw [if_neg (show ¬(true = false) by decide), allOrNothing_servePADR hf hs hd]
    exact ⟨fun h _ => h, fun h => h rfl⟩

/-- A server without a service name. -/
def plain : PppoeEnv where
  acName := ascii "ac"
  acName_lt := by decide
  svcName := []
  svcName_lt := by decide
  intfMac := [2, 0, 0, 0, 0, 1]
  intfMtu := 1500
  cookieSeed := List.replicate 16 0
  pid := 7
  md5 := md5
  length_md5 := length_md5
  intfIp := 0x0A000001
  authType := PPP_CHAP
  rand _ _ := 0

/-- A PADR with the right cookie, for any service. -/
def padr : Bytes :=
  discoveryFrame plain.intfMac [2, 0, 0, 0, 0, 9] CODE_PADR 0
    (tagBytes TAG_SERVICE_NAME [] ++
      tagBytes TAG_AC_COOKIE (genCookie plain.toDiscoveryConfig [2, 0, 0, 0, 0, 9]))

theorem padr_admitted :
    initial.fault = none ∧ (overlay padr).code = CODE_PADR ∧
    AllOrNothing plain (overlay padr).source initial
      (initial.processDiscoveryPacket plain padr []) :=
  ⟨rfl, by decide, (all_or_nothing_iff plain padr [] initial rfl (by decide)).mpr
    (by decide +kernel)⟩

/-- All 60000 ids are in use. -/
def full : PppoeServer where
  sessionMgr id :=
    if 1 ≤ id ∧ id ≤ 60000 then some (Exec.create (initial.config plain id [2, 0, 0, 0, 0, 8]))
    else none
  keyed h := by
    split at h
    · cases h
      rfl
    · cases h
  psessionid := []

/-- **With all ids in use the PADR ends in a call on a null pointer.** -/
theorem padr_when_full :
    IdsConserved full ∧ full.fault = none ∧ (overlay padr).code = CODE_PADR ∧
    ¬ AllOrNothing plain (overlay padr).source full
      (full.processDiscoveryPacket plain padr []) := by
  refine ⟨fun id => ?_, rfl, by decide, fun h => absurd h.1 (by decide +kernel)⟩
  unfold full
  dsimp only
  split <;> rfl

end PppoeServer

end OpenBras
