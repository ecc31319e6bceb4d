/-
  File:      OpenBras/Radius/Connector.lean
  Subject:   THE RADIUS CLIENT: `CRadiusConnector` and `CRadiusTransaction` (src/Radius), and
             which datagrams `handle_input` hands to a transaction.

  A transaction is a request under an identifier; it holds the callback that waits for the
  response. `handle_input` looks the identifier of a datagram up and is to check the datagram
  against the authenticator of that request. It passes a NULL POINTER in the authenticator's
  place: a datagram with the identifier of an outstanding transaction ends the process, and no
  transaction ever gets a response (`handleInput_cases`).
-/
import OpenBras.Radius.Message

namespace OpenBras

open Wire

/-! ## 1. Transactions and the connector -/

def TRTIMEOUT : Int := 0
def TRRESPONSE : Int := 1

/-- `timer` says that the timer of the transaction is scheduled, and `call` which call of
    `SendMessage` made it. -/
structure CRadiusTransaction where
  m_requestcount : UInt32 := 0
  m_identifier : UInt8
  m_timeout : UInt32
  m_retrans : UInt32
  m_callback : Bool
  m_requestmsg : CRadiusMessage
  timer : Bool := true
  call : Nat
  deriving DecidableEq, Repr

/-- A call of `SendMessage`: whether it passed a callback, and what it returned. -/
structure Call where
  callback : Bool
  result : Int
  deriving DecidableEq, Repr

/-- The connector, and what has happened so far: the calls of `SendMessage` in their order, the
    callbacks invoked and the calls of `sendto` (each by the number of its call of
    `SendMessage`), and the transactions a response was handed to. -/
structure CRadiusConnector where
  m_trans : UInt8 → Option CRadiusTransaction := fun _ => none
  m_nIdentifierBase : UInt32 := 0
  calls : List Call := []
  invoked : List (Nat × Int) := []
  transmitted : List Nat := []
  handed : List CRadiusTransaction := []

namespace CRadiusConnector

def findTransaction (id : UInt8) (c : CRadiusConnector) : Option CRadiusTransaction := c.m_trans id

/-- The entry of the table under `id`. -/
def setTransaction (id : UInt8) (t : Option CRadiusTransaction) (c : CRadiusConnector) :
    CRadiusConnector :=
  { c with m_trans := Function.update c.m_trans id t }

def removeTransaction (id : UInt8) (c : CRadiusConnector) : CRadiusConnector :=
  c.setTransaction id none

/-- `AddTransaction`. Refused, the transaction is destroyed, and its timer with it. -/
def addTransaction (id : UInt8) (t : CRadiusTransaction) (c : CRadiusConnector) :
    Int × CRadiusConnector :=
  match c.m_trans id with
  | some _ => (-1, c)
  | none => (0, c.setTransaction id (some t))

/-- `SendData`, for the request of the given call; `sendto` succeeds or not. -/
def sendData (sendto : Bool) (call : Nat) (c : CRadiusConnector) : Int × CRadiusConnector :=
  (if sendto then 0 else -1, { c with transmitted := call :: c.transmitted })

/-- `m_callback(.., type)`, if there is one. -/
def invoke (t : CRadiusTransaction) (type : Int) (c : CRadiusConnector) : CRadiusConnector :=
  if t.m_callback then { c with invoked := (t.call, type) :: c.invoked } else c

end CRadiusConnector

namespace CRadiusTransaction

/-- The constructor. -/
def make (e : RadiusEnv) (identifier : UInt8) (requestmsg : CRadiusMessage) (callback : Bool)
    (call : Nat) : CRadiusTransaction where
  m_identifier := identifier
  m_timeout := e.responsetimeout
  m_retrans := e.retransmit
  m_callback := callback
  m_requestmsg := requestmsg
  call := call

/-- `RecvResponse`. -/
def recvResponse (t : CRadiusTransaction) (c : CRadiusConnector) : CRadiusConnector :=
  ({ c with handed := t :: c.handed }.invoke t TRRESPONSE).removeTransaction t.m_identifier

/-- `handle_timeout`. The timer is scheduled again unless its interval is 0. -/
def handleTimeout (sendto : Bool) (t : CRadiusTransaction) (c : CRadiusConnector) :
    CRadiusConnector :=
  if t.m_requestcount ≥ t.m_retrans then
    (c.invoke t TRTIMEOUT).removeTransaction t.m_identifier
  else
    let t' := { t with m_requestcount := t.m_requestcount + 1, timer := t.m_timeout ≠ 0 }
    (c.sendData sendto t.call).2.setTransaction t.m_identifier (some t')

end CRadiusTransaction

namespace CRadiusConnector

open CRadiusMessage (sampleEnv)

variable (e : RadiusEnv)

/-- `SendMessage`, at the given time. The transaction gets the number of the call. -/
def sendMessage (time : UInt32) (accessReqMsg : CRadiusMessage) (callback sendto : Bool)
    (c : CRadiusConnector) : Except Fault (Int × CRadiusConnector) := do
  let base := c.m_nIdentifierBase + 1
  let id := base.toUInt8
  let msg ← (accessReqMsg.setIdentifier id).calcAuthenticator e time e.sharedKey
  let call := c.calls.length
  let (added, c) := { c with m_nIdentifierBase := base }.addTransaction id
    (CRadiusTransaction.make e id msg callback call)
  return if added = -1 then (-1, c) else c.sendData sendto call

/-- What lies in memory before `handle_input` writes to it: its buffer, and the members of the
    message it makes. -/
structure Memory where
  buffer : Bytes := []
  message : Uninitialized := {}

/-- `handle_input`, on a datagram. How many bytes were received is not looked at any more. -/
def handleInput (mem : Memory) (datagram : Bytes) (c : CRadiusConnector) :
    Except Fault (Int × CRadiusConnector) :=
  let received := datagram.take RadiusMaxPacketSize
  if received = [] then .ok (0, c)
  else
    let buffer := received ++ mem.buffer.drop received.length
    let msgRecvd := CRadiusData buffer (getShort buffer 2).toNat
    match c.findTransaction (byteAt buffer 1) with
    | none => .ok (1, c)
    | some transaction => do
        let reqAuth : Option Bytes := none
        let accessResp ← CRadiusMessage.ofData e mem.message msgRecvd e.sharedKey
        let (verified, _) ← accessResp.verifyResponseAuthenticator e reqAuth e.sharedKey
        if verified then return (0, transaction.recvResponse c) else return (0, c)

/-! ## 2. Which datagrams reach a transaction -/

/-- **A datagram under the identifier of an outstanding transaction ends the process**, in the
    constructor of the message or at the null pointer. -/
theorem handleInput_outstanding {mem : Memory} {datagram : Bytes} {c : CRadiusConnector}
    {t : CRadiusTransaction} (hne : datagram.take RadiusMaxPacketSize ≠ [])
    (ht : c.m_trans (byteAt (datagram.take RadiusMaxPacketSize ++
      mem.buffer.drop (datagram.take RadiusMaxPacketSize).length) 1) = some t) :
    ∃ f, handleInput e mem datagram c = .error f := by
  simp only [handleInput, if_neg hne, findTransaction, ht,
    CRadiusMessage.verifyResponseAuthenticator_null]
  cases CRadiusMessage.ofData e mem.message _ e.sharedKey with
  | error f => exact ⟨f, rfl⟩
  | ok m => exact ⟨_, rfl⟩

/-- **What `handle_input` does**: the datagram changes nothing, or ends the process. -/
theorem handleInput_cases (mem : Memory) (datagram : Bytes) (c : CRadiusConnector) :
    (∃ r, handleInput e mem datagram c = .ok (r, c)) ∨
      ∃ f, handleInput e mem datagram c = .error f := by
  by_cases hne : datagram.take RadiusMaxPacketSize = []
  · exact .inl ⟨0, if_pos hne⟩
  cases ht : c.m_trans (byteAt (datagram.take RadiusMaxPacketSize ++
      mem.buffer.drop (datagram.take RadiusMaxPacketSize).length) 1) with
  | none => exact .inl ⟨1, by simp only [handleInput, if_neg hne, findTransaction, ht]⟩
  | some t => exact .inr (handleInput_outstanding e hne ht)

/-- `handle_input` hands a response to the transaction `t`. -/
def Hands (mem : Memory) (datagram : Bytes) (t : CRadiusTransaction) (c : CRadiusConnector) :
    Prop :=
  ∃ r c', handleInput e mem datagram c = .ok (r, c') ∧ c'.handed = t :: c.handed

/-- The datagram is a response to the request of the outstanding transaction `t`: it carries its
    identifier, it is as long as it says, and it carries the authenticator that only a
    holder of the secret can compute from the request. -/
def Responds (datagram : Bytes) (t : CRadiusTransaction) (c : CRadiusConnector) : Prop :=
  c.m_trans (byteAt datagram 1) = some t ∧ (getShort datagram 2).toNat ≤ datagram.length ∧
    (datagram.drop 4).take RadiusAuthenticatorLength =
      CRadiusMessage.responseAuthenticator e t.m_requestmsg.getAuthenticator e.sharedKey datagram

theorem not_hands (mem : Memory) (datagram : Bytes) (t : CRadiusTransaction)
    (c : CRadiusConnector) : ¬ Hands e mem datagram t c := by
  rintro ⟨r, c', h, hh⟩
  obtain ⟨r', h'⟩ | ⟨f, h'⟩ := handleInput_cases e mem datagram c
  · rw [h'] at h
    cases h
    exact List.cons_ne_self _ _ hh.symm
  · rw [h'] at h
    cases h

/-- **`handle_input` hands a datagram to a transaction exactly when it responds to its request
    -- as long as no datagram does.** -/
theorem hands_iff_responds_iff (mem : Memory) (datagram : Bytes) (c : CRadiusConnector) :
    (∀ t, Hands e mem datagram t c ↔ Responds e datagram t c) ↔
      ∀ t, ¬ Responds e datagram t c := by
  refine forall_congr' fun t => ?_
  exact ⟨fun h hr => not_hands e mem datagram t c (h.mpr hr),
    fun hr => iff_of_false (not_hands e mem datagram t c) hr⟩

/-- The authenticator of an accounting request under the identifier 1. -/
def accountingAuth : Bytes :=
  md5 ([RP_ACCOUNTING_REQUEST, 1, 0, 20] ++ List.replicate RadiusAuthenticatorLength 0 ++
    ascii "shhhh!")

/-- The request, waiting. -/
def waiting : CRadiusTransaction :=
  .make sampleEnv 1
    { myRequestAuthenticator := accountingAuth, myAttributes := [],
      myData := [RP_ACCOUNTING_REQUEST, 1, 0, 20] ++ accountingAuth }
    true 0

/-- The Accounting-Response to it. -/
def accountingResponse : Bytes :=
  [RP_ACCOUNTING_RESPONSE, 1, 0, 20] ++
    md5 ([RP_ACCOUNTING_RESPONSE, 1, 0, 20] ++ accountingAuth ++ ascii "shhhh!")

/-- **The response to an outstanding request is not handed over.** -/
theorem accountingResponse_not_handed :
    ¬ ∀ t, Hands sampleEnv {} accountingResponse t (({} : CRadiusConnector).setTransaction 1 waiting)
      ↔ Responds sampleEnv accountingResponse t
        (({} : CRadiusConnector).setTransaction 1 waiting) := by
  intro h
  refine not_hands sampleEnv {} accountingResponse waiting _ ((h waiting).mpr ⟨?_, ?_, ?_⟩)
  · decide +kernel
  · decide +kernel
  · decide +kernel

end CRadiusConnector

end OpenBras
