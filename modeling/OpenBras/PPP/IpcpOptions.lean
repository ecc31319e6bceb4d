/-
  File:      OpenBras/PPP/IpcpOptions.lean
  Subject:   THE OPTIONS OF IPCP (`CPPPIPCP`, src/PPP/CPPPIPCP.cpp).

  Addresses are kept as the source keeps them: 32-bit numbers in network byte order on a
  little-endian host, so that `htonl` and `ntohl` both are `swapLong`.

  `Reqci` edits the peer's options in place (a Nak carries our values in the peer's own option)
  and moves the ones it answers to the front; the model returns the answer's options. Two things
  it does besides answering: it may take the peer's value for our own address (`accept_local`),
  and it clears `req_addr` once it has asked for the peer's address.
-/
import OpenBras.PPP.Ci

namespace OpenBras

open Wire

def PPP_IPCP : UInt16 := 0x8021

def CI_ADDRS : UInt8 := 1
def CI_COMPRESSTYPE : UInt8 := 2
def CI_ADDR : UInt8 := 3
def CI_MS_DNS1 : UInt8 := 129
def CI_MS_WINS1 : UInt8 := 130
def CI_MS_DNS2 : UInt8 := 131
def CI_MS_WINS2 : UInt8 := 132

def CILEN_COMPRESS : Nat := 4
def CILEN_VJ : Nat := 6
def CILEN_ADDR : Nat := 6
def CILEN_ADDRS : Nat := 10

def MAX_STATES : UInt8 := 16
def IPCP_VJ_COMP : UInt16 := 0x002d
def IPCP_VJ_COMP_OLD : UInt16 := 0x0037

structure IpcpOptions where
  negAddr : Bool := false
  oldAddrs : Bool := false
  reqAddr : Bool := false
  negVj : Bool := false
  oldVj : Bool := false
  acceptLocal : Bool := false
  acceptRemote : Bool := false
  reqDns1 : Bool := false
  reqDns2 : Bool := false
  vjProtocol : UInt16 := 0
  maxslotindex : UInt8 := 0
  cflag : UInt8 := 0
  ouraddr : UInt32 := 0
  hisaddr : UInt32 := 0
  dnsaddr0 : UInt32 := 0
  dnsaddr1 : UInt32 := 0
  winsaddr0 : UInt32 := 0
  winsaddr1 : UInt32 := 0
  deriving DecidableEq, Repr

namespace IpcpOptions

/-- The options `Init` sets: the same for what we want and what we allow, but for flags no
    function reads. -/
def initial : IpcpOptions := { negAddr := true, oldAddrs := true, cflag := 1 }

/-- The old form of the address option is asked for. -/
def askAddrs (go : IpcpOptions) : Bool := !go.negAddr && go.oldAddrs

def dnsaddr (o : IpcpOptions) (second : Bool) : UInt32 := if second then o.dnsaddr1 else o.dnsaddr0

def winsaddr (o : IpcpOptions) (second : Bool) : UInt32 :=
  if second then o.winsaddr1 else o.winsaddr0

/-! ## 1. Our request -/

/-- `Resetci` on the options we want. -/
def resetWant (wo ao : IpcpOptions) (usepeerdns : Bool) : IpcpOptions :=
  { wo with
    reqAddr := (wo.negAddr || wo.oldAddrs) && (ao.negAddr || ao.oldAddrs),
    acceptLocal := wo.acceptLocal || wo.ouraddr == 0,
    acceptRemote := wo.acceptRemote || wo.hisaddr == 0,
    reqDns1 := usepeerdns, reqDns2 := usepeerdns }

/-- `Cilen` turns to the old forms if the peer used them. -/
def oldForms (wo go ho : IpcpOptions) : IpcpOptions :=
  let go :=
    if go.negAddr && go.oldAddrs && !ho.negAddr && ho.oldAddrs then { go with negAddr := false }
    else go
  if wo.negVj && !go.negVj && !go.oldVj && ho.negVj && ho.oldVj then
    { go with negVj := true, oldVj := true, vjProtocol := ho.vjProtocol }
  else go

def vjLen (old : Bool) : Nat := if old then CILEN_COMPRESS else CILEN_VJ

/-- `Cilen`, on the options as `oldForms` leaves them. -/
def cilen (go : IpcpOptions) : Nat :=
  let len (neg : Bool) (n : Nat) : Nat := if neg then n else 0
  len go.askAddrs CILEN_ADDRS + len go.negVj (vjLen go.oldVj) + len go.negAddr CILEN_ADDR +
    len go.reqDns1 CILEN_ADDR + len go.reqDns2 CILEN_ADDR + len (go.winsaddr0 != 0) CILEN_ADDR +
    len (go.winsaddr1 != 0) CILEN_ADDR

/-- The state of `Addci`: the room left, the bytes written, the options. -/
structure AddAcc where
  len : Nat
  out : Bytes := []
  go : IpcpOptions

/-- One option of the request, given up if there is no room for it. -/
def addOption (neg : IpcpOptions → Bool) (bytes : IpcpOptions → Bytes)
    (giveUp : IpcpOptions → IpcpOptions) (a : AddAcc) : AddAcc :=
  if neg a.go then
    if (bytes a.go).length ≤ a.len then
      { a with len := a.len - (bytes a.go).length, out := a.out ++ bytes a.go }
    else { a with go := giveUp a.go }
  else a

def addrOption (opt : UInt8) (val : UInt32) : Bytes := [opt, 6] ++ putLong (swapLong val)

def addrsOption (val1 val2 : UInt32) : Bytes :=
  [CI_ADDRS, 10] ++ putLong (swapLong val1) ++ putLong (swapLong val2)

def vjOption (go : IpcpOptions) : Bytes :=
  [CI_COMPRESSTYPE, if go.oldVj then 4 else 6] ++ putShort go.vjProtocol ++
    if go.oldVj then [] else [go.maxslotindex, go.cflag]

def addci (go : IpcpOptions) (len : Nat) : AddAcc :=
  let a : AddAcc := { len := len, go := go }
  let a := addOption askAddrs (fun go => addrsOption go.ouraddr go.hisaddr)
    (fun go => { go with oldAddrs := false }) a
  let a := addOption (·.negVj) vjOption (fun go => { go with negVj := false }) a
  let a := addOption (·.negAddr) (fun go => addrOption CI_ADDR go.ouraddr)
    (fun go => { go with negAddr := false }) a
  let a := addOption (·.reqDns1) (fun go => addrOption CI_MS_DNS1 go.dnsaddr0)
    (fun go => { go with reqDns1 := false }) a
  let a := addOption (·.reqDns2) (fun go => addrOption CI_MS_DNS2 go.dnsaddr1)
    (fun go => { go with reqDns2 := false }) a
  let a := addOption (·.winsaddr0 != 0) (fun go => addrOption CI_MS_WINS1 go.winsaddr0)
    (fun go => { go with winsaddr0 := 0 }) a
  addOption (·.winsaddr1 != 0) (fun go => addrOption CI_MS_WINS2 go.winsaddr1)
    (fun go => { go with winsaddr1 := 0 }) a

/-! ## 2. The peer's answers -/

/-- The address at position `i`, in network byte order. -/
def addrAt (p : Bytes) (i : Nat) : UInt32 := swapLong (getLong p i)

theorem reads_addr (i : Nat) (v : UInt32) :
    Reads (fun p => addrAt p i == v) i (putLong (swapLong v)) := by
  intro p hp
  rw [← reads_long i (swapLong v) p hp, beq_iff_eq, beq_iff_eq, addrAt]
  exact ⟨fun h => by rw [← h, swapLong_swapLong], fun h => by rw [h, swapLong_swapLong]⟩

def ackciAddrs (neg : Bool) (val1 val2 : UInt32) : Cursor → Option Cursor :=
  ackOption CI_ADDRS neg CILEN_ADDRS fun p => addrAt p 2 == val1 && addrAt p 6 == val2

def ackciAddr (opt : UInt8) (neg : Bool) (val : UInt32) : Cursor → Option Cursor :=
  ackOption opt neg CILEN_ADDR fun p => addrAt p 2 == val

def ackciVj (go : IpcpOptions) : Cursor → Option Cursor :=
  ackOption CI_COMPRESSTYPE go.negVj (vjLen go.oldVj) fun p =>
    getShort p 2 == go.vjProtocol &&
      (go.oldVj || (byteAt p 4 == go.maxslotindex && byteAt p 5 == go.cflag))

/-- `Ackci`: exactly the options of our request, in order. -/
def ackci (go : IpcpOptions) (p : Bytes) (len : Nat) : Bool :=
  let rest : Option Cursor := do
    let c ← ackciAddrs go.askAddrs go.ouraddr go.hisaddr { p := p, len := len }
    let c ← ackciVj go c
    let c ← ackciAddr CI_ADDR go.negAddr go.ouraddr c
    let c ← ackciAddr CI_MS_DNS1 go.reqDns1 go.dnsaddr0 c
    let c ← ackciAddr CI_MS_DNS2 go.reqDns2 go.dnsaddr1 c
    let c ← ackciAddr CI_MS_WINS1 (go.winsaddr0 != 0) go.winsaddr0 c
    ackciAddr CI_MS_WINS2 (go.winsaddr1 != 0) go.winsaddr1 c
  match rest with
  | some c => c.len == 0
  | none => false

/-- The state of `Nakci`. -/
structure NakAcc where
  c : Cursor
  no : IpcpOptions := {}
  tryop : IpcpOptions

def nakOption (neg : Bool) (opt : UInt8) (n : Nat) (code : Bytes → NakAcc → NakAcc) (a : NakAcc) :
    NakAcc :=
  if neg && a.c.at_ opt n then code a.c.p { a with c := a.c.skip n } else a

/-- A non-zero address of the peer's is taken where `accept` allows it. -/
def takeAddr (accept : Bool) (new old : UInt32) : UInt32 := if accept && new != 0 then new else old

/-- The Nak of the compression option: two lengths. Where the Nak is treated as a Reject the
    two bytes behind the protocol of the long form are not skipped. -/
def nakVj (go : IpcpOptions) (treatAsReject : Bool) (a : NakAcc) : NakAcc :=
  let p := a.c.p
  let seen (n : Nat) (t : IpcpOptions) : NakAcc :=
    { c := a.c.skip n, no := { a.no with negVj := true }, tryop := t }
  if go.negVj && a.c.at_ CI_COMPRESSTYPE CILEN_VJ then
    if treatAsReject then
      { seen CILEN_VJ { a.tryop with negVj := false } with
        c := { p := p.drop CILEN_COMPRESS, len := a.c.len - CILEN_VJ } }
    else if getShort p 2 = IPCP_VJ_COMP then
      seen CILEN_VJ { a.tryop with
        oldVj := false,
        maxslotindex := if byteAt p 4 < go.maxslotindex then byteAt p 4 else a.tryop.maxslotindex,
        cflag := if byteAt p 5 = 0 then 0 else a.tryop.cflag }
    else seen CILEN_VJ { a.tryop with negVj := false }
  else if go.negVj && a.c.at_ CI_COMPRESSTYPE CILEN_COMPRESS then
    if treatAsReject then seen CILEN_COMPRESS { a.tryop with negVj := false }
    else if getShort p 2 = IPCP_VJ_COMP ∨ getShort p 2 = IPCP_VJ_COMP_OLD then
      seen CILEN_COMPRESS { a.tryop with oldVj := true, vjProtocol := getShort p 2 }
    else seen CILEN_COMPRESS { a.tryop with negVj := false }
  else a

/-- The options of a Nak that were not in our request. -/
def nakExtra (go : IpcpOptions) (citype : UInt8) (cilen : Nat) (p : Bytes)
    (s : IpcpOptions × IpcpOptions) : Option (IpcpOptions × IpcpOptions) :=
  let (no, t) := s
  if citype = CI_COMPRESSTYPE then
    if go.negVj || no.negVj || (cilen != CILEN_VJ && cilen != CILEN_COMPRESS) then none
    else some ({ no with negVj := true }, t)
  else if citype = CI_ADDRS then
    if go.askAddrs || no.oldAddrs || cilen != CILEN_ADDRS then none
    else
      some ({ no with oldAddrs := true },
        { t with
          negAddr := false,
          ouraddr := takeAddr go.acceptLocal (addrAt p 2) t.ouraddr,
          hisaddr := takeAddr go.acceptRemote (addrAt p 6) t.hisaddr })
  else if citype = CI_ADDR then
    if go.negAddr || no.negAddr || cilen != CILEN_ADDR then none
    else
      let our := takeAddr go.acceptLocal (addrAt p 2) t.ouraddr
      some ({ no with negAddr := true },
        { t with oldAddrs := false, ouraddr := our, negAddr := if our ≠ 0 then true else t.negAddr })
  else if citype = CI_MS_DNS1 then
    if go.reqDns1 || no.reqDns1 || cilen != CILEN_ADDR then none
    else some ({ no with reqDns1 := true }, { t with dnsaddr0 := addrAt p 2, reqDns1 := true })
  else if citype = CI_MS_DNS2 then
    if go.reqDns2 || no.reqDns2 || cilen != CILEN_ADDR then none
    else some ({ no with reqDns2 := true }, { t with dnsaddr1 := addrAt p 2, reqDns2 := true })
  else if citype = CI_MS_WINS1 then
    if cilen != CILEN_ADDR then none
    else some (no, { t with winsaddr0 := takeAddr true (addrAt p 2) t.winsaddr0 })
  else if citype = CI_MS_WINS2 then
    if cilen != CILEN_ADDR then none
    else some (no, { t with winsaddr1 := takeAddr true (addrAt p 2) t.winsaddr1 })
  else some s

def nakRest (go : IpcpOptions) : Nat → Cursor → IpcpOptions × IpcpOptions → Option IpcpOptions
  | 0, _, s => some s.2
  | fuel + 1, c, s =>
    if c.len < CILEN_VOID then some s.2
    else
      let cilen := (byteAt c.p 1).toNat
      if cilen < CILEN_VOID ∨ c.len < cilen then none
      else do
        let s ← nakExtra go (byteAt c.p 0) cilen c.p s
        nakRest go fuel (c.skip cilen) s

/-- `Nakci` up to the point where the state is updated. -/
def nakScan (go : IpcpOptions) (p : Bytes) (len : Nat) (treatAsReject : Bool) :
    Option IpcpOptions :=
  let a : NakAcc := { c := { p := p, len := len }, tryop := go }
  let a := nakOption go.askAddrs CI_ADDRS CILEN_ADDRS (fun p a =>
    { a with
      no := { a.no with oldAddrs := true },
      tryop :=
        if treatAsReject then { a.tryop with oldAddrs := false }
        else { a.tryop with
          ouraddr := takeAddr go.acceptLocal (addrAt p 2) a.tryop.ouraddr,
          hisaddr := takeAddr go.acceptRemote (addrAt p 6) a.tryop.hisaddr } }) a
  let a := nakVj go treatAsReject a
  let a := nakOption go.negAddr CI_ADDR CILEN_ADDR (fun p a =>
    { a with
      no := { a.no with negAddr := true },
      tryop :=
        if treatAsReject then { a.tryop with negAddr := false, oldAddrs := false }
        else { a.tryop with
          ouraddr := takeAddr go.acceptLocal (addrAt p 2) a.tryop.ouraddr } }) a
  let a := nakOption go.reqDns1 CI_MS_DNS1 CILEN_ADDR (fun p a =>
    { a with
      no := { a.no with reqDns1 := true },
      tryop :=
        if treatAsReject then { a.tryop with reqDns1 := false }
        else { a.tryop with dnsaddr0 := addrAt p 2 } }) a
  let a := nakOption go.reqDns2 CI_MS_DNS2 CILEN_ADDR (fun p a =>
    { a with
      no := { a.no with reqDns2 := true },
      tryop :=
        if treatAsReject then { a.tryop with reqDns2 := false }
        else { a.tryop with dnsaddr1 := addrAt p 2 } }) a
  nakRest go a.c.len a.c (a.no, a.tryop)

def rejciAddr (opt : UInt8) (neg : Bool) (val : UInt32) :
    (IpcpOptions → IpcpOptions) → Cursor × IpcpOptions → Option (Cursor × IpcpOptions) :=
  rejOption neg opt CILEN_ADDR fun p => addrAt p 2 == val

/-- `Rejci` up to the point where the state is updated. -/
def rejScan (go : IpcpOptions) (p : Bytes) (len : Nat) : Option IpcpOptions := do
  let s : Cursor × IpcpOptions := ({ p := p, len := len }, go)
  let s ← rejOption go.askAddrs CI_ADDRS CILEN_ADDRS
    (fun p => addrAt p 2 == go.ouraddr && addrAt p 6 == go.hisaddr)
    (fun t => { t with oldAddrs := false }) s
  let s ← rejOption go.negVj CI_COMPRESSTYPE (vjLen go.oldVj)
    (fun p => getShort p 2 == go.vjProtocol &&
      (go.oldVj || (byteAt p 4 == go.maxslotindex && byteAt p 5 == go.cflag)))
    (fun t => { t with negVj := false }) s
  let s ← rejciAddr CI_ADDR go.negAddr go.ouraddr (fun t => { t with negAddr := false }) s
  let s ← rejciAddr CI_MS_DNS1 go.reqDns1 go.dnsaddr0 (fun t => { t with reqDns1 := false }) s
  let s ← rejciAddr CI_MS_DNS2 go.reqDns2 go.dnsaddr1 (fun t => { t with reqDns2 := false }) s
  let s ← rejciAddr CI_MS_WINS1 (go.winsaddr0 != 0) go.winsaddr0 (fun t => { t with winsaddr0 := 0 }) s
  let s ← rejciAddr CI_MS_WINS2 (go.winsaddr1 != 0) go.winsaddr1 (fun t => { t with winsaddr1 := 0 }) s
  if s.1.len = 0 then some s.2 else none

/-! ## 3. The peer's request -/

/-- Bytes written over a byte string at position `i`. -/
def putAt (i : Nat) (b p : Bytes) : Bytes := p.take i ++ b ++ p.drop (i + b.length)

/-- What the `switch` does with one option: the verdict, the option records, and the option's
    bytes as they stand afterwards. -/
structure Judgement where
  orc : Conf
  wo : IpcpOptions
  ho : IpcpOptions
  bytes : Bytes

/-- The peer's own address: does it disagree with the one assigned to it? -/
def disagrees (wo : IpcpOptions) (ciaddr : UInt32) : Bool :=
  ciaddr != wo.hisaddr && (ciaddr == 0 || !wo.acceptRemote)

def judgeAddrs (wo ho ao : IpcpOptions) (rejectIfDisagree : Bool) (ci : Ci) : Judgement :=
  if !ao.oldAddrs || ho.negAddr || ci.cilen != CILEN_ADDRS then
    { orc := .rej, wo := wo, ho := ho, bytes := ci.bytes }
  else
    let ciaddr1 := addrAt ci.cip 2
    let ciaddr2 := addrAt ci.cip 6
    if !disagrees wo ciaddr1 && ciaddr1 == 0 && wo.hisaddr == 0 then
      { orc := .rej, wo := { wo with reqAddr := false }, ho := ho, bytes := ci.bytes }
    else
      let nak1 := disagrees wo ciaddr1
      let nak2 := ciaddr2 != wo.ouraddr && (ciaddr2 == 0 || !wo.acceptLocal)
      let bytes :=
        if nak1 && !rejectIfDisagree then putAt 2 (putLong (swapLong wo.hisaddr)) ci.bytes
        else ci.bytes
      let bytes :=
        if nak2 && !rejectIfDisagree then putAt 6 (putLong (swapLong wo.ouraddr)) bytes else bytes
      { orc := if nak1 || nak2 then .nak else .ack,
        wo := if ciaddr2 != wo.ouraddr && !nak2 then { wo with ouraddr := ciaddr2 } else wo,
        ho := { ho with oldAddrs := true, hisaddr := ciaddr1, ouraddr := ciaddr2 },
        bytes := bytes }

def judgeAddr (wo ho ao : IpcpOptions) (rejectIfDisagree : Bool) (ci : Ci) : Judgement :=
  if !ao.negAddr || ho.oldAddrs || ci.cilen != CILEN_ADDR then
    { orc := .rej, wo := wo, ho := ho, bytes := ci.bytes }
  else
    let ciaddr1 := addrAt ci.cip 2
    if disagrees wo ciaddr1 then
      { orc := .nak, wo := wo, ho := { ho with negAddr := true, hisaddr := ciaddr1 },
        bytes :=
          if rejectIfDisagree then ci.bytes else putAt 2 (putLong (swapLong wo.hisaddr)) ci.bytes }
    else if ciaddr1 = 0 ∧ wo.hisaddr = 0 then
      { orc := .rej, wo := { wo with reqAddr := false }, ho := ho, bytes := ci.bytes }
    else
      { orc := .ack, wo := wo, ho := { ho with negAddr := true, hisaddr := ciaddr1 },
        bytes := ci.bytes }

/-- A name server the peer asks for: answered with `ours`, also where disagreement is rejected. -/
def judgeServer (ours : UInt32) (wo ho : IpcpOptions) (ci : Ci) : Judgement :=
  if ours = 0 ∨ ci.cilen ≠ CILEN_ADDR then { orc := .rej, wo := wo, ho := ho, bytes := ci.bytes }
  else if addrAt ci.cip 2 ≠ ours then
    { orc := .nak, wo := wo, ho := ho, bytes := putAt 2 (putLong (swapLong ours)) ci.bytes }
  else { orc := .ack, wo := wo, ho := ho, bytes := ci.bytes }

def judgeVj (wo ho ao : IpcpOptions) (rejectIfDisagree : Bool) (ci : Ci) : Judgement :=
  let refuse : Judgement := { orc := .rej, wo := wo, ho := ho, bytes := ci.bytes }
  if !ao.negVj || (ci.cilen != CILEN_VJ && ci.cilen != CILEN_COMPRESS) then refuse
  else if !(ci.short == IPCP_VJ_COMP || (ci.short == IPCP_VJ_COMP_OLD && ci.cilen == CILEN_COMPRESS))
  then refuse
  else
    let ho := { ho with negVj := true, vjProtocol := ci.short }
    if ci.cilen = CILEN_VJ then
      let maxslotindex := byteAt ci.cip 4
      let cflag := byteAt ci.cip 5
      let nak1 := decide (maxslotindex > ao.maxslotindex)
      let nak2 := cflag != 0 && ao.cflag == 0
      let bytes := if nak1 && !rejectIfDisagree then putAt 4 [ao.maxslotindex] ci.bytes else ci.bytes
      let bytes := if nak2 && !rejectIfDisagree then putAt 5 [wo.cflag] bytes else bytes
      { orc := if nak1 || nak2 then .nak else .ack, wo := wo,
        ho := { ho with maxslotindex := maxslotindex, cflag := if cflag = 0 then 0 else 1 },
        bytes := bytes }
    else
      { orc := .ack, wo := wo,
        ho := { ho with oldVj := true, maxslotindex := MAX_STATES - 1, cflag := 1 },
        bytes := ci.bytes }

/-- The `switch` on the option's type. -/
def judge (wo ho ao : IpcpOptions) (rejectIfDisagree : Bool) (ci : Ci) : Judgement :=
  if !ci.sound then { orc := .rej, wo := wo, ho := ho, bytes := ci.bytes }
  else if ci.citype = CI_ADDRS then judgeAddrs wo ho ao rejectIfDisagree ci
  else if ci.citype = CI_ADDR then judgeAddr wo ho ao rejectIfDisagree ci
  else if ci.citype = CI_MS_DNS1 ∨ ci.citype = CI_MS_DNS2 then
    judgeServer (ao.dnsaddr (ci.citype == CI_MS_DNS2)) wo ho ci
  else if ci.citype = CI_MS_WINS1 ∨ ci.citype = CI_MS_WINS2 then
    judgeServer (ao.winsaddr (ci.citype == CI_MS_WINS2)) wo ho ci
  else if ci.citype = CI_COMPRESSTYPE then judgeVj wo ho ao rejectIfDisagree ci
  else { orc := .rej, wo := wo, ho := ho, bytes := ci.bytes }

/-- The state of the loop: the answer so far and the options that go into it. -/
structure ReqAcc where
  rc : Conf := .ack
  wo : IpcpOptions
  ho : IpcpOptions := {}
  out : Bytes := []

/-- One turn of the loop. The answer starts over when the first option is Naked, and again when
    the first is rejected. -/
def reqciStep (ao : IpcpOptions) (rejectIfDisagree : Bool) (a : ReqAcc) (ci : Ci) : ReqAcc :=
  let j := judge a.wo a.ho ao rejectIfDisagree ci
  let a := { a with wo := j.wo, ho := j.ho }
  let reject : ReqAcc :=
    { a with rc := .rej, out := (if a.rc = .rej then a.out else []) ++ j.bytes }
  match j.orc with
  | .ack => if a.rc = .ack then { a with out := a.out ++ j.bytes } else a
  | .nak =>
    if rejectIfDisagree then reject
    else if a.rc = .rej then a
    else { a with rc := .nak, out := (if a.rc = .ack then [] else a.out) ++ j.bytes }
  | .rej => reject

/-- If the peer did not send its address and we want to negotiate it, a Nak proposes it. -/
def reqciAddr (rejectIfDisagree noremoteip : Bool) (a : ReqAcc) : ReqAcc :=
  if a.rc ≠ .rej ∧ !a.ho.negAddr ∧ !a.ho.oldAddrs ∧ a.wo.reqAddr ∧ !rejectIfDisagree ∧
      !noremoteip then
    { a with
      rc := .nak,
      wo := if a.rc = .ack then { a.wo with reqAddr := false } else a.wo,
      out := (if a.rc = .ack then [] else a.out) ++ addrOption CI_ADDR a.wo.hisaddr }
  else a

/-- `Reqci`: the whole request. -/
def reqciRun (wo ao : IpcpOptions) (rejectIfDisagree noremoteip : Bool) (inp : Bytes) (len : Nat) :
    ReqAcc :=
  reqciAddr rejectIfDisagree noremoteip
    ((options inp len).foldl (reqciStep ao rejectIfDisagree) { wo := wo })

end IpcpOptions

end OpenBras
