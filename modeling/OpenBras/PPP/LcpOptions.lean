/-
  File:      OpenBras/PPP/LcpOptions.lean
  Subject:   THE OPTIONS OF LCP (`CPPPLCP`, src/PPP/CPPPLCP.cpp): asking for them, and the
             peer's answers.

  `wo` are the options we want, `go` those of the current request, `ao` those the peer may ask
  for, `ho` those it got. The macros of the source become functions of the same names, each
  with the option, its condition and its value; a `goto bad` is `none`.

  The macro `CHAP_DIGEST` has no outer parentheses. Where it stands behind `!=` without any
  (`Nakci`), the comparison binds first; `chapDigestDiffers` is that expression.
-/
import OpenBras.PPP.Ci

namespace OpenBras

open Wire

def PPP_LCP : UInt16 := 0xc021
def PPP_PAP : UInt16 := 0xc023
def PPP_LQR : UInt16 := 0xc025
def PPP_CHAP : UInt16 := 0xc223
def PPP_EAP : UInt16 := 0xc227

def CI_MRU : UInt8 := 1
def CI_ASYNCMAP : UInt8 := 2
def CI_AUTHTYPE : UInt8 := 3
def CI_QUALITY : UInt8 := 4
def CI_MAGICNUMBER : UInt8 := 5
def CI_PCOMPRESSION : UInt8 := 7
def CI_ACCOMPRESSION : UInt8 := 8
def CI_CALLBACK : UInt8 := 13
def CI_MRRU : UInt8 := 17
def CI_SSNHF : UInt8 := 18
def CI_EPDISC : UInt8 := 19

def DEFMRU : UInt16 := 1500
def MINMRU : UInt16 := 128
def CBCP_OPT : UInt8 := 6

/-! ## 1. Digests -/

def CHAP_MD5 : UInt8 := 5
def CHAP_MICROSOFT : UInt8 := 0x80
def CHAP_MICROSOFT_V2 : UInt8 := 0x81

def MDTYPE_MICROSOFT_V2 : UInt8 := 1
def MDTYPE_MICROSOFT : UInt8 := 2
def MDTYPE_MD5 : UInt8 := 4
def MDTYPE_ALL : UInt8 := MDTYPE_MD5

/-- `CHAP_DIGEST`: the digest code of the preferred algorithm. -/
def chapDigest (mdtype : UInt8) : UInt8 :=
  if mdtype &&& MDTYPE_MD5 ≠ 0 then CHAP_MD5
  else if mdtype &&& MDTYPE_MICROSOFT_V2 ≠ 0 then CHAP_MICROSOFT_V2
  else if mdtype &&& MDTYPE_MICROSOFT ≠ 0 then CHAP_MICROSOFT
  else 0

/-- `cichar != CHAP_DIGEST(mdtype)` as it parses: the comparison is the first condition. -/
def chapDigestDiffers (cichar mdtype : UInt8) : Bool :=
  (if cichar ≠ mdtype &&& MDTYPE_MD5 then CHAP_MD5
   else if mdtype &&& MDTYPE_MICROSOFT_V2 ≠ 0 then CHAP_MICROSOFT_V2
   else if mdtype &&& MDTYPE_MICROSOFT ≠ 0 then CHAP_MICROSOFT
   else 0) != 0

/-- `CHAP_MDTYPE`: the lowest bit set. -/
def chapMdtype (mdtype : UInt8) : UInt8 := (mdtype ^^^ (mdtype - 1)) &&& mdtype

/-- `CHAP_MDTYPE_D`: the bit of a digest code. -/
def chapMdtypeD (digest : UInt8) : UInt8 :=
  if digest = CHAP_MICROSOFT_V2 then MDTYPE_MICROSOFT_V2
  else if digest = CHAP_MICROSOFT then MDTYPE_MICROSOFT
  else if digest = CHAP_MD5 then MDTYPE_MD5
  else 0

/-- `CHAP_CANDIGEST`: the algorithm is among those of `mdtype`. -/
def chapCandigest (mdtype digest : UInt8) : Bool :=
  mdtype &&& chapMdtypeD digest != 0

/-! ## 2. The option record -/

structure LcpOptions where
  passive : Bool := false
  silent : Bool := false
  negMru : Bool := false
  negAsyncmap : Bool := false
  negUpap : Bool := false
  negChap : Bool := false
  negEap : Bool := false
  negMagicnumber : Bool := false
  negPcompression : Bool := false
  negAccompression : Bool := false
  negLqr : Bool := false
  negCbcp : Bool := false
  negMrru : Bool := false
  negSsnhf : Bool := false
  negEndpoint : Bool := false
  mru : UInt16 := 0
  mrru : UInt16 := 0
  chapMdtype : UInt8 := 0
  asyncmap : UInt32 := 0
  magicnumber : UInt32 := 0
  numloops : Nat := 0
  lqrPeriod : UInt32 := 0
  deriving DecidableEq, Repr

namespace LcpOptions

/-- A magic number that was not agreed on counts as 0 (`Up`). -/
def settled (o : LcpOptions) : LcpOptions :=
  if o.negMagicnumber then o else { o with magicnumber := 0 }

/-- The options `Init` wants, for the configured authentication. -/
def want (authType : UInt16) : LcpOptions :=
  { negMru := true, mru := 1492, negMagicnumber := true,
    negUpap := authType == PPP_PAP, negChap := authType == PPP_CHAP,
    chapMdtype := if authType = PPP_CHAP then MDTYPE_ALL else 0 }

/-- The options `Init` allows the peer. -/
def allow (authType : UInt16) : LcpOptions :=
  { negMru := true, mru := 1492, negAsyncmap := true, negMagicnumber := true,
    negUpap := authType == PPP_PAP, negChap := authType == PPP_CHAP,
    chapMdtype := if authType = PPP_CHAP then MDTYPE_ALL else 0 }

/-- `MRU` is asked for where it is not the default. -/
def askMru (go : LcpOptions) : Bool := go.negMru && go.mru != DEFMRU

def askAsyncmap (go : LcpOptions) : Bool := go.negAsyncmap && go.asyncmap != 0xffffffff

/-! ## 3. Our request -/

def cilen (go : LcpOptions) : Nat :=
  let len (neg : Bool) (n : Nat) : Nat := if neg then n else 0
  len go.askMru CILEN_SHORT + len go.askAsyncmap CILEN_LONG + len go.negEap CILEN_SHORT +
    len (!go.negEap && go.negChap) CILEN_CHAP +
    len (!go.negEap && !go.negChap && go.negUpap) CILEN_SHORT +
    len go.negLqr CILEN_LQR + len go.negCbcp CILEN_CBCP + len go.negMagicnumber CILEN_LONG +
    len go.negPcompression CILEN_VOID + len go.negAccompression CILEN_VOID +
    len go.negMrru CILEN_SHORT + len go.negSsnhf CILEN_VOID

def addciVoid (opt : UInt8) (neg : Bool) : Bytes := if neg then [opt, 2] else []

def addciChar (opt : UInt8) (neg : Bool) (val : UInt8) : Bytes := if neg then [opt, 3, val] else []

def addciShort (opt : UInt8) (neg : Bool) (val : UInt16) : Bytes :=
  if neg then [opt, 4] ++ putShort val else []

def addciChap (opt : UInt8) (neg : Bool) (mdtype : UInt8) : Bytes :=
  if neg then [opt, 5] ++ putShort PPP_CHAP ++ [chapDigest mdtype] else []

def addciLong (opt : UInt8) (neg : Bool) (val : UInt32) : Bytes :=
  if neg then [opt, 6] ++ putLong val else []

def addciLqr (opt : UInt8) (neg : Bool) (val : UInt32) : Bytes :=
  if neg then [opt, 8] ++ putShort PPP_LQR ++ putLong val else []

/-- `Addci`: the options of the request, in the order they are sent. -/
def addci (go : LcpOptions) : Bytes :=
  addciShort CI_MRU go.askMru go.mru ++
  addciLong CI_ASYNCMAP go.askAsyncmap go.asyncmap ++
  addciShort CI_AUTHTYPE go.negEap PPP_EAP ++
  addciChap CI_AUTHTYPE (!go.negEap && go.negChap) go.chapMdtype ++
  addciShort CI_AUTHTYPE (!go.negEap && !go.negChap && go.negUpap) PPP_PAP ++
  addciLqr CI_QUALITY go.negLqr go.lqrPeriod ++
  addciChar CI_CALLBACK go.negCbcp CBCP_OPT ++
  addciLong CI_MAGICNUMBER go.negMagicnumber go.magicnumber ++
  addciVoid CI_PCOMPRESSION go.negPcompression ++
  addciVoid CI_ACCOMPRESSION go.negAccompression ++
  addciShort CI_MRRU go.negMrru go.mrru ++
  addciVoid CI_SSNHF go.negSsnhf

/-! ## 4. The peer's Ack -/

def ackciVoid (opt : UInt8) (neg : Bool) : Cursor → Option Cursor :=
  ackOption opt neg CILEN_VOID fun _ => true

def ackciChar (opt : UInt8) (neg : Bool) (val : UInt8) : Cursor → Option Cursor :=
  ackOption opt neg CILEN_CHAR fun p => byteAt p 2 == val

def ackciShort (opt : UInt8) (neg : Bool) (val : UInt16) : Cursor → Option Cursor :=
  ackOption opt neg CILEN_SHORT fun p => getShort p 2 == val

def ackciChap (opt : UInt8) (neg : Bool) (mdtype : UInt8) : Cursor → Option Cursor :=
  ackOption opt neg CILEN_CHAP fun p => getShort p 2 == PPP_CHAP && byteAt p 4 == chapDigest mdtype

def ackciLong (opt : UInt8) (neg : Bool) (val : UInt32) : Cursor → Option Cursor :=
  ackOption opt neg CILEN_LONG fun p => getLong p 2 == val

def ackciLqr (opt : UInt8) (neg : Bool) (val : UInt32) : Cursor → Option Cursor :=
  ackOption opt neg CILEN_LQR fun p => getShort p 2 == PPP_LQR && getLong p 4 == val

/-- `Ackci`: exactly the options of our request, in order, and nothing after them. -/
def ackci (go : LcpOptions) (p : Bytes) (len : Nat) : Bool :=
  let rest : Option Cursor := do
    let c ← ackciShort CI_MRU go.askMru go.mru { p := p, len := len }
    let c ← ackciLong CI_ASYNCMAP go.askAsyncmap go.asyncmap c
    let c ← ackciShort CI_AUTHTYPE go.negEap PPP_EAP c
    let c ← ackciChap CI_AUTHTYPE (!go.negEap && go.negChap) go.chapMdtype c
    let c ← ackciShort CI_AUTHTYPE (!go.negEap && !go.negChap && go.negUpap) PPP_PAP c
    let c ← ackciLqr CI_QUALITY go.negLqr go.lqrPeriod c
    let c ← ackciChar CI_CALLBACK go.negCbcp CBCP_OPT c
    let c ← ackciLong CI_MAGICNUMBER go.negMagicnumber go.magicnumber c
    let c ← ackciVoid CI_PCOMPRESSION go.negPcompression c
    let c ← ackciVoid CI_ACCOMPRESSION go.negAccompression c
    let c ← ackciShort CI_MRRU go.negMrru go.mrru c
    ackciVoid CI_SSNHF go.negSsnhf c
  match rest with
  | some c => c.len == 0
  | none => false

/-! ## 5. The peer's Nak -/

/-- The state of `Nakci` as it moves over the packet. -/
structure NakAcc where
  c : Cursor
  /-- the options seen in this Nak -/
  no : LcpOptions := {}
  /-- the options to ask for next -/
  tryop : LcpOptions
  loopedBack : Bool := false
  draws : Nat

/-- One option of a Nak: taken if it stands here; `code` sees the packet at the option. -/
def nakOption (neg : Bool) (opt : UInt8) (n : Nat) (code : Bytes → NakAcc → NakAcc)
    (a : NakAcc) : NakAcc :=
  if neg && a.c.at_ opt n then code a.c.p { a with c := a.c.skip n } else a

/-- The Nak of the authentication option: what the peer proposes instead. -/
def nakAuth (go : LcpOptions) (a : NakAcc) : Option NakAcc :=
  let p := a.c.p
  let cilen := (byteAt p 1).toNat
  if (go.negChap || go.negUpap || go.negEap) && decide (CILEN_SHORT ≤ a.c.len) &&
      byteAt p 0 == CI_AUTHTYPE && decide (CILEN_SHORT ≤ cilen) && decide (cilen ≤ a.c.len) then
    let seen := { a.no with negChap := go.negChap, negUpap := go.negUpap, negEap := go.negEap }
    let rest := { a with c := a.c.skip cilen, no := seen }
    let cishort := getShort p 2
    if cishort = PPP_PAP ∧ cilen = CILEN_SHORT then
      if go.negEap then some { rest with tryop := { a.tryop with negEap := false } }
      else if go.negChap then some { rest with tryop := { a.tryop with negChap := false } }
      else none
    else if cishort = PPP_CHAP ∧ cilen = CILEN_CHAP then
      let cichar := byteAt p 4
      if go.negEap then
        let t := { a.tryop with negEap := false }
        some { rest with
          tryop :=
            if chapCandigest go.chapMdtype cichar then { t with chapMdtype := chapMdtypeD cichar }
            else t }
      else if go.negChap then
        if chapDigestDiffers cichar go.chapMdtype then
          if chapCandigest go.chapMdtype cichar then
            some { rest with tryop := { a.tryop with chapMdtype := chapMdtypeD cichar } }
          else
            let m := a.tryop.chapMdtype &&& ~~~(OpenBras.chapMdtype a.tryop.chapMdtype)
            some { rest with
              tryop := { a.tryop with
                chapMdtype := m, negChap := if m = 0 then false else a.tryop.negChap } }
        else none
      else some { rest with tryop := { a.tryop with negUpap := false } }
    else
      some { rest with
        tryop :=
          if go.negEap then { a.tryop with negEap := false }
          else if go.negChap then { a.tryop with negChap := false }
          else { a.tryop with negUpap := false } }
  else some a

/-- The options of a Nak that were not in our request: `none` where the packet is bad. -/
def nakExtra (go no : LcpOptions) (citype : UInt8) (cilen : Nat) (p : Bytes) (tryop : LcpOptions) :
    Option LcpOptions :=
  let keep (bad : Bool) : Option LcpOptions := if bad then none else some tryop
  if citype = CI_MRU then
    if go.askMru || no.negMru || cilen != CILEN_SHORT then none
    else if getShort p 2 < DEFMRU then some { tryop with negMru := true, mru := getShort p 2 }
    else some tryop
  else if citype = CI_ASYNCMAP then keep (go.askAsyncmap || no.negAsyncmap || cilen != CILEN_LONG)
  else if citype = CI_AUTHTYPE then
    keep (go.negChap || no.negChap || go.negUpap || no.negUpap || go.negEap || no.negEap)
  else if citype = CI_MAGICNUMBER then
    keep (go.negMagicnumber || no.negMagicnumber || cilen != CILEN_LONG)
  else if citype = CI_PCOMPRESSION then
    keep (go.negPcompression || no.negPcompression || cilen != CILEN_VOID)
  else if citype = CI_ACCOMPRESSION then
    keep (go.negAccompression || no.negAccompression || cilen != CILEN_VOID)
  else if citype = CI_QUALITY then keep (go.negLqr || no.negLqr || cilen != CILEN_LQR)
  else if citype = CI_MRRU then keep (go.negMrru || no.negMrru || cilen != CILEN_SHORT)
  else if citype = CI_SSNHF then
    if go.negSsnhf || no.negSsnhf || cilen != CILEN_VOID then none
    else some { tryop with negSsnhf := true }
  else if citype = CI_EPDISC then
    keep (go.negEndpoint || no.negEndpoint || decide (cilen < CILEN_CHAR))
  else some tryop

/-- The loop over the options left in a Nak. -/
def nakRest (go no : LcpOptions) : Nat → Cursor → LcpOptions → Option LcpOptions
  | 0, _, tryop => some tryop
  | fuel + 1, c, tryop =>
    if c.len < CILEN_VOID then some tryop
    else
      let cilen := (byteAt c.p 1).toNat
      if cilen < CILEN_VOID ∨ c.len < cilen then none
      else do
        let tryop ← nakExtra go no (byteAt c.p 0) cilen c.p tryop
        nakRest go no fuel (c.skip cilen) tryop

/-- The endpoint discriminator of a Nak has no fixed length. -/
def nakEndpoint (go : LcpOptions) (a : NakAcc) : NakAcc :=
  if go.negEndpoint && decide (CILEN_CHAR ≤ a.c.len) && byteAt a.c.p 0 == CI_EPDISC &&
      decide (CILEN_CHAR ≤ (byteAt a.c.p 1).toNat) &&
      decide ((byteAt a.c.p 1).toNat ≤ a.c.len) then
    { a with
      c := a.c.skip (byteAt a.c.p 1).toNat, no := { a.no with negEndpoint := true },
      tryop := { a.tryop with negEndpoint := false } }
  else a

/-- `Nakci` up to the point where the state is updated: the options to try, whether the Nak
    shows a looped-back line, and the numbers drawn; `none` for a bad Nak. -/
def nakScan (go wo : LcpOptions) (rand : Nat → UInt32) (draws : Nat) (p : Bytes) (len : Nat)
    (treatAsReject : Bool) : Option (LcpOptions × Bool) × Nat :=
  let a : NakAcc := { c := { p := p, len := len }, tryop := go, draws := draws }
  let a := nakOption go.askMru CI_MRU CILEN_SHORT (fun p a =>
    { a with
      no := { a.no with negMru := true },
      tryop :=
        if getShort p 2 ≤ wo.mru || getShort p 2 ≤ DEFMRU then { a.tryop with mru := getShort p 2 }
        else a.tryop }) a
  let a := nakOption go.askAsyncmap CI_ASYNCMAP CILEN_LONG (fun p a =>
    { a with
      no := { a.no with negAsyncmap := true },
      tryop := { a.tryop with asyncmap := go.asyncmap ||| getLong p 2 } }) a
  match nakAuth go a with
  | none => (none, draws)
  | some a =>
    let a := nakOption go.negLqr CI_QUALITY CILEN_LQR (fun p a =>
      { a with
        no := { a.no with negLqr := true },
        tryop :=
          if getShort p 2 ≠ PPP_LQR then { a.tryop with negLqr := false }
          else { a.tryop with lqrPeriod := getLong p 4 } }) a
    let a := nakOption go.negCbcp CI_CALLBACK CILEN_CHAR (fun _ a =>
      { a with
        no := { a.no with negCbcp := true }, tryop := { a.tryop with negCbcp := false } }) a
    let a := nakOption go.negMagicnumber CI_MAGICNUMBER CILEN_LONG (fun _ a =>
      { a with
        no := { a.no with negMagicnumber := true },
        tryop := { a.tryop with magicnumber := rand a.draws },
        draws := a.draws + 1, loopedBack := true }) a
    let a := nakOption go.negPcompression CI_PCOMPRESSION CILEN_VOID (fun _ a =>
      { a with
        no := { a.no with negPcompression := true },
        tryop := { a.tryop with negPcompression := false } }) a
    let a := nakOption go.negAccompression CI_ACCOMPRESSION CILEN_VOID (fun _ a =>
      { a with
        no := { a.no with negAccompression := true },
        tryop := { a.tryop with negAccompression := false } }) a
    let a := nakOption go.negMrru CI_MRRU CILEN_SHORT (fun p a =>
      { a with
        no := { a.no with negMrru := true },
        tryop :=
          if treatAsReject then { a.tryop with negMrru := false }
          else if getShort p 2 ≤ wo.mrru then { a.tryop with mrru := getShort p 2 }
          else a.tryop }) a
    let a := nakOption go.negSsnhf CI_SSNHF CILEN_VOID (fun _ a =>
      { a with
        no := { a.no with negSsnhf := true }, tryop := { a.tryop with negSsnhf := false } }) a
    let a := nakEndpoint go a
    ((nakRest go a.no a.c.len a.c a.tryop).map fun t => (t, a.loopedBack), a.draws)

/-! ## 6. The peer's Reject -/

def rejciVoid (opt : UInt8) (neg : Bool) :
    (LcpOptions → LcpOptions) → Cursor × LcpOptions → Option (Cursor × LcpOptions) :=
  rejOption neg opt CILEN_VOID fun _ => true

def rejciShort (opt : UInt8) (neg : Bool) (val : UInt16) :
    (LcpOptions → LcpOptions) → Cursor × LcpOptions → Option (Cursor × LcpOptions) :=
  rejOption neg opt CILEN_SHORT fun p => getShort p 2 == val

def rejciChap (opt : UInt8) (neg : Bool) (mdtype : UInt8) :
    (LcpOptions → LcpOptions) → Cursor × LcpOptions → Option (Cursor × LcpOptions) :=
  rejOption neg opt CILEN_CHAP fun p => getShort p 2 == PPP_CHAP && byteAt p 4 == chapDigest mdtype

def rejciLong (opt : UInt8) (neg : Bool) (val : UInt32) :
    (LcpOptions → LcpOptions) → Cursor × LcpOptions → Option (Cursor × LcpOptions) :=
  rejOption neg opt CILEN_LONG fun p => getLong p 2 == val

def rejciLqr (opt : UInt8) (neg : Bool) (val : UInt32) :
    (LcpOptions → LcpOptions) → Cursor × LcpOptions → Option (Cursor × LcpOptions) :=
  rejOption neg opt CILEN_LQR fun p => getShort p 2 == PPP_LQR && getLong p 4 == val

def rejciCbcp (opt : UInt8) (neg : Bool) (val : UInt8) :
    (LcpOptions → LcpOptions) → Cursor × LcpOptions → Option (Cursor × LcpOptions) :=
  rejOption neg opt CILEN_CBCP fun p => byteAt p 2 == val

/-- `Rejci` up to the point where the state is updated: the options to try, `none` for a bad
    Reject. -/
def rejScan (go : LcpOptions) (p : Bytes) (len : Nat) : Option LcpOptions := do
  let s : Cursor × LcpOptions := ({ p := p, len := len }, go)
  let s ← rejciShort CI_MRU go.negMru go.mru (fun t => { t with negMru := false }) s
  let s ← rejciLong CI_ASYNCMAP go.negAsyncmap go.asyncmap (fun t => { t with negAsyncmap := false }) s
  let s ← rejciShort CI_AUTHTYPE go.negEap PPP_EAP (fun t => { t with negEap := false }) s
  let s ← rejciChap CI_AUTHTYPE (!go.negEap && go.negChap) go.chapMdtype (fun t =>
    { t with negChap := false, negEap := false, negUpap := false }) s
  let s ← rejciShort CI_AUTHTYPE (!go.negEap && !go.negChap && go.negUpap) PPP_PAP
    (fun t => { t with negUpap := false }) s
  let s ← rejciLqr CI_QUALITY go.negLqr go.lqrPeriod (fun t => { t with negLqr := false }) s
  let s ← rejciCbcp CI_CALLBACK go.negCbcp CBCP_OPT (fun t => { t with negCbcp := false }) s
  let s ← rejciLong CI_MAGICNUMBER go.negMagicnumber go.magicnumber
    (fun t => { t with negMagicnumber := false }) s
  let s ← rejciVoid CI_PCOMPRESSION go.negPcompression (fun t => { t with negPcompression := false }) s
  let s ← rejciVoid CI_ACCOMPRESSION go.negAccompression
    (fun t => { t with negAccompression := false }) s
  let s ← rejciShort CI_MRRU go.negMrru go.mrru (fun t => { t with negMrru := false }) s
  let s ← rejciVoid CI_SSNHF go.negSsnhf (fun t => { t with negSsnhf := false }) s
  if s.1.len = 0 then some s.2 else none

end LcpOptions

end OpenBras
