/-
  File:      OpenBras/PPP/LcpRequest.lean
  Subject:   THE PEER'S CONFIGURE-REQUEST (`CPPPLCP::Reqci`, src/PPP/CPPPLCP.cpp) and the room
             its answer takes.

  `Reqci` walks the options once. For each it decides Ack, Nak or Reject (`judge`), writes a
  counter-proposal into `nak_buffer` when it Naks -- also where the final answer will be a
  Reject -- and collects the rejected options at the front of the packet. `nak_buffer` has
  `PPP_MRU` bytes and no check; the model lets it grow and says how far it grew.

  **The bound.** A Nak entry is longer than the option it answers when a CHAP server answers a
  four-byte authentication option with its five-byte proposal. `reqciRun_counts` gives the
  number of bytes written as a sum over the options of the request, and
  `reqci_nak_fits_iff` says exactly which requests keep the buffer and the answer in bounds.
-/
import OpenBras.PPP.LcpOptions

namespace OpenBras

open Wire

namespace LcpOptions

/-! ## 1. One option -/

/-- The counter-proposals `Reqci` writes into `nak_buffer`. -/
def nakMru : Bytes := addciShort CI_MRU true MINMRU

def nakAsyncmap (ao : LcpOptions) (cilong : UInt32) : Bytes :=
  addciLong CI_ASYNCMAP true (ao.asyncmap ||| cilong)

def nakChap (ao : LcpOptions) : Bytes := addciChap CI_AUTHTYPE true ao.chapMdtype

def nakPap : Bytes := addciShort CI_AUTHTYPE true PPP_PAP

def nakEap : Bytes := addciShort CI_AUTHTYPE true PPP_EAP

def nakLqr (ao : LcpOptions) : Bytes := addciLqr CI_QUALITY true ao.lqrPeriod

def nakMagic (magic : UInt32) : Bytes := addciLong CI_MAGICNUMBER true magic

/-- What the `switch` does with one option: the verdict, his options, the bytes written into
    `nak_buffer` and the numbers drawn. -/
structure Judgement where
  orc : Conf
  ho : LcpOptions
  nak : Bytes := []
  draws : Nat

/-- The authentication option of the request. -/
def judgeAuth (ao ho : LcpOptions) (draws : Nat) (ci : Ci) : Judgement :=
  let refuse : Judgement := { orc := .rej, ho := ho, draws := draws }
  let suggest (b : Bytes) : Judgement := { orc := .nak, ho := ho, nak := b, draws := draws }
  if ci.cilen < CILEN_SHORT ∨ !(ao.negUpap || ao.negChap || ao.negEap) then refuse
  else if ci.short = PPP_PAP then
    if ho.negChap || ho.negEap || ci.cilen != CILEN_SHORT then refuse
    else if !ao.negUpap then suggest (if ao.negEap then nakEap else nakChap ao)
    else { orc := .ack, ho := { ho with negUpap := true }, draws := draws }
  else if ci.short = PPP_CHAP then
    if ho.negUpap || ho.negEap || ci.cilen != CILEN_CHAP then refuse
    else if !ao.negChap then suggest (if ao.negEap then nakEap else nakPap)
    else if !chapCandigest ao.chapMdtype (byteAt ci.cip 4) then suggest (nakChap ao)
    else
      { orc := .ack,
        ho := { ho with chapMdtype := chapMdtypeD (byteAt ci.cip 4), negChap := true },
        draws := draws }
  else if ci.short = PPP_EAP then
    if ho.negChap || ho.negUpap || ci.cilen != CILEN_SHORT then refuse
    else if !ao.negEap then suggest (if ao.negChap then nakChap ao else nakPap)
    else { orc := .ack, ho := { ho with negEap := true }, draws := draws }
  else suggest (if ao.negEap then nakEap else if ao.negChap then nakChap ao else nakPap)

/-- The `switch` on the option's type. -/
def judge (ao go : LcpOptions) (rand : Nat → UInt32) (ho : LcpOptions) (draws : Nat) (ci : Ci) :
    Judgement :=
  let refuse : Judgement := { orc := .rej, ho := ho, draws := draws }
  let accept (ho : LcpOptions) : Judgement := { orc := .ack, ho := ho, draws := draws }
  if !ci.sound then refuse
  else if ci.citype = CI_MRU then
    if !ao.negMru || ci.cilen != CILEN_SHORT then refuse
    else if ci.short < MINMRU then { orc := .nak, ho := ho, nak := nakMru, draws := draws }
    else accept { ho with negMru := true, mru := ci.short }
  else if ci.citype = CI_ASYNCMAP then
    if !ao.negAsyncmap || ci.cilen != CILEN_LONG then refuse
    else if ao.asyncmap &&& ~~~ci.long ≠ 0 then
      { orc := .nak, ho := ho, nak := nakAsyncmap ao ci.long, draws := draws }
    else accept { ho with negAsyncmap := true, asyncmap := ci.long }
  else if ci.citype = CI_AUTHTYPE then judgeAuth ao ho draws ci
  else if ci.citype = CI_QUALITY then
    if !ao.negLqr || ci.cilen != CILEN_LQR then refuse
    else if ci.short ≠ PPP_LQR then { orc := .nak, ho := ho, nak := nakLqr ao, draws := draws }
    else accept ho
  else if ci.citype = CI_MAGICNUMBER then
    if !(ao.negMagicnumber || go.negMagicnumber) || ci.cilen != CILEN_LONG then refuse
    else if go.negMagicnumber && ci.long == go.magicnumber then
      { orc := .nak, ho := ho, nak := nakMagic (rand draws), draws := draws + 1 }
    else accept { ho with negMagicnumber := true, magicnumber := ci.long }
  else if ci.citype = CI_PCOMPRESSION then
    if !ao.negPcompression || ci.cilen != CILEN_VOID then refuse
    else accept { ho with negPcompression := true }
  else if ci.citype = CI_ACCOMPRESSION then
    if !ao.negAccompression || ci.cilen != CILEN_VOID then refuse
    else accept { ho with negAccompression := true }
  else refuse

/-! ## 2. The loop -/

/-- The state of the loop: the answer so far, `nak_buffer` and the rejected options. -/
structure ReqAcc where
  rc : Conf := .ack
  ho : LcpOptions := {}
  nak : Bytes := []
  rej : Bytes := []
  draws : Nat

/-- One turn of the loop. -/
def reqciStep (ao go : LcpOptions) (rand : Nat → UInt32) (rejectIfDisagree : Bool) (a : ReqAcc)
    (ci : Ci) : ReqAcc :=
  let j := judge ao go rand a.ho a.draws ci
  let a := { a with ho := j.ho, nak := a.nak ++ j.nak, draws := j.draws }
  let reject : ReqAcc := { a with rc := .rej, rej := a.rej ++ ci.bytes }
  match j.orc with
  | .ack => a
  | .nak =>
    if rejectIfDisagree && ci.citype != CI_MAGICNUMBER then reject
    else if a.rc = .rej then a
    else { a with rc := .nak }
  | .rej => reject

/-- `Reqci`: the whole request. -/
def reqciRun (ao go : LcpOptions) (rand : Nat → UInt32) (rejectIfDisagree : Bool) (draws : Nat)
    (inp : Bytes) (len : Nat) : ReqAcc :=
  (options inp len).foldl (reqciStep ao go rand rejectIfDisagree) { draws := draws }

/-- The answer's options: all of them, the counter-proposals, or the rejected ones. -/
def reqciOut (a : ReqAcc) (inp : Bytes) (len : Nat) : Bytes :=
  match a.rc with
  | .ack => inp.take len
  | .nak => a.nak
  | .rej => a.rej

/-! ## 3. What a request asks of the buffer

With the options `Init` allows, the answer to an option depends on the configured
authentication, our own magic number and whether an authentication option was granted before. -/

/-- How an option is answered. -/
inductive Reply where
  | accept
  /-- our own authentication protocol is granted -/
  | grant
  /-- a counter-proposal of so many bytes -/
  | propose (n : Nat)
  | refuse
  deriving DecidableEq, Repr

/-- The length of the authentication option we propose. -/
def proposalLen (authType : UInt16) : Nat :=
  if authType = PPP_CHAP then CILEN_CHAP else CILEN_SHORT

/-- The length an authentication option of a known protocol must have. -/
def authLen (protocol : UInt16) : Nat := if protocol = PPP_CHAP then CILEN_CHAP else CILEN_SHORT

def replyAuth (authType : UInt16) (granted : Bool) (ci : Ci) : Reply :=
  if ci.cilen < CILEN_SHORT ∨ (authType ≠ PPP_PAP ∧ authType ≠ PPP_CHAP) then .refuse
  else if ci.short = PPP_PAP ∨ ci.short = PPP_CHAP ∨ ci.short = PPP_EAP then
    if ci.cilen ≠ authLen ci.short then .refuse
    else if ci.short ≠ authType then
      if granted then .refuse else .propose (proposalLen authType)
    else if authType = PPP_CHAP ∧ byteAt ci.cip 4 ≠ CHAP_MD5 then .propose (proposalLen authType)
    else .grant
  else .propose (proposalLen authType)

def reply (authType : UInt16) (go : LcpOptions) (granted : Bool) (ci : Ci) : Reply :=
  if !ci.sound then .refuse
  else if ci.citype = CI_MRU then
    if ci.cilen ≠ CILEN_SHORT then .refuse
    else if ci.short < MINMRU then .propose CILEN_SHORT else .accept
  else if ci.citype = CI_ASYNCMAP then if ci.cilen ≠ CILEN_LONG then .refuse else .accept
  else if ci.citype = CI_AUTHTYPE then replyAuth authType granted ci
  else if ci.citype = CI_MAGICNUMBER then
    if ci.cilen ≠ CILEN_LONG then .refuse
    else if go.negMagicnumber && ci.long == go.magicnumber then .propose CILEN_LONG else .accept
  else .refuse

/-- The counter-proposals a request calls for, in bytes, and whether an option is refused. -/
structure Tally where
  nakBytes : Nat := 0
  refused : Bool := false
  granted : Bool := false
  deriving DecidableEq, Repr

def Tally.add (authType : UInt16) (go : LcpOptions) (rejectIfDisagree : Bool) (t : Tally) (ci : Ci) :
    Tally :=
  match reply authType go t.granted ci with
  | .accept => t
  | .grant => { t with granted := true }
  | .propose n =>
    { t with
      nakBytes := t.nakBytes + n,
      refused := t.refused || (rejectIfDisagree && ci.citype != CI_MAGICNUMBER) }
  | .refuse => { t with refused := true }

def tally (authType : UInt16) (go : LcpOptions) (rejectIfDisagree : Bool) (l : List Ci) : Tally :=
  l.foldl (Tally.add authType go rejectIfDisagree) {}

/-- His authentication options are granted exactly for the configured protocol. -/
structure Granted (authType : UInt16) (ho : LcpOptions) (granted : Bool) : Prop where
  eap : ho.negEap = false
  upap : ho.negUpap = (granted && authType == PPP_PAP)
  chap : ho.negChap = (granted && authType == PPP_CHAP)

/-- The judgement is the reply. -/
def Judgement.Answers (authType : UInt16) (ho : LcpOptions) (granted : Bool) (j : Judgement) :
    Reply → Prop
  | .accept => j.orc = .ack ∧ j.nak = [] ∧ Granted authType j.ho granted
  | .grant => j.orc = .ack ∧ j.nak = [] ∧ Granted authType j.ho true
  | .propose n => j.orc = .nak ∧ j.nak.length = n ∧ 0 < n ∧ j.ho = ho
  | .refuse => j.orc = .rej ∧ j.nak = [] ∧ j.ho = ho

theorem chapCandigest_all (c : UInt8) : chapCandigest MDTYPE_ALL c = (c == CHAP_MD5) := by
  unfold chapCandigest chapMdtypeD
  by_cases h2 : c = CHAP_MICROSOFT_V2
  · subst h2
    rfl
  by_cases h1 : c = CHAP_MICROSOFT
  · subst h1
    rfl
  by_cases h5 : c = CHAP_MD5
  · subst h5
    rfl
  rw [if_neg h2, if_neg h1, if_neg h5]
  simpa using h5

@[simp] theorem length_nakChap (ao : LcpOptions) : (nakChap ao).length = CILEN_CHAP := rfl

@[simp] theorem length_nakPap : nakPap.length = CILEN_SHORT := rfl

@[simp] theorem length_nakMru : nakMru.length = CILEN_SHORT := rfl

@[simp] theorem length_nakMagic (m : UInt32) : (nakMagic m).length = CILEN_LONG := rfl

theorem judgeAuth_answers {authType : UInt16} {ho : LcpOptions} {granted : Bool}
    (hg : Granted authType ho granted) (draws : Nat) (ci : Ci) :
    (judgeAuth (allow authType) ho draws ci).Answers authType ho granted
      (replyAuth authType granted ci) := by
  obtain ⟨heap, hupap, hchap⟩ := hg
  have hpc : PPP_PAP ≠ PPP_CHAP := by decide
  have h4 : 0 < CILEN_SHORT := by decide
  have h5 : 0 < CILEN_CHAP := by decide
  unfold judgeAuth replyAuth authLen proposalLen
  by_cases hpap : authType = PPP_PAP
  · subst hpap
    have ha : (allow PPP_PAP).negUpap = true ∧ (allow PPP_PAP).negChap = false ∧
        (allow PPP_PAP).negEap = false := ⟨rfl, rfl, rfl⟩
    grind [Judgement.Answers, length_nakPap, length_nakChap, Granted]
  · by_cases hch : authType = PPP_CHAP
    · subst hch
      have ha : (allow PPP_CHAP).negUpap = false ∧ (allow PPP_CHAP).negChap = true ∧
        (allow PPP_CHAP).negEap = false ∧ (allow PPP_CHAP).chapMdtype = MDTYPE_ALL :=
        ⟨rfl, rfl, rfl, rfl⟩
      have hd := chapCandigest_all
      grind [Judgement.Answers, length_nakPap, length_nakChap, Granted]
    · have ha : (allow authType).negUpap = false ∧ (allow authType).negChap = false ∧
        (allow authType).negEap = false := ⟨by simp [allow, hpap], by simp [allow, hch], rfl⟩
      grind [Judgement.Answers, Granted]

/-- **The judgement on an option is its reply**, for the options `Init` allows. -/
theorem judge_answers {authType : UInt16} {go ho : LcpOptions} {granted : Bool}
    (hg : Granted authType ho granted) (rand : Nat → UInt32) (draws : Nat) (ci : Ci) :
    (judge (allow authType) go rand ho draws ci).Answers authType ho granted
      (reply authType go granted ci) := by
  have hauth := judgeAuth_answers hg draws ci
  have ha : (allow authType).negMru = true ∧ (allow authType).negAsyncmap = true ∧
      (allow authType).asyncmap = 0 ∧ (allow authType).negLqr = false ∧
      (allow authType).negMagicnumber = true ∧ (allow authType).negPcompression = false ∧
      (allow authType).negAccompression = false := ⟨rfl, rfl, rfl, rfl, rfl, rfl, rfl⟩
  have hzero : ∀ x : UInt32, 0 &&& ~~~x = 0 := fun x => UInt32.zero_and
  obtain ⟨hmru, hasync, hmap, hlqr, hmagic, hpc, hac⟩ := ha
  have h4 : 0 < CILEN_SHORT := by decide
  have h6 : 0 < CILEN_LONG := by decide
  have hqm : CI_QUALITY ≠ CI_MAGICNUMBER := by decide
  have keep : ∀ ho' : LcpOptions, ho'.negEap = ho.negEap → ho'.negUpap = ho.negUpap →
      ho'.negChap = ho.negChap → Granted authType ho' granted := by
    intro ho' h1 h2 h3
    exact ⟨h1.trans hg.eap, h2.trans hg.upap, h3.trans hg.chap⟩
  unfold judge reply
  grind [Judgement.Answers, length_nakMru, length_nakMagic]

/-- The loop's state against the tally of the options read so far. -/
structure Counts (authType : UInt16) (a : ReqAcc) (t : Tally) : Prop where
  granted : Granted authType a.ho t.granted
  nak : a.nak.length = t.nakBytes
  rej : a.rc = .rej ↔ t.refused = true
  ack : a.rc = .ack → t.nakBytes = 0

theorem reqciStep_counts {authType : UInt16} {go : LcpOptions} {rand : Nat → UInt32}
    {rejectIfDisagree : Bool} {a : ReqAcc} {t : Tally} (h : Counts authType a t) (ci : Ci) :
    Counts authType (reqciStep (allow authType) go rand rejectIfDisagree a ci)
      (t.add authType go rejectIfDisagree ci) := by
  have hj : (judge (allow authType) go rand a.ho a.draws ci).Answers authType a.ho t.granted
      (reply authType go t.granted ci) := judge_answers h.granted rand a.draws ci
  obtain ⟨hg, hn, hr, hack⟩ := h
  unfold reqciStep Tally.add
  cases hrep : reply authType go t.granted ci <;> rw [hrep] at hj <;>
    obtain ⟨horc, hnak, hho⟩ := hj <;> simp only [horc]
  case accept => exact ⟨hho, by simp [hnak, hn], hr, hack⟩
  case grant => exact ⟨hho, by simp [hnak, hn], hr, hack⟩
  case refuse => exact ⟨by rw [hho]; exact hg, by simp [hnak, hn], by simp, by simp⟩
  case propose n =>
    have hg' := hho.2 ▸ hg
    split
    · rename_i hrid
      exact ⟨hg', by simp [hnak, hn], by simp [hrid], by simp⟩
    rename_i hrid
    have hrid' : (rejectIfDisagree && ci.citype != CI_MAGICNUMBER) = false := by
      simpa using hrid
    split
    · rename_i hrej
      exact ⟨hg', by simp [hnak, hn], by simp [hrid', hrej, hr.mp hrej],
        fun e => by simp [hrej] at e⟩
    · rename_i hrej
      have hnr : t.refused = false := by simpa [hr] using hrej
      exact ⟨hg', by simp [hnak, hn], by simp [hrid', hnr], by simp⟩

/-- The bytes written into `nak_buffer` are the tally's, and the request is rejected exactly
    if an option is refused. -/
theorem reqciRun_counts (authType : UInt16) (go : LcpOptions) (rand : Nat → UInt32)
    (rejectIfDisagree : Bool) (draws : Nat) (inp : Bytes) (len : Nat) :
    Counts authType (reqciRun (allow authType) go rand rejectIfDisagree draws inp len)
      (tally authType go rejectIfDisagree (options inp len)) := by
  have hloop : ∀ (l : List Ci) (a : ReqAcc) (t : Tally), Counts authType a t →
      Counts authType (l.foldl (reqciStep (allow authType) go rand rejectIfDisagree) a)
        (l.foldl (Tally.add authType go rejectIfDisagree) t) := by
    intro l
    induction l with
    | nil => exact fun a t h => h
    | cons ci l ih => exact fun a t h => ih _ _ (reqciStep_counts h ci)
  exact hloop _ _ _ ⟨⟨rfl, rfl, rfl⟩, rfl, by simp, fun _ => rfl⟩

/-- **Which requests keep `nak_buffer` and the Nak in bounds**: those whose counter-proposals
    take at most `PPP_MRU` bytes, and at most `PPP_MRU - HEADERLEN` unless an option is
    refused. -/
theorem reqci_nak_fits_iff (authType : UInt16) (go : LcpOptions) (rand : Nat → UInt32)
    (rejectIfDisagree : Bool) (draws : Nat) (inp : Bytes) (len : Nat) :
    ((reqciRun (allow authType) go rand rejectIfDisagree draws inp len).nak.length ≤ PPP_MRU ∧
      ((reqciRun (allow authType) go rand rejectIfDisagree draws inp len).rc = .nak →
        (reqciOut (reqciRun (allow authType) go rand rejectIfDisagree draws inp len)
          inp len).length ≤ PPP_MRU - HEADERLEN)) ↔
    ((tally authType go rejectIfDisagree (options inp len)).nakBytes ≤ PPP_MRU ∧
      ((tally authType go rejectIfDisagree (options inp len)).refused = true ∨
        (tally authType go rejectIfDisagree (options inp len)).nakBytes ≤ PPP_MRU - HEADERLEN)) := by
  obtain ⟨-, hn, hr, hack⟩ := reqciRun_counts authType go rand rejectIfDisagree draws inp len
  generalize reqciRun (allow authType) go rand rejectIfDisagree draws inp len = a at hn hr hack ⊢
  generalize tally authType go rejectIfDisagree (options inp len) = t at hn hr hack ⊢
  rw [hn]
  refine and_congr_right fun _ => ?_
  unfold reqciOut
  cases hrc : a.rc with
  | ack => simp [hack hrc]
  | nak =>
    have hnr : t.refused = false := by
      rw [← Bool.not_eq_true, ← hr, hrc]
      simp
    simp [hnr, hn]
  | rej => simp [hr.mp hrc]

/-- A request that proposes PAP `n` times. -/
def papRequest (n : Nat) : Bytes := (List.replicate n [CI_AUTHTYPE, 4, 0xc0, 0x23]).flatten

/-- **A request of 301 PAP options, 1204 bytes, makes a CHAP server write 1505 bytes into the
    1500 of `nak_buffer`**; the Nak it returns does not fit a packet either. -/
theorem chap_nak_overflows :
    (papRequest 301).length = 1204 ∧
      PPP_MRU < (reqciRun (allow PPP_CHAP) (want PPP_CHAP) (fun _ => 1) false 0
        (papRequest 301) 1204).nak.length ∧
      (reqciRun (allow PPP_CHAP) (want PPP_CHAP) (fun _ => 1) false 0 (papRequest 301) 1204).rc =
        .nak ∧
      PPP_MRU - HEADERLEN < (reqciOut (reqciRun (allow PPP_CHAP) (want PPP_CHAP) (fun _ => 1) false 0
        (papRequest 301) 1204) (papRequest 301) 1204).length := by
  obtain ⟨-, hn, hr, hack⟩ :=
    reqciRun_counts PPP_CHAP (want PPP_CHAP) (fun _ => 1) false 0 (papRequest 301) 1204
  have ht : tally PPP_CHAP (want PPP_CHAP) false (options (papRequest 301) 1204) =
      { nakBytes := 1505 } := by
    decide +kernel
  rw [ht] at hn hr hack
  generalize reqciRun (allow PPP_CHAP) (want PPP_CHAP) (fun _ => 1) false 0 (papRequest 301) 1204
    = a at hn hr hack ⊢
  have hrc : a.rc = .nak := by
    cases h : a.rc with
    | ack => exact absurd (hack h) (by decide)
    | nak => rfl
    | rej => exact absurd (hr.mp h) (by decide)
  refine ⟨by decide +kernel, by rw [hn]; decide, hrc, ?_⟩
  unfold reqciOut
  rw [hrc, hn]
  decide

end LcpOptions

end OpenBras
