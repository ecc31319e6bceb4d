/-
  File:      OpenBras/PPP/Padding.lean
  Subject:   BYTES BEHIND A PACKET: a frame for LCP, IPCP, PAP or CHAP is processed as if it ended
             where its own length field says (`CPPP::Input`, src/PPP/CPPP.cpp).

  The code hands every reader a pointer into the receive buffer and a length. The models of the
  readers get the whole rest of the buffer; `Wire.Within n f` says that `f` gives the same on a
  buffer cut behind the first `n` bytes. The readers come in the three shapes of `Ci.lean`:

  * a cursor that moves over an answer to our request: what an Ack or a Reject comes to is told by
    its bytes alone (OpenBras/PPP/Requests.lean); each option of a Nak commutes with the cut
    (`Cursor.trim`), so the whole chain does;
  * the options of the peer's request, one by one (`Ci.trim`): each is judged by its own bytes;
  * the rest of a Nak, where the length of an option is read before its value is.

  `IFsmSink.Local` collects this for the callbacks of an automaton; `CPPPFsm.input_take` then
  holds for both owners. `input_same_of_agree` puts it together for frames.
-/
import OpenBras.PPP.IpcpRules
import OpenBras.PPP.Requests

namespace OpenBras

open Wire

/-! ## 1. A position in a packet -/

namespace Cursor

/-- The cursor with the buffer cut behind the packet. -/
def trim (c : Cursor) : Cursor := { c with p := c.p.take c.len }

@[simp] theorem len_trim (c : Cursor) : c.trim.len = c.len := rfl

theorem skip_trim (n : Nat) (c : Cursor) : c.trim.skip n = (c.skip n).trim := by
  simp [trim, skip, List.drop_take]

theorem at_trim {n : Nat} (hn : 2 ≤ n) (opt : UInt8) (c : Cursor) :
    c.trim.at_ opt n = c.at_ opt n := by
  unfold at_
  by_cases hl : n ≤ c.len
  · show (decide (n ≤ c.len) && (byteAt (c.p.take c.len) 1).toNat == n &&
      byteAt (c.p.take c.len) 0 == opt) = _
    rw [byteAt_take (by omega), byteAt_take (by omega)]
  · simp [trim, hl]

theorem at_le {n : Nat} {opt : UInt8} {c : Cursor} (h : c.at_ opt n = true) : n ≤ c.len := by
  unfold at_ at h
  simp only [Bool.and_eq_true, decide_eq_true_eq] at h
  exact h.1.1

/-- An option of a Nak, for an accumulator with a cursor in it: its code reads inside the option
    and leaves the cursor alone. -/
theorem nak_trim {α : Type} (C : Lens α Cursor) {neg : Bool} {opt : UInt8} {n : Nat}
    {code : Bytes → α → α} (hn : 2 ≤ n) (hread : Within n code)
    (hc : ∀ p a c, code p (C.set c a) = C.set c (code p a)) (a : α) :
    (if neg && (C.get a).trim.at_ opt n then
      code (C.get a).trim.p (C.set ((C.get a).trim.skip n) (C.upd trim a)) else C.upd trim a) =
    C.upd trim (if neg && (C.get a).at_ opt n then
      code (C.get a).p (C.set ((C.get a).skip n) a) else a) := by
  rw [at_trim hn]
  split
  · rename_i h
    rw [Bool.and_eq_true] at h
    have hp : code (C.get a).trim.p = code (C.get a).p := hread _ _ (at_le h.2)
    rw [hp, skip_trim, hc, hc, Lens.upd, Lens.upd, C.get_set, C.set_set, hc, C.set_set]
  · rfl

end Cursor

/-- One turn of the loop over the options of a Nak that we did not ask for: type and length are
    read, and the value once the length is known to fit. -/
def restTurn {α β : Type} (extra : UInt8 → Nat → Bytes → α → Option α)
    (next : Cursor → α → Option β) (done : α → β) (c : Cursor) (a : α) : Option β :=
  if c.len < CILEN_VOID then some (done a)
  else
    let cilen := (byteAt c.p 1).toNat
    if cilen < CILEN_VOID ∨ c.len < cilen then none
    else (extra (byteAt c.p 0) cilen c.p a).bind (next (c.skip cilen))

theorem restTurn_trim {α β : Type} {extra : UInt8 → Nat → Bytes → α → Option α}
    {next : Cursor → α → Option β} (done : α → β) (hx : ∀ t n, Within n (extra t n))
    (hnext : ∀ c a, next c.trim a = next c a) (c : Cursor) (a : α) :
    restTurn extra next done c.trim a = restTurn extra next done c a := by
  unfold restTurn
  rw [Cursor.len_trim]
  by_cases hl : c.len < CILEN_VOID
  · rw [if_pos hl, if_pos hl]
  have h2 : 2 ≤ c.len := Nat.le_of_not_lt hl
  have h0 : byteAt c.trim.p 0 = byteAt c.p 0 := byteAt_take (by omega)
  have h1 : byteAt c.trim.p 1 = byteAt c.p 1 := byteAt_take (by omega)
  rw [if_neg hl, if_neg hl, h0, h1]
  by_cases hfit : (byteAt c.p 1).toNat < CILEN_VOID ∨ c.len < (byteAt c.p 1).toNat
  · rw [if_pos hfit, if_pos hfit]
  have hv : extra (byteAt c.p 0) (byteAt c.p 1).toNat c.trim.p =
      extra (byteAt c.p 0) (byteAt c.p 1).toNat c.p :=
    hx _ _ _ _ (Nat.le_of_not_lt (not_or.mp hfit).2)
  rw [if_neg hfit, if_neg hfit, hv, Cursor.skip_trim, funext (hnext (c.skip _))]

/-! ## 2. The options of LCP -/

namespace LcpOptions

variable (go : LcpOptions)

theorem ackci_within (len : Nat) : Within len (ackci go · len) :=
  .of_fits fun p q hp hq h => by rw [Bool.eq_iff_iff, ackci_iff go hp, ackci_iff go hq, h]

theorem rejScan_within (len : Nat) : Within len (rejScan go · len) := by
  refine .of_fits fun p q hp hq h => Option.ext fun t => ?_
  rw [rejScan_eq_some_iff go hp, rejScan_eq_some_iff go hq, h]

/-! ### Naks -/

/-- The place of the cursor. -/
def NakAcc.cursor : Lens NakAcc Cursor where
  get := NakAcc.c
  set c a := { a with c := c }
  get_set _ _ := rfl
  set_set _ _ _ := rfl
  set_get _ := rfl

/-- The accumulator with the buffer cut behind the packet. -/
def NakAcc.trim (a : NakAcc) : NakAcc := { a with c := a.c.trim }

theorem nakOption_trim {neg : Bool} {opt : UInt8} {n : Nat} {code : Bytes → NakAcc → NakAcc}
    (hn : 2 ≤ n) (hread : Within n code)
    (hc : ∀ p a c, code p { a with c := c } = { code p a with c := c }) (a : NakAcc) :
    nakOption neg opt n code a.trim = (nakOption neg opt n code a).trim :=
  Cursor.nak_trim NakAcc.cursor hn hread hc a

/-- What the Nak of the authentication option makes us try, by the protocol it proposes, the
    length of the option and the digest behind it. -/
def authReply (go tryop : LcpOptions) (cishort : UInt16) (cilen : Nat) (cichar : UInt8) :
    Option LcpOptions :=
  if cishort = PPP_PAP ∧ cilen = CILEN_SHORT then
    if go.negEap then some { tryop with negEap := false }
    else if go.negChap then some { tryop with negChap := false }
    else none
  else if cishort = PPP_CHAP ∧ cilen = CILEN_CHAP then
    if go.negEap then
      let t := { tryop with negEap := false }
      some (if chapCandigest go.chapMdtype cichar then { t with chapMdtype := chapMdtypeD cichar }
        else t)
    else if go.negChap then
      if chapDigestDiffers cichar go.chapMdtype then
        if chapCandigest go.chapMdtype cichar then
          some { tryop with chapMdtype := chapMdtypeD cichar }
        else
          let m := tryop.chapMdtype &&& ~~~(OpenBras.chapMdtype tryop.chapMdtype)
          some { tryop with chapMdtype := m, negChap := if m = 0 then false else tryop.negChap }
      else none
    else some { tryop with negUpap := false }
  else
    some (if go.negEap then { tryop with negEap := false }
      else if go.negChap then { tryop with negChap := false }
      else { tryop with negUpap := false })

/-- The option stands at the cursor, and fits. -/
def authHere (go : LcpOptions) (c : Cursor) : Bool :=
  (go.negChap || go.negUpap || go.negEap) && decide (CILEN_SHORT ≤ c.len) &&
    byteAt c.p 0 == CI_AUTHTYPE && decide (CILEN_SHORT ≤ (byteAt c.p 1).toNat) &&
    decide ((byteAt c.p 1).toNat ≤ c.len)

theorem nakAuth_eq (a : NakAcc) : nakAuth go a =
    if authHere go a.c then
      (authReply go a.tryop (getShort a.c.p 2) (byteAt a.c.p 1).toNat (byteAt a.c.p 4)).map
        fun t => { a with
          c := a.c.skip (byteAt a.c.p 1).toNat, tryop := t,
          no := { a.no with negChap := go.negChap, negUpap := go.negUpap, negEap := go.negEap } }
    else some a := by
  -- the reply is put in place in each of the branches
  refine ite_congr rfl (fun _ => ?_) fun _ => rfl
  simp only [authReply, apply_ite (Option.map _), Option.map_some, Option.map_none]

theorem authHere_trim (c : Cursor) : authHere go c.trim = authHere go c := by
  unfold authHere
  by_cases hl : CILEN_SHORT ≤ c.len
  · rw [show byteAt c.trim.p 0 = byteAt c.p 0 from byteAt_take (Nat.le_trans (by decide) hl),
      show byteAt c.trim.p 1 = byteAt c.p 1 from byteAt_take (Nat.le_trans (by decide) hl)]
    rfl
  · simp [Cursor.trim, hl]

theorem authReply_digest {go tryop : LcpOptions} {cishort : UInt16} {cilen : Nat} {d e : UInt8}
    (h : cilen = CILEN_CHAP → d = e) :
    authReply go tryop cishort cilen d = authReply go tryop cishort cilen e := by
  by_cases hc : cilen = CILEN_CHAP
  · rw [h hc]
  · simp only [authReply, hc, and_false, if_false]

theorem nakAuth_trim (a : NakAcc) : nakAuth go a.trim = (nakAuth go a).map NakAcc.trim := by
  rw [nakAuth_eq, nakAuth_eq, show a.trim.c = a.c.trim from rfl, authHere_trim]
  cases ha : authHere go a.c
  · rfl
  unfold authHere at ha
  simp only [Bool.and_eq_true, decide_eq_true_eq] at ha
  obtain ⟨⟨⟨⟨_, hl⟩, _⟩, _⟩, hfit⟩ := ha
  have h1 : byteAt a.c.trim.p 1 = byteAt a.c.p 1 := byteAt_take (Nat.le_trans (by decide) hl)
  have h2 : getShort a.c.trim.p 2 = getShort a.c.p 2 := getShort_take hl
  rw [if_pos rfl, if_pos rfl, h1, h2, Cursor.skip_trim, Option.map_map]
  -- the digest is read only where the option has room for it
  rw [authReply_digest (d := byteAt a.c.trim.p 4) (e := byteAt a.c.p 4) fun hc =>
    byteAt_take (by rw [hc] at hfit; exact hfit)]
  rfl

theorem nakExtra_within (no : LcpOptions) (citype : UInt8) (cilen : Nat) :
    Within cilen (nakExtra go no citype cilen) := by
  intro p m hm
  funext tryop
  unfold nakExtra
  by_cases hc : cilen = CILEN_SHORT
  · subst hc
    rw [getShort_take hm]
  · have hb : (cilen != CILEN_SHORT) = true := bne_iff_ne.mpr hc
    simp only [hb, Bool.or_true, if_true]

theorem nakRest_trim (no : LcpOptions) (fuel : Nat) (c : Cursor) (tryop : LcpOptions) :
    nakRest go no fuel c.trim tryop = nakRest go no fuel c tryop := by
  induction fuel generalizing c tryop with
  | zero => rfl
  | succ fuel ih => exact restTurn_trim id (nakExtra_within go no) ih c tryop

theorem nakEndpoint_trim (a : NakAcc) : nakEndpoint go a.trim = (nakEndpoint go a).trim := by
  unfold nakEndpoint
  rw [show a.trim.c = a.c.trim from rfl, Cursor.len_trim]
  by_cases hl : CILEN_CHAR ≤ a.c.len
  · rw [show byteAt a.c.trim.p 0 = byteAt a.c.p 0 from byteAt_take (Nat.le_trans (by decide) hl),
      show byteAt a.c.trim.p 1 = byteAt a.c.p 1 from byteAt_take (Nat.le_trans (by decide) hl),
      Cursor.skip_trim]
    split <;> rfl
  · simp only [hl, decide_false, Bool.and_false, Bool.false_and, Bool.false_eq_true, if_false]

theorem nakScan_within (wo : LcpOptions) (rand : Nat → UInt32) (draws len : Nat) (r : Bool) :
    Within len (nakScan go wo rand draws · len r) := by
  refine .of_take fun p => ?_
  have ha : ({ c := { p := p.take len, len := len }, tryop := go, draws := draws } : NakAcc) =
    NakAcc.trim { c := { p := p, len := len }, tryop := go, draws := draws } := rfl
  unfold nakScan
  dsimp only
  rw [ha, nakOption_trim, nakOption_trim, nakAuth_trim]
  · generalize nakOption go.askAsyncmap CI_ASYNCMAP CILEN_LONG _ _ = a
    cases nakAuth go a with
    | none => rfl
    | some a =>
      dsimp only [Option.map_some]
      rw [nakOption_trim, nakOption_trim, nakOption_trim, nakOption_trim, nakOption_trim,
        nakOption_trim, nakOption_trim]
      · generalize nakOption go.negSsnhf CI_SSNHF CILEN_VOID _ _ = a
        rw [nakEndpoint_trim]
        generalize nakEndpoint go a = b
        rw [show b.trim.c = b.c.trim from rfl, nakRest_trim]
        rfl
      -- the code of an option reads inside the option and leaves the cursor alone
      all_goals
        first
        | decide
        | (intro _ _ hm; simp only [getShort_take (i := 2) hm])
        | (intro _ _ hm
           simp only [getShort_take (i := 2) (Nat.le_trans (by decide) hm),
             getLong_take (i := 4) hm])
        | exact fun _ _ _ => rfl
  all_goals
    first
    | decide
    | (intro _ _ hm; simp only [getShort_take (i := 2) hm])
    | (intro _ _ hm; simp only [getLong_take (i := 2) hm])
    | exact fun _ _ _ => rfl

end LcpOptions

/-! ## 3. The options of IPCP -/

namespace IpcpOptions

theorem addrAt_take {p : Bytes} {i m : Nat} (h : i + 4 ≤ m) :
    addrAt (p.take m) i = addrAt p i := congrArg swapLong (getLong_take h)

variable (go : IpcpOptions)

theorem ackci_within (len : Nat) : Within len (ackci go · len) :=
  .of_fits fun p q hp hq h => by rw [Bool.eq_iff_iff, ackci_iff go hp, ackci_iff go hq, h]

theorem rejScan_within (len : Nat) : Within len (rejScan go · len) := by
  refine .of_fits fun p q hp hq h => Option.ext fun t => ?_
  rw [rejScan_eq_some_iff go hp, rejScan_eq_some_iff go hq, h]

/-! ### Naks -/

/-- The place of the cursor. -/
def NakAcc.cursor : Lens NakAcc Cursor where
  get := NakAcc.c
  set c a := { a with c := c }
  get_set _ _ := rfl
  set_set _ _ _ := rfl
  set_get _ := rfl

/-- The accumulator with the buffer cut behind the packet. -/
def NakAcc.trim (a : NakAcc) : NakAcc := { a with c := a.c.trim }

theorem nakOption_trim {neg : Bool} {opt : UInt8} {n : Nat} {code : Bytes → NakAcc → NakAcc}
    (hn : 2 ≤ n) (hread : Within n code)
    (hc : ∀ p a c, code p { a with c := c } = { code p a with c := c }) (a : NakAcc) :
    nakOption neg opt n code a.trim = (nakOption neg opt n code a).trim :=
  Cursor.nak_trim NakAcc.cursor hn hread hc a

/-- Where the Nak is treated as a Reject the cursor lags two bytes behind the option, still
    inside the packet; so the cut stands on both sides. -/
theorem nakVj_trim (treatAsReject : Bool) (a : NakAcc) :
    (nakVj go treatAsReject a.trim).trim = (nakVj go treatAsReject a).trim := by
  have hskip (n : Nat) : a.trim.c.skip n = (a.c.skip n).trim := Cursor.skip_trim n a.c
  have hidem (c : Cursor) : c.trim.trim = c.trim := by
    simp [Cursor.trim, List.take_take]
  unfold nakVj
  rw [show a.trim.c.at_ = a.c.trim.at_ from rfl, Cursor.at_trim (by decide),
    Cursor.at_trim (by decide)]
  cases h6 : go.negVj && a.c.at_ CI_COMPRESSTYPE CILEN_VJ
  · cases h4 : go.negVj && a.c.at_ CI_COMPRESSTYPE CILEN_COMPRESS
    · simp only [Bool.false_eq_true, if_false, NakAcc.trim, hidem]
    rw [Bool.and_eq_true] at h4
    have hs : getShort a.trim.c.p 2 = getShort a.c.p 2 := getShort_take (Cursor.at_le h4.2)
    simp only [hs, hskip, Bool.false_eq_true, if_false, if_true]
    split
    · simp only [NakAcc.trim, hidem]
    · split <;> simp only [NakAcc.trim, hidem]
  · rw [Bool.and_eq_true] at h6
    have hl := Cursor.at_le h6.2
    have hs : getShort a.trim.c.p 2 = getShort a.c.p 2 :=
      getShort_take (Nat.le_trans (by decide) hl)
    have h4 : byteAt a.trim.c.p 4 = byteAt a.c.p 4 := byteAt_take (Nat.le_trans (by decide) hl)
    have h5 : byteAt a.trim.c.p 5 = byteAt a.c.p 5 := byteAt_take hl
    simp only [hs, h4, h5, hskip, if_true]
    split
    · have hlag : Cursor.trim
          { p := a.c.trim.p.drop CILEN_COMPRESS, len := a.c.trim.len - CILEN_VJ } =
          Cursor.trim { p := a.c.p.drop CILEN_COMPRESS, len := a.c.len - CILEN_VJ } := by
        simp only [Cursor.trim, List.drop_take, List.take_take]
        rw [Nat.min_eq_left (Nat.sub_le_sub_left (by decide) _)]
      simp only [NakAcc.trim, hlag]
    · split <;> simp only [NakAcc.trim, hidem]

theorem nakExtra_within (citype : UInt8) (cilen : Nat) :
    Within cilen (nakExtra go citype cilen) := by
  intro p m hm
  funext s
  unfold nakExtra
  by_cases h6 : cilen = CILEN_ADDR
  · subst h6
    have hlen : (CILEN_ADDR != CILEN_ADDRS) = true := by decide
    simp only [addrAt_take (i := 2) hm, hlen, Bool.or_true, if_true]
  by_cases h10 : cilen = CILEN_ADDRS
  · subst h10
    rw [addrAt_take (i := 2) (Nat.le_trans (by decide) hm), addrAt_take (i := 6) hm]
  -- an option of any other length is refused before its value is looked at
  have hb6 : (cilen != CILEN_ADDR) = true := bne_iff_ne.mpr h6
  have hb10 : (cilen != CILEN_ADDRS) = true := bne_iff_ne.mpr h10
  simp only [hb6, hb10, Bool.or_true, if_true]

theorem nakRest_trim (fuel : Nat) (c : Cursor) (s : IpcpOptions × IpcpOptions) :
    nakRest go fuel c.trim s = nakRest go fuel c s := by
  induction fuel generalizing c s with
  | zero => rfl
  | succ fuel ih => exact restTurn_trim Prod.snd (nakExtra_within go) ih c s

theorem nakRest_of_trim {a b : NakAcc} (h : a.trim = b.trim) :
    nakRest go a.c.len a.c (a.no, a.tryop) = nakRest go b.c.len b.c (b.no, b.tryop) := by
  rw [← nakRest_trim, ← nakRest_trim go b.c.len]
  exact congrArg (fun a : NakAcc => nakRest go a.c.len a.c (a.no, a.tryop)) h

theorem nakScan_within (len : Nat) (treatAsReject : Bool) :
    Within len (nakScan go · len treatAsReject) := by
  refine .of_take fun p => ?_
  have ha : ({ c := { p := p.take len, len := len }, tryop := go } : NakAcc) =
    NakAcc.trim { c := { p := p, len := len }, tryop := go } := rfl
  unfold nakScan
  dsimp only
  rw [ha, nakOption_trim]
  · refine nakRest_of_trim go ?_
    rw [← nakOption_trim, ← nakOption_trim, ← nakOption_trim, nakVj_trim, nakOption_trim,
      nakOption_trim, nakOption_trim]
    all_goals
      first
      | decide
      | (intro _ _ hm; simp only [addrAt_take (i := 2) hm])
      | exact fun _ _ _ => rfl
  · decide
  · intro _ _ hm
    simp only [addrAt_take (i := 2) (Nat.le_trans (by decide) hm), addrAt_take (i := 6) hm]
  · exact fun _ _ _ => rfl

end IpcpOptions

/-! ## 4. The options of a request -/

namespace Ci

/-- The option with the buffer cut behind it. -/
def trim (ci : Ci) : Ci := { ci with cip := ci.cip.take ci.cilen }

@[simp] theorem citype_trim (ci : Ci) : ci.trim.citype = ci.citype := rfl

@[simp] theorem cilen_trim (ci : Ci) : ci.trim.cilen = ci.cilen := rfl

@[simp] theorem sound_trim (ci : Ci) : ci.trim.sound = ci.sound := rfl

@[simp] theorem bytes_trim (ci : Ci) : ci.trim.bytes = ci.bytes := by
  simp [bytes, trim, List.take_take]

theorem short_trim {ci : Ci} (h : CILEN_SHORT ≤ ci.cilen) : ci.trim.short = ci.short :=
  getShort_take h

theorem long_trim {ci : Ci} (h : CILEN_LONG ≤ ci.cilen) : ci.trim.long = ci.long := getLong_take h

theorem byte_trim {ci : Ci} {i : Nat} (h : i < ci.cilen) :
    byteAt ci.trim.cip i = byteAt ci.cip i := byteAt_take h

theorem addr_trim {ci : Ci} {i : Nat} (h : i + 4 ≤ ci.cilen) :
    IpcpOptions.addrAt ci.trim.cip i = IpcpOptions.addrAt ci.cip i := IpcpOptions.addrAt_take h

end Ci

theorem walk_take (fuel : Nat) (p : Bytes) (l : Nat) :
    (walk fuel (p.take l) l).map Ci.trim = (walk fuel p l).map Ci.trim := by
  induction fuel generalizing p l with
  | zero => rfl
  | succ fuel ih =>
    unfold walk
    by_cases h0 : l = 0
    · rw [if_pos h0, if_pos h0]
    rw [if_neg h0, if_neg h0]
    by_cases h2 : l < 2
    · rw [if_pos (.inl h2), if_pos (.inl h2)]
      simp [Ci.trim, List.take_take]
    have hb0 : byteAt (p.take l) 0 = byteAt p 0 := byteAt_take (by omega)
    have hb1 : byteAt (p.take l) 1 = byteAt p 1 := byteAt_take (by omega)
    rw [hb0, hb1]
    split
    · simp [Ci.trim, List.take_take]
    · have hle : (byteAt p 1).toNat ≤ l := by omega
      rw [List.drop_take, List.map_cons, List.map_cons, ih]
      simp [Ci.trim, List.take_take, Nat.min_eq_left hle]

/-- A loop over the options that does not look behind the option it is at. -/
theorem foldl_options_take {β : Type} {step : β → Ci → β}
    (h : ∀ b ci, step b ci.trim = step b ci) (b : β) (p : Bytes) (l : Nat) :
    (options (p.take l) l).foldl step b = (options p l).foldl step b := by
  have hmap (cis : List Ci) : (cis.map Ci.trim).foldl step b = cis.foldl step b := by
    simp only [List.foldl_map, h]
  rw [← hmap, ← hmap (options p l)]
  exact congrArg (List.foldl step b) (walk_take l p l)

namespace LcpOptions

variable (ao : LcpOptions)

theorem judgeAuth_trim (ho : LcpOptions) (draws : Nat) (ci : Ci) :
    judgeAuth ao ho draws ci.trim = judgeAuth ao ho draws ci := by
  unfold judgeAuth
  simp only [Ci.cilen_trim]
  by_cases h4 : ci.cilen < CILEN_SHORT
  · simp only [h4, true_or, if_true]
  rw [Ci.short_trim (Nat.le_of_not_lt h4)]
  by_cases h5 : ci.cilen = CILEN_CHAP
  · rw [Ci.byte_trim (i := 4) (by rw [h5]; decide)]
  · have hb : (ci.cilen != CILEN_CHAP) = true := bne_iff_ne.mpr h5
    simp only [hb, Bool.or_true, if_true]

theorem judge_trim (go : LcpOptions) (rand : Nat → UInt32) (ho : LcpOptions) (draws : Nat) (ci : Ci) :
    judge ao go rand ho draws ci.trim = judge ao go rand ho draws ci := by
  unfold judge
  simp only [Ci.citype_trim, Ci.cilen_trim, Ci.sound_trim, judgeAuth_trim]
  by_cases h6 : CILEN_LONG ≤ ci.cilen
  · rw [Ci.long_trim h6, Ci.short_trim (Nat.le_trans (by decide) h6)]
    rfl
  have hlong : (ci.cilen != CILEN_LONG) = true := bne_iff_ne.mpr fun h => h6 (Nat.le_of_eq h.symm)
  have hlqr : (ci.cilen != CILEN_LQR) = true :=
    bne_iff_ne.mpr fun h => h6 (by rw [h]; decide)
  simp only [hlong, hlqr, Bool.or_true, if_true]
  by_cases h4 : ci.cilen = CILEN_SHORT
  · rw [Ci.short_trim (Nat.le_of_eq h4.symm)]
    rfl
  · have hshort : (ci.cilen != CILEN_SHORT) = true := bne_iff_ne.mpr h4
    simp only [hshort, Bool.or_true, if_true]
    rfl

theorem reqciStep_trim (go : LcpOptions) (rand : Nat → UInt32) (r : Bool) (a : ReqAcc) (ci : Ci) :
    reqciStep ao go rand r a ci.trim = reqciStep ao go rand r a ci := by
  unfold reqciStep
  rw [judge_trim, Ci.bytes_trim, Ci.citype_trim]

theorem reqciRun_within (go : LcpOptions) (rand : Nat → UInt32) (r : Bool) (draws len : Nat) :
    Within len (reqciRun ao go rand r draws · len) :=
  .of_take fun p => foldl_options_take (reqciStep_trim ao go rand r) _ p len

theorem reqciOut_within (a : ReqAcc) (len : Nat) : Within len (reqciOut a · len) := by
  intro p m hm
  unfold reqciOut
  dsimp only
  rw [List.take_take, Nat.min_eq_left hm]

end LcpOptions

namespace IpcpOptions

variable (wo : IpcpOptions)

theorem judgeAddrs_trim (ho ao : IpcpOptions) (r : Bool) (ci : Ci) :
    judgeAddrs wo ho ao r ci.trim = judgeAddrs wo ho ao r ci := by
  unfold judgeAddrs
  simp only [Ci.cilen_trim, Ci.bytes_trim]
  by_cases hl : ci.cilen = CILEN_ADDRS
  · rw [Ci.addr_trim (i := 2) (by rw [hl]; decide), Ci.addr_trim (i := 6) (by rw [hl]; decide)]
  · have hb : (ci.cilen != CILEN_ADDRS) = true := bne_iff_ne.mpr hl
    simp only [hb, Bool.or_true, if_true]

theorem judgeAddr_trim (ho ao : IpcpOptions) (r : Bool) (ci : Ci) :
    judgeAddr wo ho ao r ci.trim = judgeAddr wo ho ao r ci := by
  unfold judgeAddr
  simp only [Ci.cilen_trim, Ci.bytes_trim]
  by_cases hl : ci.cilen = CILEN_ADDR
  · rw [Ci.addr_trim (i := 2) (by rw [hl]; decide)]
  · have hb : (ci.cilen != CILEN_ADDR) = true := bne_iff_ne.mpr hl
    simp only [hb, Bool.or_true, if_true]

theorem judgeServer_trim (ours : UInt32) (wo ho : IpcpOptions) (ci : Ci) :
    judgeServer ours wo ho ci.trim = judgeServer ours wo ho ci := by
  unfold judgeServer
  simp only [Ci.cilen_trim, Ci.bytes_trim]
  by_cases hl : ci.cilen = CILEN_ADDR
  · rw [Ci.addr_trim (i := 2) (by rw [hl]; decide)]
  · rw [if_pos (.inr hl), if_pos (.inr hl)]

theorem judgeVj_trim (ho ao : IpcpOptions) (r : Bool) (ci : Ci) :
    judgeVj wo ho ao r ci.trim = judgeVj wo ho ao r ci := by
  unfold judgeVj
  simp only [Ci.cilen_trim, Ci.bytes_trim]
  by_cases h6 : ci.cilen = CILEN_VJ
  · rw [Ci.short_trim (by rw [h6]; decide), Ci.byte_trim (i := 4) (by rw [h6]; decide),
      Ci.byte_trim (i := 5) (by rw [h6]; decide)]
  by_cases h4 : ci.cilen = CILEN_COMPRESS
  · rw [Ci.short_trim (by rw [h4]; decide)]
    simp only [h6, if_false]
  have hb : (ci.cilen != CILEN_VJ && ci.cilen != CILEN_COMPRESS) = true := by
    rw [Bool.and_eq_true, bne_iff_ne, bne_iff_ne]
    exact ⟨h6, h4⟩
  simp only [hb, Bool.or_true, if_true]

theorem judge_trim (ho ao : IpcpOptions) (r : Bool) (ci : Ci) :
    judge wo ho ao r ci.trim = judge wo ho ao r ci := by
  unfold judge
  simp only [Ci.sound_trim, Ci.citype_trim, Ci.bytes_trim, judgeAddrs_trim, judgeAddr_trim,
    judgeServer_trim, judgeVj_trim]

theorem reqciStep_trim (ao : IpcpOptions) (r : Bool) (a : ReqAcc) (ci : Ci) :
    reqciStep ao r a ci.trim = reqciStep ao r a ci := by
  unfold reqciStep
  rw [judge_trim]

theorem reqciRun_within (ao : IpcpOptions) (r noremoteip : Bool) (len : Nat) :
    Within len (reqciRun wo ao r noremoteip · len) :=
  .of_take fun p => congrArg (reqciAddr r noremoteip)
    (foldl_options_take (reqciStep_trim ao r) _ p len)

theorem judge_ack_len {wo ho ao : IpcpOptions} {r : Bool} {ci : Ci} (hs : ci.sound = true)
    (hc : ci.citype = CI_ADDR) (h : (judge wo ho ao r ci).orc = .ack) : ci.cilen = CILEN_ADDR := by
  have hj : judge wo ho ao r ci = judgeAddr wo ho ao r ci := by
    unfold judge
    rw [hs, hc]
    rfl
  rw [hj] at h
  unfold judgeAddr at h
  split at h
  · cases h
  · rename_i hl
    simp only [Bool.or_eq_true, bne_iff_ne, not_or, not_not] at hl
    exact hl.2

/-- **Every address option of an acknowledged request is whole.** -/
theorem reqciRun_ack_len {wo ao : IpcpOptions} {r noremoteip : Bool} {inp : Bytes} {len : Nat}
    (h : (reqciRun wo ao r noremoteip inp len).rc = .ack) :
    ∀ ci ∈ options inp len, ci.sound = true → ci.citype = CI_ADDR → ci.cilen = CILEN_ADDR := by
  intro ci hci hs hc
  obtain ⟨wo', ho, _, hj⟩ := reqciRun_acked h ci hci
  exact judge_ack_len hs hc hj

end IpcpOptions

/-! ## 5. The automaton -/

/-- The callbacks that read a packet read no further than the length they are given. -/
structure IFsmSink.Local {σ : Type} (K : IFsmSink σ) : Prop where
  ackci : ∀ n s, Within n fun p => K.ackci p n s
  nakci : ∀ n r s, Within n fun p => K.nakci p n r s
  rejci : ∀ n s, Within n fun p => K.rejci p n s
  reqci : ∀ n r s, Within n fun p => K.reqci p n r s
  extCode : ∀ code id n s, Within n fun p => K.extCode code id p n s

namespace CPPPFsm

variable {σ : Type} {L : Lens σ CPPPFsm} {K : IFsmSink σ}

/-- Where a packet ends by its own header. -/
def packetEnd (p : Bytes) : Nat := max HEADERLEN (getShort p 2).toNat

variable {p : Bytes} {m : Nat}

theorem header_take {l : Nat} (h : HEADERLEN ≤ m) : header (p.take m) l = header p l := by
  unfold header
  rw [getShort_take h, byteAt_take (Nat.le_trans (by decide) h),
    byteAt_take (Nat.le_trans (by decide) h)]

theorem header_end {l len : Nat} {code id : UInt8} (h : header p l = some (code, id, len)) :
    len + HEADERLEN = packetEnd p := by
  unfold header at h
  split at h
  · cases h
  dsimp only at h
  split at h
  · cases h
  · simp only [Option.some.injEq, Prod.mk.injEq] at h
    unfold packetEnd
    omega

theorem body_take {len : Nat} (h : len + HEADERLEN ≤ m) {β : Type} {f : Bytes → β}
    (hf : Within len f) : f ((p.take m).drop HEADERLEN) = f (p.drop HEADERLEN) := by
  rw [List.drop_take]
  exact hf _ _ (Nat.le_sub_of_add_le h)

theorem sendData_take (K : CiSink σ) (code id : UInt8) {data : Bytes} {datalen : Nat}
    (h : datalen ≤ m) (s : σ) :
    sendData L K code id (data.take m) datalen s = sendData L K code id data datalen s := by
  unfold sendData
  dsimp only
  rw [List.take_take, Nat.min_eq_left (Nat.le_trans (Nat.min_le_left _ _) h)]

theorem rcvConfReq_within (hK : K.Local) (id : UInt8) (len : Nat) (s : σ) :
    Within len fun p => rcvConfReq L K id p len s := by
  intro p m hm
  have hreq (s : σ) : answerConfReq L K id (p.take m) len s = answerConfReq L K id p len s := by
    have hr (r : Bool) : K.reqci (p.take m) len r s = K.reqci p len r s := hK.reqci len r s p m hm
    simp only [answerConfReq, hr]
  unfold rcvConfReq
  simp only [hreq]

theorem rcvConfAck_within (hK : K.Local) (id : UInt8) (len : Nat) (s : σ) :
    Within len fun p => rcvConfAck L K id p len s := by
  intro p m hm
  have ha : K.ackci (p.take m) len s = K.ackci p len s := hK.ackci len s p m hm
  simp only [rcvConfAck, ha]

theorem rcvConfNakRej_within (hK : K.Local) (code id : UInt8) (len : Nat) (s : σ) :
    Within len fun p => rcvConfNakRej L K code id p len s := by
  intro p m hm
  have hn (r : Bool) (s : σ) : K.nakci (p.take m) len r s = K.nakci p len r s :=
    hK.nakci len r s p m hm
  have hr (s : σ) : K.rejci (p.take m) len s = K.rejci p len s := hK.rejci len s p m hm
  simp only [rcvConfNakRej, hn, hr]

/-- A Code-Reject carries the whole packet, and nothing behind it. -/
theorem dispatch_take (hK : K.Local) {len : Nat} (h : len + HEADERLEN ≤ m) (code id : UInt8) (s : σ) :
    dispatch L K (p.take m) code id len s = dispatch L K p code id len s := by
  have hreq := body_take (p := p) h (rcvConfReq_within (L := L) hK id len s)
  have hack := body_take (p := p) h (rcvConfAck_within (L := L) hK id len s)
  have hnak := body_take (p := p) h (rcvConfNakRej_within (L := L) hK code id len s)
  have hext := body_take (p := p) h (hK.extCode code id len s)
  simp only [dispatch, hreq, hack, hnak, hext, sendData_take _ _ _ h]

/-- **The automaton does not look behind a packet.** -/
theorem input_take (hK : K.Local) (h : packetEnd p ≤ m) (l : Nat) (s : σ) :
    input L K (p.take m) l s = input L K p l s := by
  unfold input
  rw [header_take (Nat.le_trans (Nat.le_max_left _ _) h)]
  cases hh : header p l with
  | none => rfl
  | some x =>
    obtain ⟨code, id, len⟩ := x
    dsimp only
    rw [dispatch_take hK ((header_end hh).le.trans h)]

end CPPPFsm

/-! ## 6. The protocols of a session -/

namespace Exec

theorem lcpExtCode_within (code id : UInt8) (n : Nat) (s : Exec) :
    Within n fun p => lcpExtCode code id p n s := by
  intro p m hm
  unfold lcpExtCode
  dsimp only
  -- the reply to an echo request carries the bytes behind the magic number, up to the length
  have hbody : putLong s.lcp.magicnumber ++ (p.take m).drop 4 =
      (putLong s.lcp.magicnumber ++ p.drop 4).take (4 + (m - 4)) := by
    rw [List.drop_take]
    exact (List.take_length_add_append (m - 4)).symm
  have hlong : (n < 4 ∨ getLong (p.take m) 0 = s.lcp.magicnumber) =
      (n < 4 ∨ getLong p 0 = s.lcp.magicnumber) := by
    by_cases h4 : n < 4
    · simp only [h4, true_or]
    · rw [getLong_take (by omega)]
  rw [hbody, CPPPFsm.sendData_take _ _ _ (by omega)]
  simp only [hlong]

theorem lcpSink_local : lcpSink.Local where
  ackci n s p m hm := congrArg (·, s) (LcpOptions.ackci_within _ n p m hm)
  nakci n r s p m hm := by
    show lcpNakci _ n r s = lcpNakci _ n r s
    have h := LcpOptions.nakScan_within s.lcp.go s.lcp.wo s.rand s.draws n r p m hm
    simp only [lcpNakci, h]
  rejci n s p m hm := by
    show lcpRejci _ n s = lcpRejci _ n s
    have h := LcpOptions.rejScan_within s.lcp.go n p m hm
    simp only [lcpRejci, h]
  reqci n r s p m hm := by
    show lcpReqci _ n r s = lcpReqci _ n r s
    have h := LcpOptions.reqciRun_within s.lcp.ao s.lcp.go s.rand r s.draws n p m hm
    have ho (a : LcpOptions.ReqAcc) := LcpOptions.reqciOut_within a n p m hm
    simp only [lcpReqci, h, ho]
  extCode := lcpExtCode_within

/-- The last address option of a list. -/
def lastAddr (cis : List Ci) : Option UInt32 :=
  (cis.filter fun ci => ci.sound && ci.citype == CI_ADDR).getLast?.map fun ci =>
    IpcpOptions.addrAt ci.cip 2

theorem lastAddr_trim {cis : List Ci}
    (h : ∀ ci ∈ cis, ci.sound = true → ci.citype = CI_ADDR → ci.cilen = CILEN_ADDR) :
    lastAddr (cis.map Ci.trim) = lastAddr cis := by
  unfold lastAddr
  rw [List.filter_map, List.getLast?_map, Option.map_map]
  show Option.map _ (List.filter (fun ci => ci.sound && ci.citype == CI_ADDR) cis).getLast? = _
  refine Option.map_congr fun ci hci => ?_
  have hmem := List.mem_of_getLast? hci
  rw [List.mem_filter, Bool.and_eq_true, beq_iff_eq] at hmem
  exact Ci.addr_trim (by rw [h ci hmem.1 hmem.2.1 hmem.2.2]; decide)

variable {p : Bytes} {m : Nat}

theorem noteAcked_take {wo ao : IpcpOptions} {r noremoteip : Bool} {len : Nat}
    (h : (IpcpOptions.reqciRun wo ao r noremoteip p len).rc = .ack) (s : Exec) :
    noteAcked (p.take len) len s = noteAcked p len s := by
  have h' : (IpcpOptions.reqciRun wo ao r noremoteip (p.take len) len).rc = .ack := by
    rw [← h]
    exact congrArg (·.rc) (IpcpOptions.reqciRun_within wo ao r noremoteip len p len (Nat.le_refl _))
  have ha : addrOf (p.take len) len = addrOf p len := by
    show lastAddr (options (p.take len) len) = lastAddr (options p len)
    rw [← lastAddr_trim (IpcpOptions.reqciRun_ack_len h'),
      ← lastAddr_trim (IpcpOptions.reqciRun_ack_len h)]
    exact congrArg lastAddr (walk_take len p len)
  unfold noteAcked
  rw [ha]

theorem ipcpReqci_within (n : Nat) (r : Bool) (s : Exec) : Within n (ipcpReqci · n r s) := by
  refine .of_take fun p => ?_
  have h := IpcpOptions.reqciRun_within s.ipcp.wo s.ipcp.ao r s.ipcp.noremoteip n p n
    (Nat.le_refl n)
  dsimp only at h
  unfold ipcpReqci reqciRun
  rw [h]
  dsimp only
  split
  · rename_i hack
    rw [noteAcked_take hack]
  · rfl

theorem ipcpSink_local : ipcpSink.Local where
  ackci n s p m hm := congrArg (·, s) (IpcpOptions.ackci_within _ n p m hm)
  nakci n r s p m hm := congrArg (ipcpGot · s) (IpcpOptions.nakScan_within _ n r p m hm)
  rejci n s p m hm := congrArg (ipcpGot · s) (IpcpOptions.rejScan_within _ n p m hm)
  reqci := ipcpReqci_within
  extCode _ _ _ _ _ _ _ := rfl

theorem papCredentials_within (len : Nat) : Within len (papCredentials · len) := by
  refine .of_take fun p => ?_
  unfold papCredentials
  by_cases h1 : len < 1
  · simp only [h1, if_true]
  rw [byteAt_take (i := 0) (by omega)]
  dsimp only
  generalize hu : (byteAt p 0).toNat = u
  by_cases h2 : len < 1 + u + 1
  · simp only [h2, if_true, ite_self]
  rw [byteAt_take (i := 1 + u) (by omega)]
  generalize hw : (byteAt p (1 + u)).toNat = w
  by_cases h3 : len - (1 + u + 1) < w
  · simp only [h3, if_true]
  · simp only [List.drop_take, List.take_take]
    rw [Nat.min_eq_left (show u ≤ len - 1 by omega),
      Nat.min_eq_left (show w ≤ len - (2 + u) by omega)]

theorem chapCredentials_within (len : Nat) : Within len (chapCredentials · len) := by
  refine .of_take fun p => ?_
  unfold chapCredentials
  by_cases h2 : len < 2
  · simp only [h2, if_true]
  rw [byteAt_take (i := 0) (by omega)]
  generalize hr : (byteAt p 0).toNat = r
  by_cases hl : len < r + 1
  · simp only [hl, if_true]
  · simp only [List.drop_take, List.take_take]
    rw [Nat.min_eq_left (show r ≤ len - 1 by omega),
      Nat.min_eq_left (show len - (r + 1) ≤ len - (1 + r) by omega)]

theorem papInput_take (h : CPPPFsm.packetEnd p ≤ m) (l : Nat) (s : Exec) :
    papInput (p.take m) l s = papInput p l s := by
  unfold papInput
  rw [CPPPFsm.header_take (Nat.le_trans (Nat.le_max_left _ _) h)]
  cases hh : CPPPFsm.header p l with
  | none => rfl
  | some x =>
    obtain ⟨code, id, len⟩ := x
    have hbody := CPPPFsm.body_take (p := p) ((CPPPFsm.header_end hh).le.trans h)
      (papCredentials_within len)
    simp only [papRauthreq, hbody]

theorem chapInput_take (h : CPPPFsm.packetEnd p ≤ m) (l : Nat) (s : Exec) :
    chapInput (p.take m) l s = chapInput p l s := by
  unfold chapInput
  rw [CPPPFsm.header_take (Nat.le_trans (Nat.le_max_left _ _) h)]
  cases hh : CPPPFsm.header p l with
  | none => rfl
  | some x =>
    obtain ⟨code, id, len⟩ := x
    have hbody : chapCredentials ((p.take m).drop CHAP_HDRLEN) len =
        chapCredentials (p.drop CHAP_HDRLEN) len :=
      CPPPFsm.body_take (p := p) ((CPPPFsm.header_end hh).le.trans h)
        (chapCredentials_within len)
    simp only [chapHandleResponse, hbody]

theorem dispatch_take {protocol : UInt16} (hc : isControl protocol = true)
    (h : CPPPFsm.packetEnd p ≤ m) (n : Nat) (s : Exec) :
    dispatch protocol (p.take m) n s = dispatch protocol p n s := by
  unfold dispatch ipcpInput
  rw [CPPPFsm.input_take lcpSink_local h, CPPPFsm.input_take ipcpSink_local h, papInput_take h,
    chapInput_take h]
  simp only [isControl, Bool.or_eq_true, beq_iff_eq] at hc
  rcases hc with ((hc | hc) | hc) | hc <;> subst hc <;> rfl

/-! ## 7. Frames -/

/-- The bytes before the packet's own header: the protocol field, behind FF 03 if it is there. -/
def frameHead (p : Bytes) : Nat :=
  if byteAt p 0 = PPP_ALLSTATIONS ∧ byteAt p 1 = PPP_UI then PPP_HDRLEN else 2

/-- Where a frame ends by the packet's own header. -/
def frameEnd (p : Bytes) : Nat := frameHead p + CPPPFsm.packetEnd (p.drop (frameHead p))

theorem two_le_frameHead (p : Bytes) : 2 ≤ frameHead p := by
  unfold frameHead
  split <;> decide

theorem frameHead_le (p : Bytes) : frameHead p + HEADERLEN ≤ frameEnd p :=
  Nat.add_le_add_left (Nat.le_max_left _ _) _

theorem frameHead_take (h : 2 ≤ m) : frameHead (p.take m) = frameHead p := by
  unfold frameHead
  rw [byteAt_take (i := 0) (by omega), byteAt_take (i := 1) (by omega)]

theorem frameEnd_take (h : frameHead p + HEADERLEN ≤ m) : frameEnd (p.take m) = frameEnd p := by
  have h2 := two_le_frameHead p
  unfold frameEnd
  rw [frameHead_take (by omega), List.drop_take, CPPPFsm.packetEnd, getShort_take]
  · rfl
  · unfold HEADERLEN at h
    omega

theorem protocolOf_eq (p : Bytes) (len : Nat) : protocolOf p len =
    (getShort p (frameHead p - 2), p.drop (frameHead p), len - frameHead p) := by
  unfold protocolOf frameHead
  split <;> rfl

theorem input_take {len : Nat} (hc : isControl (protocolOf p len).1 = true) (h : frameEnd p ≤ m)
    (s : Exec) : input (p.take m) len s = input p len s := by
  have hhead := frameHead_le p
  have h2 := two_le_frameHead p
  unfold input
  rw [protocolOf_eq, protocolOf_eq, frameHead_take (by omega), getShort_take (by omega),
    List.drop_take]
  rw [protocolOf_eq] at hc
  dsimp only at hc ⊢
  rw [dispatch_take hc (Nat.le_sub_of_add_le (by rw [Nat.add_comm]; exact h))]

/-- **Bytes behind the announced length have no influence.** Two frames for LCP, IPCP, PAP or
    CHAP that agree up to the end their packet announces lead to the same state from every
    state, and to the same output: the output is part of the state's history. -/
theorem input_same_of_agree {p q : Bytes} {len : Nat}
    (hc : isControl (protocolOf p len).1 = true)
    (h : p.take (frameEnd p) = q.take (frameEnd p)) (s : Exec) : input p len s = input q len s := by
  have hhead := frameHead_le p
  have h2 := two_le_frameHead p
  have hq : frameHead q = frameHead p := by
    rw [← frameHead_take (p := q) (m := frameEnd p) (by omega), ← h, frameHead_take (by omega)]
  have hend : frameEnd q = frameEnd p := by
    rw [← frameEnd_take (p := q) (m := frameEnd p) (by rw [hq]; exact hhead), ← h,
      frameEnd_take hhead]
  have hcq : isControl (protocolOf q len).1 = true := by
    rw [protocolOf_eq] at hc ⊢
    rw [hq, ← getShort_take (p := q) (m := frameEnd p) (by omega), ← h, getShort_take (by omega)]
    exact hc
  rw [← input_take hc (Nat.le_refl _), h, input_take hcq (Nat.le_of_eq hend)]

/-- A Configure-Request without options and one byte of padding, which differs. -/
theorem padded_request_same :
    isControl (protocolOf [0xff, 0x03, 0xc0, 0x21, 1, 1, 0, 4, 0xaa] 9).1 = true ∧
      input [0xff, 0x03, 0xc0, 0x21, 1, 1, 0, 4, 0xaa] 9 (start (.sample PPP_CHAP)) =
        input [0xff, 0x03, 0xc0, 0x21, 1, 1, 0, 4, 0xbb] 9 (start (.sample PPP_CHAP)) :=
  ⟨by decide, input_same_of_agree (by decide) (by decide) _⟩

end Exec

end OpenBras
