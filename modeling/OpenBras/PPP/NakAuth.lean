/-
  File:      OpenBras/PPP/NakAuth.lean
  Subject:   NAKS OF THE AUTHENTICATION OPTION (`CPPPLCP::Nakci`, src/PPP/CPPPLCP.cpp).

  What a Nak makes of the authentication LCP asks for. An accepted Nak has one authentication
  option if LCP asked for one and the peer objects, and none otherwise (`nakScan_auth`); what
  becomes of the request is then `authReply`.

  A Nak that names PAP back is refused, one that names CHAP back with our digest is not:
  `cichar != CHAP_DIGEST(..)` compares with the mask and not with the digest
  (`chapDigestDiffers`). Every other Nak of the option has LCP ask for none.
-/
import OpenBras.PPP.LcpStep
import OpenBras.PPP.Padding
import OpenBras.PPP.Verdicts

namespace OpenBras

open Wire

/-! ## 1. The authentication options of a packet -/

def Ci.auth (ci : Ci) : Bool := ci.sound && ci.citype == CI_AUTHTYPE

/-- The authentication options in a body of `len` bytes. -/
def authOptions (p : Bytes) (len : Nat) : List Bytes :=
  ((options p len).filter Ci.auth).map Ci.bytes

namespace LcpOptions

/-- The flags and the digests that make up the authentication option of a request. -/
structure AuthPart where
  negEap : Bool
  negChap : Bool
  negUpap : Bool
  chapMdtype : UInt8
  deriving DecidableEq, Repr

/-- The option they stand for, if any: EAP before CHAP before PAP. -/
def AuthPart.options (a : AuthPart) : List Bytes :=
  if a.negEap then [addciShort CI_AUTHTYPE true PPP_EAP]
  else if a.negChap then [addciChap CI_AUTHTYPE true a.chapMdtype]
  else if a.negUpap then [addciShort CI_AUTHTYPE true PPP_PAP]
  else []

def authPart (o : LcpOptions) : AuthPart where
  negEap := o.negEap
  negChap := o.negChap
  negUpap := o.negUpap
  chapMdtype := o.chapMdtype

/-- **The authentication option of a request** is the one its flags stand for. -/
theorem authOptions_addci (go : LcpOptions) :
    authOptions go.addci go.addci.length = go.authPart.options := by
  have hframed : ∀ b ∈ menu.offers go.sent go, Framed b := by
    intro b hb
    obtain ⟨k, -, rfl⟩ := List.mem_map.mp hb
    exact menu.framed k go
  have hopt : ((fun b => byteAt b 0 == CI_AUTHTYPE) ∘ fun k => menu.bytes k go) =
      fun k => k.opt == CI_AUTHTYPE := funext fun k =>
    congrArg (· == CI_AUTHTYPE) (menu.byteAt_bytes k go)
  have hkinds : Kind.all.filter (fun k => k.opt == CI_AUTHTYPE && go.sent k) =
      [Kind.eap, .chap, .pap].filter go.sent := by
    rfl
  unfold authOptions OpenBras.options
  rw [addci_eq, filter_walk hframed (Q := fun b => byteAt b 0 == CI_AUTHTYPE) (fun _ _ => rfl)
    (Nat.le_refl _), Menu.offers, List.filter_map, List.filter_filter, hopt]
  refine (congrArg (List.map fun k => k.bytes go) hkinds).trans ?_
  unfold AuthPart.options authPart
  cases he : go.negEap <;> cases hc : go.negChap <;> cases hp : go.negUpap <;>
    simp [sent, Kind.neg, Kind.bytes, he, hc, hp]

/-! ## 2. What an accepted Nak has -/

variable {n : Nat} {t go : LcpOptions}

theorem options_skip {c : Cursor} (hn : 2 ≤ n) (hl : n ≤ c.len) (h1 : (byteAt c.p 1).toNat = n) :
    OpenBras.options c.p c.len =
      ⟨byteAt c.p 0, n, c.p, true⟩ :: OpenBras.options (c.skip n).p (c.skip n).len := by
  have hci : ciAt c.p c.len = ⟨byteAt c.p 0, n, c.p, true⟩ := by
    unfold ciAt
    rw [if_neg (by omega), h1]
  rw [options_cons c.p (by omega), hci]
  rfl

/-- `Nakci` has gone on over options that are not about authentication. -/
structure NakAcc.Moves (a b : NakAcc) : Prop where
  fits : a.c.Fits → b.c.Fits
  passed : authOptions b.c.p b.c.len = authOptions a.c.p a.c.len
  tryop : b.tryop.authPart = a.tryop.authPart

theorem NakAcc.Moves.refl (a : NakAcc) : a.Moves a := ⟨id, rfl, rfl⟩

theorem NakAcc.Moves.trans {a b d : NakAcc} (h : a.Moves b) (h' : b.Moves d) : a.Moves d :=
  ⟨h'.fits ∘ h.fits, h'.passed.trans h.passed, h'.tryop.trans h.tryop⟩

theorem authOptions_skip {c : Cursor} (hn : 2 ≤ n) (hl : n ≤ c.len) (h1 : (byteAt c.p 1).toNat = n)
    (h0 : byteAt c.p 0 ≠ CI_AUTHTYPE) :
    authOptions (c.skip n).p (c.skip n).len = authOptions c.p c.len := by
  have hauth : Ci.auth ⟨byteAt c.p 0, n, c.p, true⟩ = false := beq_false_of_ne h0
  unfold authOptions
  rw [options_skip hn hl h1, List.filter_cons, hauth]
  rfl

theorem nakOption_moves {neg : Bool} {opt : UInt8} {code : Bytes → NakAcc → NakAcc} (hn : 2 ≤ n)
    (ho : opt ≠ CI_AUTHTYPE)
    (hc : ∀ p a, (code p a).c = a.c ∧ (code p a).tryop.authPart = a.tryop.authPart) (a : NakAcc) :
    a.Moves (nakOption neg opt n code a) := by
  unfold nakOption
  split
  · rename_i hat
    simp only [Cursor.at_, Bool.and_eq_true, decide_eq_true_eq, beq_iff_eq] at hat
    obtain ⟨-, ⟨hl, h1⟩, h0⟩ := hat
    obtain ⟨hcur, hauth⟩ := hc a.c.p { a with c := a.c.skip n }
    refine ⟨fun h => ?_, ?_, hauth⟩
    · rw [hcur]
      exact h.skip n
    · rw [hcur]
      exact authOptions_skip hn hl h1 (h0 ▸ ho)
  · exact ⟨id, rfl, rfl⟩

theorem nakOption_other {neg : Bool} {opt : UInt8} {code : Bytes → NakAcc → NakAcc} {a : NakAcc}
    (h : a.c.at_ opt n = false) : nakOption neg opt n code a = a := by
  unfold nakOption
  rw [h, Bool.and_false]
  rfl

theorem nakEndpoint_moves (go : LcpOptions) (a : NakAcc) : a.Moves (nakEndpoint go a) := by
  unfold nakEndpoint
  split
  · rename_i hat
    simp only [Bool.and_eq_true, decide_eq_true_eq, beq_iff_eq] at hat
    obtain ⟨⟨⟨-, h0⟩, hn⟩, hl⟩ := hat
    refine ⟨fun h => h.skip _, ?_, rfl⟩
    refine authOptions_skip (Nat.le_trans (by decide) hn) hl rfl ?_
    rw [h0]
    decide
  · exact ⟨id, rfl, rfl⟩

/-- LCP asks for some authentication. -/
def asksAuth (go : LcpOptions) : Bool := go.negChap || go.negUpap || go.negEap

/-- The options to try, if any, ask for the same authentication as `t`. -/
def KeepsAuth (t : LcpOptions) (o : Option LcpOptions) : Prop :=
  ∀ t', o = some t' → t'.authPart = t.authPart

theorem KeepsAuth.none (t : LcpOptions) : KeepsAuth t none := fun _ h => by cases h

theorem KeepsAuth.some {t' : LcpOptions} (h : t'.authPart = t.authPart) :
    KeepsAuth t (some t') := fun _ he => Option.some.inj he ▸ h

theorem KeepsAuth.ite {P : Prop} [Decidable P] {a b : Option LcpOptions} (ha : KeepsAuth t a)
    (hb : KeepsAuth t b) : KeepsAuth t (if P then a else b) := by
  split
  · exact ha
  · exact hb

theorem nakExtra_keepsAuth (go no t : LcpOptions) (citype : UInt8) (cilen : Nat) (p : Bytes) :
    KeepsAuth t (nakExtra go no citype cilen p t) := by
  repeat' first | exact .none t | exact .some rfl | refine .ite ?_ ?_

/-- An authentication option next to the one asked for makes the Nak bad. -/
theorem nakExtra_auth {no : LcpOptions} (ha : go.asksAuth = true) (cilen : Nat) (p : Bytes) :
    nakExtra go no CI_AUTHTYPE cilen p t = none := by
  simp only [asksAuth, Bool.or_eq_true] at ha
  have hbad : (go.negChap || no.negChap || go.negUpap || no.negUpap || go.negEap || no.negEap) =
      true := by
    simp only [Bool.or_eq_true]
    tauto
  show (if (_ : Bool) = true then none else some t) = none
  rw [if_pos hbad]

theorem nakRest_keepsAuth (go no : LcpOptions) (fuel : Nat) (c : Cursor) (t : LcpOptions) :
    KeepsAuth t (nakRest go no fuel c t) := by
  induction fuel generalizing c t with
  | zero => exact .some rfl
  | succ fuel ih =>
    refine .ite (.some rfl) (.ite (.none t) ?_)
    intro t' h
    obtain ⟨u, hu, ht⟩ := Option.bind_eq_some_iff.mp h
    exact (ih _ u t' ht).trans (nakExtra_keepsAuth _ _ _ _ _ _ u hu)

theorem authOptions_short (p : Bytes) {len : Nat} (h : len < 2) : authOptions p len = [] := by
  match len, h with
  | 0, _ => rfl
  | 1, _ => rfl

/-- Where LCP asks for authentication, what is left of a good Nak is not about it. -/
theorem nakRest_authOptions {no t' : LcpOptions} (ha : go.asksAuth = true) {fuel : Nat} {c : Cursor}
    (hf : c.len ≤ fuel) (h : nakRest go no fuel c t = some t') : authOptions c.p c.len = [] := by
  induction fuel generalizing c t with
  | zero => rw [Nat.le_zero.mp hf]; rfl
  | succ fuel ih =>
    unfold nakRest at h
    by_cases hshort : c.len < CILEN_VOID
    · exact authOptions_short c.p hshort
    rw [if_neg hshort] at h
    by_cases hbad : (byteAt c.p 1).toNat < CILEN_VOID ∨ c.len < (byteAt c.p 1).toNat
    · rw [if_pos hbad] at h
      cases h
    rw [if_neg hbad] at h
    obtain ⟨u, hu, ht⟩ := Option.bind_eq_some_iff.mp h
    have hn : 2 ≤ (byteAt c.p 1).toNat := by
      have : CILEN_VOID = 2 := rfl
      omega
    rw [← authOptions_skip hn (by omega) rfl fun h0 => ?_]
    · refine ih ?_ ht
      show c.len - _ ≤ fuel
      omega
    · rw [h0, nakExtra_auth ha] at hu
      cases hu

theorem authReply_congr (h : t.authPart = go.authPart) (cishort : UInt16) (cilen : Nat)
    (cichar : UInt8) :
    (authReply go t cishort cilen cichar).map authPart =
      (authReply go go cishort cilen cichar).map authPart := by
  obtain ⟨he, hc, hu, hm⟩ : t.negEap = go.negEap ∧ t.negChap = go.negChap ∧
      t.negUpap = go.negUpap ∧ t.chapMdtype = go.chapMdtype := by
    simpa only [authPart, AuthPart.mk.injEq] using h
  simp only [authReply, apply_ite (Option.map authPart), Option.map_some, Option.map_none,
    apply_ite authPart]
  simp only [authPart, he, hc, hu, hm]

/-- The scan of a good Nak falls into what comes before the authentication option, the option, what
    comes after it, and the options the Nak adds; only the option itself touches the
    authentication. -/
theorem nakScan_around_auth {wo : LcpOptions} {rand : Nat → UInt32} {draws draws' len : Nat}
    {p : Bytes} {r loopedBack : Bool}
    (h : nakScan go wo rand draws p len r = (some (t, loopedBack), draws')) :
    ∃ a b e : NakAcc, NakAcc.Moves { c := ⟨p, len⟩, tryop := go, draws := draws } a ∧
      nakAuth go a = some b ∧ b.Moves e ∧ nakRest go e.no e.c.len e.c e.tryop = some t := by
  unfold nakScan at h
  dsimp only at h
  have skips : ∀ {a : NakAcc} {neg : Bool} {opt : UInt8} {n : Nat} {code : Bytes → NakAcc → NakAcc}
      {d : NakAcc}, d.Moves a → 2 ≤ n ∧ opt ≠ CI_AUTHTYPE →
      (∀ p a, (code p a).c = a.c ∧ (code p a).tryop.authPart = a.tryop.authPart) →
      d.Moves (nakOption neg opt n code a) :=
    fun hd ho hc => hd.trans (nakOption_moves ho.1 ho.2 hc _)
  generalize ha : nakOption go.askAsyncmap CI_ASYNCMAP CILEN_LONG _ _ = a at h
  have hm : NakAcc.Moves { c := ⟨p, len⟩, tryop := go, draws := draws } a := by
    rw [← ha]
    refine skips (skips (.refl _) (by decide) fun _ _ => ⟨rfl, ?_⟩) (by decide) fun _ _ => ⟨rfl, rfl⟩
    split <;> rfl
  cases hauth : nakAuth go a with
  | none =>
    rw [hauth] at h
    cases h
  | some b =>
    rw [hauth] at h
    obtain ⟨u, hu, he⟩ := Option.map_eq_some_iff.mp (congrArg Prod.fst h)
    cases he
    refine ⟨a, b, _, hm, hauth, ?_, hu⟩
    refine .trans ?_ (nakEndpoint_moves go _)
    repeat refine skips ?_ (by decide) fun _ _ => ⟨rfl, ?_⟩
    · exact .refl b
    all_goals first | rfl | (dsimp only; split_ifs <;> rfl)

/-- **What a good Nak does to the authentication LCP asks for.** Either nothing, and then it has
    no authentication option if LCP asks for one; or it has one, at the cursor `c`, and the
    reply to it is what LCP asks for next. -/
theorem nakScan_auth {wo : LcpOptions} {rand : Nat → UInt32} {draws draws' len : Nat} {p : Bytes}
    {r loopedBack : Bool} (h : nakScan go wo rand draws p len r = (some (t, loopedBack), draws')) :
    (t.authPart = go.authPart ∧ (go.asksAuth = true → authOptions p len = [])) ∨
    ∃ c : Cursor, (len ≤ p.length → c.Fits) ∧ authHere go c = true ∧
      authOptions p len = [c.p.take (byteAt c.p 1).toNat] ∧
      (authReply go go (getShort c.p 2) (byteAt c.p 1).toNat (byteAt c.p 4)).map authPart =
        some t.authPart := by
  obtain ⟨a, b, e, hm, hauth, hm', hrest⟩ := nakScan_around_auth h
  have htried : t.authPart = b.tryop.authPart :=
    (nakRest_keepsAuth go _ _ _ _ t hrest).trans hm'.tryop
  have hnone : go.asksAuth = true → authOptions b.c.p b.c.len = [] := fun hasks =>
    hm'.passed ▸ nakRest_authOptions hasks (Nat.le_refl _) hrest
  rw [nakAuth_eq] at hauth
  cases hhere : authHere go a.c with
  | false =>
    rw [hhere] at hauth
    obtain rfl := Option.some.inj hauth
    exact Or.inl ⟨htried.trans hm.tryop, fun hasks => hm.passed ▸ hnone hasks⟩
  | true =>
    rw [hhere, if_pos rfl] at hauth
    obtain ⟨t', hreply, rfl⟩ := Option.map_eq_some_iff.mp hauth
    have hat := hhere
    simp only [authHere, Bool.and_eq_true, decide_eq_true_eq, beq_iff_eq] at hat
    obtain ⟨⟨⟨⟨hasks, -⟩, h0⟩, hn⟩, hl⟩ := hat
    refine Or.inr ⟨a.c, hm.fits, hhere, ?_, ?_⟩
    · have hone : authOptions a.c.p a.c.len = [a.c.p.take (byteAt a.c.p 1).toNat] := by
        have hci : Ci.auth ⟨byteAt a.c.p 0, (byteAt a.c.p 1).toNat, a.c.p, true⟩ = true :=
          beq_iff_eq.mpr h0
        have hrest := hnone hasks
        unfold authOptions at hrest ⊢
        rw [options_skip (Nat.le_trans (by decide) hn) hl rfl, List.filter_cons, hci,
          if_pos rfl, List.map_cons, hrest]
        rfl
      exact hm.passed ▸ hone
    · rw [← authReply_congr hm.tryop, hreply, Option.map_some, htried]

/-! ## 3. What LCP asks for in a run -/

/-- One authentication protocol is wanted at most, CHAP with MD5 only, and no other is asked
    for. -/
structure AuthPart.Within (go wo : AuthPart) : Prop where
  eap : wo.negEap = false ∧ go.negEap = false
  one : wo.negChap = true → wo.negUpap = false
  digest : wo.negChap = true → wo.chapMdtype = MDTYPE_MD5
  chap : go.negChap = true → wo.negChap = true ∧ go.chapMdtype = MDTYPE_MD5
  pap : go.negUpap = true → wo.negUpap = true

theorem candigest_md5 {digest : UInt8} (h : chapCandigest MDTYPE_MD5 digest = true) :
    digest = CHAP_MD5 := by
  unfold chapCandigest chapMdtypeD at h
  split_ifs at h with h1 h2 h3
  · cases h
  · cases h
  · exact h3
  · cases h

/-- **What LCP asks for after a Nak of its authentication option.** The same again, if it asked
    for CHAP and was answered with CHAP and MD5; nothing otherwise, or PAP if that was asked for
    behind CHAP. -/
theorem authReply_cases (he : go.negEap = false)
    (hd : go.negChap = true → go.chapMdtype = MDTYPE_MD5) {cishort : UInt16} {cilen : Nat}
    {cichar : UInt8} {q : AuthPart}
    (h : (authReply go go cishort cilen cichar).map authPart = some q) :
    (go.negChap = true ∧ cishort = PPP_CHAP ∧ cilen = CILEN_CHAP ∧ cichar = CHAP_MD5 ∧
      q = go.authPart) ∨
    (q.negEap = false ∧ q.negChap = false ∧
      (q.negUpap = true → go.negChap = true ∧ go.negUpap = true) ∧
      (go.negChap = false → ¬ (cishort = PPP_PAP ∧ cilen = CILEN_SHORT))) := by
  by_cases hpap : cishort = PPP_PAP ∧ cilen = CILEN_SHORT
  · cases hc : go.negChap with
    | false =>
      simp only [authReply, hpap, he, hc] at h
      cases h
    | true =>
      simp only [authReply, hpap, he, hc] at h
      obtain rfl := Option.some.inj h
      exact Or.inr ⟨rfl, rfl, fun hu => ⟨rfl, hu⟩, fun hf => by cases hf⟩
  by_cases hchap : cishort = PPP_CHAP ∧ cilen = CILEN_CHAP
  · cases hc : go.negChap with
    | false =>
      simp only [authReply, hchap, he, hc] at h
      obtain rfl := Option.some.inj h
      exact Or.inr ⟨rfl, rfl, fun hu => absurd hu Bool.false_ne_true, fun _ => hpap⟩
    | true =>
      simp only [authReply, hchap, he, hc, hd hc] at h
      -- the comparison is with the mask 4, so that it refuses the digest 4 only
      by_cases hdiff : chapDigestDiffers cichar MDTYPE_MD5 = true
      · by_cases hcan : chapCandigest MDTYPE_MD5 cichar = true
        · have hmd := candigest_md5 hcan
          rw [if_pos hdiff, if_pos hcan, hmd] at h
          obtain rfl := Option.some.inj h
          refine Or.inl ⟨rfl, hchap.1, hchap.2, hmd, ?_⟩
          unfold authPart
          rw [he, hc, hd hc]
          rfl
        · simp only [hdiff, hcan] at h
          obtain rfl := Option.some.inj h
          exact Or.inr ⟨rfl, rfl, fun hu => ⟨rfl, hu⟩, fun hf => by cases hf⟩
      · rw [if_neg hdiff] at h
        cases h
  · cases hc : go.negChap with
    | false =>
      simp only [authReply, hpap, hchap, he, hc] at h
      obtain rfl := Option.some.inj h
      exact Or.inr ⟨rfl, rfl, fun hu => absurd hu Bool.false_ne_true, fun _ => hpap⟩
    | true =>
      simp only [authReply, hpap, hchap, he, hc] at h
      obtain rfl := Option.some.inj h
      exact Or.inr ⟨rfl, rfl, fun hu => ⟨rfl, hu⟩, fun hf => by cases hf⟩

theorem within_want (authType : UInt16) :
    (want authType).authPart.Within (want authType).authPart where
  eap := ⟨rfl, rfl⟩
  one h := by
    obtain rfl : authType = PPP_CHAP := beq_iff_eq.mp h
    rfl
  digest h := if_pos (beq_iff_eq.mp h)
  chap h := ⟨h, if_pos (beq_iff_eq.mp h)⟩
  pap h := h

theorem AuthPart.Within.less {a go wo : AuthPart} (h : go.Within wo) (he : a.negEap = false)
    (hc : a.negChap = true → go.negChap = true) (hu : a.negUpap = true → go.negUpap = true)
    (hm : a.negChap = true → a.chapMdtype = go.chapMdtype) : a.Within wo where
  eap := ⟨h.eap.1, he⟩
  one := h.one
  digest := h.digest
  chap ha := ⟨(h.chap (hc ha)).1, (hm ha).trans (h.chap (hc ha)).2⟩
  pap ha := h.pap (hu ha)

theorem within_rejScan {wo : AuthPart} {p : Bytes} (h : go.rejScan p n = some t)
    (hgo : go.authPart.Within wo) : t.authPart.Within wo := by
  rw [rejScan_eq] at h
  obtain ⟨s, hs, hlen⟩ := Option.bind_eq_some_iff.mp h
  have hkept : s.2.authPart.Within wo := by
    refine menu.rej_keeps (P := fun t => t.authPart.Within wo) (fun k t ht => ?_) hs hgo
    cases k with
    | eap => exact ht.less rfl id id fun _ => rfl
    | chap => exact ht.less rfl (fun h => by cases h) (fun h => by cases h) fun _ => rfl
    | pap => exact ht.less ht.eap.2 id (fun h => by cases h) fun _ => rfl
    | _ => exact ht
  split at hlen
  · exact Option.some.inj hlen ▸ hkept
  · cases hlen

end LcpOptions

open LcpOptions

theorem Takes.within {l : CPPPLCP} {go : LcpOptions} (h : Takes l go)
    (hl : l.go.authPart.Within l.wo.authPart) : go.authPart.Within l.wo.authPart := by
  cases h with
  | same => exact hl
  | rej h => exact within_rejScan h hl
  | nak k h =>
    rcases nakScan_auth h with ⟨hsame, -⟩ | ⟨c, -, -, -, hreply⟩
    · exact hsame ▸ hl
    rcases authReply_cases hl.eap.2 (fun hc => (hl.chap hc).2) hreply with
      ⟨-, -, -, -, hsame⟩ | ⟨he, hc, hu, -⟩
    · exact hsame ▸ hl
    · refine hl.less he (fun h => ?_) (fun h => (hu h).2) fun h => ?_
      · exact absurd (hc.symm.trans h) Bool.false_ne_true
      · exact absurd (hc.symm.trans h) Bool.false_ne_true

/-- LCP asks for what is wanted, as far as authentication goes. -/
def AuthKept (v : LcpView) : Prop := v.lcp.go.authPart.Within v.lcp.wo.authPart

theorem AuthKept.reset {l : CPPPLCP} (h : l.go.authPart.Within l.wo.authPart) (magic : UInt32) :
    (LcpView.resetLcp magic l).go.authPart.Within (LcpView.resetLcp magic l).wo.authPart where
  eap := ⟨h.eap.1, h.eap.1⟩
  one := h.one
  digest := h.digest
  chap hc := ⟨hc, h.digest hc⟩
  pap hu := hu

theorem AuthKept.deed {v w : LcpView} (hd : Deed v w) (h : AuthKept v) : AuthKept w := by
  unfold AuthKept at h ⊢
  cases hd with
  | calm | rest | shift | mark => exact h
  | answer | reject | termReq => rw [LcpView.send_lcp]; exact h
  | take hgo hs => exact hgo.within h
  | renew hgo hs => rw [LcpView.lcp_request]; exact hgo.within h
  | fresh magic hs =>
    have hreset := AuthKept.reset h magic
    rw [show ∀ u : LcpView, (u.goto .reqSent).lcp.go = u.lcp.go from fun _ => rfl,
      show ∀ u : LcpView, (u.goto .reqSent).lcp.wo = u.lcp.wo from fun _ => rfl,
      LcpView.lcp_request]
    exact hreset
  | fall hf hw =>
    obtain ⟨l, hl, hlcp⟩ := hf.lcp
    have hoff : (LcpView.echoOff l).go = l.go ∧ (LcpView.echoOff l).wo = l.wo := by
      unfold LcpView.echoOff
      split <;> exact ⟨rfl, rfl⟩
    have hkept : l.go.authPart.Within l.wo.authPart := by
      rcases hl with ⟨go, hgo, rfl⟩ | ⟨magic, rfl⟩
      · exact hgo.within h
      · exact AuthKept.reset h magic
    rw [hlcp]
    rw [hoff.1, hoff.2]
    exact hkept

theorem AuthKept.risen {v : LcpView} (h : AuthKept v) : AuthKept v.risen := by
  obtain ⟨hgo, hwo, -⟩ := v.risen_keeps
  have hauth : v.lcp.go.settled.authPart = v.lcp.go.authPart := by
    unfold settled
    split <;> rfl
  unfold AuthKept
  rw [hgo, hwo, hauth]
  exact h

theorem AuthKept.step {v w : LcpView} {e : Exec.LcpEvent} (hstep : Exec.LcpStep v w e)
    (h : AuthKept v) : AuthKept w := by
  have deeds : ∀ {u x : LcpView}, Deeds u x → AuthKept u → AuthKept x := fun hd hu =>
    hd.keeps AuthKept.deed hu
  have sent : ∀ {u : LcpView} {code id : UInt8} {data : Bytes} {n : Nat}, AuthKept u →
      AuthKept (u.send code id data n) := by
    intro u code id data n hu
    unfold AuthKept
    rw [LcpView.send_lcp]
    exact hu
  cases e with
  | plain => exact deeds hstep h
  | resend =>
    obtain ⟨-, rfl⟩ := hstep
    exact sent (u := v) h
  | rise =>
    obtain ⟨u, f, hu, -, -, hd⟩ := hstep
    refine deeds hd (AuthKept.risen ?_)
    rcases hu with rfl | ⟨id, data, n, rfl⟩
    · exact h
    · exact sent (u := v) h
  | ping =>
    obtain ⟨-, -, rfl⟩ := hstep
    exact sent (u := v) h
  | fail =>
    obtain ⟨u, hd, -, rfl⟩ := hstep
    have hu := deeds hd h
    exact hu
  | pong id inp len =>
    obtain ⟨-, rfl⟩ := hstep
    exact sent h
  | heard =>
    obtain rfl := hstep
    exact h

namespace Exec

/-- What holds of a session between two events. -/
structure AuthRun (s : Exec) : Prop where
  labelled : Labelled s
  within : AuthKept s.lcpView

theorem authRun_run (c : Config) (es : List Event) : AuthRun (run step (start c) es) := by
  refine run_keeps (I := AuthRun) (fun s e h => ?_) ?_ es
  · obtain ⟨hl, hstep⟩ := step_lcp h.labelled e
    exact ⟨hl, h.within.step hstep⟩
  have hr := start_reached c
  refine ⟨hr.labelled, hr.deeds.keeps AuthKept.deed ?_⟩
  exact (within_want c.authType).less rfl (fun h => by cases h) (fun h => by cases h)
    fun h => by cases h

/-! ## 4. Naks in a run -/

/-- The authentication option of the request built from the options LCP has got. -/
def requestedAuth (s : Exec) : List Bytes :=
  authOptions (nextRequest lcpCi s).1.1 (nextRequest lcpCi s).1.1.length

/-- The option of an authentication protocol enabled in `wo`, with a digest enabled there. -/
def Enabled (wo : LcpOptions) (b : Bytes) : Prop :=
  (wo.negEap = true ∧ b = addciShort CI_AUTHTYPE true PPP_EAP) ∨
  (wo.negUpap = true ∧ b = addciShort CI_AUTHTYPE true PPP_PAP) ∨
  (wo.negChap = true ∧ ∃ digest, chapCandigest wo.chapMdtype digest = true ∧
    b = [CI_AUTHTYPE, 5] ++ putShort PPP_CHAP ++ [digest])

/-- CHAP with MD5. -/
def chapOption : Bytes := [CI_AUTHTYPE, 5] ++ putShort PPP_CHAP ++ [CHAP_MD5]

def papOption : Bytes := addciShort CI_AUTHTYPE true PPP_PAP

/-- What a Nak may do to the authentication option. -/
structure NakHeeded (p : Bytes) (len : Nat) (treatAsReject : Bool) (s : Exec) : Prop where
  /-- the next request asks for what is wanted, or for nothing -/
  enabled : (lcpSink.nakci p len treatAsReject s).1 ≠ 0 → s.lcp.fsm.state ≠ .opened →
    ∀ b ∈ requestedAuth (lcpSink.nakci p len treatAsReject s).2, Enabled s.lcp.wo b
  /-- and not for what the peer has objected to -/
  differs : (lcpSink.nakci p len treatAsReject s).1 ≠ 0 → s.lcp.fsm.state ≠ .opened →
    authOptions p len ≠ [] → ∀ b ∈ requestedAuth s,
      b ∉ requestedAuth (lcpSink.nakci p len treatAsReject s).2
  /-- the peer may not name what we asked for -/
  back : ∀ b ∈ requestedAuth s, b ∈ authOptions p len →
    (lcpSink.nakci p len treatAsReject s).1 = 0
  refused : (lcpSink.nakci p len treatAsReject s).1 = 0 →
    (lcpSink.nakci p len treatAsReject s).2.lcp.go = s.lcp.go

theorem requestedAuth_eq (s : Exec) : requestedAuth s = s.lcp.go.authPart.options :=
  authOptions_addci s.lcp.go

theorem lcpNakci_cases (p : Bytes) (len : Nat) (r : Bool) (s : Exec) :
    ((nakScan s.lcp.go s.lcp.wo s.rand s.draws p len r).1 = none ∧
      (lcpSink.nakci p len r s).1 = 0 ∧ (lcpSink.nakci p len r s).2.lcp.go = s.lcp.go) ∨
    ∃ t loopedBack draws,
      nakScan s.lcp.go s.lcp.wo s.rand s.draws p len r = (some (t, loopedBack), draws) ∧
      (lcpSink.nakci p len r s).1 = 1 ∧
      (s.lcp.fsm.state ≠ .opened →
        (lcpSink.nakci p len r s).2.lcp.go.authPart = t.authPart) := by
  rw [show lcpSink.nakci = lcpNakci from rfl]
  unfold lcpNakci
  rcases hscan : nakScan s.lcp.go s.lcp.wo s.rand s.draws p len r with ⟨scan, draws⟩
  cases scan with
  | none => exact Or.inl ⟨rfl, rfl, rfl⟩
  | some scan =>
    obtain ⟨t, loopedBack⟩ := scan
    refine Or.inr ⟨t, loopedBack, draws, rfl, ?_⟩
    dsimp only
    split
    · rename_i hs
      exact ⟨rfl, fun h => absurd hs h⟩
    · exact ⟨rfl, fun _ => rfl⟩

theorem options_of_within {go wo : AuthPart} (h : go.Within wo) :
    go.options = if go.negChap then [chapOption] else if go.negUpap then [papOption] else [] := by
  unfold AuthPart.options
  rw [h.eap.2]
  cases hc : go.negChap with
  | false => rfl
  | true =>
    rw [(h.chap hc).2]
    rfl

theorem options_eq_nil {go : LcpOptions} (h : go.asksAuth = false) : go.authPart.options = [] := by
  simp only [asksAuth, Bool.or_eq_false_iff] at h
  unfold AuthPart.options authPart
  rw [h.1.1, h.1.2, h.2]
  rfl

theorem enabled_of_within {s : Exec} {go : AuthPart} (h : go.Within s.lcp.wo.authPart) {b : Bytes}
    (hb : b ∈ go.options) : Enabled s.lcp.wo b := by
  rw [options_of_within h] at hb
  split at hb
  · rename_i hc
    obtain ⟨hwo, -⟩ := h.chap hc
    refine Or.inr (Or.inr ⟨hwo, CHAP_MD5, ?_, List.mem_singleton.mp hb⟩)
    rw [show s.lcp.wo.chapMdtype = MDTYPE_MD5 from h.digest hwo]
    rfl
  · split at hb
    · rename_i hu
      exact Or.inr (Or.inl ⟨h.pap hu, List.mem_singleton.mp hb⟩)
    · cases hb

/-- The option at the cursor is the one our request has exactly if it reads so. -/
theorem take_eq_iff {k : Kind} (hk : k.opt = CI_AUTHTYPE) (go : LcpOptions) {go' : LcpOptions}
    {c : Cursor} (hfit : c.Fits) (hhere : authHere go' c = true) :
    c.p.take (byteAt c.p 1).toNat = k.bytes go ↔
      (byteAt c.p 1).toNat = (k.bytes go).length ∧ k.value go c.p = true := by
  simp only [authHere, Bool.and_eq_true, decide_eq_true_eq, beq_iff_eq] at hhere
  obtain ⟨⟨⟨-, h0⟩, -⟩, hl⟩ := hhere
  have hroom : (byteAt c.p 1).toNat ≤ c.p.length := hl.trans hfit
  constructor
  · intro htake
    have hlen : (byteAt c.p 1).toNat = (k.bytes go).length := by
      rw [← htake, List.length_take, Nat.min_eq_left hroom]
    rw [hlen] at htake hroom
    exact ⟨hlen, ((k.shape go).reads c.p hroom).mpr htake |>.2.2⟩
  · rintro ⟨hlen, hval⟩
    have hroom' := hlen ▸ hroom
    rw [hlen]
    exact ((k.shape go).reads c.p hroom').mp ⟨hlen, h0.trans hk.symm, hval⟩

/-- A Nak that does not name CHAP back does as it should. -/
theorem nakHeeded_of_within {s : Exec} (h : s.lcp.go.authPart.Within s.lcp.wo.authPart) {p : Bytes}
    {len : Nat} (hp : len ≤ p.length) (r : Bool)
    (hback : s.lcp.go.negChap = true → chapOption ∉ authOptions p len) : NakHeeded p len r s := by
  rcases lcpNakci_cases p len r s with ⟨-, hbad, hsame⟩ | ⟨t, loopedBack, draws, hscan, hgood, hnext⟩
  · exact ⟨fun hn => absurd hbad hn, fun hn => absurd hbad hn, fun _ _ _ => hbad, fun _ => hsame⟩
  have hone : (lcpSink.nakci p len r s).1 ≠ 0 := by
    rw [hgood]
    decide
  rcases nakScan_auth hscan with ⟨hsame, hnone⟩ | ⟨c, hfit, hhere, hlist, hreply⟩
  · have hlist : ∀ b ∈ s.lcp.go.authPart.options, authOptions p len = [] := by
      intro b hb
      refine hnone (Bool.eq_true_of_not_eq_false fun hoff => ?_)
      rw [options_eq_nil hoff] at hb
      cases hb
    refine ⟨fun _ hs b hb => ?_, fun _ _ hne b hb => ?_, fun b hb hin => ?_, fun hz => absurd hz hone⟩
    · rw [requestedAuth_eq, hnext hs, hsame] at hb
      exact enabled_of_within h hb
    · exact absurd (hlist b (requestedAuth_eq s ▸ hb)) hne
    · rw [hlist b (requestedAuth_eq s ▸ hb)] at hin
      cases hin
  · rcases authReply_cases h.eap.2 (fun hc => (h.chap hc).2) hreply with
      ⟨hc, hshort, hlen, hdigest, -⟩ | ⟨he, hc, hu, hpap⟩
    · have htake : c.p.take (byteAt c.p 1).toNat = chapOption := by
        refine (take_eq_iff (k := .chap) rfl { chapMdtype := MDTYPE_MD5 } (hfit hp)
          hhere).mpr ⟨hlen, ?_⟩
        show (getShort c.p 2 == PPP_CHAP && byteAt c.p 4 == CHAP_MD5) = true
        rw [hshort, hdigest]
        rfl
      exact absurd (by rw [hlist, htake]; exact List.mem_singleton.mpr rfl) (hback hc)
    · have hoff : t.authPart.options = [] := by
        have hu' : t.authPart.negUpap = false := by
          refine Bool.eq_false_iff.mpr fun hup => ?_
          obtain ⟨hgc, hgu⟩ := hu hup
          exact Bool.false_ne_true ((h.one (h.chap hgc).1).symm.trans (h.pap hgu))
        unfold AuthPart.options
        rw [he, hc, hu']
        rfl
      have hnext' : s.lcp.fsm.state ≠ .opened →
          requestedAuth (lcpSink.nakci p len r s).2 = [] := fun hs => by
        rw [requestedAuth_eq, hnext hs, hoff]
      refine ⟨fun _ hs b hb => ?_, fun _ hs _ b _ hb => ?_, fun b hb hin => ?_,
        fun hz => absurd hz hone⟩
      · rw [hnext' hs] at hb
        cases hb
      · rw [hnext' hs] at hb
        cases hb
      · rw [requestedAuth_eq, options_of_within h] at hb
        split at hb
        · rename_i hgc
          exact absurd (List.mem_singleton.mp hb ▸ hin) (hback hgc)
        split at hb
        · rename_i hgc hgu
          rw [List.mem_singleton.mp hb, hlist] at hin
          obtain ⟨hlen, hval⟩ := (take_eq_iff (k := .pap) rfl {} (hfit hp) hhere).mp
            (List.mem_singleton.mp hin).symm
          exact absurd ⟨beq_iff_eq.mp hval, hlen⟩ (hpap (Bool.eq_false_iff.mpr hgc))
        · cases hb

/-- **CHAP named back is not refused.** -/
theorem nakScan_chapOption {go wo : LcpOptions} (h : go.authPart.Within wo.authPart)
    (hc : go.negChap = true) (rand : Nat → UInt32) (draws : Nat) (r : Bool) :
    ∃ t, (nakScan go wo rand draws chapOption chapOption.length r).1 = some t := by
  have hhere : authHere go ⟨chapOption, chapOption.length⟩ = true := by
    unfold authHere
    rw [hc]
    rfl
  obtain ⟨t, hreply⟩ : ∃ t, authReply go go (getShort chapOption 2)
      (byteAt chapOption 1).toNat (byteAt chapOption 4) = some t := by
    have hm : go.chapMdtype = MDTYPE_MD5 := (h.chap hc).2
    have he : go.negEap = false := h.eap.2
    unfold authReply
    rw [if_neg (by decide), if_pos ⟨rfl, rfl⟩, he, hc, hm]
    exact ⟨_, rfl⟩
  have hauth : ∃ a, nakAuth go { c := ⟨chapOption, chapOption.length⟩, tryop := go, draws := draws } =
      some a ∧ a.c.len = 0 := by
    rw [nakAuth_eq, if_pos hhere, hreply]
    exact ⟨_, rfl, rfl⟩
  obtain ⟨a, hauth, hlen⟩ := hauth
  have hfirst : ∀ opt ≠ CI_AUTHTYPE, ∀ neg n code,
      nakOption neg opt n code { c := ⟨chapOption, chapOption.length⟩, tryop := go, draws := draws } =
        { c := ⟨chapOption, chapOption.length⟩, tryop := go, draws := draws } := by
    intro opt ho neg n code
    refine nakOption_other ?_
    have hb : (byteAt chapOption 0 == opt) = false := beq_false_of_ne (Ne.symm ho)
    unfold Cursor.at_
    rw [hb, Bool.and_false]
  -- nothing is left behind the option
  have hrest : ∀ neg opt n code, 2 ≤ n → nakOption neg opt n code a = a := by
    intro neg opt n code hn
    refine nakOption_other ?_
    unfold Cursor.at_
    rw [hlen, decide_eq_false (by omega), Bool.false_and, Bool.false_and]
  have hend : nakEndpoint go a = a := if_neg (by simp [hlen, CILEN_CHAR])
  unfold nakScan
  dsimp only
  rw [hfirst CI_MRU (by decide), hfirst CI_ASYNCMAP (by decide), hauth]
  dsimp only
  rw [hrest, hrest, hrest, hrest, hrest, hrest, hrest, hend, hlen]
  · exact ⟨_, rfl⟩
  all_goals decide

/-- **Naks of the authentication option**, in every state a session comes to. They do as they
    should but for one: CHAP named back to us while we ask for CHAP. -/
theorem naks_heeded_iff (c : Config) (es : List Event) :
    (∀ p len r, len ≤ p.length →
      ((run step (start c) es).lcp.go.negChap = true → chapOption ∉ authOptions p len) →
      NakHeeded p len r (run step (start c) es)) ∧
    ((∀ p len r, len ≤ p.length → NakHeeded p len r (run step (start c) es)) ↔
      (run step (start c) es).lcp.go.negChap = false) := by
  have h : AuthKept (run step (start c) es).lcpView := (authRun_run c es).within
  generalize run step (start c) es = s at h ⊢
  change s.lcp.go.authPart.Within s.lcp.wo.authPart at h
  refine ⟨fun p len r hp hback => nakHeeded_of_within h hp r hback, fun hall => ?_, fun hc => ?_⟩
  · refine Bool.eq_false_iff.mpr fun hc => ?_
    have hasked : chapOption ∈ requestedAuth s := by
      rw [requestedAuth_eq, options_of_within h, show s.lcp.go.authPart.negChap = true from hc]
      exact List.mem_singleton.mpr rfl
    have hnamed : chapOption ∈ authOptions chapOption chapOption.length := by decide
    have hbad := (hall chapOption chapOption.length false (Nat.le_refl _)).back _ hasked hnamed
    obtain ⟨t, ht⟩ := nakScan_chapOption h hc s.rand s.draws false
    rcases lcpNakci_cases chapOption chapOption.length false s with
      ⟨hnone, -⟩ | ⟨-, -, -, -, hgood, -⟩
    · rw [hnone] at ht
      cases ht
    · rw [hgood] at hbad
      cases hbad
  · intro p len r hp
    exact nakHeeded_of_within h hp r fun hc' => absurd (hc.symm.trans hc') Bool.false_ne_true

/-- The peer names CHAP with MD5 back to us: the Nak is taken, and the next request asks for the
    same. -/
theorem chap_named_back_taken :
    requestedAuth (start (.sample PPP_CHAP)) = [[3, 5, 0xc2, 0x23, 5]] ∧
    (lcpSink.nakci [3, 5, 0xc2, 0x23, 5] 5 false (start (.sample PPP_CHAP))).1 = 1 ∧
    requestedAuth (lcpSink.nakci [3, 5, 0xc2, 0x23, 5] 5 false (start (.sample PPP_CHAP))).2 =
      [[3, 5, 0xc2, 0x23, 5]] ∧
    ¬ NakHeeded [3, 5, 0xc2, 0x23, 5] 5 false (start (.sample PPP_CHAP)) := by
  have hasked : requestedAuth (start (.sample PPP_CHAP)) = [[3, 5, 0xc2, 0x23, 5]] := by
    decide +kernel
  have hgood : (lcpSink.nakci [3, 5, 0xc2, 0x23, 5] 5 false (start (.sample PPP_CHAP))).1 = 1 := by
    decide +kernel
  refine ⟨hasked, hgood, by decide +kernel, fun h => ?_⟩
  have hbad := h.back [3, 5, 0xc2, 0x23, 5] (by rw [hasked]; exact List.mem_singleton.mpr rfl)
    (by decide)
  cases hbad

end Exec

end OpenBras
