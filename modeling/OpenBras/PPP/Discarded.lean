/-
  File:      OpenBras/PPP/Discarded.lean
  Subject:   REPLIES THAT DO NOT COUNT: a Configure-Ack, -Nak or -Reject with a wrong identifier,
             after another reply, or with a body the callback refuses (`CPPPFsm::RcvConfAck` and
             `CPPPFsm::RcvConfNakRej`, src/PPP/CPPPFsm.cpp).

  `RcvConfNakRej` writes `m_rnakloops` before it hands the body to the callback, and does not
  take that back when the callback refuses. **`discarded_unchanged_iff`**: a reply that does not
  count leaves the automaton as it was if and only if it is not one of these (`touches`).
-/
import OpenBras.PPP.Ppp

namespace OpenBras

namespace CPPPFsm

variable {σ ω : Type} (L : Lens σ CPPPFsm) (K : IFsmSink σ)

/-! ## 1. When a reply does not count -/

/-- The callback for the code of a reply refuses its body. -/
def refuses (code : UInt8) (inp : Bytes) (len : Nat) (s : σ) : Bool :=
  if code = CONFACK then !(K.ackci inp len s).1
  else if code = CONFNAK then
    (K.nakci inp len (decide ((L.get s).rnakloops + 1 ≥ (L.get s).maxnakloops))
      (L.upd (fun f => { f with rnakloops := f.rnakloops + 1 }) s)).1 == 0
  else (K.rejci inp len (L.upd (fun f => { f with rnakloops := 0 }) s)).1 == 0

/-- A wrong identifier, a reply already seen, or a body the callback refuses. -/
def Discards (code id : UInt8) (inp : Bytes) (len : Nat) (s : σ) : Prop :=
  id ≠ (L.get s).reqid ∨ (L.get s).seenAck = true ∨ refuses L K code inp len s = true

instance (code id : UInt8) (inp : Bytes) (len : Nat) (s : σ) :
    Decidable (Discards L K code id inp len s) :=
  inferInstanceAs (Decidable (_ ∨ _ ∨ _))

/-- The reply is to the request on its way, and `m_rnakloops` gets another value before the body
    is looked at. -/
def touches (code id : UInt8) (f : CPPPFsm) : Bool :=
  id == f.reqid && !f.seenAck && (code == CONFNAK || code == CONFREJ && f.rnakloops != 0)

/-- An owner whose callbacks, when they refuse a body, neither touch the automaton nor send. -/
structure RefusesQuietly (out : σ → ω) : Prop where
  upd : ∀ g s, out (L.upd g s) = out s
  ackci : ∀ inp len s, (K.ackci inp len s).1 = false →
    L.get (K.ackci inp len s).2 = L.get s ∧ out (K.ackci inp len s).2 = out s
  nakci : ∀ inp len treatAsReject s, (K.nakci inp len treatAsReject s).1 = 0 →
    L.get (K.nakci inp len treatAsReject s).2 = L.get s ∧
      out (K.nakci inp len treatAsReject s).2 = out s
  rejci : ∀ inp len s, (K.rejci inp len s).1 = 0 →
    L.get (K.rejci inp len s).2 = L.get s ∧ out (K.rejci inp len s).2 = out s

variable {L K} {out : σ → ω} {code id : UInt8} {inp : Bytes} {len : Nat} {s : σ}

/-! ## 2. What such a reply does -/

theorem rcvConfAck_discarded (h : RefusesQuietly L K out)
    (hd : Discards L K CONFACK id inp len s) :
    L.get (rcvConfAck L K id inp len s) = L.get s ∧ out (rcvConfAck L K id inp len s) = out s := by
  unfold rcvConfAck
  split
  · exact ⟨rfl, rfl⟩
  rename_i hin
  rw [not_or, not_not] at hin
  have hbody : (K.ackci inp len s).1 = false := by
    rcases hd with hid | hseen | href
    · exact absurd hin.1 hid
    · exact absurd hseen hin.2
    · simpa [refuses] using href
  have hquiet := h.ackci inp len s hbody
  generalize K.ackci inp len s = r at hbody hquiet ⊢
  obtain ⟨ok, t⟩ := r
  cases hbody
  exact hquiet

/-- A refused Nak leaves the count one higher, a refused Reject leaves it 0. -/
theorem rcvConfNakRej_discarded (h : RefusesQuietly L K out)
    (hcode : code = CONFNAK ∨ code = CONFREJ) (hd : Discards L K code id inp len s) :
    L.get (rcvConfNakRej L K code id inp len s) =
      (if id ≠ (L.get s).reqid ∨ (L.get s).seenAck then L.get s
        else { L.get s with
          rnakloops := if code = CONFNAK then (L.get s).rnakloops + 1 else 0 }) ∧
    out (rcvConfNakRej L K code id inp len s) = out s := by
  unfold rcvConfNakRej
  by_cases hin : id ≠ (L.get s).reqid ∨ (L.get s).seenAck
  · rw [if_pos hin, if_pos hin]
    exact ⟨rfl, rfl⟩
  rw [if_neg hin, if_neg hin]
  rw [not_or, not_not] at hin
  have href : refuses L K code inp len s = true := by
    rcases hd with hid | hseen | href
    · exact absurd hin.1 hid
    · exact absurd hseen hin.2
    · exact href
  rcases hcode with rfl | rfl
  · -- the callback is asked with the count already raised
    have hbody : (K.nakci inp len (decide ((L.get s).rnakloops + 1 ≥ (L.get s).maxnakloops))
        (L.upd (fun f => { f with rnakloops := f.rnakloops + 1 }) s)).1 = 0 := by
      simpa [refuses, CONFNAK, CONFACK] using href
    obtain ⟨hget, hout⟩ := h.nakci _ _ _ _ hbody
    simp only [if_true, L.get_upd, hbody]
    exact ⟨hget.trans (L.get_upd _ _), hout.trans (h.upd _ _)⟩
  · have hbody : (K.rejci inp len (L.upd (fun f => { f with rnakloops := 0 }) s)).1 = 0 := by
      simpa [refuses, CONFREJ, CONFNAK, CONFACK] using href
    obtain ⟨hget, hout⟩ := h.rejci _ _ _ hbody
    rw [if_neg (by decide), if_neg (by decide)]
    simp only [hbody, if_true]
    exact ⟨hget.trans (L.get_upd _ _), hout.trans (h.upd _ _)⟩

theorem rnakloops_eq_self (f : CPPPFsm) (n : Nat) :
    { f with rnakloops := n } = f ↔ n = f.rnakloops :=
  ⟨fun h => congrArg CPPPFsm.rnakloops h, fun h => by rw [h]⟩

/-- **A reply that does not count leaves everything as it was, unless it touches
    `m_rnakloops`.** -/
theorem dispatch_discarded (h : RefusesQuietly L K out)
    (hcode : code = CONFACK ∨ code = CONFNAK ∨ code = CONFREJ) {inpacket : Bytes}
    (hd : Discards L K code id (inpacket.drop HEADERLEN) len s) :
    (L.get (dispatch L K inpacket code id len s) = L.get s ∧
      out (dispatch L K inpacket code id len s) = out s) ↔ touches code id (L.get s) = false := by
  unfold dispatch
  rcases hcode with rfl | hnakrej
  · rw [if_neg (by decide), if_pos rfl]
    have hack : touches CONFACK id (L.get s) = false := by
      unfold touches
      rw [show (CONFACK == CONFNAK) = false from rfl, show (CONFACK == CONFREJ) = false from rfl]
      simp
    exact iff_of_true (rcvConfAck_discarded h hd) hack
  · have hnot : code ≠ CONFREQ ∧ code ≠ CONFACK := by
      rcases hnakrej with rfl | rfl <;> decide
    rw [if_neg hnot.1, if_neg hnot.2, if_pos hnakrej]
    obtain ⟨hget, hout⟩ := rcvConfNakRej_discarded h hnakrej hd
    rw [hget, hout, and_iff_left rfl]
    unfold touches
    split
    · rename_i hin
      exact iff_of_true rfl (by rcases hin with hid | hseen <;> simp [*])
    rename_i hin
    rw [not_or, not_not, Bool.not_eq_true] at hin
    rw [rnakloops_eq_self, beq_iff_eq.mpr hin.1, hin.2]
    rcases hnakrej with rfl | rfl
    · exact iff_of_false (Nat.succ_ne_self _) (by simp)
    · rw [if_neg (by decide), show (CONFREJ == CONFNAK) = false from rfl]
      simp [eq_comm (a := 0)]

end CPPPFsm

/-! ## 3. LCP and IPCP -/

namespace Exec

open CPPPFsm

theorem lcp_refusesQuietly : RefusesQuietly lcpFsm lcpSink fun s => s.hist.output where
  upd _ _ := rfl
  ackci _ _ _ _ := ⟨rfl, rfl⟩
  nakci inp len treatAsReject s h := by
    change (lcpNakci inp len treatAsReject s).1 = 0 at h
    show lcpFsm.get (lcpNakci inp len treatAsReject s).2 = _ ∧
      (lcpNakci inp len treatAsReject s).2.hist.output = _
    unfold lcpNakci at h ⊢
    dsimp only at h ⊢
    split at h
    · exact ⟨rfl, rfl⟩
    · split at h <;> cases h
  rejci inp len s h := by
    change (lcpRejci inp len s).1 = 0 at h
    show lcpFsm.get (lcpRejci inp len s).2 = _ ∧ (lcpRejci inp len s).2.hist.output = _
    unfold lcpRejci at h ⊢
    split at h
    · exact ⟨rfl, rfl⟩
    · cases h

theorem ipcpGot_refused {tryop : Option IpcpOptions} {s : Exec} (h : (ipcpGot tryop s).1 = 0) :
    (ipcpGot tryop s).2 = s := by
  cases tryop with
  | none => rfl
  | some go => cases h

theorem ipcp_refusesQuietly : RefusesQuietly ipcpFsm ipcpSink fun s => s.hist.output where
  upd _ _ := rfl
  ackci _ _ _ _ := ⟨rfl, rfl⟩
  nakci _ _ _ _ h := ⟨congrArg ipcpFsm.get (ipcpGot_refused h),
    congrArg (fun s : Exec => s.hist.output) (ipcpGot_refused h)⟩
  rejci _ _ _ h := ⟨congrArg ipcpFsm.get (ipcpGot_refused h),
    congrArg (fun s : Exec => s.hist.output) (ipcpGot_refused h)⟩

/-- Neither the automaton has changed nor has anything been sent. -/
def Untouched (L : Lens Exec CPPPFsm) (s t : Exec) : Prop :=
  L.get t = L.get s ∧ t.hist.output = s.hist.output

instance (L : Lens Exec CPPPFsm) (s t : Exec) : Decidable (Untouched L s t) :=
  inferInstanceAs (Decidable (_ ∧ _))

/-- **Which discarded replies leave the automaton alone**, in every state, for LCP and for
    IPCP. -/
theorem discarded_unchanged_iff (s : Exec) (inpacket : Bytes) (code id : UInt8) (len : Nat)
    (hcode : code = CONFACK ∨ code = CONFNAK ∨ code = CONFREJ) :
    (Discards lcpFsm lcpSink code id (inpacket.drop HEADERLEN) len s →
      (Untouched lcpFsm s (CPPPFsm.dispatch lcpFsm lcpSink inpacket code id len s) ↔
        touches code id s.lcp.fsm = false)) ∧
    (Discards ipcpFsm ipcpSink code id (inpacket.drop HEADERLEN) len s →
      (Untouched ipcpFsm s (CPPPFsm.dispatch ipcpFsm ipcpSink inpacket code id len s) ↔
        touches code id s.ipcp.fsm = false)) :=
  ⟨dispatch_discarded lcp_refusesQuietly hcode, dispatch_discarded ipcp_refusesQuietly hcode⟩

/-- A Nak of our magic number, with an old identifier. -/
theorem old_nak_unchanged :
    Discards lcpFsm lcpSink CONFNAK 7 ([CONFNAK, 7, 0, 10, 5, 6, 0, 0, 0, 1].drop HEADERLEN) 6
      (start (Config.sample PPP_PAP)) ∧
    Untouched lcpFsm (start (Config.sample PPP_PAP))
      (CPPPFsm.dispatch lcpFsm lcpSink [CONFNAK, 7, 0, 10, 5, 6, 0, 0, 0, 1] CONFNAK 7 6
        (start (Config.sample PPP_PAP))) := by
  have hd : Discards lcpFsm lcpSink CONFNAK 7
      ([CONFNAK, 7, 0, 10, 5, 6, 0, 0, 0, 1].drop HEADERLEN) 6 (start (Config.sample PPP_PAP)) := by
    decide +kernel
  refine ⟨hd, ((discarded_unchanged_iff _ _ CONFNAK 7 6 (.inr (.inl rfl))).1 hd).mpr ?_⟩
  decide +kernel

/-- A Nak and a Reject of the request on its way whose bodies are refused: both are discarded,
    the Nak raises `m_rnakloops` from 0 to 1 and the Reject, coming after it, takes it back
    to 0. -/
theorem refused_reply_counted :
    let s := start (Config.sample PPP_PAP)
    let t := CPPPFsm.dispatch lcpFsm lcpSink [CONFNAK, 1, 0, 6, 1, 1] CONFNAK 1 2 s
    let u := CPPPFsm.dispatch lcpFsm lcpSink [CONFREJ, 1, 0, 6, 1, 1] CONFREJ 1 2 t
    Discards lcpFsm lcpSink CONFNAK 1 [1, 1] 2 s ∧ Discards lcpFsm lcpSink CONFREJ 1 [1, 1] 2 t ∧
      s.lcp.fsm.rnakloops = 0 ∧ t.lcp.fsm.rnakloops = 1 ∧ u.lcp.fsm.rnakloops = 0 ∧
      ¬ Untouched lcpFsm s t ∧ ¬ Untouched lcpFsm t u := by
  decide +kernel

end Exec

end OpenBras
