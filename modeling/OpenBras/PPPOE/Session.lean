/-
  File:      OpenBras/PPPOE/Session.lean
  Subject:   A SESSION ON THE WIRE (`CSession`, src/PPPOE/CSession.cpp): the frames, PADTs, kicks
             and answers that reach it, its timers, and its removal from the table.

  `sessStep` is the step of a session from `Exec.start` on. A removed session takes no steps: the
  table no longer finds it, and its destructor has cancelled its timer. The host is
  little-endian, as for `swapLong`.

  `sendPADT` does not remove the session: it marks it, and the session goes when the client
  answers with a PADT of its own or the one-off timer expires. Until then a marked session is
  still served: the filter in `ProcessSessData` that should drop its control packets compares
  the protocol field without converting it from network byte order.
-/
import OpenBras.PPP.Phase

namespace OpenBras

open Wire

namespace Exec

open CPPPFsm

/-! ## 1. What reaches a session -/

/-- A session frame that the handler has found sound and addressed to this session. `payload` is
    the receive buffer behind FF 03: `length` bytes of the frame, then what earlier frames left
    there. -/
structure SessFrame where
  dest : Bytes
  source : Bytes
  length : UInt16
  payload : Bytes
  deriving DecidableEq, Repr

/-- A two-byte field read without `ntohs`. -/
def hostShort (p : Bytes) : UInt16 := getShort [byteAt p 1, byteAt p 0] 0

/-- `CSession::ProcessSessData`. -/
def processSessData (f : SessFrame) (s : Exec) : Exec :=
  if f.dest ≠ s.intfMac then s
  else if f.source ≠ s.clientEth then s
  else if s.sessionToBeDeleted ∧ f.length.toNat < 2 then s
  else if s.sessionToBeDeleted ∧ isControl (hostShort f.payload) then s
  else if f.length.toNat > 4 * 1024 - 2 then s
  else input ([PPP_ALLSTATIONS, PPP_UI] ++ f.payload) (f.length.toNat + 2) s

/-- `CPPPOE::RemoveSession` and the destructor. -/
def removeSession (s : Exec) : Exec :=
  { s with oneOffTimer := false, hist := { s.hist with removed := true } }

/-- `CPPPOEDiscoveryHandler::processPADT`, once the session is found. -/
def processPADT (dest source : Bytes) (s : Exec) : Exec :=
  if dest ≠ s.intfMac then s
  else if source ≠ s.clientEth then s
  else if s.sessionToBeDeleted then removeSession s
  else sendPADT "Received PADT" s

/-- `CPPPOE::HandleKickUserNotify`, once the session is found. -/
def handleKickUserNotify (mac : Bytes) (s : Exec) : Exec :=
  if s.clientEth ≠ mac then s else sendPADT "Kick User" s

inductive SessEvent where
  | sessData (f : SessFrame)
  | timer (t : Timer)
  | response (k : Nat) (r : AuthResponse)
  | padt (dest source : Bytes)
  | kick (mac : Bytes)
  /-- the one-off timer, `CSession::handle_timeout` -/
  | oneOff
  deriving DecidableEq, Repr

/-- One event of a session. -/
def sessStep (s : Exec) (e : SessEvent) : Exec :=
  if s.hist.removed then s
  else
    match e with
    | .sessData f => processSessData f s
    | .timer t => expire s t
    | .response k r => response k r s
    | .padt dest source => processPADT dest source s
    | .kick mac => handleKickUserNotify mac s
    | .oneOff => if s.oneOffTimer then removeSession s else s

/-- The session leaves the table in this step. -/
def Removes (s : Exec) : SessEvent → Prop
  | .padt dest source => dest = s.intfMac ∧ source = s.clientEth ∧ s.sessionToBeDeleted = true
  | .oneOff => s.oneOffTimer = true
  | _ => False

instance (s : Exec) : ∀ e, Decidable (Removes s e)
  | .padt dest source => inferInstanceAs (Decidable
      (dest = s.intfMac ∧ source = s.clientEth ∧ s.sessionToBeDeleted = true))
  | .oneOff => inferInstanceAs (Decidable (s.oneOffTimer = true))
  | .sessData _ | .timer _ | .response _ _ | .kick _ => isFalse id

/-! ## 2. Rules -/

variable {s : Exec}

theorem processSessData_keeps {P : Exec → Prop} (f : SessFrame)
    (hinput : P (input ([PPP_ALLSTATIONS, PPP_UI] ++ f.payload) (f.length.toNat + 2) s)) (h : P s) :
    P (processSessData f s) := by
  unfold processSessData
  repeat' split
  all_goals first
    | exact h
    | exact hinput

/-- **What an event of a session can do.** -/
theorem sessStep_cases {P : Exec → Prop} (e : SessEvent) (hinput : ∀ f, e = .sessData f →
      P (input ([PPP_ALLSTATIONS, PPP_UI] ++ f.payload) (f.length.toNat + 2) s))
    (htimer : ∀ t, e = .timer t → P (expire s t))
    (hresponse : ∀ k r, e = .response k r → P (response k r s))
    (hpadt : ∀ reason, P (sendPADT reason s)) (hremove : Removes s e → P (removeSession s))
    (h : P s) : P (sessStep s e) := by
  unfold sessStep
  split
  · exact h
  cases e with
  | sessData f => exact processSessData_keeps f (hinput f rfl) h
  | timer t => exact htimer t rfl
  | response k r => exact hresponse k r rfl
  | padt dest source =>
    show P (processPADT dest source s)
    unfold processPADT
    split
    · exact h
    rename_i hd
    split
    · exact h
    rename_i hsrc
    split
    · rename_i hf
      exact hremove ⟨not_not.mp hd, not_not.mp hsrc, hf⟩
    · exact hpadt _
  | kick mac =>
    show P (handleKickUserNotify mac s)
    unfold handleKickUserNotify
    split
    · exact h
    · exact hpadt _
  | oneOff =>
    dsimp only
    split
    · rename_i ho
      exact hremove ho
    · exact h

theorem Owner.inv_sendPADT {J : Stand → Exec → Prop} (R : Owner J) (reason : String)
    (h : Inv lcpFsm J s) : Inv lcpFsm J (sendPADT reason s) := by
  show J (sendPADT reason s).lcp.fsm.state.stand _
  rw [lcp_sendPADT]
  exact R.padt reason h

/-- **Every event of a session keeps the invariant**, if packets, IPCP's timer, answers, LCP
    giving up in the Dead phase and the removal do. -/
theorem Owner.sessStep {J : Stand → Exec → Prop} (R : Owner J) (e : SessEvent)
    (hinput : ∀ f, e = .sessData f → Inv lcpFsm J
      (Exec.input ([PPP_ALLSTATIONS, PPP_UI] ++ f.payload) (f.length.toNat + 2) s))
    (hlcp : e = .timer .lcp → s.lcp.fsm.timer = true → GivesUpDead s → J .idle (noteFinished s))
    (hipcp : Inv lcpFsm J (ipcpTimeout s))
    (hresponse : ∀ k r, e = .response k r → Inv lcpFsm J (response k r s))
    (hremove : Removes s e → Inv lcpFsm J (removeSession s)) (h : Inv lcpFsm J s) :
    Inv lcpFsm J (s.sessStep e) :=
  sessStep_cases e hinput (fun t he => R.expire t (fun ht => hlcp (by rw [he, ht])) hipcp h)
    hresponse (fun reason => R.inv_sendPADT reason h) hremove h

theorem openPhase_sessStep (e : SessEvent) (h : OpenPhase s) : OpenPhase (s.sessStep e) :=
  sessStep_cases e (fun _ _ => openPhase_step (.input _ _) h) (fun t _ => openPhase_expire t h)
    (fun _ _ _ => openPhase_onAuthResponse _ _ h)
    (fun reason => openPhase_of_same h (congrArg (·.phase) (outsideIpcp_sendPADT reason s))
      (by rw [lcp_sendPADT])) (fun _ => h) h

/-! ## 3. What the protocols do not change -/

/-- What is settled when the session is created, and whether it is in the table. -/
def fixed (s : Exec) : UInt16 × UInt16 × Bytes × UInt32 × Bytes × Bool :=
  (s.lcp.authType, s.sessionid, s.clientEth, s.intfIp, s.intfMac, s.hist.removed)

/-- A type of authentication the engine knows, and reports subscribers for. -/
def Reported (s : Exec) : Prop := s.lcp.authType = PPP_PAP ∨ s.lcp.authType = PPP_CHAP

theorem onIPCPUp_reported (h : Reported s) :
    ∃ username, onIPCPUp s = onAddSubscriber (subscriberInfo username s) s := by
  unfold onIPCPUp
  split
  · exact ⟨_, rfl⟩
  · rename_i hp
    rw [if_pos (h.resolve_left hp)]
    exact ⟨_, rfl⟩

/-- The Network phase is entered only with a type of authentication the engine knows. -/
def TypedNetwork (s : Exec) : Prop := s.phase = .network → Reported s

section Kept

variable {A : Exec → Prop} (R : Owner fun _ => A) (hA : ∀ s, A (outsideIpcp s) ↔ A s)

include R hA

theorem Owner.kept_input (hncp : ∀ {s}, A s → A (noteNcp s))
    (hauth : ∀ {s} r pap chap, A s → A { s with
      pap := pap, chap := chap, hist := { s.hist with requests := s.hist.requests ++ r } })
    (packet : Bytes) (len : Nat) {s : Exec} (h : A s) : A (Exec.input packet len s) := by
  have requests : ∀ {t : Exec} {r}, t.outsideIpcp = { s with
      pap := t.pap, chap := t.chap,
      hist := { s.hist with requests := s.hist.requests ++ r } }.outsideIpcp → A t :=
    fun ht => of_erased outsideIpcp hA ht (hauth _ _ _ h)
  refine R.input packet len (fun _ _ _ => ?_) (fun _ _ => ?_) (fun _ _ => ?_) h
  · exact of_erased outsideIpcp hA (outsideIpcp_ipcpInput _ _ s) (hncp h)
  · show A (papInput _ _ s)
    rw [papInput_eq]
    split
    · exact h
    · exact requests rfl
  · show A (chapInput _ _ s)
    rw [chapInput_eq]
    repeat' split
    · exact h
    · refine requests (r := []) ?_
      rw [List.append_nil]
    · exact requests rfl

theorem Owner.kept_expire (hfin : ∀ {s}, A s → A (noteFinished s)) {s : Exec} (t : Timer)
    (h : A s) : A (s.expire t) :=
  R.expire t (fun _ _ _ => hfin h) (of_erased outsideIpcp hA (outsideIpcp_ipcpTimeout s) h) h

end Kept

theorem fixed_owner (x) : Owner fun _ s => fixed s = x where
  bare h hb := of_erased Exec.bare (A := fun s => fixed s = x) (fun _ => Iff.rfl) hb h
  down {_ s} h := by
    have := of_erased outsideIpcp (A := fun s => fixed s = x) (fun _ => Iff.rfl)
      (outsideIpcp_onLCPDown s) h
    exact ⟨this, this⟩
  padt reason h := of_erased outsideIpcp (A := fun s => fixed s = x) (fun _ => Iff.rfl)
    (outsideIpcp_sendPADT reason _) h

theorem fixed_input (packet : Bytes) (len : Nat) (s : Exec) :
    fixed (input packet len s) = fixed s :=
  (fixed_owner _).kept_input (fun _ => Iff.rfl) (fun h => h) (fun _ _ _ h => h) packet len rfl

theorem fixed_expire (t : Timer) (s : Exec) : fixed (expire s t) = fixed s :=
  (fixed_owner _).kept_expire (fun _ => Iff.rfl) (fun h => h) t rfl

theorem fixed_response (k : Nat) (r : AuthResponse) (s : Exec) :
    fixed (response k r s) = fixed s := by
  refine (fixed_owner (fixed s)).onAuthResponse (s := addressed k r s)
    (fun h _ => h) _ _ (fun protocol t ht _ => ?_) rfl
  have h : fixed t = fixed s := ht.keeps (A := fun t => fixed t = fixed s) (fun _ => Iff.rfl)
    (fun _ h => h) rfl
  exact of_erased outsideIpcp (A := fun t => fixed t = fixed s) (fun _ => Iff.rfl)
    (outsideIpcp_ipcpOpen _) h

theorem typedNetwork_owner : Owner fun _ => TypedNetwork where
  bare h hb := of_erased Exec.bare (fun _ => Iff.rfl) hb h
  down {_ s} h := by
    have hd : TypedNetwork (onLCPDown s) := by
      refine of_erased outsideIpcp (fun _ => Iff.rfl) (outsideIpcp_onLCPDown s) fun hn => ?_
      simp only [newPhase] at hn
      split at hn <;> cases hn
    exact ⟨hd, hd⟩
  padt reason h := of_erased outsideIpcp (fun _ => Iff.rfl) (outsideIpcp_sendPADT reason _) h
  phase _ hph _ := fun hn => absurd hn hph

theorem delivers_typed {result : UInt32} (h : delivers result s = true) : Reported s := by
  by_cases hc : s.lcp.authType = PPP_CHAP
  · exact Or.inr hc
  · unfold delivers at h
    rw [if_neg hc, Bool.and_eq_true] at h
    exact Or.inl (eq_of_beq h.2)

theorem typedNetwork_response (k : Nat) (r : AuthResponse) (h : TypedNetwork s) :
    TypedNetwork (response k r s) := by
  refine typedNetwork_owner.onAuthResponse (s := addressed k r s)
    (fun h _ => h) _ _ (fun protocol t ht hd => ?_) h
  have hl : t.lcp = s.lcp := ht.lcp
  refine of_erased outsideIpcp (fun _ => Iff.rfl) (outsideIpcp_ipcpOpen _) fun _ => ?_
  show t.lcp.authType = PPP_PAP ∨ t.lcp.authType = PPP_CHAP
  rw [hl]
  exact delivers_typed hd

theorem typedNetwork_sessStep (e : SessEvent) (h : TypedNetwork s) : TypedNetwork (s.sessStep e) :=
  sessStep_cases e
    (fun _ _ => typedNetwork_owner.kept_input (fun _ => Iff.rfl) (fun h => h)
      (fun _ _ _ h => h) _ _ h)
    (fun t _ => typedNetwork_owner.kept_expire (fun _ => Iff.rfl) (fun h => h) t h)
    (fun k r _ => typedNetwork_response k r h) (fun reason => typedNetwork_owner.padt (c := .idle)
      reason h) (fun _ => h) h

theorem typedNetwork_start (c : Config) : TypedNetwork (start c) := by
  refine fsmOpen_keeps (J := fun _ => TypedNetwork) typedNetwork_owner.layerRules ?_
  unfold pppInit
  dsimp only
  split <;> exact nofun

/-! ## 4. Sample runs -/

/-- An event of the protocol engine as it reaches a session of the sample configuration. -/
def Event.onWire : Event → SessEvent
  | .input packet len =>
    .sessData { dest := [2, 0, 0, 0, 0, 9], source := [2, 0, 0, 0, 0, 1],
                length := (len - 2).toUInt16, payload := packet.drop 2 }
  | .timer t => .timer t
  | .response k r => .response k r

/-- A PAP session comes up, with the address 10.0.0.1 for the client. -/
def SessEvent.sessionUp : List SessEvent :=
  (Event.papRequested ++ [Event.accept] ++ Event.ipcpOpened).map Event.onWire

end Exec

end OpenBras
