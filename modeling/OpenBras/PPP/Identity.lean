/-
  File:      OpenBras/PPP/Identity.lean
  Subject:   THE NAME A SUBSCRIBER IS REGISTERED UNDER, over every run of a session, against the
             name of the request whose acceptance opened the Network phase.

  The servers keep the peer's name in `m_username` and overwrite it with every request they
  read, whether it is ever answered or not; `CPPP::OnIPCPUp` reports what stands there when
  IPCP comes up. So a peer that is accepted under one name can be registered under another,
  by sending one more request.

  * `Named` -- a session, and the request whose answer opened the present Network phase;
  * `Registered`, `Identified` -- a subscriber is registered under the name of that request, and
    in the Network phase no packet puts another name in its place;
  * **`subscriber_name_accepted`**: both hold throughout a run if in the Network phase no other
    name is read, and the response that opens it answers a request with the name last read.
  `second_name_registered` is a run without the first condition.
-/
import OpenBras.Lib.Run
import OpenBras.PPP.Phase

namespace OpenBras

open Wire

namespace Exec

open CPPPFsm

/-! ## 1. The property -/

/-- The request is accepted and carries the name. -/
def NameOf (s : Exec) (granted : Option Nat) (name : Bytes) : Prop :=
  ∃ k ∈ granted, k ∈ s.hist.accepted ∧ ∃ i ∈ s.hist.requests[k]?, i.request.username = name

instance (s : Exec) (granted : Option Nat) (name : Bytes) : Decidable (NameOf s granted name) :=
  inferInstanceAs (Decidable (∃ k ∈ granted, k ∈ s.hist.accepted ∧ ∃ i ∈ s.hist.requests[k]?,
    i.request.username = name))

/-- The name the configured server would report now. -/
def identity (s : Exec) : Bytes :=
  nameField (if s.lcp.authType = PPP_CHAP then s.chap.username else s.pap.username)

/-- The name the configured server reads in a packet. -/
def nameIn (packet : Bytes) (len : Nat) (s : Exec) : Option Bytes :=
  let (protocol, p, n) := protocolOf packet len
  if protocol = PPP_PAP ∧ s.lcp.authType ≠ PPP_CHAP then (papRead p n).map (·.2.1)
  else if protocol = PPP_CHAP ∧ s.lcp.authType = PPP_CHAP then (chapRead p n s).map (·.2)
  else none

/-- The subscribers added and deleted since `s`. -/
def reportedSince (s t : Exec) : List (Option AddNote) :=
  t.hist.subscribers.take (t.hist.subscribers.length - s.hist.subscribers.length)

/-- The request an event answers. -/
def Event.answers : Event → Option Nat
  | .response k _ => some k
  | _ => none

end Exec

/-- A session, and the request whose answer opened the present Network phase. -/
structure Named where
  session : Exec
  granted : Option Nat := none

namespace Named

open Exec

/-- A step of the session; the one that enters the Network phase is recorded. -/
def step (w : Named) (e : Event) : Named where
  session := w.session.step e
  granted :=
    if w.session.phase ≠ .network ∧ (w.session.step e).phase = .network then e.answers
    else w.granted

/-- Who is reported in this step is reported under the name of the request that opened the
    Network phase, and that request was accepted. -/
def Registered (w : Named) (e : Event) : Prop :=
  ∀ o ∈ reportedSince w.session (w.step e).session, ∀ n ∈ o,
    NameOf (w.step e).session (w.step e).granted n.user.userName

/-- In the Network phase this is the name that would be reported. -/
def Identified (w : Named) : Prop :=
  w.session.phase = .network → NameOf w.session w.granted (identity w.session)

instance (w : Named) : Decidable (Identified w) := inferInstanceAs (Decidable (_ → _))

instance (w : Named) (e : Event) : Decidable (Registered w e) :=
  inferInstanceAs (Decidable (∀ o ∈ reportedSince _ _, ∀ n ∈ o, NameOf _ _ n.user.userName))

/-- The condition on a step: in the Network phase no other name is read, and a response that
    opens it answers a request with the name last read. -/
def NameKept (w : Named) : Event → Prop
  | .input packet len => w.session.lcp.fsm.state = .opened → w.session.phase = .network →
      ∀ name ∈ nameIn packet len w.session, nameField name = identity w.session
  | .response k r => delivers r.authResult w.session = true → w.session.phase ≠ .network →
      ∃ i ∈ w.session.hist.requests[k]?, i.request.username = identity w.session
  | .timer _ => True

instance (w : Named) : ∀ e, Decidable (NameKept w e)
  | .input packet len => inferInstanceAs (Decidable (_ → _ →
      ∀ name ∈ nameIn packet len w.session, nameField name = identity w.session))
  | .response k _ => inferInstanceAs (Decidable (_ → _ →
      ∃ i ∈ w.session.hist.requests[k]?, i.request.username = identity w.session))
  | .timer _ => isTrue trivial

end Named

namespace Exec

open CPPPFsm

/-! ## 2. One step -/

/-- Since `s₀` only names in `N` were reported, and in the Network phase one of them would be;
    nothing was accepted, and the requests go on. -/
def Keeps (N : Bytes → Prop) (s₀ s : Exec) : Prop :=
  (∀ o ∈ reportedSince s₀ s, ∀ n ∈ o, N n.user.userName) ∧
    (s.phase = .network → N (identity s)) ∧
    s.hist.accepted = s₀.hist.accepted ∧ s₀.hist.requests <+: s.hist.requests

variable {N : Bytes → Prop} {s₀ s : Exec}

theorem keeps_start (h : s.phase = .network → N (identity s)) : Keeps N s s := by
  refine ⟨fun o ho => ?_, h, rfl, List.prefix_rfl⟩
  rw [reportedSince, Nat.sub_self] at ho
  cases ho

theorem keeps_sendPADT (reason : String) (h : Keeps N s₀ s) : Keeps N s₀ (sendPADT reason s) := by
  unfold sendPADT
  split <;> exact h

theorem mem_take_cons {α : Type} {l : List α} {x o : α} {m : Nat}
    (h : o ∈ (x :: l).take ((x :: l).length - m)) : o = x ∨ o ∈ l.take (l.length - m) := by
  rw [List.length_cons] at h
  by_cases hm : m ≤ l.length
  · rw [Nat.succ_sub hm, List.take_succ_cons] at h
    exact List.mem_cons.mp h
  · rw [Nat.sub_eq_zero_of_le (by omega)] at h
    cases h

/-- A further note keeps it, if the name in it is one of `N`. -/
theorem Keeps.note {x : Option AddNote} (h : Keeps N s₀ s) (hx : ∀ n ∈ x, N n.user.userName) :
    Keeps N s₀ { s with hist := { s.hist with subscribers := x :: s.hist.subscribers } } := by
  refine ⟨fun o ho => ?_, h.2⟩
  obtain rfl | ho := mem_take_cons ho
  · exact hx
  · exact h.1 o ho

theorem blind_keeps : Blind (Keeps N s₀) where
  ipcp _ h := h
  output p h := of_erased Exec.bare (fun _ => Iff.rfl) (bare_onPPPOutput p _) h
  down h := keeps_sendPADT _ (h.note nofun)

theorem keeps_onLCPDown (h : Keeps N s₀ s) : Keeps N s₀ (onLCPDown s) :=
  blind_keeps.onLCPDown (fun h => ⟨h.1, nofun, h.2.2⟩) keeps_sendPADT h

/-- A name in the servers' fields that reports the same keeps it. -/
theorem Keeps.same {t : Exec} (h : Keeps N s₀ s) (hh : t.hist = s.hist) (hp : t.phase = s.phase)
    (hi : identity t = identity s) : Keeps N s₀ t := by
  unfold Keeps reportedSince
  rw [hh, hp, hi]
  exact h

theorem identity_chap {c : CChapProtocolSvr} (h : c.username = s.chap.username) :
    identity { s with chap := c } = identity s := by
  unfold identity
  rw [h]

theorem keeps_owner : Owner fun _ => Keeps N s₀ where
  bare h hb := of_erased Exec.bare (fun _ => Iff.rfl) hb h
  down h := ⟨keeps_onLCPDown h, keeps_onLCPDown h⟩
  padt reason h := keeps_sendPADT reason h
  phase _ hph h := ⟨h.1, fun hn => absurd hn hph, h.2.2⟩
  chapQuiet h hq := h.same rfl rfl (identity_chap hq.username)
  challenge h _ _ _ hu := h.same rfl rfl (identity_chap hu)
  chapDone h _ hu := h.same rfl rfl (identity_chap hu)

/-! ## 3. Packets -/

/-- The name a packet leaves with the PAP server. -/
theorem identity_papInput {packet p : Bytes} {len n : Nat}
    (hp : protocolOf packet len = (PPP_PAP, p, n)) (s : Exec) :
    identity (papInput p n s) = ((nameIn packet len s).map nameField).getD (identity s) := by
  have hne : PPP_PAP ≠ PPP_CHAP := by decide
  rw [papInput_eq]
  by_cases hc : s.lcp.authType = PPP_CHAP
  · cases papRead p n <;>
      simp [nameIn, identity, papRequest, sendAuthRequest2AM, hp, hc, hne]
  · cases hr : papRead p n <;>
      simp [nameIn, identity, papRequest, sendAuthRequest2AM, hp, hc, hr]

/-- The name a packet leaves with the CHAP server. -/
theorem identity_chapInput {packet p : Bytes} {len n : Nat}
    (hp : protocolOf packet len = (PPP_CHAP, p, n)) (s : Exec) :
    identity (chapInput p n s) = ((nameIn packet len s).map nameField).getD (identity s) := by
  have hne : PPP_CHAP ≠ PPP_PAP := by decide
  have stored : ∀ name, identity { s with chap := chapNamed name s.chap } =
      if s.lcp.authType = PPP_CHAP then nameField name else identity s := by
    intro name
    unfold identity
    split <;> rfl
  have asked : ∀ response name, identity (chapRequest response name s) =
      identity { s with chap := chapNamed name s.chap } := fun _ _ => rfl
  rw [chapInput_eq]
  cases hr : chapRead p n s with
  | none => simp [nameIn, hp, hne, hr]
  | some c =>
    dsimp only
    by_cases hc : s.lcp.authType = PPP_CHAP
    · split <;> simp [nameIn, hp, hc, hne, hr, stored, asked]
    · split <;> simp [nameIn, hp, hc, hne, stored, asked]

/-- A server's packet keeps it, if the name it leaves is one of `N`. -/
theorem Keeps.served {t : Exec} (h : Keeps N s₀ s)
    (hsub : t.hist.subscribers = s.hist.subscribers) (ha : t.hist.accepted = s.hist.accepted)
    (hr : s.hist.requests <+: t.hist.requests) (hn : t.phase = .network → N (identity t)) :
    Keeps N s₀ t := by
  refine ⟨?_, hn, ha.trans h.2.2.1, h.2.2.2.trans hr⟩
  unfold reportedSince
  rw [hsub]
  exact h.1

theorem hist_papInput (p : Bytes) (n : Nat) (s : Exec) :
    (papInput p n s).hist.subscribers = s.hist.subscribers ∧
      (papInput p n s).hist.accepted = s.hist.accepted ∧
      s.hist.requests <+: (papInput p n s).hist.requests := by
  rw [papInput_eq]
  split
  · exact ⟨rfl, rfl, List.prefix_rfl⟩
  · exact ⟨rfl, rfl, List.prefix_append ..⟩

theorem hist_chapInput (p : Bytes) (n : Nat) (s : Exec) :
    (chapInput p n s).hist.subscribers = s.hist.subscribers ∧
      (chapInput p n s).hist.accepted = s.hist.accepted ∧
      s.hist.requests <+: (chapInput p n s).hist.requests := by
  rw [chapInput_eq]
  split
  · exact ⟨rfl, rfl, List.prefix_rfl⟩
  split
  · exact ⟨rfl, rfl, List.prefix_rfl⟩
  · exact ⟨rfl, rfl, List.prefix_append ..⟩

theorem keeps_onIPCPUp (h : Keeps N s₀ s) (hn : s.phase = .network) :
    Keeps N s₀ (onIPCPUp s) := by
  unfold onIPCPUp
  split
  · rename_i hp
    refine h.note fun n hmem => ?_
    cases hmem
    have hid := h.2.1 hn
    unfold identity at hid
    rwa [if_neg (by rw [hp]; decide)] at hid
  split
  · rename_i hc
    refine h.note fun n hmem => ?_
    cases hmem
    have hid := h.2.1 hn
    unfold identity at hid
    rwa [if_pos hc] at hid
  · exact h

theorem keeps_ipcpInput (p : Bytes) (n : Nat) (h : Keeps N s₀ s) (hn : s.phase = .network) :
    Keeps N s₀ (ipcpInput p n s) := by
  have blind : Blind fun s => Keeps N s₀ s ∧ s.phase = .network :=
    blind_keeps.and (.of_outsideIpcp fun _ => Iff.rfl)
  refine (blind.input (fun _ h => h) (fun h => ⟨keeps_onIPCPUp h.1 h.2, ?_⟩) p n ?_).1
  · exact (congrArg (·.phase) (outsideIpcp_onIPCPUp _)).trans h.2
  · exact ⟨h, hn⟩

/-- **A packet that names nobody else in the Network phase keeps the names.** -/
theorem keeps_input (packet : Bytes) (len : Nat) (ho : OpenPhase s)
    (hok : s.lcp.fsm.state = .opened → s.phase = .network →
      ∀ name ∈ nameIn packet len s, nameField name = identity s) (h : Keeps N s₀ s) :
    Keeps N s₀ (input packet len s) := by
  have same : s.lcp.fsm.state = .opened → s.phase = .network →
      ((nameIn packet len s).map nameField).getD (identity s) = identity s := by
    intro hs hn
    cases hr : nameIn packet len s with
    | none => rfl
    | some name => exact hok hs hn name hr
  refine keeps_owner.input packet len (fun _ hs hph => ?_) (fun {p n} hp hs => ?_)
    (fun {p n} hp hs => ?_) h
  · exact keeps_ipcpInput _ _ h (network_of_packet ho hs hph)
  · obtain ⟨hsub, ha, hr⟩ := hist_papInput p n s
    refine h.served hsub ha hr fun hn => ?_
    rw [(papInput_same _ _ s).2] at hn
    rw [identity_papInput hp, same hs hn]
    exact h.2.1 hn
  · obtain ⟨hsub, ha, hr⟩ := hist_chapInput p n s
    refine h.served hsub ha hr fun hn => ?_
    rw [(chapInput_same _ _ s).2] at hn
    rw [identity_chapInput hp, same hs hn]
    exact h.2.1 hn

/-! ## 4. Responses -/

/-- **A response keeps the names**, if the name in force is one of them where it opens the
    Network phase. -/
theorem keeps_response (k : Nat) (r : AuthResponse) (hid : s.phase = .network → N (identity s))
    (hopen : delivers r.authResult s = true → N (identity s)) :
    Keeps N (addressed k r s) (response k r s) := by
  refine keeps_owner.onAuthResponse (s := addressed k r s)
    (fun h hu => h.same rfl rfl (identity_chap hu)) _ _ (fun protocol t ht hd => ?_)
    (keeps_start hid)
  have hk : Keeps (fun _ => True) (addressed k r s) t :=
    ht.keeps (A := Keeps (fun _ => True) (addressed k r s))
      (fun _ => Iff.rfl) (fun _ h => ⟨h.1, fun _ => trivial, h.2.2⟩) (keeps_start fun _ => trivial)
  have hnone : reportedSince (addressed k r s) t = [] :=
    ht.keeps (A := fun u => reportedSince (addressed k r s) u = [])
      (fun _ => Iff.rfl) (fun _ h => h) (by rw [reportedSince, Nat.sub_self]; rfl)
  have hname : identity t = identity s := by
    have hp : t.pap = s.pap := congrArg (·.pap) ht.bare
    have hu : t.chap.username = s.chap.username := ht.username
    have ha : t.lcp.authType = s.lcp.authType := congrArg (·.authType) ht.lcp
    unfold identity
    rw [hp, hu, ha]
  refine blind_keeps.fsmOpen ⟨fun o ho => ?_, fun _ => ?_, hk.2.2⟩
  · have ho : o ∈ reportedSince (addressed k r s) t := ho
    rw [hnone] at ho
    cases ho
  · show N (identity t)
    rw [hname]
    exact hopen hd

theorem response_opens (k : Nat) {r : AuthResponse} (hd : delivers r.authResult s = true) :
    (response k r s).phase = .network ∧ (response k r s).hist.requests = s.hist.requests := by
  obtain ⟨protocol, t, ha, hu⟩ := (onAuthResponse_outcome r.authResult r.authResultDesc
    (addressed k r s)).success_of_delivers hd
  have hphase : (authenSuccess protocol t).phase = .network := phase_ipcpOpen _
  exact ⟨(congrArg (·.phase) hu.eq).trans hphase, (hu.requests ha).trans rfl⟩

theorem NameOf.mono {t : Exec} {granted : Option Nat} {name : Bytes} (h : NameOf s granted name)
    (ha : s.hist.accepted ⊆ t.hist.accepted) (hr : s.hist.requests <+: t.hist.requests) :
    NameOf t granted name := by
  obtain ⟨k, hk, hacc, i, hi, hname⟩ := h
  obtain ⟨r, hr⟩ := hr
  exact ⟨k, hk, ha hacc, i, hr ▸ mem_getElem?_append hi, hname⟩

theorem accepted_subset_noteResponse (k : Nat) (r : AuthResponse) (s : Exec) :
    s.hist.accepted ⊆ (noteResponse k r s).hist.accepted := by
  intro j hj
  simp only [noteResponse]
  split
  · exact List.mem_cons_of_mem _ hj
  · exact hj

end Exec

namespace Named

open Exec

variable {w : Named} {e : Event}

/-! ## 5. Runs -/

/-- A step that does not open the Network phase. -/
theorem kept_of_keeps {u : Exec} (hsub : u.hist.subscribers = w.session.hist.subscribers)
    (ha : w.session.hist.accepted ⊆ u.hist.accepted)
    (hr : w.session.hist.requests <+: u.hist.requests)
    (h : Keeps (fun name => w.session.phase = .network ∧ NameOf w.session w.granted name) u
      (w.session.step e)) : Registered w e ∧ Identified (w.step e) := by
  have hg : (w.step e).granted = w.granted := if_neg fun hc => hc.1 (h.2.1 hc.2).1
  have grow : ∀ {name}, NameOf w.session w.granted name →
      NameOf (w.step e).session (w.step e).granted name := by
    intro name hname
    rw [hg]
    refine hname.mono ?_ (hr.trans h.2.2.2)
    show _ ⊆ (w.session.step e).hist.accepted
    rw [h.2.2.1]
    exact ha
  refine ⟨fun o ho n hn => grow (h.1 o ?_ n hn).2, fun hn => grow (h.2.1 hn).2⟩
  unfold reportedSince at ho ⊢
  rw [hsub]
  exact ho

/-- The response that opens the Network phase. -/
theorem kept_opened {k : Nat} {r : AuthResponse} (hd : delivers r.authResult w.session = true)
    (hn : w.session.phase ≠ .network)
    (hok : ∃ i ∈ w.session.hist.requests[k]?, i.request.username = identity w.session) :
    Registered w (.response k r) ∧ Identified (w.step (.response k r)) := by
  have hk : Keeps (· = identity w.session) (addressed k r w.session)
      (w.session.response k r) := keeps_response k r (fun _ => rfl) fun _ => rfl
  obtain ⟨hphase, hreq⟩ := response_opens (s := w.session) k hd
  have hg : (w.step (.response k r)).granted = some k := if_pos ⟨hn, hphase⟩
  have named : NameOf (w.step (.response k r)).session (w.step (.response k r)).granted
      (identity w.session) := by
    rw [hg]
    obtain ⟨i, hi, hname⟩ := hok
    refine ⟨k, rfl, ?_, i, ?_, hname⟩
    · show k ∈ (w.session.response k r).hist.accepted
      rw [hk.2.2.1]
      have hlt := (List.getElem?_eq_some_iff.mp hi).1
      simp [addressed, setAddresses, noteResponse, delivers_accepting hd, hlt]
    · show i ∈ (w.session.response k r).hist.requests[k]?
      rw [hreq]
      exact hi
  refine ⟨fun o ho n hmem => ?_, fun hnet => ?_⟩
  · rw [hk.1 o ho n hmem]
    exact named
  · rw [show identity (w.step (.response k r)).session = identity w.session from hk.2.1 hnet]
    exact named

/-- **Every step that meets the condition keeps the name.** -/
theorem kept_step (ho : OpenPhase w.session) (hok : NameKept w e) (h : Identified w) :
    Registered w e ∧ Identified (w.step e) := by
  have start : Keeps (fun name => w.session.phase = .network ∧ NameOf w.session w.granted name)
      w.session w.session := keeps_start fun hn => ⟨hn, h hn⟩
  cases e with
  | input packet len =>
    exact kept_of_keeps rfl (List.Subset.refl _) List.prefix_rfl
      (keeps_input packet len ho hok start)
  | timer t =>
    exact kept_of_keeps rfl (List.Subset.refl _) List.prefix_rfl
      (keeps_owner.expire t (fun _ _ _ => start) (blind_keeps.timeout start) start)
  | response k r =>
    by_cases hn : w.session.phase = .network
    · exact kept_of_keeps (u := addressed k r w.session) rfl
        (accepted_subset_noteResponse k r w.session) List.prefix_rfl
        (keeps_response k r (fun _ => ⟨hn, h hn⟩) fun _ => ⟨hn, h hn⟩)
    cases hd : delivers r.authResult w.session with
    | true => exact kept_opened hd hn (hok hd hn)
    | false =>
      exact kept_of_keeps (u := addressed k r w.session) rfl
        (accepted_subset_noteResponse k r w.session) List.prefix_rfl
        (keeps_response k r (fun hc => absurd hc hn) fun hc => absurd (hd.symm.trans hc) nofun)

theorem identified_start (c : Config) : Identified { session := start c } := by
  -- no name at all would do: the session does not start in the Network phase
  let s : Exec := pppInit (create c)
  have hs : Keeps (fun _ => False) s s := by
    refine keeps_start fun hn => ?_
    have hdead : s.phase = .dead := by
      unfold s pppInit
      dsimp only
      split <;> rfl
    exact absurd (hdead.symm.trans hn) (by decide)
  have h : Keeps (fun _ => False) s (start c) :=
    CPPPFsm.fsmOpen_keeps (J := fun _ => Keeps (fun _ => False) s) keeps_owner.layerRules hs
  exact fun hn => (h.2.1 hn).elim

/-- **In the runs that meet the condition a subscriber is registered under the name of the
    accepted request that opened the Network phase, and no later packet puts another name in its
    place.** -/
theorem subscriber_name_accepted (c : Config) (es : List Event)
    (h : Along step NameKept { session := start c } es) :
    Along step Registered { session := start c } es ∧
      Throughout step Identified { session := start c } es := by
  have hstep : ∀ (w : Named) (e : Event), Identified w ∧ OpenPhase w.session → NameKept w e →
      Identified (w.step e) ∧ OpenPhase (w.step e).session :=
    fun w e hI hok => ⟨(kept_step hI.2 hok hI.1).2, openPhase_step e hI.2⟩
  have hstart : Identified { session := start c } ∧ OpenPhase (start c) :=
    ⟨identified_start c, openPhase_start c⟩
  exact ⟨along_of_along hstep (fun w e hI hok => (kept_step hI.2 hok hI.1).1) hstart h,
    throughout_of_along hstep (fun _ hI => hI.1) hstart h⟩

/-- A PAP session up to the registration of its subscriber: every step meets the condition, so
    `a`, the name of the accepted request, is the name registered. -/
theorem subscriber_name_accepted_session :
    let es := Event.papRequested ++ [.accept] ++ Event.ipcpOpened
    Along step NameKept { session := start (.sample PPP_PAP) } es ∧
      Along step Registered { session := start (.sample PPP_PAP) } es ∧
      Throughout step Identified { session := start (.sample PPP_PAP) } es ∧
      (run step { session := start (.sample PPP_PAP) } es).session.hist.subscribers.map
        (·.map (·.user.userName)) = [some [97]] :=
  have h := by decide +kernel
  have hall := subscriber_name_accepted _ _ h
  ⟨h, hall.1, hall.2, by decide +kernel⟩

/-- The same session, but after the acceptance the peer sends one more request, with the name
    `c`, which nobody answers: it is registered as `c`. -/
theorem second_name_registered :
    let es := Event.papRequested ++
      [.accept, .control PPP_PAP UPAP_AUTHREQ 2 [1, 99, 1, 98]] ++ Event.ipcpOpened
    ¬ (Along step Registered { session := start (.sample PPP_PAP) } es ∧
        Throughout step Identified { session := start (.sample PPP_PAP) } es) ∧
      (run step { session := start (.sample PPP_PAP) } es).session.hist.subscribers.map
        (·.map (·.user.userName)) = [some [99]] :=
  ⟨fun h => absurd h.1 (by decide +kernel), by decide +kernel⟩

end Named

end OpenBras
