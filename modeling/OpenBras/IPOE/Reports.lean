/-
  File:      OpenBras/IPOE/Reports.lean
  Subject:   THE REPORTS TO THE SESSION MANAGER: when AddUserRequest and DeleteUserRequest of a
             client alternate, and a delete is that of a session that was added.

  A session is added with its first acknowledged DHCPREQUEST. Its destructor deletes it, whether
  it was added or not, and under the hardware address that is in its configuration at that time.
  That address is zero until the authentication manager has answered; so a DHCPREQUEST for
  0.0.0.0 that is acknowledged before the answer adds a user under another MAC than the one the
  session is deleted under.

  * `Watched`        -- the server with the record of its reports, and under which hardware
                        address a session was acknowledged;
  * `Orderly`        -- the condition on an event;
  * `reports_alternate_iff` -- the reports are as they should be exactly in the runs whose events
                        all meet it.
-/
import OpenBras.IPOE.Clients
import OpenBras.Lib.Ledger

namespace OpenBras

open Wire

namespace CDHCPServer

/-! ## 1. What an event means for the reports -/

/-- The event makes `HandleRequest` acknowledge the session for the first time. -/
def firstAck (session : CDHCPSession) : ClientEvent → Bool
  | .request mem asked =>
    mem && hostLong session.m_config.ip_address == asked && !session.m_isAddUser
  | _ => false

/-- There is a session, and its user has been added. -/
def added (session : Option CDHCPSession) : Bool := session.any (·.m_isAddUser)

/-- An event is quiet, or it adds the user of a session, or it takes a session away. -/
inductive Turn (o : Option CDHCPSession) (ce : ClientEvent) : Prop where
  | quiet (hreport : report o ce = none) (hadded : added (clientStep o ce) = added o)
      (hack : ∀ session, o = some session → firstAck session ce = false)
      (hstays : o.isSome → (clientStep o ce).isSome)
  | add (session : CDHCPSession) (ho : o = some session) (hack : firstAck session ce = true)
      (hnot : session.m_isAddUser = false)
      (hreport : report o ce = some (true, session.m_config.hardware_address))
      (hadded : added (clientStep o ce) = true)
  | delete (session : CDHCPSession) (ho : o = some session)
      (hack : firstAck session ce = false)
      (hreport : report o ce = some (false, session.m_config.hardware_address))
      (hgone : clientStep o ce = none)

theorem turn_request (session : CDHCPSession) (mem : Bool) (asked : Bytes) :
    Turn (some session) (.request mem asked) := by
  by_cases hask : mem = true ∧ hostLong session.m_config.ip_address = asked
  · obtain ⟨rfl, rfl⟩ := hask
    cases hadd : session.m_isAddUser with
    | false =>
      refine .add session rfl ?_ hadd ?_ ?_
      · simp only [firstAck, hadd, beq_self_eq_true, Bool.not_false, Bool.and_self]
      · simp only [report, hadd, and_self, if_true]
      · simp only [clientStep, and_self, if_true]
        rfl
    | true =>
      refine .quiet ?_ ?_ ?_ ?_
      · simp only [report, hadd, Bool.true_eq_false, and_false, if_false]
      · simp only [clientStep, and_self, if_true, added, Option.any_some, hadd]
      · rintro _ ⟨⟩
        simp only [firstAck, hadd, Bool.not_true, Bool.and_false]
      · intro _
        simp only [clientStep, and_self, if_true, Option.isSome_some]
  · refine .quiet ?_ ?_ ?_ ?_
    · simp only [report, ← and_assoc, hask, false_and, if_false]
    · simp only [clientStep, hask, if_false]
    · rintro _ ⟨⟩
      simp only [firstAck, Bool.and_eq_false_iff, beq_eq_false_iff_ne]
      left
      by_cases hmem : mem = true
      · exact Or.inr fun h => hask ⟨hmem, h⟩
      · exact Or.inl (eq_false_of_ne_true hmem)
    · intro _
      simp only [clientStep, hask, if_false, Option.isSome_some]

/-- **What an event means for the reports.** -/
theorem turn (o : Option CDHCPSession) (ce : ClientEvent) : Turn o ce := by
  cases o with
  | none =>
    cases ce with
    | discover | request | inform | leave | answer | leaseTimeOut =>
      exact .quiet rfl rfl nofun nofun
  | some session =>
    cases ce with
    | discover mem h =>
      by_cases hc : session.m_config = {}
      · refine .quiet rfl ?_ (fun _ _ => rfl) ?_ <;> simp only [clientStep, if_pos hc]
        · rfl
        · exact fun _ => rfl
      · refine .quiet rfl ?_ (fun _ _ => rfl) ?_ <;> simp only [clientStep, if_neg hc]
        · rfl
        · exact fun _ => rfl
    | request mem asked => exact turn_request session mem asked
    | inform mem => exact .quiet rfl rfl (fun _ _ => rfl) (fun _ => rfl)
    | leave => exact .delete session rfl rfl rfl rfl
    | answer mem config => exact .quiet rfl rfl (fun _ _ => rfl) (fun _ => rfl)
    | leaseTimeOut =>
      cases ht : session.timer.isSome with
      | true =>
        refine .delete session rfl rfl ?_ ?_
        · simp only [report, ht, if_true]
        · simp only [clientStep, ht, if_true]
      | false =>
        refine .quiet ?_ ?_ (fun _ _ => rfl) ?_
        · simp only [report, ht, Bool.false_eq_true, if_false]
        · simp only [clientStep, ht, Bool.false_eq_true, if_false]
        · simp only [clientStep, ht, Bool.false_eq_true, if_false, imp_self]

/-! ## 2. The server and its reports -/

/-- The server, the reports it has made (newest first, with the client whose session they are
    about), and under which hardware address a session was acknowledged first. -/
structure Watched where
  server : CDHCPServer := {}
  reports : List (Entry Bytes Bytes) := []
  ackedAs : Bytes → Bytes := fun _ => []

/-- The report made for the client an event concerns. -/
def reportsOf (s : CDHCPServer) : Option (Bytes × ClientEvent) → List (Entry Bytes Bytes)
  | none => []
  | some (mac, ce) =>
    ((report (s.m_DhcpSessions mac) ce).map fun r => ⟨mac, r.1, r.2⟩).toList

/-- With the first acknowledgement the hardware address of the configuration is noted. -/
def noteAck (s : CDHCPServer) (ackedAs : Bytes → Bytes) :
    Option (Bytes × ClientEvent) → Bytes → Bytes
  | none => ackedAs
  | some (mac, ce) =>
    match s.m_DhcpSessions mac with
    | none => ackedAs
    | some session =>
      if firstAck session ce then
        Function.update ackedAs mac session.m_config.hardware_address
      else ackedAs

def watch (env : DhcpEnv) (w : Watched) (ev : Event) : Watched where
  server := w.server.step env ev
  reports := reportsOf w.server (clientOf env w.server.next ev) ++ w.reports
  ackedAs := noteAck w.server w.ackedAs (clientOf env w.server.next ev)

/-- The requests to the session manager with the given MAC, newest first. -/
def requestsFor (mac : Bytes) (log : List DhcpOutput) : List Bool :=
  (userRequests log).filterMap fun r => if r.2 = mac then some r.1 else none

/-- AddUserRequest and DeleteUserRequest alternate for every MAC, and a DeleteUserRequest has
    the MAC of the AddUserRequest that was issued for the same session. -/
def Paired (w : Watched) : Prop :=
  (∀ mac, Alternates (requestsFor mac w.server.log)) ∧ Returned w.reports

/-- A session is taken away only after it was acknowledged, with the hardware address it had
    then; and one is first acknowledged only under a hardware address under which no other
    session of the table was. -/
def Orderly (env : DhcpEnv) (w : Watched) (ev : Event) : Prop :=
  ∀ mac ce session, clientOf env w.server.next ev = some (mac, ce) →
    w.server.m_DhcpSessions mac = some session →
      (clientStep (some session) ce = none →
        session.m_isAddUser = true ∧ session.m_config.hardware_address = w.ackedAs mac) ∧
      (firstAck session ce = true → ∀ m t, w.server.m_DhcpSessions m = some t →
        t.m_isAddUser = true → w.ackedAs m ≠ session.m_config.hardware_address)

/-! ## 3. The ledger of the reports -/

/-- The MAC the session of a client is reported under. -/
def reportedAs (w : Watched) (mac : Bytes) : Option Bytes :=
  if added (w.server.m_DhcpSessions mac) then some (w.ackedAs mac) else none

structure Booked (w : Watched) : Prop where
  fresh : Fresh w.server
  logged : w.reports.map (fun e => (e.takes, e.item)) = userRequests w.server.log
  proper : Proper w.reports
  /-- A session is reported exactly if it was acknowledged. -/
  holds : ∀ mac, holding w.reports mac = reportedAs w mac

theorem booked_start : Booked {} where
  fresh := fresh_start
  logged := rfl
  proper := trivial
  holds := fun _ => rfl

theorem history_reports {w : Watched}
    (h : w.reports.map (fun e => (e.takes, e.item)) = userRequests w.server.log) (mac : Bytes) :
    history w.reports mac = requestsFor mac w.server.log := by
  unfold requestsFor history
  rw [← h, List.filterMap_map]
  rfl

theorem paired_of_booked {w : Watched} (b : Booked w) : Paired w :=
  ⟨fun mac => history_reports b.logged mac ▸ b.proper.alternates mac, b.proper.returned⟩

variable {env : DhcpEnv} {w : Watched} {ev : Event}

theorem logged_watch (b : Booked w) :
    (watch env w ev).reports.map (fun e => (e.takes, e.item)) =
      userRequests (watch env w ev).server.log := by
  show ((reportsOf w.server (clientOf env w.server.next ev) ++ w.reports).map _) =
    userRequests (w.server.step env ev).log
  rw [List.map_append, b.logged, userRequests_step b.fresh]
  cases clientOf env w.server.next ev with
  | none => rfl
  | some c =>
    obtain ⟨mac, ce⟩ := c
    rw [Option.bind_some]
    cases hr : report (w.server.m_DhcpSessions mac) ce <;> simp only [reportsOf, hr] <;> rfl

theorem holds_watch_none (b : Booked w) (hc : clientOf env w.server.next ev = none) (mac : Bytes) :
    holding (watch env w ev).reports mac = reportedAs (watch env w ev) mac := by
  simp only [watch, reportedAs, hc, reportsOf, noteAck, List.nil_append]
  rw [session_step b.fresh, hc, b.holds]
  rfl

section Client

variable {mac : Bytes} {ce : ClientEvent} (hc : clientOf env w.server.next ev = some (mac, ce))
include hc

theorem reportedAs_watch_of_ne (b : Booked w) {m : Bytes} (hm : mac ≠ m) :
    reportedAs (watch env w ev) m = reportedAs w m := by
  have hack : noteAck w.server w.ackedAs (some (mac, ce)) m = w.ackedAs m := by
    cases hs : w.server.m_DhcpSessions mac with
    | none => simp only [noteAck, hs]
    | some session =>
      simp only [noteAck, hs]
      split
      · exact Function.update_of_ne (Ne.symm hm) ..
      · rfl
  simp only [reportedAs, watch, hc]
  rw [session_step b.fresh, hc]
  simp only [if_neg hm, hack]

theorem reportedAs_watch_self (b : Booked w) :
    reportedAs (watch env w ev) mac =
      if added (clientStep (w.server.m_DhcpSessions mac) ce) then
        some (noteAck w.server w.ackedAs (some (mac, ce)) mac)
      else none := by
  simp only [reportedAs, watch, hc]
  rw [session_step b.fresh, hc]
  simp only [if_true]

theorem booked_quiet (b : Booked w)
    (hreport : report (w.server.m_DhcpSessions mac) ce = none)
    (hadded : added (clientStep (w.server.m_DhcpSessions mac) ce) =
      added (w.server.m_DhcpSessions mac))
    (hack : ∀ session, w.server.m_DhcpSessions mac = some session →
      firstAck session ce = false) : Booked (watch env w ev) := by
  have hreports : (watch env w ev).reports = w.reports := by
    simp only [watch, hc, reportsOf, hreport, Option.map_none, Option.toList_none,
      List.nil_append]
  have hnote : noteAck w.server w.ackedAs (some (mac, ce)) = w.ackedAs := by
    cases hs : w.server.m_DhcpSessions mac with
    | none => simp only [noteAck, hs]
    | some session => simp only [noteAck, hs, hack session hs, Bool.false_eq_true, if_false]
  refine ⟨fresh_step b.fresh ev, logged_watch b, hreports ▸ b.proper, fun m => ?_⟩
  rw [hreports, b.holds]
  by_cases hm : mac = m
  · subst hm
    rw [reportedAs_watch_self hc b, hadded, hnote]
    rfl
  · exact (reportedAs_watch_of_ne hc b hm).symm

theorem reports_watch {r : Bool × Bytes}
    (hreport : report (w.server.m_DhcpSessions mac) ce = some r) :
    (watch env w ev).reports = ⟨mac, r.1, r.2⟩ :: w.reports := by
  simp only [watch, hc, reportsOf, hreport, Option.map_some, Option.toList_some,
    List.singleton_append]

/-- **The first acknowledgement** adds a user under a free MAC. -/
theorem booked_add (b : Booked w) {session : CDHCPSession}
    (hs : w.server.m_DhcpSessions mac = some session) (hack : firstAck session ce = true)
    (hnot : session.m_isAddUser = false)
    (hreport : report (w.server.m_DhcpSessions mac) ce =
      some (true, session.m_config.hardware_address))
    (hadded : added (clientStep (w.server.m_DhcpSessions mac) ce) = true)
    (hfree : ∀ m, holding w.reports m ≠ some session.m_config.hardware_address) :
    Booked (watch env w ev) := by
  have hreports := reports_watch hc hreport
  have hnone : holding w.reports mac = none := by
    rw [b.holds, reportedAs, hs, added, Option.any_some, hnot, if_neg Bool.false_ne_true]
  refine ⟨fresh_step b.fresh ev, logged_watch b, ?_, fun m => ?_⟩
  · rw [hreports]
    exact ⟨fun _ => ⟨hnone, hfree⟩, nofun, b.proper⟩
  rw [hreports]
  by_cases hm : mac = m
  · subst hm
    rw [holding_cons_self, reportedAs_watch_self hc b, hadded]
    simp only [noteAck, hs, hack, if_true, Function.update_self]
  · rw [holding_cons_of_ne _ hm, reportedAs_watch_of_ne hc b hm]
    exact b.holds m

/-- **The end of a session** that is reported under the MAC it is deleted under. -/
theorem booked_delete (b : Booked w) {session : CDHCPSession}
    (hreport : report (w.server.m_DhcpSessions mac) ce =
      some (false, session.m_config.hardware_address))
    (hgone : clientStep (w.server.m_DhcpSessions mac) ce = none)
    (hheld : holding w.reports mac = some session.m_config.hardware_address) :
    Booked (watch env w ev) := by
  have hreports := reports_watch hc hreport
  refine ⟨fresh_step b.fresh ev, logged_watch b, ?_, fun m => ?_⟩
  · rw [hreports]
    exact ⟨nofun, fun _ => hheld, b.proper⟩
  rw [hreports]
  by_cases hm : mac = m
  · subst hm
    rw [holding_cons_self, reportedAs_watch_self hc b, hgone]
    rfl
  · rw [holding_cons_of_ne _ hm, reportedAs_watch_of_ne hc b hm]
    exact b.holds m

end Client

theorem holding_eq_some (b : Booked w) {mac m : Bytes} :
    holding w.reports mac = some m ↔
      ∃ session, w.server.m_DhcpSessions mac = some session ∧ session.m_isAddUser = true ∧
        w.ackedAs mac = m := by
  rw [b.holds, reportedAs]
  cases hs : w.server.m_DhcpSessions mac with
  | none =>
    constructor
    · intro h
      cases h
    · rintro ⟨_, ⟨⟩, -⟩
  | some session =>
    rw [added, Option.any_some]
    constructor
    · intro h
      cases hadd : session.m_isAddUser with
      | false =>
        rw [hadd, if_neg Bool.false_ne_true] at h
        cases h
      | true =>
        rw [hadd, if_pos rfl] at h
        exact ⟨session, rfl, hadd, Option.some.inj h⟩
    · rintro ⟨_, ⟨⟩, hadd, rfl⟩
      rw [hadd, if_pos rfl]

/-! ## 4. Events and runs -/

/-- **One event keeps the ledger**, if it meets the condition. -/
theorem booked_watch (b : Booked w) (hok : Orderly env w ev) : Booked (watch env w ev) := by
  cases hc : clientOf env w.server.next ev with
  | none =>
    refine ⟨fresh_step b.fresh ev, logged_watch b, ?_, holds_watch_none b hc⟩
    simp only [watch, hc, reportsOf, List.nil_append]
    exact b.proper
  | some c =>
    obtain ⟨mac, ce⟩ := c
    cases turn (w.server.m_DhcpSessions mac) ce with
    | quiet hreport hadded hack hstays => exact booked_quiet hc b hreport hadded hack
    | add session hs hack hnot hreport hadded =>
      refine booked_add hc b hs hack hnot hreport hadded fun m hm => ?_
      obtain ⟨t, ht, hadd, has⟩ := (holding_eq_some b).mp hm
      exact (hok mac ce session hc hs).2 hack m t ht hadd has
    | delete session hs hack hreport hgone =>
      obtain ⟨hadd, has⟩ := (hok mac ce session hc hs).1 (hs ▸ hgone)
      exact booked_delete hc b hreport hgone
        ((holding_eq_some b).mpr ⟨session, hs, hadd, has.symm⟩)

/-- An event that does not meet it breaks the pairing at once. -/
theorem orderly_of_paired (b : Booked w) (h : Paired (watch env w ev)) : Orderly env w ev := by
  intro mac ce session hc hs
  cases turn (w.server.m_DhcpSessions mac) ce with
  | quiet hreport hadded hack hstays =>
    refine ⟨fun hgone => ?_, fun hfirst => ?_⟩
    · rw [hs, hgone] at hstays
      exact absurd (hstays rfl) (by decide)
    · exact absurd ((hack session hs).symm.trans hfirst) (by decide)
  | add session' hs' hack hnot hreport hadded =>
    cases hs.symm.trans hs'
    refine ⟨fun hgone => ?_, fun _ m t ht hadd has => ?_⟩
    · rw [hs, hgone] at hadded
      cases hadded
    · have halt := h.1 session.m_config.hardware_address
      rw [← history_reports (logged_watch b), reports_watch hc hreport] at halt
      exact b.proper.free_of_alternates halt m ((holding_eq_some b).mpr ⟨t, ht, hadd, has⟩)
  | delete session' hs' hack hreport hgone =>
    cases hs.symm.trans hs'
    refine ⟨fun _ => ?_, fun hfirst => absurd (hack.symm.trans hfirst) (by decide)⟩
    have hret := h.2
    rw [reports_watch hc hreport] at hret
    obtain ⟨t, ht, hadd, has⟩ := (holding_eq_some b).mp (hret.1 rfl)
    cases hs.symm.trans ht
    exact ⟨hadd, has.symm⟩

/-- **AddUserRequest and DeleteUserRequest alternate for every MAC, and a session is deleted
    under the MAC it was added under, exactly in the runs whose events are all orderly.** -/
theorem reports_alternate_iff (env : DhcpEnv) (evs : List Event) :
    Throughout (watch env) Paired {} evs ↔ Along (watch env) (Orderly env) {} evs :=
  throughout_iff_along (fun _ _ b hok => booked_watch b hok) (fun _ b => paired_of_booked b)
    (fun _ _ b h => orderly_of_paired b h) booked_start evs

/-- **A client is kicked before it was acknowledged: DeleteUserRequest without an
    AddUserRequest.** -/
theorem kick_deletes_unreported :
    let w := run (watch sampleEnv) {} [.packet true discover, .kick discover.mac]
    w.server.log = [.deleteUser (List.replicate 6 0), .authRequest discover.mac] ∧
      ¬ Paired w := by
  refine ⟨by decide +kernel, fun h => ?_⟩
  exact absurd (h.1 (List.replicate 6 0)) (by decide +kernel)

end CDHCPServer

end OpenBras
