/-
  File:      OpenBras/IPOE/Handles.lean
  Subject:   THE PACKETS OF THE DHCP SERVER: every received packet is released exactly once, and
             no session keeps one that has been released.

  The owners are the sessions: each holds the packet of its last DHCPDISCOVER. Every event moves
  handles as one of the rules of OpenBras/Lib/Custody.lean (`accounted_step`), with one exception:
  a second DHCPDISCOVER before the authentication manager has answered is given to the session
  and released at once. The session is left with a dangling pointer, which the next
  DHCPDISCOVER or the end of the session releases again (`second_discover_dangles`).
-/
import OpenBras.IPOE.Clients
import OpenBras.Lib.Custody

namespace OpenBras

open Wire

namespace CDHCPServer

variable {env : DhcpEnv}

/-! ## 1. The books -/

/-- Which session holds which packet. -/
def custody (s : CDHCPServer) : Custody Bytes where
  held mac := (s.m_DhcpSessions mac).bind (·.m_discovery)
  next := s.next
  released := s.released

variable {s : CDHCPServer} {mac : Bytes} {session : CDHCPSession} {ce : ClientEvent} {ev : Event}

theorem held_of_session {d : Nat} (hs : s.m_DhcpSessions mac = some session)
    (hd : session.m_discovery = some d) : s.custody.held mac = some d := by
  show (s.m_DhcpSessions mac).bind _ = _
  rw [hs, Option.bind_some, hd]

theorem fresh_of_accounted (a : s.custody.Accounted) : Fresh s where
  released h hr := Nat.lt_of_not_le fun hge =>
    absurd (a.made h hge).2 (List.count_pos_iff.mpr hr).ne'
  held _ _ _ hs hd := a.lt_next (held_of_session hs hd)

/-- What has come with an event is released, by nobody else. -/
theorem accounted_came {c : Custody Bytes} (a : c.Accounted) (hn : c.next = s.next) (ev : Event) :
    Custody.Accounted { c with
      next := (s.arrived ev).next, released := s.came ev ++ c.released } := by
  obtain ⟨held, next, released⟩ := c
  cases hn
  cases ev with
  | packet mem request => exact a.pass
  | _ => exact a

theorem custody_happen (o : Option CDHCPSession) (ho : s.m_DhcpSessions mac = o) {p : DhcpPacket} :
    ((s.arrived ev).happen env mac ce p (s.came ev)).custody =
      { held := Function.update s.custody.held mac ((clientStep o ce).bind (·.m_discovery))
        next := (s.arrived ev).next
        released := frees (s.came ev) o ce ++ s.released } := by
  have ho' : (s.arrived ev).m_DhcpSessions mac = o := by cases ev <;> exact ho
  rw [happen_eq ho']
  have hheld : (fun k => (Function.update s.m_DhcpSessions mac (clientStep o ce) k).bind
      (·.m_discovery)) =
      Function.update s.custody.held mac ((clientStep o ce).bind (·.m_discovery)) := by
    funext k
    by_cases hk : k = mac
    · subst hk
      simp
    · simp [hk, custody]
  rw [← hheld]
  cases ev <;> rfl

/-- But for a DHCPDISCOVER a session keeps its packet, or goes and releases it. -/
theorem kept_or_left (o : Option CDHCPSession) (hs : List Nat)
    (hce : ∀ mem d, ce ≠ .discover mem d) :
    ((clientStep o ce).bind (·.m_discovery) = o.bind (·.m_discovery) ∧ frees hs o ce = hs) ∨
      clientStep o ce = none ∧ frees hs o ce = hs ++ (o.bind (·.m_discovery)).toList := by
  cases o with
  | none =>
    cases ce with
    | discover mem d => exact absurd rfl (hce mem d)
    | _ => exact .inl ⟨rfl, rfl⟩
  | some session =>
    cases ce with
    | discover mem d => exact absurd rfl (hce mem d)
    | request mem asked =>
      refine .inl ⟨?_, rfl⟩
      simp only [clientStep]
      split <;> rfl
    | leave => exact .inr ⟨rfl, rfl⟩
    | leaseTimeOut =>
      by_cases ht : session.timer.isSome = true
      · exact .inr ⟨if_pos ht, if_pos ht⟩
      · exact .inl ⟨congrArg (Option.bind · _) (if_neg ht), if_neg ht⟩
    | _ => exact .inl ⟨rfl, rfl⟩

/-! ## 2. One event -/

/-- **One event keeps the books**, unless it is a DHCPDISCOVER that comes too early. -/
theorem accounted_step (a : s.custody.Accounted) (hne : ¬ EarlyDiscover env s ev) :
    (s.step env ev).custody.Accounted := by
  rw [step_eq (fresh_of_accounted a)]
  cases hc : clientOf env s.next ev with
  | none =>
    cases ev with
    | packet mem request => exact a.pass
    | _ => cases hc
  | some c =>
    obtain ⟨mac, ce⟩ := c
    rw [Option.elim_some, custody_happen _ rfl]
    by_cases hdis : ∃ mem d, ce = .discover mem d
    · obtain ⟨mem, d, rfl⟩ := hdis
      obtain ⟨rfl, request, rfl, rfl, hacc, htype⟩ := packet_of_discover hc
      -- the old packet is released, the new one is kept
      have hgive := (a.drop request.mac).give (Function.update_self ..)
      simp only [Custody.give, Custody.drop, Function.update_idem] at hgive
      cases hs : s.m_DhcpSessions request.mac with
      | none =>
        have hheld : s.custody.held request.mac = none := by simp [custody, hs]
        rw [hheld] at hgive
        exact hgive
      | some session =>
        have hheld : s.custody.held request.mac = session.m_discovery := by simp [custody, hs]
        have hconf : session.m_config ≠ {} := fun hconf => hne ⟨hacc, htype, session, hs, hconf⟩
        simp only [clientStep, frees, if_neg hconf, Option.bind_some, List.nil_append]
        rw [hheld] at hgive
        exact hgive
    · have hce : ∀ mem d, ce ≠ .discover mem d := fun mem d h => hdis ⟨mem, d, h⟩
      obtain ⟨hkept, hfrees⟩ | ⟨hleft, hfrees⟩ :=
        kept_or_left (s.m_DhcpSessions mac) (s.came ev) hce
      · rw [hfrees, hkept, show Option.bind _ _ = s.custody.held mac from rfl,
          Function.update_eq_self]
        exact accounted_came a rfl ev
      · rw [hfrees, hleft, List.append_assoc]
        exact accounted_came (a.drop mac) rfl ev

/-! ## 3. Runs -/

/-- Every packet received is held by one session and not released, or was released exactly once
    and is not held; and no session in the table keeps a packet that has been released. -/
structure PacketsAccounted (s : CDHCPServer) : Prop where
  once : s.custody.Accounted
  live : ∀ mac session h, s.m_DhcpSessions mac = some session → session.m_discovery = some h →
    h ∉ s.released

/-- A DHCPDISCOVER that comes too early leaves a session with a released packet. -/
theorem not_live_of_early (a : s.custody.Accounted) (he : EarlyDiscover env s ev) :
    ¬ PacketsAccounted (s.step env ev) := by
  cases ev with
  | packet mem request =>
    obtain ⟨⟨hid, hop⟩, htype, session, hs, hc⟩ := he
    have hclient : clientOf env s.next (.packet mem request) =
        some (request.mac, .discover mem s.next) := by
      rw [clientOf, if_neg hid, if_neg (not_not.mpr hop), if_pos htype]
    rw [step_eq (fresh_of_accounted a), hclient]
    change ¬ PacketsAccounted ((s.received request).happen env request.mac (.discover mem s.next)
      request [s.next])
    intro h
    refine h.live request.mac { session with m_discovery := some s.next } s.next ?_ rfl ?_
    · rw [happen_eq (s := s.received request) hs]
      simp only [clientStep, if_pos hc, Function.update_self]
    · rw [happen_eq (s := s.received request) hs]
      simp only [frees, if_pos hc]
      exact List.mem_cons_self
  | _ => exact he.elim

theorem accounted_start : (custody {}).Accounted where
  once := fun h hlt => absurd hlt (Nat.not_lt_zero h)
  made := by
    refine fun h _ => ⟨?_, rfl⟩
    rintro ⟨k, hk⟩
    cases hk
  single := fun _ _ _ hk => nomatch hk

/-- **Every packet is released exactly once, and no session keeps a released one, exactly in the
    runs without a DHCPDISCOVER for a session that still waits for its answer.** -/
theorem packets_accounted_iff (env : DhcpEnv) (evs : List Event) :
    Throughout (step env) PacketsAccounted {} evs ↔
      Along (step env) (fun s ev => ¬ EarlyDiscover env s ev) {} evs := by
  refine throughout_iff_along (I := fun s => s.custody.Accounted)
    (fun s ev a hne => accounted_step a hne) (fun s a => ⟨a, ?_⟩)
    (fun s ev a h he => not_live_of_early a he h) accounted_start evs
  intro mac session h hs hd
  exact a.unreleased (held_of_session hs hd)

/-- **The client repeats its DHCPDISCOVER before the answer: the session keeps a released
    packet.** -/
theorem second_discover_dangles :
    ¬ Throughout (step sampleEnv) PacketsAccounted {}
      [.packet true discover, .packet true discover] := by
  intro h
  have hlive := (throughout_last h).live [2, 0, 0, 0, 0, 1] { m_discovery := some 1 } 1
  exact hlive (by decide +kernel) rfl (by decide +kernel)

end CDHCPServer

end OpenBras
