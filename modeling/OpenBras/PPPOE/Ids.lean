/-
  File:      OpenBras/PPPOE/Ids.lean
  Subject:   THE SESSION IDS: in every state of the server the free ids and those of the sessions
             in the table are the numbers from 1 to 60000, each once.

  Ids are taken in `CreateSession` and given back by the destructor of a session, which runs
  when the session leaves the table: by a PADT of the client after ours, or by the one-off
  timer. A session leaves only as the step of its own that removes it (`deliver_cases`), so no
  id is given back twice; and a session keeps its id (`fixedId_sessStep`). The books are those of
  OpenBras/Lib/Pool.lean.
-/
import OpenBras.Lib.Pool
import OpenBras.Lib.Run
import OpenBras.PPPOE.Discovery

namespace OpenBras

open Wire
open PPPoEPacket (overlay)

/-! ## 1. What a session keeps -/

namespace Exec

/-- Whose session it is. -/
def fixedId (s : Exec) : UInt16 × Bytes × Bytes := (s.sessionid, s.clientEth, s.intfMac)

theorem fixedId_of_fixed {s t : Exec} (h : fixed t = fixed s) : fixedId t = fixedId s := by
  have h1 : t.sessionid = s.sessionid := congrArg (·.2.1) h
  have h2 : t.clientEth = s.clientEth := congrArg (·.2.2.1) h
  have h3 : t.intfMac = s.intfMac := congrArg (·.2.2.2.2.1) h
  unfold fixedId
  rw [h1, h2, h3]

theorem fixedId_sessStep (s : Exec) (e : SessEvent) : fixedId (sessStep s e) = fixedId s := by
  refine sessStep_cases (P := fun t => fixedId t = fixedId s) e (fun f _ => ?_) (fun t _ => ?_)
    (fun k r _ => ?_) (fun reason => ?_) (fun _ => rfl) rfl
  · exact fixedId_of_fixed (fixed_input _ _ s)
  · exact fixedId_of_fixed (fixed_expire t s)
  · exact fixedId_of_fixed (fixed_response k r s)
  · exact of_erased outsideIpcp (A := fun t => fixedId t = fixedId s) (fun _ => Iff.rfl)
      (outsideIpcp_sendPADT reason s) rfl

theorem fixed_init (s : Exec) : fixed (lcpOpen (pppInit s)) = fixed s := by
  have hinit : fixed (pppInit s) = fixed s := by
    unfold pppInit
    dsimp only
    split <;> rfl
  exact CPPPFsm.fsmOpen_keeps (J := fun _ t => fixed t = fixed s) (fixed_owner _).layerRules hinit

end Exec

namespace PppoeServer

variable {env : PppoeEnv} {s : PppoeServer}

/-! ## 2. What an event does to the table -/

/-- Nothing has happened to the sessions and the ids. -/
structure Same (s t : PppoeServer) : Prop where
  sessions : t.sessionMgr = s.sessionMgr
  ids : t.psessionid = s.psessionid
  gone : t.gone = s.gone

theorem same_processPADI (p : PPPoEPacket) (s : PppoeServer) : Same s (s.processPADI env p) := by
  unfold processPADI
  split
  · exact ⟨rfl, rfl, rfl⟩
  dsimp only
  split
  · exact ⟨rfl, rfl, rfl⟩
  split
  · exact ⟨rfl, rfl, rfl⟩
  · exact ⟨rfl, rfl, rfl⟩

/-- **What a session that is found does**: it goes on in its place, or it leaves. -/
theorem deliver_cases {P : PppoeServer → Prop} (id : UInt16) (e : Exec.SessEvent)
    (hnone : s.findSession id = none → P s)
    (hstays : ∀ x, s.findSession id = some x → (x.sessStep e).hist.removed = false →
      (x.sessStep e).sessionid = id → P { s with toCPPPOE := s.setSession (x.sessStep e) })
    (hgoes : ∀ x, s.findSession id = some x → (x.sessStep e).hist.removed = true →
      (x.sessStep e).sessionid = id → P (s.removeSession (x.sessStep e))) :
    P (s.deliver id e) := by
  unfold deliver
  cases hx : s.findSession id with
  | none => exact hnone hx
  | some x =>
    have hid : (x.sessStep e).sessionid = id :=
      (congrArg (·.1) (Exec.fixedId_sessStep x e)).trans (s.keyed hx)
    dsimp only
    split
    · rename_i hr
      exact hgoes x hx hr hid
    · rename_i hr
      exact hstays x hx (Bool.not_eq_true _ ▸ hr) hid

/-- The free ids and the sessions' are the numbers from 1 to 60000, each once. -/
def IdsConserved (s : PppoeServer) : Prop :=
  Pooled (fun id => 1 ≤ id ∧ id ≤ 60000) s.psessionid s.sessionMgr

/-! ## 3. What a PADR does -/

theorem createSession_nil (hids : s.psessionid = []) (source : Bytes) :
    s.createSession env source = (none, s) := by
  unfold createSession getId
  rw [hids]
  rfl

/-- The session made for the first free id. -/
def newSession (env : PppoeEnv) (id : UInt16) (source : Bytes) (s : PppoeServer) : Exec :=
  Exec.create (s.config env id source)

/-- The id the next session gets, if it gets one. -/
def nextId (s : PppoeServer) : Option UInt16 :=
  s.psessionid.head?.filter fun id => id != 0 && (s.findSession id).isNone

/-- **The next session has the next id, and its own place in the table.** -/
theorem createSession_some (env : PppoeEnv) {id : UInt16} (h : s.nextId = some id)
    (source : Bytes) :
    s.psessionid = id :: s.psessionid.tail ∧
    s.createSession env source = (some (s.newSession env id source),
      { s with
        toCPPPOE := s.setSession (s.newSession env id source),
        psessionid := s.psessionid.tail, created := s.created + 1 }) := by
  obtain ⟨hhead, hfree⟩ := Option.filter_eq_some_iff.mp h
  rw [Bool.and_eq_true, bne_iff_ne, Option.isNone_iff_eq_none] at hfree
  have hids := (List.cons_head?_tail hhead).symm
  refine ⟨hids, ?_⟩
  unfold createSession getId
  rw [hids]
  dsimp only
  rw [if_neg hfree.1]
  have hfind : CPPPOE.findSession s.toCPPPOE id = none := hfree.2
  rw [hfind]
  rfl

theorem createSession_none (env : PppoeEnv) (h : s.nextId = none) (source : Bytes) :
    (s.createSession env source).1 = none := by
  unfold createSession getId
  cases hids : s.psessionid with
  | nil => rfl
  | cons id rest =>
    dsimp only
    by_cases hz : id = 0
    · rw [if_pos hz]
    rw [if_neg hz]
    have hfree := Option.filter_eq_none_iff.mp h id (congrArg List.head? hids)
    have hfind : (CPPPOE.findSession s.toCPPPOE id).isNone ≠ true := by simpa [hz] using hfree
    cases hx : CPPPOE.findSession s.toCPPPOE id with
    | none => exact absurd (by rw [hx]; rfl) hfind
    | some x => rfl

/-- While the books are right, it is the first of the free ones. -/
theorem IdsConserved.nextId_eq (h : IdsConserved s) : s.nextId = s.psessionid.head? := by
  unfold nextId
  cases hids : s.psessionid with
  | nil => rfl
  | cons id rest =>
    have hp : Pooled (fun id => 1 ≤ id ∧ id ≤ 60000) (id :: rest) s.sessionMgr := hids ▸ h
    obtain ⟨hrange, hnone⟩ := hp.head
    have hne : id ≠ 0 := by
      rintro rfl
      exact absurd hrange.1 (by decide)
    have hfind : s.findSession id = none := hnone
    simp [hne, hfind]

theorem update_opened (env : PppoeEnv) (id : UInt16) (source : Bytes) :
    ((s.setSession (s.newSession env id source)).setSession
      (Exec.lcpOpen (Exec.pppInit (s.newSession env id source)))).sessionMgr =
    Function.update s.sessionMgr id
      (some (Exec.lcpOpen (Exec.pppInit (s.newSession env id source)))) := by
  have hid : (Exec.lcpOpen (Exec.pppInit (s.newSession env id source))).sessionid = id :=
    congrArg (·.2.1) (Exec.fixed_init (s.newSession env id source))
  show Function.update (Function.update s.sessionMgr id _)
    (Exec.lcpOpen (Exec.pppInit (s.newSession env id source))).sessionid _ = _
  rw [hid, Function.update_idem]

/-- A session has been made, with the first free id. -/
structure Admits (s t : PppoeServer) (id : UInt16) (x : Exec) : Prop where
  ids : s.psessionid = id :: t.psessionid
  sessions : t.sessionMgr = Function.update s.sessionMgr id (some x)
  gone : t.gone = s.gone

/-- **What a PADR does to the table**: nothing, or it makes one session, which is opened unless
    the PADS has no room for a tag. -/
theorem processPADR_cases (env : PppoeEnv) (h : IdsConserved s) (p : PPPoEPacket) :
    Same s (s.processPADR env p) ∨ ∃ id,
      Admits s (s.processPADR env p) id (s.newSession env id p.source) ∨
      Admits s (s.processPADR env p) id
        (Exec.lcpOpen (Exec.pppInit (s.newSession env id p.source))) := by
  unfold processPADR
  dsimp only
  split
  · exact .inl ⟨rfl, rfl, rfl⟩
  split
  · exact .inl ⟨rfl, rfl, rfl⟩
  generalize (parsePacket parsePADRTags p _).2 = t
  split
  · exact .inl ⟨rfl, rfl, rfl⟩
  · exact .inl ⟨rfl, rfl, rfl⟩
  by_cases hnil : s.psessionid = []
  · rw [createSession_nil (s := { s with tags := t }) hnil]
    exact .inl ⟨rfl, rfl, rfl⟩
  obtain ⟨id, rest, hcons⟩ := List.exists_cons_of_ne_nil hnil
  have hnext : nextId { s with tags := t } = some id :=
    h.nextId_eq.trans (congrArg List.head? hcons)
  obtain ⟨hids, hnew⟩ := createSession_some env hnext p.source
  rw [hnew]
  refine .inr ⟨id, ?_⟩
  dsimp only
  cases padsPayload env.toDiscoveryConfig t with
  | none => exact .inl ⟨hids, rfl, rfl⟩
  | some payload => exact .inr ⟨hids, update_opened env id p.source, rfl⟩

/-! ## 4. What an event does -/

/-- The session an event is for, and what it is to that session. -/
def Event.addressed (env : PppoeEnv) : Event → Option (UInt16 × Exec.SessEvent)
  | .discovery frame stale =>
    let p := overlay (frame ++ stale)
    if frame.length < HDR_SIZE ∨ (p.ver ≠ 1 ∨ p.type ≠ 1) ∨
        p.length.toNat + HDR_SIZE > frame.length ∨ p.code ≠ CODE_PADT ∨ p.dest ≠ env.intfMac then
      none
    else some (p.session, .padt p.dest p.source)
  | .session frame stale rest =>
    let p := overlay (frame ++ stale)
    if frame.length < HDR_SIZE ∨ (p.ver ≠ 1 ∨ p.type ≠ 1) ∨ p.code ≠ CODE_SESS ∨
        p.length.toNat + HDR_SIZE > frame.length then
      none
    else some (p.session, .sessData
      { dest := p.dest, source := p.source, length := p.length,
        payload := p.payload.take p.length.toNat ++ rest })
  | .kick id mac => some (id, .kick mac)
  | .response k r => some (r.session, .response k r)
  | .timer id t => some (id, .timer t)
  | .oneOff id => some (id, .oneOff)

theorem step_addressed {e : Event} {id : UInt16} {ev : Exec.SessEvent} (hf : s.fault.isSome = false)
    (he : e.addressed env = some (id, ev)) : s.step env e = s.deliver id ev := by
  unfold step
  rw [if_neg (by rw [hf]; nofun)]
  cases e with
  | discovery frame stale =>
    unfold Event.addressed at he
    obtain ⟨hno, hev⟩ := Option.ite_none_left_eq_some.mp he
    cases hev
    simp only [not_or, not_not] at hno
    obtain ⟨hlen, ⟨hver, htype⟩, hroom, hcode, hdest⟩ := hno
    simp [processDiscoveryPacket, processPADT, hlen, hver, htype, hroom, hcode, hdest,
      CODE_PADI, CODE_PADR, CODE_PADT]
  | session frame stale rest =>
    unfold Event.addressed at he
    obtain ⟨hno, hev⟩ := Option.ite_none_left_eq_some.mp he
    cases hev
    simp only [not_or, not_not] at hno
    obtain ⟨hlen, ⟨hver, htype⟩, hcode, hroom⟩ := hno
    simp [processSessionPacket, hlen, hver, htype, hroom, hcode]
  | _ =>
    cases he
    rfl

/-- An event that is for no session is nothing to the table, unless it is a PADR. -/
theorem step_unaddressed (h : IdsConserved s) {e : Event} (hf : s.fault.isSome = false)
    (he : e.addressed env = none) :
    Same s (s.step env e) ∨ ∃ id frame stale, e = .discovery frame stale ∧
      (Admits s (s.step env e) id
        (s.newSession env id (overlay (frame ++ stale)).source) ∨
      Admits s (s.step env e) id (Exec.lcpOpen (Exec.pppInit
        (s.newSession env id (overlay (frame ++ stale)).source)))) := by
  have hsame : Same s s := ⟨rfl, rfl, rfl⟩
  unfold step
  rw [if_neg (by rw [hf]; nofun)]
  cases e with
  | discovery frame stale =>
    unfold Event.addressed at he
    have hyes := not_imp_comm.mp (ite_eq_left_iff.mp he) nofun
    dsimp only
    unfold processDiscoveryPacket
    dsimp only
    split
    · exact .inl hsame
    split
    · exact .inl hsame
    split
    · exact .inl hsame
    split
    · exact .inl (same_processPADI _ s)
    split
    · obtain hs | ⟨id, ha⟩ := processPADR_cases env h (overlay (frame ++ stale))
      · exact .inl hs
      · exact .inr ⟨id, frame, stale, rfl, ha⟩
    split
    · unfold processPADT
      split
      · exact .inl hsame
      · simp_all
    · exact .inl hsame
  | session frame stale rest =>
    unfold Event.addressed at he
    have hyes := not_imp_comm.mp (ite_eq_left_iff.mp he) nofun
    left
    dsimp only
    unfold processSessionPacket
    dsimp only
    repeat' split
    all_goals first
      | exact hsame
      | simp_all
  | _ => cases he

/-- What the session of an id hears in a step: nothing once the process has faulted. -/
def hears (env : PppoeEnv) (id : UInt16) (s : PppoeServer) (e : Event) : List Exec.SessEvent :=
  if s.fault.isSome then []
  else
    match e.addressed env with
    | some (j, ev) => if j = id then [ev] else []
    | none => []

/-- What an event may do to the table: nothing, make a session, let one go on or let one go; and
    what the sessions hear of it. -/
inductive Change (env : PppoeEnv) (s : PppoeServer) (e : Event) (t : PppoeServer) : Prop where
  | same (h : Same s t) (silent : ∀ id, (s.findSession id).isSome → hears env id s e = [])
  | admits (id : UInt16) (frame stale : Bytes) (x : Exec) (he : e = .discovery frame stale)
      (hnew : x = Exec.create (s.config env id (overlay (frame ++ stale)).source) ∨
        x = Exec.start (s.config env id (overlay (frame ++ stale)).source))
      (h : Admits s t id x) (silent : ∀ id, hears env id s e = [])
  | stays (id : UInt16) (x : Exec) (ev : Exec.SessEvent) (hx : s.findSession id = some x)
      (hlive : (x.sessStep ev).hist.removed = false)
      (sessions : t.sessionMgr = Function.update s.sessionMgr id (some (x.sessStep ev)))
      (ids : t.psessionid = s.psessionid) (gone : t.gone = s.gone)
      (heard : ∀ j, hears env j s e = if id = j then [ev] else [])
  | goes (id : UInt16) (x : Exec) (ev : Exec.SessEvent) (hx : s.findSession id = some x)
      (hremoved : (x.sessStep ev).hist.removed = true)
      (sessions : t.sessionMgr = Function.update s.sessionMgr id none)
      (ids : t.psessionid = (s.freeId id).psessionid) (gone : t.gone = x.sessStep ev :: s.gone)
      (heard : ∀ j, hears env j s e = if id = j then [ev] else [])

/-- **What an event does to the table.** -/
theorem change_step (h : IdsConserved s) (e : Event) : Change env s e (s.step env e) := by
  cases hf : s.fault.isSome with
  | true =>
    have hstep : s.step env e = s := if_pos hf
    rw [hstep]
    exact .same ⟨rfl, rfl, rfl⟩ fun _ _ => if_pos hf
  | false =>
    have hhears : ∀ j, hears env j s e = match e.addressed env with
        | some (i, ev) => if i = j then [ev] else []
        | none => [] := fun j => if_neg (by rw [hf]; nofun)
    cases he : e.addressed env with
    | none =>
      rw [he] at hhears
      obtain hs | ⟨id, frame, stale, rfl, ha | ha⟩ := step_unaddressed h hf he
      · exact .same hs fun j _ => hhears j
      · exact .admits id frame stale _ rfl (.inl rfl) ha hhears
      · exact .admits id frame stale _ rfl (.inr rfl) ha hhears
    | some a =>
      obtain ⟨id, ev⟩ := a
      rw [he] at hhears
      rw [step_addressed hf he]
      refine deliver_cases id ev (fun hx => ?_) (fun x hx hr hid => ?_) fun x hx hr hid => ?_
      · refine .same ⟨rfl, rfl, rfl⟩ fun j hj => (hhears j).trans (if_neg ?_)
        rintro rfl
        rw [hx] at hj
        cases hj
      · refine .stays id x ev hx hr ?_ rfl rfl hhears
        rw [← hid]
        rfl
      · refine .goes id x ev hx hr ?_ ?_ rfl hhears <;> rw [← hid] <;> rfl

/-! ## 5. Runs -/

/-- **Every event keeps the books.** -/
theorem conserved_step (h : IdsConserved s) (e : Event) : IdsConserved (s.step env e) := by
  have hp : Pooled (fun id => 1 ≤ id ∧ id ≤ 60000) s.psessionid s.sessionMgr := h
  have hc : Change env s e (s.step env e) := change_step h e
  unfold IdsConserved
  cases hc with
  | same hs _ =>
    rw [hs.ids, hs.sessions]
    exact hp
  | admits id _ _ x _ _ ha _ =>
    rw [ha.ids] at hp
    rw [ha.sessions]
    exact hp.take x
  | stays id x ev hx _ hm hids _ _ =>
    rw [hm, hids]
    exact hp.change (Option.isSome_of_eq_some hx) _
  | goes id x ev hx _ hm hids _ _ =>
    have hlive : (s.sessionMgr id).isSome := Option.isSome_of_eq_some hx
    have hfree : (s.freeId id).psessionid = s.psessionid ++ [id] := by
      unfold freeId
      rw [if_pos (hp.of_some hlive).1]
    rw [hm, hids, hfree]
    exact hp.put hlive

theorem conserved_initial : IdsConserved initial := by
  have hval : ∀ i ∈ List.range' 1 60000, (UInt16.ofNat i).toNat = i := by
    intro i hi
    rw [List.mem_range'_1] at hi
    exact UInt16.toNat_ofNat_of_lt' (by show i < 65536; omega)
  refine Pooled.start ?_ fun id => ?_
  · refine List.Nodup.map_on (fun i hi j hj hij => ?_) List.nodup_range'
    rw [← hval i hi, ← hval j hj, hij]
  show id ∈ (List.range' 1 60000).map UInt16.ofNat ↔ _
  rw [List.mem_map]
  constructor
  · rintro ⟨i, hi, rfl⟩
    rw [UInt16.le_iff_toNat_le, UInt16.le_iff_toNat_le, hval i hi]
    rw [List.mem_range'_1] at hi
    exact ⟨hi.1, Nat.le_of_lt_succ hi.2⟩
  · rintro ⟨h1, h2⟩
    rw [UInt16.le_iff_toNat_le] at h1 h2
    have h1 : 1 ≤ id.toNat := h1
    have h2 : id.toNat ≤ 60000 := h2
    exact ⟨id.toNat, List.mem_range'_1.mpr ⟨h1, by omega⟩, UInt16.ofNat_toNat⟩

/-- **In every state of every run the free ids and the ids of the sessions in the table are the
    numbers from 1 to 60000, each once.** -/
theorem ids_conserved (env : PppoeEnv) (es : List Event) :
    Throughout (step env) IdsConserved initial es :=
  throughout_keeps (I := IdsConserved) (fun _ e h => conserved_step h e) (fun _ h => h)
    conserved_initial es

end PppoeServer

end OpenBras
