/-
  RcnetServer.System.Gating

  The channel guards over whole runs.

  A guard reads the session when a packet arrives; the handler acts later and
  does not look again.  What a guard relies on is never taken back while the
  packet waits: encryption stays on and a valid verdict stays valid.  So every
  waiting message is still `Admitted`, and handling it keeps the session `Gated`.
-/

import RcnetServer.System.Authentication
import RcnetServer.System.Handshake

namespace RcnetServer

-- ============================================================================
-- Sessions and messages
-- ============================================================================

/-- A session whose progress is in the order handshake, authentication, match. -/
structure ClientSession.Gated (session : ClientSession) : Prop where
  encrypted : session.authStatus ≠ .none → session.isPacketEncryptionEnabled = true
  valid : session.isReadyForMatch = true ∨ session.pendingInputPacketsQueue ≠ [] →
    session.authStatus = .valid

/-- The part of a guard that is never taken back. -/
def ClientSession.Admits (session : ClientSession) : NetworkINToSimulationMessage → Prop
  | .clientAuthPacketReliable _ _ => session.isPacketEncryptionEnabled = true
  | .clientInputPacketUnreliable _ _ => session.authStatus = .valid
  | .clientReadyForMatchPacketReliable _ => session.authStatus = .valid
  | _ => True

/-- The messages that are only let in for a session that admits them. -/
def NetworkINToSimulationMessage.isGuarded : NetworkINToSimulationMessage → Bool
  | .clientAuthPacketReliable _ _ => true
  | .clientInputPacketUnreliable _ _ => true
  | .clientReadyForMatchPacketReliable _ => true
  | _ => false

/-- A guarded message has a session that admits it. -/
def Admitted (sessions : Sessions) (m : NetworkINToSimulationMessage) : Prop :=
  m.isGuarded = true → ∃ session, sessions.lookup m.connectionId = some session ∧ session.Admits m

theorem Admitted.of_guarded {sessions : Sessions} {m : NetworkINToSimulationMessage}
    (h : ServerNetworkIncoming.Guarded sessions m) : Admitted sessions m := by
  intro hguarded
  cases m with
  | clientAuthPacketReliable c packet =>
      obtain ⟨x, hx, _, _, henabled, _⟩ :=
        ServerNetworkIncoming.isConnectionAllowedForAuthChannel_iff.mp h
      exact ⟨x, hx, henabled⟩
  | clientInputPacketUnreliable c packet =>
      obtain ⟨x, hx, _, _, _, hvalid⟩ :=
        ServerNetworkIncoming.isConnectionAllowedForGameplayChannels_iff.mp h
      exact ⟨x, hx, hvalid⟩
  | clientReadyForMatchPacketReliable c =>
      obtain ⟨x, hx, _, _, _, hvalid⟩ :=
        ServerNetworkIncoming.isConnectionAllowedForGameplayChannels_iff.mp h
      exact ⟨x, hx, hvalid⟩
  | _ => cases hguarded

/-- The session of an admitted message admits it. -/
theorem Admitted.admits {sessions : Sessions} {m : NetworkINToSimulationMessage}
    {x : ClientSession} (h : Admitted sessions m) (hx : sessions.lookup m.connectionId = some x) :
    x.Admits m := by
  cases hm : m.isGuarded with
  | true =>
      obtain ⟨y, hy, hadmits⟩ := h hm
      obtain rfl := Option.some.inj (hx.symm.trans hy)
      exact hadmits
  | false => cases m <;> trivial

/-- A new session is gated. -/
theorem ClientSession.Gated.ofConnect (c : ConnectionId) : (ClientSession.ofConnect c).Gated where
  encrypted := fun h => absurd rfl h
  valid := by simp [ClientSession.ofConnect]

/-- Handling an admitted message keeps a session gated. -/
theorem ClientSession.Gated.clientStep {Peer : Type} {kx : KxServerSessionKeys}
    {oracle : HelloOracle} {networkState : NetworkState Peer} {m : NetworkINToSimulationMessage}
    {x y : ClientSession} (hx : x.Gated) (hadmits : x.Admits m)
    (h : (ServerSimulation.clientStep kx oracle networkState m (some x)).1 = some y) : y.Gated := by
  cases m with
  | clientEventConnect c =>
      obtain rfl := Option.some.inj h
      exact .ofConnect c
  | clientEventDisconnect c => cases h
  | clientSecureSessionHelloPacketReliable c packet =>
      obtain ⟨pk, rx, tx, e, hsession⟩ :=
        ServerSimulation.answerSecureSessionHello_session kx oracle networkState x packet
      simp only [ServerSimulation.clientStep, hsession, Option.some.injEq] at h
      rw [← h]
      exact ⟨hx.encrypted, hx.valid⟩
  | clientAuthPacketReliable c packet =>
      by_cases hstatus : x.authStatus = .none
      · simp only [ServerSimulation.clientStep, if_pos hstatus, Option.some.injEq] at h
        rw [← h]
        refine ⟨fun _ => hadmits, fun hready => ?_⟩
        -- a session that has not asked is neither ready nor has it inputs
        have hvalid := hx.valid hready
        rw [hstatus] at hvalid
        cases hvalid
      · simp only [ServerSimulation.clientStep, if_neg hstatus, Option.some.injEq] at h
        exact h ▸ hx
  | clientInputPacketUnreliable c packet =>
      obtain ⟨pending, _, hsession⟩ := x.receiveInput_eq packet
      simp only [ServerSimulation.clientStep, hsession, Option.some.injEq] at h
      rw [← h]
      exact ⟨hx.encrypted, fun _ => hadmits⟩
  | clientReadyForMatchPacketReliable c =>
      obtain rfl := Option.some.inj h
      exact ⟨hx.encrypted, fun _ => hadmits⟩

/-- A reply to a waiting session keeps it gated. -/
theorem ClientSession.Gated.applyAuthResponse {x : ClientSession} (hx : x.Gated)
    (hwaiting : x.authStatus = .waitingAuth) (response : AuthTokenVerificationHTTPResponse) :
    (x.applyAuthResponse response).Gated := by
  obtain ⟨status, _, _, _, _, h⟩ := x.applyAuthResponse_eq response
  rw [h]
  refine ⟨fun _ => hx.encrypted (by simp [hwaiting]), fun hready => ?_⟩
  have hvalid := hx.valid hready
  rw [hwaiting] at hvalid
  cases hvalid

-- ============================================================================
-- The waiting messages
-- ============================================================================

variable {Peer : Type}

/-- The messages between their guard and their handler. -/
def System.undelivered (s : System Peer) : List NetworkINToSimulationMessage :=
  s.pendingNetwork ++ s.network.pushingMessages

variable [DecidableEq Peer] {platform : Platform} {s s' : System Peer} {a : Action Peer}
  {tr es : List (Event Peer)}

omit [DecidableEq Peer] in
/-- The head of the batch is the first waiting message. -/
theorem System.mem_undelivered_of_next {m : NetworkINToSimulationMessage}
    {rest : List NetworkINToSimulationMessage} (next : s.simulation.networkMessages = m :: rest) :
    m ∈ s.undelivered := by
  simp [System.undelivered, System.pendingNetwork, next]

/-- A message waiting after a step was waiting before it or has just come in. -/
theorem mem_undelivered (hr : (server Peer platform).Reach s tr)
    (hr' : (server Peer platform).Reach s' (tr ++ es)) {m : NetworkINToSimulationMessage}
    (hm : m ∈ s'.undelivered) : m ∈ s.undelivered ∨ m ∈ incomingLog es := by
  have h := (FifoInv.of_reach hr').incoming_eq
  have hbefore := (FifoInv.of_reach hr).incoming_eq
  rw [incomingLog_append, hbefore, handledLog_append, List.append_assoc,
    List.append_assoc (handledLog tr)] at h
  have hmem : m ∈ handledLog es ++ s'.undelivered := List.mem_append_right _ hm
  rw [System.undelivered, ← List.append_cancel_left h] at hmem
  exact List.mem_append.mp hmem

/-- While a message of a known connection waits, the connection has its session. -/
theorem session_of_undelivered (hr : (server Peer platform).Reach s tr) (few : FewConnects tr)
    {m : NetworkINToSimulationMessage} (hm : m ∈ s.undelivered)
    (hnamed : connectionPhase m.connectionId (handledLog tr) ≠ .fresh) :
    (s.networkState.sessions.lookup m.connectionId).isSome = true := by
  have hwf := (TableInv.of_reach hr few).wellFormed m.connectionId
  rw [(FifoInv.of_reach hr).incoming_eq] at hwf
  rw [(SessionInv.of_reach hr few).live]
  cases hphase : connectionPhase m.connectionId (handledLog tr) with
  | fresh => exact absurd hphase hnamed
  | live => rfl
  | ended => exact absurd rfl (Lifecycle.not_named_of_ended hphase hwf m hm)
  | broken => exact absurd hphase (Lifecycle.phase_ne_broken_of_append hwf)

/-- A step never switches encryption off. -/
theorem SessionInv.encryption_kept (table : SessionInv s tr) (h : System.Steps platform s a s' es)
    (hwf : WellFormedLog (handledLog (tr ++ es))) {c : ConnectionId} {x y : ClientSession}
    (hx : s.networkState.sessions.lookup c = some x)
    (hy : s'.networkState.sessions.lookup c = some y)
    (henabled : x.isPacketEncryptionEnabled = true) : y.isPacketEncryptionEnabled = true := by
  have hchange := h.session c
  rw [hy] at hchange
  cases hchange with
  | same kept =>
      obtain rfl := Option.some.inj (kept.trans hx)
      exact henabled
  | @handled oracle m rest _ own next left =>
      rcases ServerSimulation.clientStep_session _ _ _ left with
        ⟨hkind, _⟩ | ⟨_, z, hz, _, _, _, _, _, _, _, _, _, rfl⟩
      · exact absurd hkind (table.not_opens h hwf next (own ▸ hx))
      · obtain rfl := Option.some.inj (hx.symm.trans hz)
        exact henabled
  | @replied reply _ z _ _ found =>
      obtain rfl := Option.some.inj (hx.symm.trans found)
      obtain ⟨_, _, _, _, _, hreply⟩ := x.applyAuthResponse_eq reply.authTokenVerificationResponse
      rw [hreply]
      exact henabled
  | encrypted => rfl
  | @snapshot _ z found =>
      obtain rfl := Option.some.inj (hx.symm.trans found)
      exact henabled

/-- Waiting messages are admitted and sessions gated. -/
structure GateInv (s : System Peer) : Prop where
  admitted : ∀ m ∈ s.undelivered, Admitted s.networkState.sessions m
  gated : ∀ c session, s.networkState.sessions.lookup c = some session → session.Gated

namespace GateInv

omit [DecidableEq Peer] in
theorem init (platform : Platform) : GateInv (System.init platform : System Peer) where
  admitted := by simp [System.init, System.undelivered, System.pendingNetwork]
  gated := by simp [System.init]

/-- A waiting message stays admitted. -/
theorem admitted_kept (hr : (server Peer platform).Reach s tr)
    (hr' : (server Peer platform).Reach s' (tr ++ es)) (h : System.Steps platform s a s' es)
    (few : FewConnects (tr ++ es)) {m : NetworkINToSimulationMessage} (hm : m ∈ s'.undelivered)
    (hadmitted : Admitted s.networkState.sessions m) : Admitted s'.networkState.sessions m := by
  intro hguarded
  obtain ⟨x, hx, hadmits⟩ := hadmitted hguarded
  have table := SessionInv.of_reach hr few.of_append
  have hwf := handledLog_wellFormed hr' few
  have hsome : (s'.networkState.sessions.lookup m.connectionId).isSome = true := by
    refine session_of_undelivered hr' few hm ?_
    rw [handledLog_append]
    apply Lifecycle.phase_ne_fresh_append
    have hlive := (table.live m.connectionId).mp (by simp [hx])
    simp [hlive]
  obtain ⟨y, hy⟩ := Option.isSome_iff_exists.mp hsome
  have hencryption := table.encryption_kept h hwf hx hy
  have hverdict := fun hvalid =>
    ((AuthInv.of_reach hr few.of_append).verdict_kept table h hwf hx hy (Or.inl hvalid)).1.trans
      hvalid
  refine ⟨y, hy, ?_⟩
  cases m with
  | clientAuthPacketReliable => exact hencryption hadmits
  | clientInputPacketUnreliable => exact hverdict hadmits
  | clientReadyForMatchPacketReliable => exact hverdict hadmits
  | _ => trivial

theorem step (hr : (server Peer platform).Reach s tr)
    (hr' : (server Peer platform).Reach s' (tr ++ es)) (inv : GateInv s)
    (h : System.Steps platform s a s' es) (few : FewConnects (tr ++ es)) : GateInv s' := by
  refine ⟨?_, ?_⟩
  · intro m hm
    rcases mem_undelivered hr hr' hm with hold | hnew
    · exact admitted_kept hr hr' h few hm (inv.admitted m hold)
    · cases h with
      | receive _ pushed =>
          obtain rfl := List.mem_singleton.mp hnew
          exact .of_guarded (ServerNetworkIncoming.eventHandleReceive_push pushed).2.2
      | connect =>
          obtain rfl := List.mem_singleton.mp hnew
          exact fun hguarded => by cases hguarded
      | disconnect =>
          obtain rfl := List.mem_singleton.mp hnew
          exact fun hguarded => by cases hguarded
      | _ => cases hnew
  · intro c y hy
    have hchange := h.session c
    rw [hy] at hchange
    cases hchange with
    | same kept => exact inv.gated c y kept.symm
    | @handled oracle m rest _ own next left =>
        have hadmitted := inv.admitted m (System.mem_undelivered_of_next next)
        cases hx : s.networkState.sessions.lookup c with
        | none =>
            rw [hx] at left
            rcases ServerSimulation.clientStep_session _ _ _ left with ⟨_, rfl⟩ | ⟨_, x, hx', _⟩
            · exact .ofConnect _
            · cases hx'
        | some x =>
            rw [hx] at left
            exact (inv.gated c x hx).clientStep (hadmitted.admits (own ▸ hx)) left
    | @replied reply rest x own next found =>
        have hwaiting := (AuthInv.of_reach hr few.of_append).reply_waiting next (own ▸ found)
        exact (inv.gated c x found).applyAuthResponse hwaiting _
    | @encrypted _ _ _ x _ _ _ _ found =>
        exact ⟨fun _ => rfl, (inv.gated c x found).valid⟩
    | @snapshot _ x found =>
        exact ⟨(inv.gated c x found).encrypted, (inv.gated c x found).valid⟩

theorem of_reach (hr : (server Peer platform).Reach s tr) (few : FewConnects tr) : GateInv s :=
  TraceMachine.Run.invariant_of_prefix (P := fun s _ => GateInv s) (B := FewConnects)
    (fun _ _ h => h.of_append) (GateInv.init platform)
    (fun _ _ _ _ _ hr inv _ hs few =>
      inv.step hr.reach (hr.reach.next hs) (System.step_cases hs) few)
    hr few

end GateInv

end RcnetServer
