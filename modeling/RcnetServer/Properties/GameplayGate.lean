/-
  RcnetServer.Properties.GameplayGate

  Gameplay comes after authentication, authentication after an acknowledged
  handshake, and the start of the match after everybody is ready.
-/

import RcnetServer.System.Gating
import RcnetServer.System.MatchPhases

namespace RcnetServer

variable {Peer : Type} [DecidableEq Peer] {platform : Platform} {s s' : System Peer}
  {tr es : List (Event Peer)}

/-- A hello of connection `c` with the server's protocol version was answered
    SUCCESS, and the answer was acknowledged. -/
def HandshakeAcknowledged (c : ConnectionId) (tr : List (Event Peer)) : Prop :=
  ∃ hello m calls,
    Event.networkHandled (.clientSecureSessionHelloPacketReliable c hello) [m] [] ∈ tr ∧
    hello.networkProtocolVersion = serverNetworkProtocolVersion ∧
    m.connectionId = c ∧ m.isHelloSuccess = true ∧ Event.acknowledged m calls ∈ tr

/-- An encrypted session went through the handshake. -/
theorem handshakeAcknowledged_of_encrypted (hr : (server Peer platform).Reach s tr)
    (few : FewConnects tr) {c : ConnectionId} {session : ClientSession}
    (hsession : s.networkState.sessions.lookup c = some session)
    (henabled : session.isPacketEncryptionEnabled = true) : HandshakeAcknowledged c tr := by
  obtain ⟨m, hello, calls, hack, rfl, haccepted⟩ :=
    (EncryptionInv.of_reach hr few).acknowledged c session hsession henabled
  refine ⟨hello, m, calls, haccepted.handled, ?_, rfl, haccepted.success, hack⟩
  have hhandled := mem_handledLog.mpr ⟨_, _, haccepted.handled⟩
  refine hello_version hr (c := m.connectionId) ?_
  rw [(FifoInv.of_reach hr).incoming_eq]
  exact List.mem_append_left _ hhandled

/-- Only the match phases make a MATCH_START message, when every session of the
    table is ready and valid. -/
theorem matchStart_produced (hr : (server Peer platform).Reach s tr) (few : FewConnects tr)
    {m : SimulationToNetworkOUTMessage} (hm : m ∈ producedLog tr)
    (htype : m.type = .serverMatchStartPacketReliable) :
    ∃ currentTick sessions gameState out,
      Event.matchFlowChecked currentTick sessions gameState out ∈ tr ∧ m ∈ out ∧
      ∀ c session, sessions.lookup c = some session →
        session.isReadyForMatch = true ∧ session.authStatus = .valid := by
  refine TraceMachine.Run.invariant_of_prefix
    (P := fun (_ : System Peer) (tr : List (Event Peer)) =>
      ∀ m ∈ producedLog tr, m.type = .serverMatchStartPacketReliable →
      ∃ currentTick sessions gameState out,
        Event.matchFlowChecked currentTick sessions gameState out ∈ tr ∧ m ∈ out ∧
        ∀ c session, sessions.lookup c = some session →
          session.isReadyForMatch = true ∧ session.authStatus = .valid) (B := FewConnects)
    (fun _ _ h => h.of_append) (by simp) ?_ hr few m hm htype
  intro s tr a s' es hr ih _ hs few m hm htype
  rw [producedLog_append] at hm
  rcases List.mem_append.mp hm with hm | hm
  · obtain ⟨t, sessions, gameState, out, he, hout, hall⟩ := ih m hm htype
    exact ⟨t, sessions, gameState, out, List.mem_append_left _ he, hout, hall⟩
  · have hstep := System.step_cases hs
    obtain ⟨order, clock, m₀, serial, rfl, perm, hm₀, hm'⟩ :=
      hstep.matchPhase_produced hm (by rw [htype]; rfl)
    cases hstep with
    | checkMatchFlow =>
        rw [producedLog_singleton] at hm
        refine ⟨_, _, _, _, List.mem_append_right _ (List.mem_singleton.mpr rfl), hm, ?_⟩
        have htype₀ : m₀.type = .serverMatchStartPacketReliable := by
          rw [hm'] at htype
          exact htype
        obtain ⟨_, _, _, _, hkind⟩ := ServerSimulation.mem_checkMatchFlow hm₀
        have hready : ServerSimulation.areAllSessionsReadyForMatch platform.config
            { s.networkState with sessions := order } = true := by
          rcases hkind with ⟨h, _⟩ | ⟨h, _⟩ | ⟨_, _, h⟩
          · exact absurd (h.symm.trans htype₀) (by simp)
          · exact absurd (h.symm.trans htype₀) (by simp)
          · exact h
        intro c session hsession
        have hready := (ServerSimulation.areAllSessionsReadyForMatch_iff.mp hready).2 c session
          ((AList.perm_lookup perm).trans hsession)
        exact ⟨hready, ((GateInv.of_reach hr.reach few.of_append).gated c session hsession).valid
          (Or.inl hready)⟩

/-- (a) A session that has asked to be authenticated is connected, encrypted and
    past an acknowledged handshake; (b) a session that is ready or has inputs
    waiting is authenticated; (c) a MATCH_START message is pushed only in a tick
    whose match-flow pass found every session ready and authenticated. -/
theorem gameplay_gated_by_authentication (hr : (server Peer platform).Reach s tr)
    (few : FewConnects tr) :
    (∀ c session, s.networkState.sessions.lookup c = some session →
      (session.authStatus ≠ .none → session.isTransportConnected = true ∧
        session.isPacketEncryptionEnabled = true ∧ HandshakeAcknowledged c tr) ∧
      (session.isReadyForMatch = true ∨ session.pendingInputPacketsQueue ≠ [] →
        session.authStatus = .valid)) ∧
    (∀ m, Event.outgoingPushed m ∈ tr → m.type = .serverMatchStartPacketReliable →
      ∃ currentTick sessions gameState out,
        Event.matchFlowChecked currentTick sessions gameState out ∈ tr ∧ m ∈ out ∧
        ∀ c session, sessions.lookup c = some session →
          session.isReadyForMatch = true ∧ session.authStatus = .valid) := by
  refine ⟨?_, ?_⟩
  · intro c session hsession
    have hgated := (GateInv.of_reach hr few).gated c session hsession
    have hown := (SessionInv.of_reach hr few).own c session hsession
    refine ⟨fun hstatus => ?_, hgated.valid⟩
    have henabled := hgated.encrypted hstatus
    exact ⟨hown.2, henabled, handshakeAcknowledged_of_encrypted hr few hsession henabled⟩
  · intro m hm htype
    refine matchStart_produced hr few ?_ htype
    rw [producedLog_eq hr]
    exact List.mem_append_left _ (List.mem_flatMap.mpr ⟨_, hm, by simp⟩)

/-- The client of the run is ready, so it is authenticated past a handshake. -/
theorem soloAnnounced_gated :
    ∃ session, soloAnnouncedResult.1.networkState.sessions.lookup 1 = some session ∧
      session.isReadyForMatch = true ∧ session.authStatus = .valid ∧
      HandshakeAcknowledged 1 soloAnnouncedResult.2 := by
  have hr : (server Unit soloPlatform).Reach soloAnnouncedResult.1 soloAnnouncedResult.2 :=
    TraceMachine.run_get soloAnnounced_runs
  have few : FewConnects soloAnnouncedResult.2 := by
    unfold FewConnects
    decide +kernel
  have hready : (soloAnnouncedResult.1.networkState.sessions.lookup 1).map (·.isReadyForMatch) =
      some true := by
    decide +kernel
  obtain ⟨session, hsession, hready⟩ := Option.map_eq_some_iff.mp hready
  obtain ⟨hgated, _⟩ := gameplay_gated_by_authentication hr few
  have hvalid := (hgated 1 session hsession).2 (Or.inl hready)
  have hstatus : session.authStatus ≠ .none := by simp [hvalid]
  exact ⟨session, hsession, hready, hvalid, ((hgated 1 session hsession).1 hstatus).2.2⟩

end RcnetServer
