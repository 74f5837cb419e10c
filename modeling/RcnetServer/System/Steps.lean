/-
  RcnetServer.System.Steps

  What one step can do, said once.

  `Steps platform s a s' es` lists the possible steps with their guards and the
  state they leave; `step_cases` reads it off the step functions.  Every
  invariant is proved by cases on it and never unfolds a step function.
-/

import RcnetServer.System

namespace RcnetServer

variable {Peer : Type} [DecidableEq Peer]

namespace System

-- ============================================================================
-- States left by the event handlers
-- ============================================================================

/-- After the CONNECT of slot `p`. -/
def connected (s : System Peer) (p : Peer) : System Peer :=
  { s with
    networkState :=
      { s.networkState with
        nextConnectionId := s.networkState.nextConnectionId + 1
        connectionIdToEnetPeer :=
          s.networkState.connectionIdToEnetPeer.insert s.networkState.nextConnectionId (some p)
        connectionIdToEncryptionEnabled :=
          s.networkState.connectionIdToEncryptionEnabled.insert s.networkState.nextConnectionId
            false }
    peers :=
      s.peers.set p
        { data := dataOfConnectionId s.networkState.nextConnectionId, connected := true }
    netToSim := s.netToSim ++ [.clientEventConnect s.networkState.nextConnectionId] }

/-- After the DISCONNECT of slot `p`, which carried the id `c`. -/
def disconnected (s : System Peer) (p : Peer) (c : ConnectionId) : System Peer :=
  { s with
    networkState :=
      { s.networkState with
        connectionIdToEnetPeer := s.networkState.connectionIdToEnetPeer.erase c
        connectionIdToEncryptionEnabled := s.networkState.connectionIdToEncryptionEnabled.erase c }
    peers := s.peers.set p { data := 0, connected := false }
    netToSim := s.netToSim ++ [.clientEventDisconnect c] }

/-- A pass without the snapshot of `c`, which is being handled. -/
def withoutSnapshot (prepared : ServerNetworkOutgoingPreparedMessages) (c : ConnectionId) :
    ServerNetworkOutgoingPreparedMessages :=
  { prepared with
    lastSnapshotFullUnreliablePerConnectionId :=
      prepared.lastSnapshotFullUnreliablePerConnectionId.erase c }

-- ============================================================================
-- The possible steps
-- ============================================================================

/-- The steps of the server, each with what it needs and what it leaves. -/
inductive Steps (platform : Platform) (s : System Peer) :
    Action Peer → System Peer → List (Event Peer) → Prop
  | eventDropped {event : ENetEvent Peer} :
      Steps platform s (.enetEvent event) s []
  | protocolMismatch {event : ENetEvent Peer} :
      Steps platform s (.enetEvent event) s [.peerDisconnected event.peer]
  | connect {event : ENetEvent Peer} {p : Peer} (idle : s.network = .idle)
      (free : (s.peers p).connected = false) :
      Steps platform s (.enetEvent event) (s.connected p)
        [.incoming (.clientEventConnect s.networkState.nextConnectionId)
            (s.networkState.sessions.lookup s.networkState.nextConnectionId),
          .networkPushed (.clientEventConnect s.networkState.nextConnectionId)]
  | disconnectUnknown {event : ENetEvent Peer} {p : Peer} (idle : s.network = .idle)
      (used : (s.peers p).connected = true) (null : (s.peers p).data = 0) :
      Steps platform s (.enetEvent event)
        { s with peers := s.peers.set p { data := 0, connected := false } } []
  | disconnect {event : ENetEvent Peer} {p : Peer} (idle : s.network = .idle)
      (used : (s.peers p).connected = true) (notNull : (s.peers p).data ≠ 0) :
      Steps platform s (.enetEvent event) (s.disconnected p (s.peers p).data.toUInt32)
        [.incoming (.clientEventDisconnect (s.peers p).data.toUInt32)
            (s.networkState.sessions.lookup (s.peers p).data.toUInt32),
          .networkPushed (.clientEventDisconnect (s.peers p).data.toUInt32)]
  | receive {event : ENetEvent Peer} {m : NetworkINToSimulationMessage}
      (idle : s.network = .idle)
      (pushed : ServerNetworkIncoming.eventHandleReceive event s.networkState s.peers = .push m) :
      Steps platform s (.enetEvent event) { s with network := .pushing m }
        [.incoming m (s.networkState.sessions.lookup m.connectionId)]
  | networkPush {m : NetworkINToSimulationMessage} (pushing : s.network = .pushing m) :
      Steps platform s .networkPush
        { s with network := .idle, netToSim := s.netToSim ++ [m] } [.networkPushed m]
  | acknowledgeIgnored {i : Nat} {owned : OwnedPacket Peer} (idle : s.network = .idle)
      (inFlight : s.inFlight[i]? = some owned) :
      Steps platform s (.acknowledge i) { s with inFlight := s.inFlight.eraseIdx i }
        [.acknowledged owned.message []]
  | acknowledge {i : Nat} {owned : OwnedPacket Peer} {context : ReliableAckActionContext Peer}
      {p : Peer} (idle : s.network = .idle) (inFlight : s.inFlight[i]? = some owned)
      (userData : owned.packet.userData = some context) (peer : context.peer = some p)
      (bound : BoundPeer s.networkState s.peers p context.connectionId)
      (registered : owned.packet.acknowledgeCallback = true) :
      Steps platform s (.acknowledge i)
        { s with
          networkState :=
            if context.enableEncryptionAfterAck then
              s.networkState.enableEncryption context.connectionId
            else s.networkState
          inFlight := s.inFlight.eraseIdx i }
        [.acknowledged owned.message (disconnectLaterIf context.disconnectAfterAck p)]
  | release {i : Nat} {owned : OwnedPacket Peer} (idle : s.network = .idle)
      (inFlight : s.inFlight[i]? = some owned) :
      Steps platform s (.release i) { s with inFlight := s.inFlight.eraseIdx i }
        [.released owned.message]
  | beginOutgoing (idle : s.network = .idle) :
      Steps platform s .beginOutgoing
        { s with
          simToNet := []
          network := .outgoing
            (ServerNetworkOutgoing.splitReliableAndCoalesceUnreliableMessages s.simToNet) }
        []
  | sendReliable {outcome : SendOutcome} {prepared : ServerNetworkOutgoingPreparedMessages}
      {m : SimulationToNetworkOUTMessage} {rest : List SimulationToNetworkOUTMessage}
      (outgoing : s.network = .outgoing prepared)
      (next : prepared.reliableMessages = m :: rest) :
      Steps platform s (.sendReliable outcome)
        { s with
          network := .outgoing { prepared with reliableMessages := rest }
          inFlight := s.inFlight ++ acceptedPackets m
            (ServerNetworkOutgoing.handleReliableMessage s.networkState s.peers m outcome).calls }
        [.reliableHandled m
          (ServerNetworkOutgoing.handleReliableMessage s.networkState s.peers m outcome).calls]
  | skipSnapshot {c : ConnectionId} {prepared : ServerNetworkOutgoingPreparedMessages}
      {m : SimulationToNetworkOUTMessage} (outgoing : s.network = .outgoing prepared)
      (reliableDone : prepared.reliableMessages = [])
      (next : prepared.lastSnapshotFullUnreliablePerConnectionId.lookup c = some m) :
      Steps platform s (.patchSnapshot c)
        { s with network := .outgoing (withoutSnapshot prepared c) } [.snapshotHandled m []]
  | patchSnapshot {c : ConnectionId} {prepared : ServerNetworkOutgoingPreparedMessages}
      {m : SimulationToNetworkOUTMessage} {p : Peer} {session : ClientSession}
      {bytes : List UInt8} (outgoing : s.network = .outgoing prepared)
      (reliableDone : prepared.reliableMessages = [])
      (next : prepared.lastSnapshotFullUnreliablePerConnectionId.lookup c = some m)
      (peer : ServerNetworkOutgoing.findPeerByConnectionId s.networkState m.connectionId = some p)
      (found : s.networkState.sessions.lookup m.connectionId = some session)
      (patched : ServerNetworkOutgoing.patchSnapshotFullMessage s.networkState m =
        (s.networkState.setSession m.connectionId session.allocateSnapshotId, some bytes)) :
      Steps platform s (.patchSnapshot c)
        { s with
          networkState := s.networkState.setSession m.connectionId session.allocateSnapshotId
          network := .sendingSnapshot p m bytes (withoutSnapshot prepared c) }
        []
  | sendSnapshot {outcome : SendOutcome} {p : Peer} {m : SimulationToNetworkOUTMessage}
      {bytes : List UInt8} {prepared : ServerNetworkOutgoingPreparedMessages}
      (sending : s.network = .sendingSnapshot p m bytes prepared) :
      Steps platform s (.sendSnapshot outcome) { s with network := .outgoing prepared }
        [.snapshotHandled m
          (ServerNetworkOutgoing.sendSnapshotFullPacketUnreliable s.networkState s.peers (some p)
            bytes outcome).calls]
  | endOutgoing {prepared : ServerNetworkOutgoingPreparedMessages}
      (outgoing : s.network = .outgoing prepared)
      (reliableDone : prepared.reliableMessages = [])
      (snapshotsDone : prepared.lastSnapshotFullUnreliablePerConnectionId.entries = []) :
      Steps platform s .endOutgoing { s with network := .idle } []
  | beginTick {t : UInt64} (phase : s.simulation.phase = .idle)
      (pushed : s.simulationHasPushed = true) :
      Steps platform s (.beginTick t)
        { s with
          netToSim := []
          simulation :=
            { s.simulation with
              phase := .drainHttp
              currentTick := t
              networkMessages := s.netToSim } }
        []
  | drainHttp (phase : s.simulation.phase = .drainHttp) :
      Steps platform s .drainHttp
        { s with
          httpToSim := []
          simulation := { s.simulation with phase := .dispatch, httpMessages := s.httpToSim } }
        []
  | handleNetwork {oracle : HelloOracle} {m : NetworkINToSimulationMessage}
      {rest : List NetworkINToSimulationMessage}
      (next : s.simulation.networkMessages = m :: rest)
      (phase : s.simulation.phase = .dispatch) (pushed : s.simulationHasPushed = true) :
      Steps platform s (.handleNetwork oracle)
        ({ s with
            networkState :=
              { s.networkState with
                sessions :=
                  (ServerSimulation.processNetworkIncoming platform.kx oracle s.networkState
                    m).1.sessions }
            simulation :=
              { s.simulation with
                networkMessages := rest
                httpOutbox :=
                  (ServerSimulation.processNetworkIncoming platform.kx oracle s.networkState
                    m).2.2 } : System Peer }.produce
          (ServerSimulation.processNetworkIncoming platform.kx oracle s.networkState m).2.1)
        [.networkHandled m
          (stamp s.producedCount
            (ServerSimulation.processNetworkIncoming platform.kx oracle s.networkState m).2.1)
          (ServerSimulation.processNetworkIncoming platform.kx oracle s.networkState m).2.2]
  | handleHttp {reply : HttpToSimulationMessage} {rest : List HttpToSimulationMessage}
      (networkDone : s.simulation.networkMessages = [])
      (next : s.simulation.httpMessages = reply :: rest)
      (phase : s.simulation.phase = .dispatch) (pushed : s.simulationHasPushed = true) :
      Steps platform s .handleHttp
        ({ s with
            networkState :=
              { s.networkState with
                sessions :=
                  (ServerSimulation.handleAuthValidateTokenResponseMessage s.networkState
                    reply).1.sessions }
            simulation := { s.simulation with httpMessages := rest } : System Peer }.produce
          (ServerSimulation.handleAuthValidateTokenResponseMessage s.networkState reply).2)
        [.replyHandled reply (s.networkState.sessions.lookup reply.connectionId)
          (stamp s.producedCount
            (ServerSimulation.handleAuthValidateTokenResponseMessage s.networkState reply).2)]
  | checkMatchFlow {order : Sessions} {clock : Nat → UInt64}
      (phase : s.simulation.phase = .dispatch) (pushed : s.simulationHasPushed = true)
      (networkDone : s.simulation.networkMessages = [])
      (httpDone : s.simulation.httpMessages = [])
      (perm : order.entries.Perm s.networkState.sessions.entries) :
      Steps platform s (.checkMatchFlow order clock)
        ({ s with
            gameState :=
              (ServerSimulation.checkMatchFlow platform.engine platform.config clock
                { s.networkState with sessions := order } s.simulation.currentTick s.gameState).1
            simulation := { s.simulation with phase := .snapshots } : System Peer }.produce
          (ServerSimulation.checkMatchFlow platform.engine platform.config clock
            { s.networkState with sessions := order } s.simulation.currentTick s.gameState).2)
        [.matchFlowChecked s.simulation.currentTick s.networkState.sessions
          (ServerSimulation.checkMatchFlow platform.engine platform.config clock
            { s.networkState with sessions := order } s.simulation.currentTick s.gameState).1
          (stamp s.producedCount
            (ServerSimulation.checkMatchFlow platform.engine platform.config clock
              { s.networkState with sessions := order } s.simulation.currentTick s.gameState).2)]
  | createSnapshots {order : Sessions} {clock : Nat → UInt64}
      {out : List SimulationToNetworkOUTMessage} (phase : s.simulation.phase = .snapshots)
      (pushed : s.simulationHasPushed = true)
      (perm : order.entries.Perm s.networkState.sessions.entries)
      (made : out = [] ∨
        out = ServerSimulation.createFullSnapshotsForAllSessionsAndEnqueueForNetworkOutgoing
          clock { s.networkState with sessions := order } s.simulation.currentTick) :
      Steps platform s (.createSnapshots order clock)
        ({ s with simulation := { s.simulation with phase := .idle } : System Peer }.produce out)
        [.snapshotsCreated s.simulation.currentTick (stamp s.producedCount out)]
  | simulationPush {m : SimulationToNetworkOUTMessage}
      {rest : List SimulationToNetworkOUTMessage} (next : s.simulation.outbox = m :: rest) :
      Steps platform s .simulationPush
        { s with
          simToNet := s.simToNet ++ [m]
          simulation := { s.simulation with outbox := rest } }
        [.outgoingPushed m]
  | simulationPushHttp {m : SimulationToHttpMessage} {rest : List SimulationToHttpMessage}
      (next : s.simulation.httpOutbox = m :: rest) :
      Steps platform s .simulationPushHttp
        { s with
          simToHttp := s.simToHttp.push m
          simulation := { s.simulation with httpOutbox := rest } }
        [.httpPushed m]
  | httpDrain (done : s.httpBatch = []) :
      Steps platform s .httpDrain
        { s with httpBatch := s.simToHttp.q, simToHttp := { s.simToHttp with q := [] } } []
  | httpReply {response : AuthTokenVerificationHTTPResponse} {request : SimulationToHttpMessage}
      {rest : List SimulationToHttpMessage} (next : s.httpBatch = request :: rest) :
      Steps platform s (.httpReply response)
        { s with
          httpBatch := rest
          httpToSim := s.httpToSim ++
            [{ connectionId := request.connectionId, authTokenVerificationResponse := response }] }
        [.replyPushed
          { connectionId := request.connectionId, authTokenVerificationResponse := response }]
  | stopHttp : Steps platform s .stopHttp { s with simToHttp := s.simToHttp.stop } []

-- ============================================================================
-- Inversion
-- ============================================================================

variable {platform : Platform} {s s' : System Peer} {es : List (Event Peer)}

omit [DecidableEq Peer] in
theorem isPossibleEvent_connect {event : ENetEvent Peer} {p : Peer} (hpeer : event.peer = some p)
    (htype : event.type = .connect) (h : s.isPossibleEvent event = true) :
    (s.peers p).connected = false := by
  simpa [isPossibleEvent, hpeer, htype] using h

omit [DecidableEq Peer] in
theorem isPossibleEvent_disconnect {event : ENetEvent Peer} {p : Peer}
    (hpeer : event.peer = some p)
    (htype : event.type = .disconnect ∨ event.type = .disconnectTimeout)
    (h : s.isPossibleEvent event = true) : (s.peers p).connected = true := by
  rcases htype with htype | htype <;> simpa [isPossibleEvent, hpeer, htype] using h

theorem afterHandler_connect (s : System Peer) {event : ENetEvent Peer} {p : Peer}
    (hpeer : event.peer = some p) :
    s.afterHandler (ServerNetworkIncoming.eventHandleConnect event s.networkState
        (s.announce event true)) =
      (s.connected p,
        [.incoming (.clientEventConnect s.networkState.nextConnectionId)
            (s.networkState.sessions.lookup s.networkState.nextConnectionId),
          .networkPushed (.clientEventConnect s.networkState.nextConnectionId)]) := by
  simp [afterHandler, ServerNetworkIncoming.eventHandleConnect, announce, hpeer, connected,
    ENetPeers.set_set, NetworkINToSimulationMessage.connectionId]

theorem afterHandler_disconnect_null (s : System Peer) {event : ENetEvent Peer} {p : Peer}
    (hpeer : event.peer = some p) (hdata : (s.peers p).data = 0) :
    s.afterHandler (ServerNetworkIncoming.eventHandleDisconnect event s.networkState
        (s.announce event false)) =
      ({ s with peers := s.peers.set p { data := 0, connected := false } }, []) := by
  simp [afterHandler, ServerNetworkIncoming.eventHandleDisconnect, announce, hpeer, hdata]

theorem afterHandler_disconnect (s : System Peer) {event : ENetEvent Peer} {p : Peer}
    (hpeer : event.peer = some p) (hdata : (s.peers p).data ≠ 0) :
    s.afterHandler (ServerNetworkIncoming.eventHandleDisconnect event s.networkState
        (s.announce event false)) =
      (s.disconnected p (s.peers p).data.toUInt32,
        [.incoming (.clientEventDisconnect (s.peers p).data.toUInt32)
            (s.networkState.sessions.lookup (s.peers p).data.toUInt32),
          .networkPushed (.clientEventDisconnect (s.peers p).data.toUInt32)]) := by
  simp [afterHandler, ServerNetworkIncoming.eventHandleDisconnect, announce, hpeer, hdata,
    disconnected, ENetPeers.set_set, NetworkINToSimulationMessage.connectionId]

/-- What an ENet event does, by its type and peer. -/
inductive EventSteps (s : System Peer) (event : ENetEvent Peer) :
    System Peer → List (Event Peer) → Prop
  /-- A null peer makes every handler return at once. -/
  | nullPeer (peer : event.peer = none) : EventSteps s event s []
  | connect {p : Peer} (peer : event.peer = some p) (type : event.type = .connect)
      (free : (s.peers p).connected = false) :
      EventSteps s event (s.connected p)
        [.incoming (.clientEventConnect s.networkState.nextConnectionId)
            (s.networkState.sessions.lookup s.networkState.nextConnectionId),
          .networkPushed (.clientEventConnect s.networkState.nextConnectionId)]
  | disconnectUnknown {p : Peer} (peer : event.peer = some p)
      (type : event.type = .disconnect ∨ event.type = .disconnectTimeout)
      (used : (s.peers p).connected = true) (null : (s.peers p).data = 0) :
      EventSteps s event { s with peers := s.peers.set p { data := 0, connected := false } } []
  | disconnect {p : Peer} (peer : event.peer = some p)
      (type : event.type = .disconnect ∨ event.type = .disconnectTimeout)
      (used : (s.peers p).connected = true) (notNull : (s.peers p).data ≠ 0) :
      EventSteps s event (s.disconnected p (s.peers p).data.toUInt32)
        [.incoming (.clientEventDisconnect (s.peers p).data.toUInt32)
            (s.networkState.sessions.lookup (s.peers p).data.toUInt32),
          .networkPushed (.clientEventDisconnect (s.peers p).data.toUInt32)]
  | dropped (type : event.type = .receive) : EventSteps s event s []
  | protocolMismatch (type : event.type = .receive) :
      EventSteps s event s [.peerDisconnected event.peer]
  | receive {m : NetworkINToSimulationMessage} (type : event.type = .receive)
      (pushed : ServerNetworkIncoming.eventHandleReceive event s.networkState s.peers = .push m) :
      EventSteps s event { s with network := .pushing m }
        [.incoming m (s.networkState.sessions.lookup m.connectionId)]

/-- Every event is handled in one of these ways, outside an outgoing pass. -/
theorem enetEvent_cases {event : ENetEvent Peer} (h : s.enetEvent event = some (s', es)) :
    s.network = .idle ∧ EventSteps s event s' es := by
  unfold enetEvent at h
  split at h
  · rename_i hidle
    refine ⟨hidle, ?_⟩
    split at h
    · cases h
    · rename_i hpossible
      have hpossible : s.isPossibleEvent event = true := by simpa using hpossible
      cases hpeer : event.peer with
      | none =>
          cases htype : event.type <;> simp only [htype] at h
          case receive =>
            have hzero : ServerNetworkIncoming.eventHandleReceive event s.networkState s.peers =
                .drop := by
              simp [ServerNetworkIncoming.eventHandleReceive,
                ServerNetworkIncoming.getValidatedConnectionIdOrZero, hpeer]
            rw [hzero] at h
            cases h
            exact .nullPeer hpeer
          all_goals
            simp only [afterHandler, ServerNetworkIncoming.eventHandleConnect,
              ServerNetworkIncoming.eventHandleDisconnect, announce, hpeer] at h
            cases h
            exact .nullPeer hpeer
      | some p =>
          cases htype : event.type with
          | connect =>
              simp only [htype, afterHandler_connect s hpeer] at h
              cases h
              exact .connect hpeer htype (isPossibleEvent_connect hpeer htype hpossible)
          | receive =>
              simp only [htype] at h
              split at h
              · cases h
                exact .dropped htype
              · cases h
                exact .protocolMismatch htype
              · rename_i m hm
                cases h
                exact .receive htype hm
          | disconnect =>
              have hused := isPossibleEvent_disconnect hpeer (Or.inl htype) hpossible
              simp only [htype] at h
              by_cases hdata : (s.peers p).data = 0
              · rw [afterHandler_disconnect_null s hpeer hdata] at h
                cases h
                exact .disconnectUnknown hpeer (Or.inl htype) hused hdata
              · rw [afterHandler_disconnect s hpeer hdata] at h
                cases h
                exact .disconnect hpeer (Or.inl htype) hused hdata
          | disconnectTimeout =>
              have hused := isPossibleEvent_disconnect hpeer (Or.inr htype) hpossible
              simp only [htype] at h
              by_cases hdata : (s.peers p).data = 0
              · rw [afterHandler_disconnect_null s hpeer hdata] at h
                cases h
                exact .disconnectUnknown hpeer (Or.inr htype) hused hdata
              · rw [afterHandler_disconnect s hpeer hdata] at h
                cases h
                exact .disconnect hpeer (Or.inr htype) hused hdata
  · cases h

theorem enetEvent_steps {event : ENetEvent Peer} (h : s.enetEvent event = some (s', es)) :
    Steps platform s (.enetEvent event) s' es := by
  obtain ⟨idle, hevent⟩ := enetEvent_cases h
  cases hevent with
  | nullPeer => exact .eventDropped
  | connect _ _ free => exact .connect idle free
  | disconnectUnknown _ _ used null => exact .disconnectUnknown idle used null
  | disconnect _ _ used notNull => exact .disconnect idle used notNull
  | dropped => exact .eventDropped
  | protocolMismatch => exact .protocolMismatch
  | receive _ pushed => exact .receive idle pushed

theorem acknowledge_steps {i : Nat} (h : s.acknowledge i = some (s', es)) :
    Steps platform s (.acknowledge i) s' es := by
  unfold acknowledge at h
  split at h
  · rename_i owned hidle hi
    cases hregistered : owned.packet.acknowledgeCallback with
    | false =>
        simp only [hregistered, Bool.false_eq_true, if_false] at h
        cases h
        exact .acknowledgeIgnored hidle hi
    | true =>
        simp only [hregistered, if_true] at h
        rcases ServerNetworkOutgoing.onReliablePacketAcknowledgedRunActions_cases s.networkState
            s.peers owned.packet with
          hres | ⟨context, p, huser, hpeer, hbound, hres⟩
        · simp only [hres] at h
          cases h
          exact .acknowledgeIgnored hidle hi
        · simp only [hres] at h
          cases h
          exact .acknowledge hidle hi huser hpeer hbound hregistered
  · cases h

theorem patchSnapshot_steps {c : ConnectionId} (h : s.patchSnapshot c = some (s', es)) :
    Steps platform s (.patchSnapshot c) s' es := by
  unfold patchSnapshot at h
  split at h
  · rename_i prepared hnetwork
    split at h
    · rename_i m hreliable hnext
      cases hpeer : ServerNetworkOutgoing.findPeerByConnectionId s.networkState m.connectionId with
      | none =>
          simp only [hpeer] at h
          cases h
          exact .skipSnapshot hnetwork hreliable hnext
      | some p =>
          simp only [hpeer] at h
          rcases ServerNetworkOutgoing.patchSnapshotFullMessage_cases s.networkState m with
            hres | ⟨session, bytes, hfound, hres⟩
          · simp only [hres] at h
            cases h
            exact .skipSnapshot hnetwork hreliable hnext
          · simp only [hres] at h
            cases h
            exact .patchSnapshot hnetwork hreliable hnext hpeer hfound hres
    · cases h
  · cases h

omit [DecidableEq Peer] in
/-- The guard every handler of the simulation thread shares. -/
theorem guard_simulation {phase : SimulationPhase}
    (h : (decide (s.simulation.phase = phase) && s.simulationHasPushed) = true) :
    s.simulation.phase = phase ∧ s.simulationHasPushed = true := by
  simpa using h

theorem handleNetwork_steps {oracle : HelloOracle}
    (h : s.handleNetwork platform oracle = some (s', es)) :
    Steps platform s (.handleNetwork oracle) s' es := by
  unfold handleNetwork at h
  split at h
  · cases h
  · rename_i m rest hnext
    split at h
    · rename_i hguard
      obtain ⟨hphase, hpushed⟩ := guard_simulation hguard
      simp only at h
      rw [ServerSimulation.processNetworkIncoming_eq] at h
      cases h
      exact .handleNetwork hnext hphase hpushed
    · cases h

theorem handleHttp_steps (h : s.handleHttp = some (s', es)) :
    Steps platform s .handleHttp s' es := by
  unfold handleHttp at h
  split at h
  · rename_i reply rest hnetwork hnext
    split at h
    · rename_i hguard
      obtain ⟨hphase, hpushed⟩ := guard_simulation hguard
      simp only at h
      rw [ServerSimulation.handleAuthValidateTokenResponseMessage_eq] at h
      cases h
      exact .handleHttp hnetwork hnext hphase hpushed
    · cases h
  · cases h

theorem checkMatchFlow_steps {order : Sessions} {clock : Nat → UInt64}
    (h : s.checkMatchFlow platform order clock = some (s', es)) :
    Steps platform s (.checkMatchFlow order clock) s' es := by
  unfold checkMatchFlow at h
  split at h
  · rename_i hguard
    simp only [Bool.and_eq_true, decide_eq_true_eq, List.isEmpty_iff] at hguard
    obtain ⟨⟨⟨⟨hphase, hpushed⟩, hnetwork⟩, hhttp⟩, hperm⟩ := hguard
    cases h
    exact .checkMatchFlow hphase hpushed hnetwork hhttp hperm
  · cases h

theorem createSnapshots_steps {order : Sessions} {clock : Nat → UInt64}
    (h : s.createSnapshots platform order clock = some (s', es)) :
    Steps platform s (.createSnapshots order clock) s' es := by
  unfold createSnapshots at h
  split at h
  · rename_i hguard
    simp only [Bool.and_eq_true, decide_eq_true_eq] at hguard
    obtain ⟨⟨hphase, hpushed⟩, hperm⟩ := hguard
    cases h
    refine .createSnapshots hphase hpushed hperm ?_
    split
    · exact Or.inr rfl
    · exact Or.inl rfl
  · cases h

/-- Every step is one of the listed ones. -/
theorem step_cases {a : Action Peer} (h : s.step platform a = some (s', es)) :
    Steps platform s a s' es := by
  cases a with
  | enetEvent event => exact enetEvent_steps h
  | networkPush =>
      simp only [step, networkPush] at h
      split at h
      · cases h
        exact .networkPush ‹_›
      · cases h
  | acknowledge i => exact acknowledge_steps h
  | release i =>
      simp only [step, release] at h
      split at h
      · cases h
        exact .release ‹_› ‹_›
      · cases h
  | beginOutgoing =>
      simp only [step, beginOutgoing] at h
      split at h
      · cases h
        exact .beginOutgoing ‹_›
      · cases h
  | sendReliable outcome =>
      simp only [step, sendReliable] at h
      split at h
      · split at h
        · cases h
        · cases h
          exact .sendReliable ‹_› ‹_›
      · cases h
  | patchSnapshot c => exact patchSnapshot_steps h
  | sendSnapshot outcome =>
      simp only [step, sendSnapshot] at h
      split at h
      · cases h
        exact .sendSnapshot ‹_›
      · cases h
  | endOutgoing =>
      simp only [step, endOutgoing] at h
      split at h
      · split at h
        · rename_i hdone
          simp only [Bool.and_eq_true, List.isEmpty_iff] at hdone
          cases h
          exact .endOutgoing ‹_› hdone.1 hdone.2
        · cases h
      · cases h
  | beginTick t =>
      simp only [step, beginTick] at h
      split at h
      · obtain ⟨hphase, hpushed⟩ := guard_simulation ‹_›
        cases h
        exact .beginTick hphase hpushed
      · cases h
  | drainHttp =>
      simp only [step, drainHttp] at h
      split at h
      · cases h
        exact .drainHttp ‹_›
      · cases h
  | handleNetwork oracle => exact handleNetwork_steps h
  | handleHttp => exact handleHttp_steps h
  | checkMatchFlow order clock => exact checkMatchFlow_steps h
  | createSnapshots order clock => exact createSnapshots_steps h
  | simulationPush =>
      simp only [step, simulationPush] at h
      split at h
      · cases h
      · cases h
        exact .simulationPush ‹_›
  | simulationPushHttp =>
      simp only [step, simulationPushHttp] at h
      split at h
      · cases h
      · cases h
        exact .simulationPushHttp ‹_›
  | httpDrain =>
      simp only [step, httpDrain] at h
      split at h
      · rename_i batch rest hdone hdrain
        obtain ⟨rfl, _, rfl⟩ := StoppableQueue.waitAndDrain_eq_drained hdrain
        cases h
        exact .httpDrain hdone
      · cases h
  | httpReply response =>
      simp only [step, httpReply] at h
      split at h
      · cases h
      · cases h
        exact .httpReply ‹_›
  | stopHttp =>
      cases h
      exact .stopHttp

-- ============================================================================
-- Fields of a state after an event handler
-- ============================================================================

section EventHandlers

variable (s : System Peer) (p : Peer) (c : ConnectionId)

@[simp] theorem connected_network : (s.connected p).network = s.network := rfl
@[simp] theorem connected_simToNet : (s.connected p).simToNet = s.simToNet := rfl
@[simp] theorem connected_simulation : (s.connected p).simulation = s.simulation := rfl
@[simp] theorem connected_gameState : (s.connected p).gameState = s.gameState := rfl
@[simp] theorem connected_inFlight : (s.connected p).inFlight = s.inFlight := rfl

@[simp] theorem connected_sessions :
    (s.connected p).networkState.sessions = s.networkState.sessions := rfl

@[simp] theorem disconnected_network : (s.disconnected p c).network = s.network := rfl
@[simp] theorem disconnected_simToNet : (s.disconnected p c).simToNet = s.simToNet := rfl
@[simp] theorem disconnected_simulation : (s.disconnected p c).simulation = s.simulation := rfl
@[simp] theorem disconnected_gameState : (s.disconnected p c).gameState = s.gameState := rfl
@[simp] theorem disconnected_inFlight : (s.disconnected p c).inFlight = s.inFlight := rfl

@[simp] theorem disconnected_sessions :
    (s.disconnected p c).networkState.sessions = s.networkState.sessions := rfl

end EventHandlers

-- ============================================================================
-- Fields of a state after `produce`
-- ============================================================================

section Produce

omit [DecidableEq Peer]

variable (s : System Peer) (out : List SimulationToNetworkOUTMessage)

@[simp] theorem produce_peers : (s.produce out).peers = s.peers := rfl
@[simp] theorem produce_networkState : (s.produce out).networkState = s.networkState := rfl
@[simp] theorem produce_gameState : (s.produce out).gameState = s.gameState := rfl
@[simp] theorem produce_netToSim : (s.produce out).netToSim = s.netToSim := rfl
@[simp] theorem produce_simToNet : (s.produce out).simToNet = s.simToNet := rfl
@[simp] theorem produce_simToHttp : (s.produce out).simToHttp = s.simToHttp := rfl
@[simp] theorem produce_httpToSim : (s.produce out).httpToSim = s.httpToSim := rfl
@[simp] theorem produce_network : (s.produce out).network = s.network := rfl
@[simp] theorem produce_httpBatch : (s.produce out).httpBatch = s.httpBatch := rfl
@[simp] theorem produce_inFlight : (s.produce out).inFlight = s.inFlight := rfl

@[simp] theorem produce_networkMessages :
    (s.produce out).simulation.networkMessages = s.simulation.networkMessages := rfl

@[simp] theorem produce_httpMessages :
    (s.produce out).simulation.httpMessages = s.simulation.httpMessages := rfl

@[simp] theorem produce_httpOutbox :
    (s.produce out).simulation.httpOutbox = s.simulation.httpOutbox := rfl

@[simp] theorem produce_phase : (s.produce out).simulation.phase = s.simulation.phase := rfl

@[simp] theorem produce_outbox :
    (s.produce out).simulation.outbox = s.simulation.outbox ++ stamp s.producedCount out := rfl

@[simp] theorem produce_producedCount :
    (s.produce out).producedCount = s.producedCount + out.length := rfl

end Produce

end System

end RcnetServer
