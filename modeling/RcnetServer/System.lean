/-
  RcnetServer.System

  The running server: the network, simulation and HTTP threads over the shared
  state and the queues between them.

  One action is what a thread does between two visible points: a critical
  section on `sessionsMutex`, one queue operation, or one call into ENet.  The
  network thread alone touches the peers, the connection tables and ENet, so its
  event handlers and its ACK callback run only while it is not in an outgoing
  pass, and what they do to these between two visible points is not split.  The
  action carries everything the outside decides: ENet events and outcomes, clock
  readings, signatures, backend verdicts, the order in which an `unordered_map`
  is iterated.

  A step emits the events the properties speak about.
-/

import RcnetServer.Lib.TraceMachine
import RcnetServer.Network.Incoming
import RcnetServer.Network.Outgoing
import RcnetServer.Simulation.Handlers
import RcnetServer.Simulation.MatchFlow
import RcnetServer.Threading.Queues

namespace RcnetServer

-- ============================================================================
-- State
-- ============================================================================

/-- What is fixed when the server has started. -/
structure Platform where
  engine : Engine
  config : ServerConfig
  kx : KxServerSessionKeys
  cryptoKxState : ServerCryptoKxState
  cryptoSigningState : ServerCryptoSigningState

/-- Where the network thread is. -/
inductive NetworkThread (Peer : Type)
  /-- In `enet_host_service`, free to take an event. -/
  | idle
  /-- A received packet has passed its guard and is about to be pushed. -/
  | pushing (message : NetworkINToSimulationMessage)
  /-- In an outgoing pass, with the messages of the batch still to be handled. -/
  | outgoing (prepared : ServerNetworkOutgoingPreparedMessages)
  /-- In an outgoing pass, between patching a snapshot and sending it. -/
  | sendingSnapshot (peer : Peer) (message : SimulationToNetworkOUTMessage)
      (patchedPacket : List UInt8) (prepared : ServerNetworkOutgoingPreparedMessages)

/-- The steps of a simulation tick, in order. -/
inductive SimulationPhase
  | idle
  | drainHttp
  | dispatch
  | snapshots
deriving DecidableEq

/-- The simulation thread: the local deques of the tick and the messages it has
    made but not yet pushed. -/
structure SimulationThread where
  phase : SimulationPhase := .idle
  currentTick : UInt64 := 0
  networkMessages : List NetworkINToSimulationMessage := []
  httpMessages : List HttpToSimulationMessage := []
  outbox : List SimulationToNetworkOUTMessage := []
  httpOutbox : List SimulationToHttpMessage := []

/-- A reliable packet ENet accepted and has neither acknowledged nor released,
    with the message it was made for. -/
structure OwnedPacket (Peer : Type) where
  message : SimulationToNetworkOUTMessage
  packet : ENetPacket Peer

/-- The whole server. -/
structure System (Peer : Type) where
  peers : ENetPeers Peer
  networkState : NetworkState Peer
  gameState : GameState := {}
  netToSim : List NetworkINToSimulationMessage := []
  simToNet : List SimulationToNetworkOUTMessage := []
  simToHttp : SimulationToHttpQueue := {}
  httpToSim : List HttpToSimulationMessage := []
  network : NetworkThread Peer := .idle
  simulation : SimulationThread := {}
  httpBatch : List SimulationToHttpMessage := []
  inFlight : List (OwnedPacket Peer) := []
  /-- The number of messages the simulation thread has made so far. -/
  producedCount : Nat := 0

-- ============================================================================
-- Events and actions
-- ============================================================================

/-- What a step shows. -/
inductive Event (Peer : Type)
  /-- The network thread turned an ENet event into `message`; `session` is the
      session of its connection at that moment. -/
  | incoming (message : NetworkINToSimulationMessage) (session : Option ClientSession)
  | networkPushed (message : NetworkINToSimulationMessage)
  /-- `enet_peer_disconnect` on a wrong protocol version. -/
  | peerDisconnected (peer : Option Peer)
  | networkHandled (message : NetworkINToSimulationMessage)
      (out : List SimulationToNetworkOUTMessage) (http : List SimulationToHttpMessage)
  /-- A backend reply was applied; `session` is what the handler found. -/
  | replyHandled (reply : HttpToSimulationMessage) (session : Option ClientSession)
      (out : List SimulationToNetworkOUTMessage)
  /-- `ServerSimulation_CheckMatchFlow` ran on `sessions` and left `gameState`. -/
  | matchFlowChecked (currentTick : UInt64) (sessions : Sessions) (gameState : GameState)
      (out : List SimulationToNetworkOUTMessage)
  | snapshotsCreated (currentTick : UInt64) (out : List SimulationToNetworkOUTMessage)
  | outgoingPushed (message : SimulationToNetworkOUTMessage)
  | httpPushed (message : SimulationToHttpMessage)
  | replyPushed (reply : HttpToSimulationMessage)
  | reliableHandled (message : SimulationToNetworkOUTMessage) (calls : List (ENetCall Peer))
  | snapshotHandled (message : SimulationToNetworkOUTMessage) (calls : List (ENetCall Peer))
  /-- ENet reported the ACK of a packet made for `message`. -/
  | acknowledged (message : SimulationToNetworkOUTMessage) (calls : List (ENetCall Peer))
  /-- ENet dropped a packet that was never acknowledged. -/
  | released (message : SimulationToNetworkOUTMessage)

/-- What can happen next, with everything the outside decides. -/
inductive Action (Peer : Type)
  | enetEvent (event : ENetEvent Peer)
  | networkPush
  | acknowledge (i : Nat)
  | release (i : Nat)
  | beginOutgoing
  | sendReliable (outcome : SendOutcome)
  | patchSnapshot (connectionId : ConnectionId)
  | sendSnapshot (outcome : SendOutcome)
  | endOutgoing
  | beginTick (currentTick : UInt64)
  | drainHttp
  | handleNetwork (oracle : HelloOracle)
  | handleHttp
  | checkMatchFlow (order : Sessions) (clock : Nat → UInt64)
  | createSnapshots (order : Sessions) (clock : Nat → UInt64)
  | simulationPush
  | simulationPushHttp
  | httpDrain
  | httpReply (response : AuthTokenVerificationHTTPResponse)
  | stopHttp

variable {Peer : Type} [DecidableEq Peer]

/-- The new state and the events emitted; `none` when the action is not possible. -/
abbrev StepResult (Peer : Type) := Option (System Peer × List (Event Peer))

namespace System

/-- The server after start-up: no connection, every `peer->data` null. -/
def init (platform : Platform) : System Peer where
  peers := fun _ => {}
  networkState :=
    { cryptoKxState := platform.cryptoKxState
      cryptoSigningState := platform.cryptoSigningState }

/-- Number the messages made in one step and put them into the outbox. -/
def stamp (start : Nat) (out : List SimulationToNetworkOUTMessage) :
    List SimulationToNetworkOUTMessage :=
  out.mapIdx fun i m => { m with serial := start + i }

variable (platform : Platform) (s : System Peer)

-- ============================================================================
-- Network thread
-- ============================================================================

/-- ENet alternates CONNECT and DISCONNECT on each slot. -/
def isPossibleEvent (event : ENetEvent Peer) : Bool :=
  match event.peer, event.type with
  | some p, .connect => !(s.peers p).connected
  | some p, .disconnect => (s.peers p).connected
  | some p, .disconnectTimeout => (s.peers p).connected
  | _, _ => true

/-- ENet itself records the connection before it reports the event. -/
def announce (event : ENetEvent Peer) (connected : Bool) : ENetPeers Peer :=
  match event.peer with
  | none => s.peers
  | some p => s.peers.set p { s.peers p with connected := connected }

/-- A CONNECT or DISCONNECT handler with its push.  The tables it writes are the
    network thread's own, so nobody sees the state between the two. -/
def afterHandler
    (result : NetworkState Peer × ENetPeers Peer × Option NetworkINToSimulationMessage) :
    System Peer × List (Event Peer) :=
  let s' := { s with networkState := result.1, peers := result.2.1 }
  match result.2.2 with
  | none => (s', [])
  | some m =>
      ({ s' with netToSim := s.netToSim ++ [m] },
        [.incoming m (s.networkState.sessions.lookup m.connectionId), .networkPushed m])

def enetEvent (event : ENetEvent Peer) : StepResult Peer :=
  match s.network with
  | .idle =>
      if !s.isPossibleEvent event then none
      else
        match event.type with
        | .connect =>
            some (s.afterHandler (ServerNetworkIncoming.eventHandleConnect event s.networkState
              (s.announce event true)))
        | .disconnect | .disconnectTimeout =>
            some (s.afterHandler (ServerNetworkIncoming.eventHandleDisconnect event
              s.networkState (s.announce event false)))
        | .receive =>
            match ServerNetworkIncoming.eventHandleReceive event s.networkState s.peers with
            | .drop => some (s, [])
            | .disconnect => some (s, [.peerDisconnected event.peer])
            | .push m =>
                some ({ s with network := .pushing m },
                  [.incoming m (s.networkState.sessions.lookup m.connectionId)])
  | _ => none

def networkPush : StepResult Peer :=
  match s.network with
  | .pushing m =>
      some ({ s with network := .idle, netToSim := s.netToSim ++ [m] }, [.networkPushed m])
  | _ => none

/-- The ACK of the `i`-th packet in flight, with its callback if one is registered; ENet
    then frees the packet. -/
def acknowledge (i : Nat) : StepResult Peer :=
  match s.network, s.inFlight[i]? with
  | .idle, some owned =>
      let result :=
        if owned.packet.acknowledgeCallback then
          ServerNetworkOutgoing.onReliablePacketAcknowledgedRunActions s.networkState s.peers
            owned.packet
        else (s.networkState, [])
      some ({ s with networkState := result.1, inFlight := s.inFlight.eraseIdx i },
        [.acknowledged owned.message result.2])
  | _, _ => none

/-- ENet frees the `i`-th packet in flight without an ACK. -/
def release (i : Nat) : StepResult Peer :=
  match s.network, s.inFlight[i]? with
  | .idle, some owned =>
      some ({ s with inFlight := s.inFlight.eraseIdx i }, [.released owned.message])
  | _, _ => none

/-- Drain the simulation's queue and sort the batch. -/
def beginOutgoing : StepResult Peer :=
  match s.network with
  | .idle =>
      some
        ({ s with
            simToNet := []
            network := .outgoing
              (ServerNetworkOutgoing.splitReliableAndCoalesceUnreliableMessages s.simToNet) },
          [])
  | _ => none

/-- The packets ENet accepted among `calls`, as made for `m`. -/
def acceptedPackets (m : SimulationToNetworkOUTMessage) (calls : List (ENetCall Peer)) :
    List (OwnedPacket Peer) :=
  calls.filterMap fun call =>
    match call with
    | .peerSend _ _ packet => some { message := m, packet := packet }
    | _ => none

def sendReliable (outcome : SendOutcome) : StepResult Peer :=
  match s.network with
  | .outgoing prepared =>
      match prepared.reliableMessages with
      | [] => none
      | m :: rest =>
          let result :=
            ServerNetworkOutgoing.handleReliableMessage s.networkState s.peers m outcome
          some
            ({ s with
                network := .outgoing { prepared with reliableMessages := rest }
                inFlight := s.inFlight ++ acceptedPackets m result.calls },
              [.reliableHandled m result.calls])
  | _ => none

/-- One iteration of the snapshot loop up to the release of the mutex.  The loop
    comes after the reliable messages and may take the map in any order. -/
def patchSnapshot (connectionId : ConnectionId) : StepResult Peer :=
  match s.network with
  | .outgoing prepared =>
      match prepared.reliableMessages,
          prepared.lastSnapshotFullUnreliablePerConnectionId.lookup connectionId with
      | [], some m =>
          let prepared :=
            { prepared with
              lastSnapshotFullUnreliablePerConnectionId :=
                prepared.lastSnapshotFullUnreliablePerConnectionId.erase connectionId }
          match ServerNetworkOutgoing.findPeerByConnectionId s.networkState m.connectionId with
          | none => some ({ s with network := .outgoing prepared }, [.snapshotHandled m []])
          | some p =>
              let result := ServerNetworkOutgoing.patchSnapshotFullMessage s.networkState m
              match result.2 with
              | none =>
                  some ({ s with networkState := result.1, network := .outgoing prepared },
                    [.snapshotHandled m []])
              | some bytes =>
                  some
                    ({ s with
                        networkState := result.1
                        network := .sendingSnapshot p m bytes prepared },
                      [])
      | _, _ => none
  | _ => none

def sendSnapshot (outcome : SendOutcome) : StepResult Peer :=
  match s.network with
  | .sendingSnapshot p m bytes prepared =>
      let result :=
        ServerNetworkOutgoing.sendSnapshotFullPacketUnreliable s.networkState s.peers (some p)
          bytes outcome
      some ({ s with network := .outgoing prepared }, [.snapshotHandled m result.calls])
  | _ => none

def endOutgoing : StepResult Peer :=
  match s.network with
  | .outgoing prepared =>
      if prepared.reliableMessages.isEmpty &&
          prepared.lastSnapshotFullUnreliablePerConnectionId.entries.isEmpty then
        some ({ s with network := .idle }, [])
      else none
  | _ => none

-- ============================================================================
-- Simulation thread
-- ============================================================================

/-- Everything made so far has been pushed. -/
def simulationHasPushed : Bool :=
  s.simulation.outbox.isEmpty && s.simulation.httpOutbox.isEmpty

/-- The messages made in a step go to the outbox, numbered. -/
def produce (out : List SimulationToNetworkOUTMessage) : System Peer :=
  { s with
    producedCount := s.producedCount + out.length
    simulation := { s.simulation with outbox := s.simulation.outbox ++ stamp s.producedCount out } }

def beginTick (currentTick : UInt64) : StepResult Peer :=
  if s.simulation.phase = .idle && s.simulationHasPushed then
    some
      ({ s with
          netToSim := []
          simulation :=
            { s.simulation with
              phase := .drainHttp
              currentTick := currentTick
              networkMessages := s.netToSim } },
        [])
  else none

def drainHttp : StepResult Peer :=
  if s.simulation.phase = .drainHttp then
    some
      ({ s with
          httpToSim := []
          simulation := { s.simulation with phase := .dispatch, httpMessages := s.httpToSim } },
        [])
  else none

def handleNetwork (oracle : HelloOracle) : StepResult Peer :=
  match s.simulation.networkMessages with
  | [] => none
  | m :: rest =>
      if s.simulation.phase = .dispatch && s.simulationHasPushed then
        let result :=
          ServerSimulation.processNetworkIncoming platform.kx oracle s.networkState m
        let s' :=
          { s with
            networkState := result.1
            simulation :=
              { s.simulation with networkMessages := rest, httpOutbox := result.2.2 } }
        some (s'.produce result.2.1,
          [.networkHandled m (stamp s.producedCount result.2.1) result.2.2])
      else none

def handleHttp : StepResult Peer :=
  match s.simulation.networkMessages, s.simulation.httpMessages with
  | [], reply :: rest =>
      if s.simulation.phase = .dispatch && s.simulationHasPushed then
        let result :=
          ServerSimulation.handleAuthValidateTokenResponseMessage s.networkState reply
        let s' :=
          { s with
            networkState := result.1
            simulation := { s.simulation with httpMessages := rest } }
        some (s'.produce result.2,
          [.replyHandled reply (s.networkState.sessions.lookup reply.connectionId)
            (stamp s.producedCount result.2)])
      else none
  | _, _ => none

/-- `order` is the iteration order of the session table in this pass. -/
def checkMatchFlow (order : Sessions) (clock : Nat → UInt64) : StepResult Peer :=
  if s.simulation.phase = .dispatch && s.simulationHasPushed &&
      s.simulation.networkMessages.isEmpty && s.simulation.httpMessages.isEmpty &&
      decide (order.entries.Perm s.networkState.sessions.entries) then
    let result :=
      ServerSimulation.checkMatchFlow platform.engine platform.config clock
        { s.networkState with sessions := order } s.simulation.currentTick s.gameState
    let s' :=
      { s with
        gameState := result.1
        simulation := { s.simulation with phase := .snapshots } }
    some (s'.produce result.2,
      [.matchFlowChecked s.simulation.currentTick s.networkState.sessions result.1
        (stamp s.producedCount result.2)])
  else none

/-- The last step of a tick; off the production rate it makes no snapshot. -/
def createSnapshots (order : Sessions) (clock : Nat → UInt64) : StepResult Peer :=
  if s.simulation.phase = .snapshots && s.simulationHasPushed &&
      decide (order.entries.Perm s.networkState.sessions.entries) then
    let out :=
      if platform.engine.isNetworkOutgoingProductionTick s.simulation.currentTick
          platform.engine.networkOutgoingTickRateHz then
        ServerSimulation.createFullSnapshotsForAllSessionsAndEnqueueForNetworkOutgoing clock
          { s.networkState with sessions := order } s.simulation.currentTick
      else []
    let s' := { s with simulation := { s.simulation with phase := .idle } }
    some (s'.produce out,
      [.snapshotsCreated s.simulation.currentTick (stamp s.producedCount out)])
  else none

def simulationPush : StepResult Peer :=
  match s.simulation.outbox with
  | [] => none
  | m :: rest =>
      some
        ({ s with
            simToNet := s.simToNet ++ [m]
            simulation := { s.simulation with outbox := rest } },
          [.outgoingPushed m])

def simulationPushHttp : StepResult Peer :=
  match s.simulation.httpOutbox with
  | [] => none
  | m :: rest =>
      some
        ({ s with
            simToHttp := s.simToHttp.push m
            simulation := { s.simulation with httpOutbox := rest } },
          [.httpPushed m])

-- ============================================================================
-- HTTP thread
-- ============================================================================

/-- `waitAndDrain` of `ServerHttp_WaitAndProcessOneSimulationMessage_And_RunHttpLogic`. -/
def httpDrain : StepResult Peer :=
  match s.httpBatch, s.simToHttp.waitAndDrain with
  | [], .drained batch rest => some ({ s with httpBatch := batch, simToHttp := rest }, [])
  | _, _ => none

/-- `ServerHttp_ProcessSimulationDispatcher` on the front of the batch, with the
    response the backend request yields. -/
def httpReply (response : AuthTokenVerificationHTTPResponse) : StepResult Peer :=
  match s.httpBatch with
  | [] => none
  | request :: rest =>
      let reply : HttpToSimulationMessage :=
        { connectionId := request.connectionId, authTokenVerificationResponse := response }
      some ({ s with httpBatch := rest, httpToSim := s.httpToSim ++ [reply] },
        [.replyPushed reply])

/-- `rcnet_wake_blocking_threads`. -/
def stopHttp : StepResult Peer :=
  some ({ s with simToHttp := s.simToHttp.stop }, [])

-- ============================================================================
-- The machine
-- ============================================================================

def step : Action Peer → StepResult Peer
  | .enetEvent event => s.enetEvent event
  | .networkPush => s.networkPush
  | .acknowledge i => s.acknowledge i
  | .release i => s.release i
  | .beginOutgoing => s.beginOutgoing
  | .sendReliable outcome => s.sendReliable outcome
  | .patchSnapshot c => s.patchSnapshot c
  | .sendSnapshot outcome => s.sendSnapshot outcome
  | .endOutgoing => s.endOutgoing
  | .beginTick t => s.beginTick t
  | .drainHttp => s.drainHttp
  | .handleNetwork oracle => s.handleNetwork platform oracle
  | .handleHttp => s.handleHttp
  | .checkMatchFlow order clock => s.checkMatchFlow platform order clock
  | .createSnapshots order clock => s.createSnapshots platform order clock
  | .simulationPush => s.simulationPush
  | .simulationPushHttp => s.simulationPushHttp
  | .httpDrain => s.httpDrain
  | .httpReply response => s.httpReply response
  | .stopHttp => s.stopHttp

end System

/-- The server as a machine: its runs are the interleavings of the threads. -/
def server (Peer : Type) [DecidableEq Peer] (platform : Platform) :
    TraceMachine (System Peer) (Action Peer) (Event Peer) where
  start := System.init platform
  step := System.step platform

-- ============================================================================
-- A concrete deployment
-- ============================================================================

/-- A deployment that concrete runs can be evaluated on: one player is enough for
    a match, and the key exchange derives the client's key for both directions. -/
def soloPlatform : Platform where
  engine :=
    { simulationTickRateHz := 60
      networkOutgoingTickRateHz := 20
      durationMsToTicks := fun ms => ms / 1000
      isNetworkOutgoingProductionTick := fun _ _ => true }
  config := { maxClientsConnected := 1 }
  kx := fun _ _ clientPublicKey => some (clientPublicKey, clientPublicKey)
  cryptoKxState :=
    { serverPublicKey := Vector.replicate 32 0, serverSecretKey := Vector.replicate 32 0 }
  cryptoSigningState := { identitySecretKey := Vector.replicate 64 0 }

/-- The deployment for two players. -/
def duoPlatform : Platform :=
  { soloPlatform with config := { maxClientsConnected := 2 } }

/-- A hello during which signing succeeds. -/
def signingOracle : HelloOracle where
  nowUnixSeconds := 0
  sign := fun _ _ => { code := 0, signature := Vector.replicate 64 0, signatureLength := 64 }

namespace Action

/-- The single slot connects. -/
def soloConnect : Action Unit :=
  .enetEvent { type := .connect, peer := some () }

/-- The single slot disconnects. -/
def soloDisconnect : Action Unit :=
  .enetEvent { type := .disconnect, peer := some () }

/-- A packet arrives from the single slot and, if admitted, is pushed. -/
def soloReceive (channelID : UInt8) (packet : List UInt8) : List (Action Unit) :=
  [.enetEvent { type := .receive, peer := some (), channelID := channelID, packet := packet },
    .networkPush]

/-- A hello packet whose client key is `k` repeated. -/
def soloHello (k : UInt8) : List (Action Unit) :=
  soloReceive 0 ([0, 0, 1, 2, 5] ++ List.replicate 32 k ++ List.replicate 16 0)

/-- A tick that handles `n` network messages and no reply. -/
def soloTick (t : UInt64) (n : Nat) : List (Action Unit) :=
  [.beginTick t, .drainHttp] ++ List.replicate n (.handleNetwork signingOracle)

/-- A pass over the single message that has been pushed, which is then acknowledged. -/
def soloDeliver : List (Action Unit) :=
  [.beginOutgoing, .sendReliable {}, .endOutgoing, .acknowledge 0]

/-- The slot connects, says hello, and the response is acknowledged. -/
def soloHandshake (k : UInt8) : List (Action Unit) :=
  [soloConnect] ++ soloHello k ++ soloTick 1 2 ++ [.simulationPush] ++ soloDeliver

/-- The session table after `as`. -/
def soloSessions (as : List (Action Unit)) : Sessions :=
  match (server Unit soloPlatform).exec (fun _ _ _ => True) as with
  | some (s, _) => s.networkState.sessions
  | none => ∅

/-- `as` with the end of its last tick, whose match phases make `n` messages. -/
def soloEndTick (as : List (Action Unit)) (n : Nat) : List (Action Unit) :=
  as ++ [.checkMatchFlow (soloSessions as) fun _ => 0] ++ List.replicate n .simulationPush ++
    [.createSnapshots (soloSessions as) fun _ => 0, .simulationPush]

/-- The slot connects, goes through the handshake and asks to be authenticated; the
    first two phases of the match are pushed at the end of the tick. -/
def soloRequested : List (Action Unit) :=
  soloEndTick (soloHandshake 7 ++ soloReceive 1 [1, 0, 0]) 2

/-- After `as` the request is handled and the backend grants it. -/
def soloGrant (as : List (Action Unit)) : List (Action Unit) :=
  soloEndTick
      (as ++ soloTick 2 1 ++ [.simulationPushHttp, .httpDrain, .httpReply { isValid := true }]) 0 ++
    [.beginTick 3, .drainHttp, .handleHttp, .simulationPush]

/-- After `as` the authenticated client declares itself ready; the START of the
    match is announced in tick 4. -/
def soloAnnounce (as : List (Action Unit)) : List (Action Unit) :=
  soloEndTick (soloEndTick (as ++ soloReceive 2 [2]) 0 ++ soloTick 4 1) 1

/-- The slot is authenticated. -/
def soloAuthenticated : List (Action Unit) := soloGrant soloRequested

/-- The START of the match is announced. -/
def soloAnnounced : List (Action Unit) := soloAnnounce soloAuthenticated

/-- A slot of the two connects. -/
def duoConnect (p : Bool) : Action Bool :=
  .enetEvent { type := .connect, peer := some p }

/-- A packet arrives from slot `p` and, if admitted, is pushed. -/
def duoReceive (p : Bool) (channelID : UInt8) (packet : List UInt8) : List (Action Bool) :=
  [.enetEvent { type := .receive, peer := some p, channelID := channelID, packet := packet },
    .networkPush]

/-- A hello packet from slot `p` whose client key is `k` repeated. -/
def duoHello (p : Bool) (k : UInt8) : List (Action Bool) :=
  duoReceive p 0 ([0, 0, 1, 2, 5] ++ List.replicate 32 k ++ List.replicate 16 k)

/-- The session table after `as`. -/
def duoSessions (as : List (Action Bool)) : Sessions :=
  match (server Bool duoPlatform).exec (fun _ _ _ => True) as with
  | some (s, _) => s.networkState.sessions
  | none => ∅

/-- `as` with the end of its last tick, whose match phases make `n` messages. -/
def duoEndTick (as : List (Action Bool)) (n : Nat) : List (Action Bool) :=
  as ++ [.checkMatchFlow (duoSessions as) fun _ => 0] ++ List.replicate n .simulationPush ++
    [.createSnapshots (duoSessions as) fun _ => 0, .simulationPush, .simulationPush]

/-- A pass over `n` reliable messages and the snapshots of both connections. -/
def duoPass (n : Nat) : List (Action Bool) :=
  [.beginOutgoing] ++ List.replicate n (.sendReliable {}) ++
    [.patchSnapshot 1, .sendSnapshot {}, .patchSnapshot 2, .sendSnapshot {}, .endOutgoing]

/-- Both slots connect and say hello, the first one twice, in one tick; the responses are
    sent and acknowledged. -/
def duoHandshake : List (Action Bool) :=
  [duoConnect false, duoConnect true] ++ duoHello false 7 ++ duoHello true 8 ++
    duoHello false 9 ++
    [.beginTick 1, .drainHttp, .handleNetwork signingOracle, .handleNetwork signingOracle] ++
    (List.replicate 3 [.handleNetwork signingOracle, .simulationPush]).flatten ++
    [.beginOutgoing, .sendReliable {}, .sendReliable {}, .sendReliable {}, .endOutgoing,
      .acknowledge 0, .acknowledge 0, .acknowledge 0]

/-- Both clients ask to be authenticated, the first one with a second token too. -/
def duoRequested : List (Action Bool) :=
  duoEndTick (duoHandshake ++ duoReceive false 1 [1, 0, 1, 65] ++
      duoReceive true 1 [1, 0, 1, 66] ++ duoReceive false 1 [1, 0, 1, 67]) 4 ++
    [.beginTick 2, .drainHttp, .handleNetwork signingOracle, .simulationPushHttp,
      .handleNetwork signingOracle, .simulationPushHttp, .handleNetwork signingOracle]

/-- The backend grants both requests; a pass and a tick later the clients know. -/
def duoGranted : List (Action Bool) :=
  duoEndTick (duoRequested ++
      [.httpDrain, .httpReply { isValid := true, accountIdDatabase := 11 },
        .httpReply { isValid := true, accountIdDatabase := 22 }] ++ duoPass 4) 0 ++
    [.beginTick 3, .drainHttp, .handleHttp, .simulationPush, .handleHttp, .simulationPush]

/-- Both clients are ready, and the START of the match is announced and sent. -/
def duoStarted : List (Action Bool) :=
  duoEndTick (duoEndTick (duoGranted ++ duoReceive false 2 [2] ++ duoReceive true 2 [2]) 0 ++
      [.beginTick 4, .drainHttp, .handleNetwork signingOracle, .handleNetwork signingOracle]) 2 ++
    duoPass 4

end Action

end RcnetServer
