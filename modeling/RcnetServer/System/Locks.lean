/-
  RcnetServer.System.Locks

  The mutexes of the process, and how the threads take them.

  `sessionsMutex` guards the session table, and `mtx` of each queue its content.  The
  functions that take a mutex stand here as the operations they do on it, in order
  (`...Locks`), with the branches and the pushes of the functions themselves: the
  match flow and the snapshots push while they hold `sessionsMutex`, all others push
  after they have released it.  A pass reads the shared state scope by scope, so the
  state a scope finds is an argument of its own.

  ENet calls back into the server, to encrypt, to decrypt and on an ACK, from any call
  made to it.  A thread that sleeps on a condition variable holds nothing: it is idle,
  and its next pass begins when it wakes up.
-/

import Mathlib.Data.Fintype.Basic
import RcnetServer.Lib.LockOrder
import RcnetServer.Network.Encryption
import RcnetServer.Services.NatsWorker
import RcnetServer.System.MatchPhases

namespace RcnetServer

/-- `NetworkState::sessionsMutex`, and `mtx` of the six queues. -/
inductive ServerMutex
  | sessions
  | networkInToSimulation
  | httpToSimulation
  | natsToSimulation
  | simulationToNetworkOut
  | simulationToHttp
  | simulationToNats
deriving DecidableEq

/-- The threads: `natsSubscription` is the one NATS delivers messages on, `shutdown` the
    one that calls `rcnet_wake_blocking_threads`. -/
inductive ServerThread
  | network
  | simulation
  | http
  | nats
  | natsSubscription
  | shutdown
deriving DecidableEq

instance : Fintype ServerThread where
  elems := {.network, .simulation, .http, .nats, .natsSubscription, .shutdown}
  complete := by
    intro thread
    cases thread <;> decide

abbrev ServerLockOp := LockOp ServerMutex

/-- `push`, `drain` or `stop` of a queue, each one scope. -/
def queueLocks (queue : ServerMutex) : List ServerLockOp :=
  lockScope queue []

/-- A push for every message. -/
def pushLocks {α : Type} (queue : ServerMutex) (messages : List α) : List ServerLockOp :=
  messages.flatMap fun _ => queueLocks queue

/-- A loop over the session table that pushes a message for every session. -/
def pushUnderSessionsLocks {α : Type} (messages : List α) : List ServerLockOp :=
  lockScope .sessions
    (messages.flatMap fun _ => .access .sessions :: queueLocks .simulationToNetworkOut)

variable {Peer : Type} [DecidableEq Peer]

-- ============================================================================
-- The simulation thread
-- ============================================================================

namespace ServerSimulation

/-- A handler of `ServerSimulation_ProcessNetworkIncomingDispatcher`. -/
def processNetworkIncomingLocks (kx : KxServerSessionKeys) (oracle : HelloOracle)
    (networkState : NetworkState Peer) (message : NetworkINToSimulationMessage) :
    List ServerLockOp :=
  let result := processNetworkIncoming kx oracle networkState message
  lockScope .sessions [] ++ pushLocks .simulationToNetworkOut result.2.1 ++
    pushLocks .simulationToHttp result.2.2

/-- `ServerSimulation_ProcessHttpDispatcher_HandleAuthValidateTokenResponseMessage`. -/
def handleAuthValidateTokenResponseMessageLocks (networkState : NetworkState Peer)
    (httpMessage : HttpToSimulationMessage) : List ServerLockOp :=
  lockScope .sessions [] ++ pushLocks .simulationToNetworkOut
    (handleAuthValidateTokenResponseMessage networkState httpMessage).2

/-- `ServerSimulation_CheckMatchFlow`. -/
def checkMatchFlowLocks (engine : Engine) (config : ServerConfig) (clock : Nat → UInt64)
    (networkState : NetworkState Peer) (currentTick : UInt64) (gameState : GameState) :
    List ServerLockOp :=
  lockScope .sessions [] ++
    if UnorderedMap.size networkState.sessions < config.maxClientsConnected then []
    else
      let init := sendMatchInit engine clock networkState currentTick gameState
      let world := sendWorldStaticStateInit networkState init.1
      let start := sendMatchStart engine config clock networkState currentTick world.1
      (if !gameState.matchInitSent then pushUnderSessionsLocks init.2 else []) ++
        (if !init.1.worldStaticStateInitSent then pushUnderSessionsLocks world.2 else []) ++
        if !world.1.matchStartSent then
          -- ServerSimulation_AreAllSessionsReadyForMatch has a scope of its own
          lockScope .sessions [] ++
            if areAllSessionsReadyForMatch config networkState then pushUnderSessionsLocks start.2
            else []
        else []

/-- `ServerSimulation_CreateFullSnapshotsForAllSessionsAndEnqueueForNetworkOutgoing`. -/
def createFullSnapshotsLocks (clock : Nat → UInt64) (networkState : NetworkState Peer)
    (currentTick : UInt64) : List ServerLockOp :=
  pushUnderSessionsLocks
    (createFullSnapshotsForAllSessionsAndEnqueueForNetworkOutgoing clock networkState currentTick)

/-- What a tick finds. -/
structure TickView (Peer : Type) where
  messages : List (NetworkState Peer × HelloOracle × NetworkINToSimulationMessage)
  httpMessages : List (NetworkState Peer × HttpToSimulationMessage)
  currentTick : UInt64
  gameState : GameState
  clock : Nat → UInt64
  matchFlowState : NetworkState Peer
  snapshotState : NetworkState Peer

/-- `ServerSimulation_DrainNetworkIncomingAndHttpAndNatsMessages_And_RunSimulationLogic`.
    The handler of NATS messages is empty. -/
def tickLocks (platform : Platform) (view : TickView Peer) : List ServerLockOp :=
  queueLocks .networkInToSimulation ++ queueLocks .httpToSimulation ++
    queueLocks .natsToSimulation ++
    (view.messages.flatMap fun m => processNetworkIncomingLocks platform.kx m.2.1 m.1 m.2.2) ++
    (view.httpMessages.flatMap fun m => handleAuthValidateTokenResponseMessageLocks m.1 m.2) ++
    checkMatchFlowLocks platform.engine platform.config view.clock view.matchFlowState
      view.currentTick view.gameState ++
    if platform.engine.isNetworkOutgoingProductionTick view.currentTick
        platform.engine.networkOutgoingTickRateHz then
      createFullSnapshotsLocks view.clock view.snapshotState view.currentTick
    else []

end ServerSimulation

-- ============================================================================
-- The callbacks of ENet
-- ============================================================================

/-- `ServerNetworkOutgoing_SetPeerEncryptionEnabled`. -/
def ServerNetworkOutgoing.setPeerEncryptionEnabledLocks (networkState : NetworkState Peer)
    (peers : ENetPeers Peer) (peer : Option Peer) : List ServerLockOp :=
  match tryGetConnectionIdFromPeer peers peer with
  | none => []
  | some connectionId =>
      match networkState.connectionIdToEnetPeer.lookup connectionId with
      | none => []
      | some tablePeer => if tablePeer ≠ peer then [] else lockScope .sessions []

/-- `ServerNetworkOutgoing_OnReliablePacketAcknowledged_RunActions`. -/
def ServerNetworkOutgoing.onReliablePacketAcknowledgedRunActionsLocks
    (networkState : NetworkState Peer) (peers : ENetPeers Peer) (packet : ENetPacket Peer) :
    List ServerLockOp :=
  match packet.userData with
  | none => []
  | some context =>
      if context.peer.isNone then []
      else if !isPeerStillBoundToConnectionId networkState peers context.peer
          context.connectionId then []
      else if context.enableEncryptionAfterAck then
        setPeerEncryptionEnabledLocks networkState peers context.peer
      else []

/-- The callbacks the server registers; those of the compressor take no mutex. -/
inductive ENetCallback (Peer : Type)
  | encrypt (peer : Option Peer)
  | decrypt (peer : Option Peer)
  | acknowledged (packet : ENetPacket Peer)
  | freed (packet : ENetPacket Peer)

/-- A callback, with the tables and slots it finds. -/
structure CallbackView (Peer : Type) where
  networkState : NetworkState Peer
  peers : ENetPeers Peer
  callback : ENetCallback Peer

/-- A callback; ENet may call others from inside it, after its scope. -/
def CallbackView.locks (view : CallbackView Peer) : List ServerLockOp :=
  match view.callback with
  | .encrypt peer | .decrypt peer =>
      -- ServerNetworkEncryption_TryLoadSessionKeyIfEnabled
      match tryGetConnectionIdFromPeer view.peers peer with
      | none => []
      | some _ => lockScope .sessions []
  | .acknowledged packet =>
      ServerNetworkOutgoing.onReliablePacketAcknowledgedRunActionsLocks view.networkState
        view.peers packet
  | .freed _ => []

/-- The callbacks ENet makes in a call, or on its own. -/
def callbackLocks (callbacks : List (CallbackView Peer)) : List ServerLockOp :=
  callbacks.flatMap CallbackView.locks

/-- Calls to ENet, of which the `i`-th makes the callbacks `callbacks i`. -/
def enetCallLocks (callbacks : Nat → List (CallbackView Peer)) (calls : List (ENetCall Peer)) :
    List ServerLockOp :=
  calls.zipIdx.flatMap fun call => callbackLocks (callbacks call.2)

-- ============================================================================
-- The network thread
-- ============================================================================

/-- The guard in front of a channel. -/
def ServerNetworkIncoming.channelGuardLocks (channelID : UInt8) : List ServerLockOp :=
  match NetworkChannel.ofByte channelID with
  | some .secureSessionReliable => []
  | some .authReliable => lockScope .sessions []
  | some .gameReliable => lockScope .sessions []
  | some .gameUnreliable => lockScope .sessions []
  | none => []

/-- `ServerNetworkIncoming_Event_HandleReceive`, with the callbacks of its
    `enet_peer_disconnect`. -/
def ServerNetworkIncoming.eventHandleReceiveLocks (event : ENetEvent Peer)
    (networkState : NetworkState Peer) (peers : ENetPeers Peer)
    (callbacks : List (CallbackView Peer)) : List ServerLockOp :=
  if getValidatedConnectionIdOrZero event networkState peers = 0 then []
  else
    channelGuardLocks event.channelID ++
      match eventHandleReceive event networkState peers with
      | .drop => []
      | .push _ => queueLocks .networkInToSimulation
      | .disconnect => callbackLocks callbacks

/-- `ServerNetworkIncoming_ProcessENetEvent`. -/
def ServerNetworkIncoming.processENetEventLocks (event : ENetEvent Peer)
    (networkState : NetworkState Peer) (peers : ENetPeers Peer)
    (callbacks : List (CallbackView Peer)) : List ServerLockOp :=
  match event.type with
  | .connect =>
      pushLocks .networkInToSimulation (eventHandleConnect event networkState peers).2.2.toList
  | .disconnect | .disconnectTimeout =>
      pushLocks .networkInToSimulation (eventHandleDisconnect event networkState peers).2.2.toList
  | .receive => eventHandleReceiveLocks event networkState peers callbacks

namespace ServerNetworkOutgoing

/-- `ServerNetworkOutgoing_IsPeerAllowedToSendPacket`. -/
def isPeerAllowedToSendPacketLocks (peers : ENetPeers Peer) (peer : Option Peer)
    (requireValidatedSession : Bool) : List ServerLockOp :=
  if !requireValidatedSession then []
  else
    match tryGetConnectionIdFromPeer peers peer with
    | none => []
    | some _ => lockScope .sessions []

/-- What the sending of one message finds: the tables and slots, what ENet answers, and
    the callbacks it makes. -/
structure SendView (Peer : Type) where
  networkState : NetworkState Peer
  peers : ENetPeers Peer
  outcome : SendOutcome
  callbacks : Nat → List (CallbackView Peer)

/-- One iteration of
    `ServerNetworkOutgoing_ProcessSimulationDispatcher_HandleReliableMessages`; the
    packets of the match phases are guarded. -/
def handleReliableMessageLocks (view : SendView Peer) (msg : SimulationToNetworkOUTMessage) :
    List ServerLockOp :=
  match findPeerByConnectionId view.networkState msg.connectionId with
  | none => []
  | some p =>
      isPeerAllowedToSendPacketLocks view.peers (some p) msg.type.isMatchPhase ++
        enetCallLocks view.callbacks
          (handleReliableMessage view.networkState view.peers msg view.outcome).calls

/-- `ServerNetworkOutgoing_ProcessSimulationDispatcher_HandleSnapshotFullMessage`; the id
    is allocated in `patchState`. -/
def handleSnapshotFullMessageLocks (patchState : NetworkState Peer) (view : SendView Peer)
    (msg : SimulationToNetworkOUTMessage) : List ServerLockOp :=
  match findPeerByConnectionId patchState msg.connectionId with
  | none => []
  | some p =>
      if msg.type ≠ .serverSnapshotFullPacketUnreliable then []
      else
        match deserializeServerSnapshotFullPacketUnreliable msg.serializedPacket with
        | none => []
        | some _ =>
            lockScope .sessions [] ++
              match (patchSnapshotFullMessage patchState msg).2 with
              | none => []
              | some bytes =>
                  isPeerAllowedToSendPacketLocks view.peers (some p) true ++
                    enetCallLocks view.callbacks
                      (sendSnapshotFullPacketUnreliable view.networkState view.peers (some p)
                        bytes view.outcome).calls

/-- What a pass finds; the last callbacks are those of `enet_host_flush`. -/
structure PassView (Peer : Type) where
  reliableMessages : List (SendView Peer × SimulationToNetworkOUTMessage)
  snapshots : List (NetworkState Peer × SendView Peer × SimulationToNetworkOUTMessage)
  flushCallbacks : List (CallbackView Peer)

/-- `ServerNetworkOutgoing_DrainSimulationMessages_And_RunOutgoingNetworkLogic`. -/
def passLocks (view : PassView Peer) : List ServerLockOp :=
  queueLocks .simulationToNetworkOut ++
    (view.reliableMessages.flatMap fun m => handleReliableMessageLocks m.1 m.2) ++
    (view.snapshots.flatMap fun m => handleSnapshotFullMessageLocks m.1 m.2.1 m.2.2) ++
    callbackLocks view.flushCallbacks

end ServerNetworkOutgoing

-- ============================================================================
-- The other threads
-- ============================================================================

/-- A worker that has woken up in `waitAndDrain`: it tests its predicate under the
    mutex, and handles the batch after releasing it. -/
def waitAndDrainLocks {M : Type} (mutex : ServerMutex) (queue : StoppableQueue M)
    (handle : M → List ServerLockOp) : List ServerLockOp :=
  lockScope mutex [] ++
    match queue.waitAndDrain with
    | .blocked => []
    | .stopped => []
    | .drained batch _ => batch.flatMap handle

/-- The passes of the threads. -/
inductive ThreadPass (Peer : Type) [DecidableEq Peer] (platform : Platform) :
    ServerThread → List ServerLockOp → Prop
  /-- `rcnet_simulation_update`. -/
  | tick (view : ServerSimulation.TickView Peer) :
      ThreadPass Peer platform .simulation (ServerSimulation.tickLocks platform view)
  /-- `rcnet_network_incoming_update`. -/
  | event (event : ENetEvent Peer) (networkState : NetworkState Peer) (peers : ENetPeers Peer)
      (callbacks : List (CallbackView Peer)) :
      ThreadPass Peer platform .network
        (ServerNetworkIncoming.processENetEventLocks event networkState peers callbacks)
  /-- `rcnet_network_outgoing_update`. -/
  | outgoing (view : ServerNetworkOutgoing.PassView Peer) :
      ThreadPass Peer platform .network (ServerNetworkOutgoing.passLocks view)
  /-- ENet at work between the two. -/
  | service (callbacks : List (CallbackView Peer)) :
      ThreadPass Peer platform .network (callbackLocks callbacks)
  /-- `rcnet_http_update`. -/
  | http (queue : SimulationToHttpQueue) :
      ThreadPass Peer platform .http
        (waitAndDrainLocks .simulationToHttp queue fun _ => queueLocks .httpToSimulation)
  /-- `rcnet_nats_update`; the handlers take no mutex. -/
  | nats (queue : StoppableQueue NatsMessage) :
      ThreadPass Peer platform .nats (waitAndDrainLocks .simulationToNats queue fun _ => [])
  /-- `ServerNats_OnMessageReceivedForSubjectMySubject1`, for a message or a null one. -/
  | natsMessage (received : Bool) :
      ThreadPass Peer platform .natsSubscription
        (if received then queueLocks .natsToSimulation else [])
  /-- `rcnet_wake_blocking_threads`. -/
  | wake :
      ThreadPass Peer platform .shutdown
        (queueLocks .simulationToHttp ++ queueLocks .simulationToNats)

end RcnetServer
