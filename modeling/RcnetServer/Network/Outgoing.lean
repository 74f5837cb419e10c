/-
  RcnetServer.Network.Outgoing

  The network thread's outgoing pass (network/transport/outgoing): splitting the
  drained batch, resolving peers, the gameplay guard, handing packets to ENet,
  patching snapshot ids, and the actions run when ENet reports an ACK.

  A sending routine returns its result and the ENet calls it made, in order.
-/

import RcnetServer.Network.Host
import RcnetServer.Network.PacketCodec

namespace RcnetServer

variable {Peer : Type} [DecidableEq Peer]

-- ============================================================================
-- Preparing the batch
-- ============================================================================

/-- The message types kept in order by
    `ServerNetworkOutgoing_SplitReliableAndCoalesceUnreliableMessages`. -/
def SimulationToNetworkOUTMessageType.isReliable : SimulationToNetworkOUTMessageType → Bool
  | .serverSecureSessionHelloResponsePacketReliable => true
  | .serverAuthResponsePacketReliable => true
  | .serverMatchInitPacketReliable => true
  | .serverWorldStaticStateInitPacketReliable => true
  | .serverMatchStartPacketReliable => true
  | .serverSnapshotFullPacketUnreliable => false
  | .serverClockSyncPacketUnreliable => false

/-- `ServerNetworkOutgoingPreparedMessages`. -/
structure ServerNetworkOutgoingPreparedMessages where
  reliableMessages : List SimulationToNetworkOUTMessage := []
  lastSnapshotFullUnreliablePerConnectionId :
    UnorderedMap ConnectionId SimulationToNetworkOUTMessage := ∅
  lastClockSyncUnreliablePerConnectionId :
    UnorderedMap ConnectionId SimulationToNetworkOUTMessage := ∅

/-- One iteration of the splitting loop. -/
def ServerNetworkOutgoingPreparedMessages.add (prepared : ServerNetworkOutgoingPreparedMessages)
    (msg : SimulationToNetworkOUTMessage) : ServerNetworkOutgoingPreparedMessages :=
  if msg.type.isReliable then
    { prepared with reliableMessages := prepared.reliableMessages ++ [msg] }
  else if msg.type = .serverSnapshotFullPacketUnreliable then
    { prepared with
      lastSnapshotFullUnreliablePerConnectionId :=
        prepared.lastSnapshotFullUnreliablePerConnectionId.insert msg.connectionId msg }
  else if msg.type = .serverClockSyncPacketUnreliable then
    { prepared with
      lastClockSyncUnreliablePerConnectionId :=
        prepared.lastClockSyncUnreliablePerConnectionId.insert msg.connectionId msg }
  else prepared

/-- `ServerNetworkOutgoing_SplitReliableAndCoalesceUnreliableMessages`. -/
def ServerNetworkOutgoing.splitReliableAndCoalesceUnreliableMessages
    (outMessages : List SimulationToNetworkOUTMessage) : ServerNetworkOutgoingPreparedMessages :=
  outMessages.foldl ServerNetworkOutgoingPreparedMessages.add {}

/-- `ServerNetworkOutgoing_FindPeerByConnectionId`: `none` for `nullptr`. -/
def ServerNetworkOutgoing.findPeerByConnectionId (networkState : NetworkState Peer)
    (connectionId : ConnectionId) : Option Peer :=
  match networkState.connectionIdToEnetPeer.lookup connectionId with
  | none => none
  | some peer => peer

-- ============================================================================
-- Sending one packet
-- ============================================================================

/-- The flags `ServerNetworkOutgoing_IsPeerAllowedToSendPacket` asks of a session. -/
def ClientSession.allowsGameplaySend (session : ClientSession) : Bool :=
  session.isTransportConnected && session.isSecureSessionEstablished &&
    session.isPacketEncryptionEnabled && session.authStatus = .valid

/-- `ServerNetworkOutgoing_IsPeerAllowedToSendPacket`. -/
def ServerNetworkOutgoing.isPeerAllowedToSendPacket (networkState : NetworkState Peer)
    (peers : ENetPeers Peer) (peer : Option Peer) (requireValidatedSession : Bool) : Bool :=
  if !requireValidatedSession then true
  else
    match tryGetConnectionIdFromPeer peers peer with
    | none => false
    | some connectionId =>
        match networkState.sessions.lookup connectionId with
        | none => false
        | some session => session.allowsGameplaySend

/-- The result of a sending routine with the ENet calls it made. -/
structure SendResult (Peer : Type) where
  sent : Bool
  calls : List (ENetCall Peer)

/-- The fallback of a failing send: keep the intention to disconnect. -/
def disconnectLaterIf (disconnectAfterAck : Bool) (peer : Peer) : List (ENetCall Peer) :=
  if disconnectAfterAck then [.peerDisconnectLater peer] else []

/-- A failing exit of `ServerNetworkOutgoing_SendPacket` once the packet exists. -/
def ServerNetworkOutgoing.giveUpPacket (made : List (ENetCall Peer)) (disconnectAfterAck : Bool)
    (peer : Peer) (enetPacket : ENetPacket Peer) : SendResult Peer :=
  ⟨false, made ++ disconnectLaterIf disconnectAfterAck peer ++ [.packetDestroy enetPacket]⟩

/-- The last two steps of `ServerNetworkOutgoing_SendPacket`: `enet_peer_send`
    and what follows its result. -/
def ServerNetworkOutgoing.submitPacket (made : List (ENetCall Peer)) (disconnectAfterAck : Bool)
    (peer : Peer) (channel : NetworkChannel) (enetPacket : ENetPacket Peer)
    (outcome : SendOutcome) : SendResult Peer :=
  if outcome.sendResult < 0 then
    ServerNetworkOutgoing.giveUpPacket made disconnectAfterAck peer enetPacket
  else ⟨true, made ++ [.peerSend peer channel enetPacket]⟩

/-- `ServerNetworkOutgoing_SendPacket`. -/
def ServerNetworkOutgoing.sendPacket (networkState : NetworkState Peer) (peers : ENetPeers Peer)
    (peer : Option Peer) (channel : NetworkChannel) (bytes : List UInt8) (flags : UInt32)
    (disconnectAfterAck enableEncryptionAfterAck requireValidatedSession : Bool)
    (outcome : SendOutcome) : SendResult Peer :=
  match peer with
  | none => ⟨false, []⟩
  | some p =>
      if !ServerNetworkOutgoing.isPeerAllowedToSendPacket networkState peers peer
          requireValidatedSession then ⟨false, []⟩
      else if !outcome.packetCreated then ⟨false, []⟩
      else
        let enetPacket : ENetPacket Peer := { data := bytes, flags := flags }
        if (disconnectAfterAck || enableEncryptionAfterAck) &&
            flags &&& enetPacketFlagReliable ≠ 0 then
          match tryGetConnectionIdFromPeer peers peer with
          | none =>
              ServerNetworkOutgoing.giveUpPacket [.packetCreate] disconnectAfterAck p enetPacket
          | some connectionId =>
              if !outcome.contextAllocated then
                ServerNetworkOutgoing.giveUpPacket [.packetCreate] disconnectAfterAck p enetPacket
              else
                let context : ReliableAckActionContext Peer :=
                  { peer := peer, connectionId := connectionId
                    disconnectAfterAck := disconnectAfterAck
                    enableEncryptionAfterAck := enableEncryptionAfterAck }
                ServerNetworkOutgoing.submitPacket [.packetCreate, .newContext] disconnectAfterAck
                  p channel
                  { enetPacket with
                    userData := some context
                    acknowledgeCallback := true
                    freeCallback := true }
                  outcome
        else
          -- no post-ACK action was asked for, or the packet is not reliable
          ServerNetworkOutgoing.submitPacket [.packetCreate] disconnectAfterAck p channel
            enetPacket outcome

/-- `ServerNetworkOutgoing_SendMatchInitPacketReliable`. -/
def ServerNetworkOutgoing.sendMatchInitPacketReliable (networkState : NetworkState Peer)
    (peers : ENetPeers Peer) (peer : Option Peer) (bytes : List UInt8) (outcome : SendOutcome) :
    SendResult Peer :=
  ServerNetworkOutgoing.sendPacket networkState peers peer .gameReliable bytes
    enetPacketFlagReliable false false true outcome

/-- `ServerNetworkOutgoing_SendWorldStaticStateInitPacketReliable`. -/
def ServerNetworkOutgoing.sendWorldStaticStateInitPacketReliable
    (networkState : NetworkState Peer) (peers : ENetPeers Peer) (peer : Option Peer)
    (bytes : List UInt8) (outcome : SendOutcome) : SendResult Peer :=
  ServerNetworkOutgoing.sendPacket networkState peers peer .gameReliable bytes
    enetPacketFlagReliable false false true outcome

/-- `ServerNetworkOutgoing_SendMatchStartPacketReliable`. -/
def ServerNetworkOutgoing.sendMatchStartPacketReliable (networkState : NetworkState Peer)
    (peers : ENetPeers Peer) (peer : Option Peer) (bytes : List UInt8) (outcome : SendOutcome) :
    SendResult Peer :=
  ServerNetworkOutgoing.sendPacket networkState peers peer .gameReliable bytes
    enetPacketFlagReliable false false true outcome

/-- `ServerNetworkOutgoing_SendSnapshotFullPacketUnreliable`. -/
def ServerNetworkOutgoing.sendSnapshotFullPacketUnreliable (networkState : NetworkState Peer)
    (peers : ENetPeers Peer) (peer : Option Peer) (bytes : List UInt8) (outcome : SendOutcome) :
    SendResult Peer :=
  ServerNetworkOutgoing.sendPacket networkState peers peer .gameUnreliable bytes 0 false false
    true outcome

/-- `ServerNetworkOutgoing_SendSecureSessionHelloResponsePacketReliable`. -/
def ServerNetworkOutgoing.sendSecureSessionHelloResponsePacketReliable
    (networkState : NetworkState Peer) (peers : ENetPeers Peer) (peer : Option Peer)
    (bytes : List UInt8) (disconnectAfterAck enableEncryptionAfterAck : Bool)
    (outcome : SendOutcome) : SendResult Peer :=
  ServerNetworkOutgoing.sendPacket networkState peers peer .secureSessionReliable bytes
    enetPacketFlagReliable disconnectAfterAck enableEncryptionAfterAck false outcome

/-- `ServerNetworkOutgoing_SendAuthResponsePacketReliable`. -/
def ServerNetworkOutgoing.sendAuthResponsePacketReliable (networkState : NetworkState Peer)
    (peers : ENetPeers Peer) (peer : Option Peer) (bytes : List UInt8)
    (disconnectAfterAck : Bool) (outcome : SendOutcome) : SendResult Peer :=
  ServerNetworkOutgoing.sendPacket networkState peers peer .authReliable bytes
    enetPacketFlagReliable disconnectAfterAck false false outcome

-- ============================================================================
-- The messages of a pass
-- ============================================================================

/-- One iteration of
    `ServerNetworkOutgoing_ProcessSimulationDispatcher_HandleReliableMessages`. -/
def ServerNetworkOutgoing.handleReliableMessage (networkState : NetworkState Peer)
    (peers : ENetPeers Peer) (msg : SimulationToNetworkOUTMessage) (outcome : SendOutcome) :
    SendResult Peer :=
  match ServerNetworkOutgoing.findPeerByConnectionId networkState msg.connectionId with
  | none => ⟨false, []⟩
  | some p =>
      match msg.type with
      | .serverMatchInitPacketReliable =>
          ServerNetworkOutgoing.sendMatchInitPacketReliable networkState peers (some p)
            msg.serializedPacket outcome
      | .serverWorldStaticStateInitPacketReliable =>
          ServerNetworkOutgoing.sendWorldStaticStateInitPacketReliable networkState peers (some p)
            msg.serializedPacket outcome
      | .serverSecureSessionHelloResponsePacketReliable =>
          ServerNetworkOutgoing.sendSecureSessionHelloResponsePacketReliable networkState peers
            (some p) msg.serializedPacket msg.disconnectAfterAck msg.enableEncryptionAfterAck
            outcome
      | .serverAuthResponsePacketReliable =>
          ServerNetworkOutgoing.sendAuthResponsePacketReliable networkState peers (some p)
            msg.serializedPacket msg.disconnectAfterAck outcome
      | .serverMatchStartPacketReliable =>
          ServerNetworkOutgoing.sendMatchStartPacketReliable networkState peers (some p)
            msg.serializedPacket outcome
      | _ => ⟨false, []⟩

/-- A new snapshot id, taken at the moment of the real send. -/
def ClientSession.allocateSnapshotId (session : ClientSession) : ClientSession :=
  { session with
    serverNextSnapshotId := session.serverNextSnapshotId + 1
    serverLastSentSnapshotId := session.serverNextSnapshotId }

/-- The first half of
    `ServerNetworkOutgoing_ProcessSimulationDispatcher_HandleSnapshotFullMessage`:
    decode the snapshot and, under the mutex, allocate its id.  Returns the
    patched packet, or `none` when the handler returns early. -/
def ServerNetworkOutgoing.patchSnapshotFullMessage (networkState : NetworkState Peer)
    (msg : SimulationToNetworkOUTMessage) : NetworkState Peer × Option (List UInt8) :=
  if msg.type ≠ .serverSnapshotFullPacketUnreliable then (networkState, none)
  else
    match deserializeServerSnapshotFullPacketUnreliable msg.serializedPacket with
    | none => (networkState, none)
    | some snapshotFullPacket =>
        match networkState.sessions.lookup msg.connectionId with
        | none => (networkState, none)
        | some session =>
            let session := session.allocateSnapshotId
            (networkState.setSession msg.connectionId session,
              some (serializeServerSnapshotFullPacketUnreliable
                { snapshotFullPacket with snapshotId := session.serverLastSentSnapshotId }))

-- ============================================================================
-- Post-ACK actions
-- ============================================================================

/-- `ServerNetworkOutgoing_IsPeerStillBoundToConnectionId`. -/
def ServerNetworkOutgoing.isPeerStillBoundToConnectionId (networkState : NetworkState Peer)
    (peers : ENetPeers Peer) (peer : Option Peer) (expectedConnectionId : ConnectionId) : Bool :=
  if peer.isNone || expectedConnectionId = 0 then false
  else
    match tryGetConnectionIdFromPeer peers peer with
    | none => false
    | some currentConnectionId =>
        if currentConnectionId ≠ expectedConnectionId then false
        else
          match networkState.connectionIdToEnetPeer.lookup expectedConnectionId with
          | none => false
          | some tablePeer => tablePeer = peer

/-- `ServerNetworkOutgoing_SetPeerEncryptionEnabled`. -/
def ServerNetworkOutgoing.setPeerEncryptionEnabled (networkState : NetworkState Peer)
    (peers : ENetPeers Peer) (peer : Option Peer) (enabled : Bool) : NetworkState Peer :=
  if peer.isNone then networkState
  else
    match tryGetConnectionIdFromPeer peers peer with
    | none => networkState
    | some connectionId =>
        match networkState.connectionIdToEnetPeer.lookup connectionId with
        | none => networkState
        | some tablePeer =>
            if tablePeer ≠ peer then networkState
            else
              let networkState :=
                { networkState with
                  connectionIdToEncryptionEnabled :=
                    networkState.connectionIdToEncryptionEnabled.insert connectionId enabled }
              match networkState.sessions.lookup connectionId with
              | none => networkState
              | some session =>
                  networkState.setSession connectionId
                    { session with isPacketEncryptionEnabled := enabled }

/-- `ServerNetworkOutgoing_OnReliablePacketAcknowledged_RunActions`. -/
def ServerNetworkOutgoing.onReliablePacketAcknowledgedRunActions
    (networkState : NetworkState Peer) (peers : ENetPeers Peer) (packet : ENetPacket Peer) :
    NetworkState Peer × List (ENetCall Peer) :=
  match packet.userData with
  | none => (networkState, [])
  | some context =>
      match context.peer with
      | none => (networkState, [])
      | some p =>
          if !ServerNetworkOutgoing.isPeerStillBoundToConnectionId networkState peers
              context.peer context.connectionId then (networkState, [])
          else
            let networkState :=
              if context.enableEncryptionAfterAck then
                ServerNetworkOutgoing.setPeerEncryptionEnabled networkState peers context.peer true
              else networkState
            (networkState, disconnectLaterIf context.disconnectAfterAck p)

/-- `ServerNetworkOutgoing_OnReliablePacketFreed_DestroyAckContext`: the packet it
    leaves, and the contexts it deletes. -/
def ServerNetworkOutgoing.onReliablePacketFreedDestroyAckContext
    (packet : Option (ENetPacket Peer)) :
    Option (ENetPacket Peer) × List (ReliableAckActionContext Peer) :=
  match packet with
  | none => (none, [])
  | some packet =>
      match packet.userData with
      | none => (some packet, [])
      | some context => (some { packet with userData := none }, [context])

-- ============================================================================
-- What an ACK does
-- ============================================================================

/-- `c` is the live connection of slot `p`: the slot carries its id and the table
    maps the id back to the slot. -/
structure BoundPeer (networkState : NetworkState Peer) (peers : ENetPeers Peer) (p : Peer)
    (c : ConnectionId) : Prop where
  ne_zero : c ≠ 0
  data : tryGetConnectionIdFromPeer peers (some p) = some c
  table : networkState.connectionIdToEnetPeer.lookup c = some (some p)

/-- Both encryption flags of `c` are set. -/
def NetworkState.enableEncryption (networkState : NetworkState Peer) (c : ConnectionId) :
    NetworkState Peer :=
  { networkState with
    connectionIdToEncryptionEnabled := networkState.connectionIdToEncryptionEnabled.insert c true
    sessions :=
      match networkState.sessions.lookup c with
      | none => networkState.sessions
      | some session =>
          networkState.sessions.replace c { session with isPacketEncryptionEnabled := true } }

omit [DecidableEq Peer] in
theorem NetworkState.lookup_enableEncryption (networkState : NetworkState Peer)
    (c c' : ConnectionId) :
    (networkState.enableEncryption c).sessions.lookup c' =
      if c' = c then
        (networkState.sessions.lookup c).map fun session =>
          { session with isPacketEncryptionEnabled := true }
      else networkState.sessions.lookup c' := by
  simp only [NetworkState.enableEncryption]
  cases h : networkState.sessions.lookup c with
  | none => exact UnorderedMap.lookup_eq_ite h c'
  | some session => exact NetworkState.lookup_setSession _ h c'

namespace ServerNetworkOutgoing

section Acknowledge

variable {networkState : NetworkState Peer} {peers : ENetPeers Peer} {p : Peer}
  {c : ConnectionId}

theorem isPeerStillBoundToConnectionId_iff :
    isPeerStillBoundToConnectionId networkState peers (some p) c = true ↔
      BoundPeer networkState peers p c := by
  unfold isPeerStillBoundToConnectionId
  by_cases hc : c = 0
  · subst hc
    simp only [Option.isNone_some, Bool.false_or, decide_true, if_true, Bool.false_eq_true,
      false_iff]
    exact fun h => h.ne_zero rfl
  · simp only [Option.isNone_some, Bool.false_or, decide_eq_true_eq, if_neg hc]
    constructor
    · intro h
      split at h
      · cases h
      · rename_i current hcurrent
        split at h
        · cases h
        · rename_i heq
          obtain rfl : current = c := not_not.mp heq
          split at h
          · cases h
          · rename_i tablePeer htable
            exact ⟨hc, hcurrent, by rw [htable, of_decide_eq_true h]⟩
    · intro h
      simp [h.data, h.table]

/-- For a bound peer `SetPeerEncryptionEnabled` sets the two flags of its
    connection. -/
theorem setPeerEncryptionEnabled_of_bound (h : BoundPeer networkState peers p c) :
    setPeerEncryptionEnabled networkState peers (some p) true =
      networkState.enableEncryption c := by
  simp only [setPeerEncryptionEnabled, Option.isNone_some, Bool.false_eq_true, if_false, h.data,
    h.table, NetworkState.enableEncryption]
  cases hs : networkState.sessions.lookup c with
  | none => simp
  | some session => simp [NetworkState.setSession]

/-- An ACK either does nothing, or acts on the connection its context was made
    for, which is then still bound to the slot of the context. -/
theorem onReliablePacketAcknowledgedRunActions_cases (networkState : NetworkState Peer)
    (peers : ENetPeers Peer) (packet : ENetPacket Peer) :
    onReliablePacketAcknowledgedRunActions networkState peers packet = (networkState, []) ∨
    ∃ context p, packet.userData = some context ∧ context.peer = some p ∧
      BoundPeer networkState peers p context.connectionId ∧
      onReliablePacketAcknowledgedRunActions networkState peers packet =
        (if context.enableEncryptionAfterAck then
            networkState.enableEncryption context.connectionId
          else networkState,
          disconnectLaterIf context.disconnectAfterAck p) := by
  cases huser : packet.userData with
  | none => exact Or.inl (by simp [onReliablePacketAcknowledgedRunActions, huser])
  | some context =>
      cases hpeer : context.peer with
      | none => exact Or.inl (by simp [onReliablePacketAcknowledgedRunActions, huser, hpeer])
      | some p =>
          cases hbound : isPeerStillBoundToConnectionId networkState peers (some p)
              context.connectionId with
          | false =>
              exact Or.inl
                (by simp [onReliablePacketAcknowledgedRunActions, huser, hpeer, hbound])
          | true =>
              have hb := isPeerStillBoundToConnectionId_iff.mp hbound
              refine Or.inr ⟨context, p, rfl, hpeer, hb, ?_⟩
              simp [onReliablePacketAcknowledgedRunActions, huser, hpeer, hbound,
                setPeerEncryptionEnabled_of_bound hb]

end Acknowledge

end ServerNetworkOutgoing

section Snapshot

omit [DecidableEq Peer]

/-- Patching a snapshot either gives up and changes nothing, or allocates the
    next id of the target session. -/
theorem ServerNetworkOutgoing.patchSnapshotFullMessage_cases (networkState : NetworkState Peer)
    (msg : SimulationToNetworkOUTMessage) :
    patchSnapshotFullMessage networkState msg = (networkState, none) ∨
    ∃ session bytes, networkState.sessions.lookup msg.connectionId = some session ∧
      patchSnapshotFullMessage networkState msg =
        (networkState.setSession msg.connectionId session.allocateSnapshotId, some bytes) := by
  unfold patchSnapshotFullMessage
  split
  · exact Or.inl rfl
  · split
    · exact Or.inl rfl
    · cases hs : networkState.sessions.lookup msg.connectionId with
      | none => exact Or.inl rfl
      | some session => exact Or.inr ⟨session, _, rfl, rfl⟩

end Snapshot

-- ============================================================================
-- What a send hands to ENet
-- ============================================================================

section PeerSend

omit [DecidableEq Peer]

variable {networkState : NetworkState Peer} {peers : ENetPeers Peer} {p q : Peer}
  {channel ch : NetworkChannel} {bytes : List UInt8} {flags : UInt32}
  {disconnectAfterAck enableEncryptionAfterAck requireValidatedSession : Bool}
  {outcome : SendOutcome} {made : List (ENetCall Peer)} {packet sentPacket : ENetPacket Peer}

theorem peerSend_not_mem_disconnectLaterIf :
    ENetCall.peerSend q ch packet ∉ disconnectLaterIf disconnectAfterAck p := by
  cases disconnectAfterAck <;> simp [disconnectLaterIf]

namespace ServerNetworkOutgoing

theorem peerSend_not_mem_giveUpPacket (hmade : ENetCall.peerSend q ch sentPacket ∉ made) :
    .peerSend q ch sentPacket ∉ (giveUpPacket made disconnectAfterAck p packet).calls := by
  simp [giveUpPacket, hmade, peerSend_not_mem_disconnectLaterIf]

theorem peerSend_mem_submitPacket (hmade : ENetCall.peerSend q ch sentPacket ∉ made)
    (h : .peerSend q ch sentPacket ∈
      (submitPacket made disconnectAfterAck p channel packet outcome).calls) :
    q = p ∧ sentPacket = packet := by
  unfold submitPacket at h
  split at h
  · exact absurd h (peerSend_not_mem_giveUpPacket hmade)
  · simp only [List.mem_append, hmade, List.mem_singleton, ENetCall.peerSend.injEq,
      false_or] at h
    exact ⟨h.1, h.2.2⟩

/-- The packet of an accepted send: the guard held, and an attached context
    names the peer, the id its `data` carries, and the actions asked for. -/
structure SentPacket (networkState : NetworkState Peer) (peers : ENetPeers Peer)
    (disconnectAfterAck enableEncryptionAfterAck requireValidatedSession : Bool)
    (bytes : List UInt8) (p : Peer) (packet : ENetPacket Peer) : Prop where
  allowed : isPeerAllowedToSendPacket networkState peers (some p) requireValidatedSession = true
  data : packet.data = bytes
  context : ∀ context, packet.userData = some context →
    context.peer = some p ∧
      tryGetConnectionIdFromPeer peers (some p) = some context.connectionId ∧
      context.disconnectAfterAck = disconnectAfterAck ∧
      context.enableEncryptionAfterAck = enableEncryptionAfterAck

/-- A packet ENet accepts goes to the peer passed in. -/
theorem peerSend_mem_sendPacket {peer : Option Peer}
    (h : .peerSend q ch packet ∈ (sendPacket networkState peers peer channel bytes flags
      disconnectAfterAck enableEncryptionAfterAck requireValidatedSession outcome).calls) :
    peer = some q ∧ SentPacket networkState peers disconnectAfterAck enableEncryptionAfterAck
      requireValidatedSession bytes q packet := by
  cases peer with
  | none => simp [sendPacket] at h
  | some p =>
      simp only [sendPacket] at h
      split at h
      · simp at h
      · rename_i hallowed
        have hallowed : isPeerAllowedToSendPacket networkState peers (some p)
            requireValidatedSession = true := by simpa using hallowed
        split at h
        · simp at h
        · split at h
          · -- a post-ACK action on a reliable packet
            cases hid : tryGetConnectionIdFromPeer peers (some p) with
            | none =>
                rw [hid] at h
                exact absurd h (peerSend_not_mem_giveUpPacket (by simp))
            | some connectionId =>
                simp only [hid] at h
                split at h
                · exact absurd h (peerSend_not_mem_giveUpPacket (by simp))
                · obtain ⟨rfl, rfl⟩ := peerSend_mem_submitPacket (by simp) h
                  refine ⟨rfl, hallowed, rfl, ?_⟩
                  rintro context hcontext
                  obtain rfl : _ = context := Option.some.inj hcontext
                  exact ⟨rfl, hid, rfl, rfl⟩
          · obtain ⟨rfl, rfl⟩ := peerSend_mem_submitPacket (by simp) h
            exact ⟨rfl, hallowed, rfl, by simp⟩

/-- What the pass hands to ENet for one reliable message: the peer is the one the
    table gives for the message's connection, and a context asks for no more
    than the message does. -/
theorem peerSend_mem_handleReliableMessage {msg : SimulationToNetworkOUTMessage}
    (h : .peerSend q ch packet ∈ (handleReliableMessage networkState peers msg outcome).calls) :
    findPeerByConnectionId networkState msg.connectionId = some q ∧
      ∃ disconnectAfterAck enableEncryptionAfterAck requireValidatedSession,
        SentPacket networkState peers disconnectAfterAck enableEncryptionAfterAck
          requireValidatedSession msg.serializedPacket q packet ∧
        (disconnectAfterAck = true → msg.disconnectAfterAck = true) ∧
        (enableEncryptionAfterAck = true → msg.enableEncryptionAfterAck = true) := by
  unfold handleReliableMessage at h
  cases hp : findPeerByConnectionId networkState msg.connectionId with
  | none => simp [hp] at h
  | some p =>
      simp only [hp] at h
      -- each type is sent by `sendPacket` with its own flags
      cases ht : msg.type <;> simp only [ht] at h
      case serverSecureSessionHelloResponsePacketReliable =>
        obtain ⟨hpq, hsent⟩ := peerSend_mem_sendPacket h
        exact ⟨hpq, _, _, _, hsent, id, id⟩
      case serverAuthResponsePacketReliable =>
        obtain ⟨hpq, hsent⟩ := peerSend_mem_sendPacket h
        exact ⟨hpq, _, _, _, hsent, id, by simp⟩
      case serverSnapshotFullPacketUnreliable => simp at h
      case serverClockSyncPacketUnreliable => simp at h
      all_goals
        obtain ⟨hpq, hsent⟩ := peerSend_mem_sendPacket h
        exact ⟨hpq, _, _, _, hsent, by simp, by simp⟩

/-- A message of the gameplay channel is handed to ENet if its connection is in
    the table, the guard holds and ENet accepts the packet. -/
theorem handleReliableMessage_peerSend {msg : SimulationToNetworkOUTMessage}
    (hpeer : findPeerByConnectionId networkState msg.connectionId = some p)
    (htype : msg.type = .serverMatchInitPacketReliable ∨
      msg.type = .serverWorldStaticStateInitPacketReliable ∨
      msg.type = .serverMatchStartPacketReliable)
    (hallowed : isPeerAllowedToSendPacket networkState peers (some p) true = true)
    (hcreated : outcome.packetCreated = true) (hsent : 0 ≤ outcome.sendResult) :
    .peerSend p .gameReliable { data := msg.serializedPacket, flags := enetPacketFlagReliable } ∈
      (handleReliableMessage networkState peers msg outcome).calls := by
  have hresult : ¬ outcome.sendResult < 0 := by omega
  have hsend : .peerSend p .gameReliable
        { data := msg.serializedPacket, flags := enetPacketFlagReliable } ∈
      (sendPacket networkState peers (some p) .gameReliable msg.serializedPacket
        enetPacketFlagReliable false false true outcome).calls := by
    simp [sendPacket, submitPacket, hallowed, hcreated, hresult]
  unfold handleReliableMessage
  rcases htype with htype | htype | htype <;> simp only [hpeer, htype] <;> exact hsend

end ServerNetworkOutgoing

end PeerSend

-- ============================================================================
-- What becomes of packets, contexts and disconnects
-- ============================================================================

namespace ENetCall

/-- The packet that a call hands to ENet or destroys. -/
def settledPacket : ENetCall Peer → Option (ENetPacket Peer)
  | .peerSend _ _ packet => some packet
  | .packetDestroy packet => some packet
  | _ => none

def isPacketCreate : ENetCall Peer → Bool
  | .packetCreate => true
  | _ => false

def isNewContext : ENetCall Peer → Bool
  | .newContext => true
  | _ => false

/-- The peer whose disconnect a call schedules. -/
def disconnectedPeer : ENetCall Peer → Option Peer
  | .peerDisconnect p => some p
  | .peerDisconnectLater p => some p
  | _ => none

end ENetCall

/-- The callbacks are registered on a packet exactly if it has a context. -/
structure ENetPacket.CallbacksMatch (packet : ENetPacket Peer) : Prop where
  acknowledge : packet.acknowledgeCallback = packet.userData.isSome
  free : packet.freeCallback = packet.userData.isSome

/-- At most one packet is created; it is handed to ENet or destroyed, once, and with
    it the context that was created for it, which its callbacks know. -/
structure CallsSettled (calls : List (ENetCall Peer)) : Prop where
  single : calls.countP ENetCall.isPacketCreate ≤ 1
  packets : (calls.filterMap ENetCall.settledPacket).length =
    calls.countP ENetCall.isPacketCreate
  contexts : (calls.filterMap ENetCall.settledPacket).countP (·.userData.isSome) =
    calls.countP ENetCall.isNewContext
  callbacks : ∀ packet ∈ calls.filterMap ENetCall.settledPacket, packet.CallbacksMatch

/-- `packet` asks for the disconnect of `p` once it is acknowledged. -/
structure DisconnectingPacket (p : Peer) (c : ConnectionId) (packet : ENetPacket Peer) : Prop where
  reliable : packet.flags = enetPacketFlagReliable
  registered : packet.acknowledgeCallback = true
  context : ∃ context, packet.userData = some context ∧ context.peer = some p ∧
    context.connectionId = c ∧ context.disconnectAfterAck = true

namespace ServerNetworkOutgoing

section Settled

omit [DecidableEq Peer]

variable {networkState : NetworkState Peer} {peers : ENetPeers Peer} {p : Peer}
  {channel : NetworkChannel} {bytes : List UInt8} {flags : UInt32}
  {disconnectAfterAck enableEncryptionAfterAck requireValidatedSession : Bool}
  {outcome : SendOutcome} {packet : ENetPacket Peer}

theorem callsSettled_nil : CallsSettled ([] : List (ENetCall Peer)) :=
  ⟨Nat.zero_le _, rfl, rfl, by simp⟩

theorem callsSettled_disconnectLaterIf : CallsSettled (disconnectLaterIf disconnectAfterAck p) := by
  cases disconnectAfterAck <;>
    exact ⟨Nat.zero_le _, rfl, rfl, by simp [disconnectLaterIf, ENetCall.settledPacket]⟩

/-- The last two steps settle the packet, and its context if there is one. -/
theorem callsSettled_submitPacket {made : List (ENetCall Peer)}
    (hmade : made = [.packetCreate] ∧ packet.userData = none ∨
      made = [.packetCreate, .newContext] ∧ packet.userData.isSome = true)
    (hcallbacks : packet.CallbacksMatch) :
    CallsSettled (submitPacket made disconnectAfterAck p channel packet outcome).calls := by
  unfold submitPacket giveUpPacket
  rcases hmade with ⟨rfl, huser⟩ | ⟨rfl, huser⟩ <;> split <;> cases disconnectAfterAck <;>
    constructor <;>
    simp [disconnectLaterIf, ENetCall.isPacketCreate, ENetCall.isNewContext,
      ENetCall.settledPacket, List.countP_cons, List.filterMap_cons, huser, hcallbacks]

/-- So does the exit before the context exists. -/
theorem callsSettled_giveUpPacket (huser : packet.userData = none)
    (hcallbacks : packet.CallbacksMatch) :
    CallsSettled (giveUpPacket [.packetCreate] disconnectAfterAck p packet).calls := by
  unfold giveUpPacket
  cases disconnectAfterAck <;> constructor <;>
    simp [disconnectLaterIf, ENetCall.isPacketCreate, ENetCall.isNewContext,
      ENetCall.settledPacket, List.countP_cons, List.filterMap_cons, huser, hcallbacks]

/-- Every exit of `ServerNetworkOutgoing_SendPacket` settles what it created. -/
theorem callsSettled_sendPacket (peer : Option Peer) :
    CallsSettled (sendPacket networkState peers peer channel bytes flags disconnectAfterAck
      enableEncryptionAfterAck requireValidatedSession outcome).calls := by
  cases peer with
  | none => exact callsSettled_nil
  | some p =>
      simp only [sendPacket]
      split
      · exact callsSettled_nil
      · split
        · exact callsSettled_nil
        · split
          · split
            · exact callsSettled_giveUpPacket rfl ⟨rfl, rfl⟩
            · split
              · exact callsSettled_giveUpPacket rfl ⟨rfl, rfl⟩
              · exact callsSettled_submitPacket (Or.inr ⟨rfl, rfl⟩) ⟨rfl, rfl⟩
          · exact callsSettled_submitPacket (Or.inl ⟨rfl, rfl⟩) ⟨rfl, rfl⟩

theorem callsSettled_handleReliableMessage (msg : SimulationToNetworkOUTMessage) :
    CallsSettled (handleReliableMessage networkState peers msg outcome).calls := by
  unfold handleReliableMessage
  split
  · exact callsSettled_nil
  · split
    case h_6 => exact callsSettled_nil
    all_goals exact callsSettled_sendPacket _

/-- Once its packet exists, a reliable send that is to disconnect the peer schedules the
    disconnect at once or leaves it to the packet. -/
theorem sendPacket_disconnects (hcreated : outcome.packetCreated = true) :
    .peerDisconnectLater p ∈ (sendPacket networkState peers (some p) channel bytes
        enetPacketFlagReliable true enableEncryptionAfterAck false outcome).calls ∨
    ∃ c packet, tryGetConnectionIdFromPeer peers (some p) = some c ∧
      .peerSend p channel packet ∈ (sendPacket networkState peers (some p) channel bytes
        enetPacketFlagReliable true enableEncryptionAfterAck false outcome).calls ∧
      DisconnectingPacket p c packet := by
  have hallowed : isPeerAllowedToSendPacket networkState peers (some p) false = true := rfl
  have hreliable : enetPacketFlagReliable &&& enetPacketFlagReliable ≠ 0 := by decide
  simp only [sendPacket, hallowed, hcreated, Bool.not_true, Bool.false_eq_true, if_false,
    Bool.true_or, Bool.true_and, hreliable, decide_true, if_true, ne_eq, not_false_eq_true]
  cases hid : tryGetConnectionIdFromPeer peers (some p) with
  | none => exact Or.inl (by simp [giveUpPacket, disconnectLaterIf])
  | some c =>
      cases outcome.contextAllocated with
      | false => exact Or.inl (by simp [giveUpPacket, disconnectLaterIf])
      | true =>
          by_cases hresult : outcome.sendResult < 0
          · exact Or.inl (by simp [submitPacket, hresult, giveUpPacket, disconnectLaterIf])
          · let context : ReliableAckActionContext Peer :=
              { peer := some p
                connectionId := c
                disconnectAfterAck := true
                enableEncryptionAfterAck := enableEncryptionAfterAck }
            refine Or.inr ⟨c, ⟨bytes, enetPacketFlagReliable, some context, true, true⟩, rfl, ?_,
              rfl, rfl, context, rfl, rfl, rfl, rfl⟩
            simp [submitPacket, hresult, context]

/-- The same of a message of the pass. -/
theorem handleReliableMessage_disconnects {msg : SimulationToNetworkOUTMessage}
    (hpeer : findPeerByConnectionId networkState msg.connectionId = some p)
    (htype : msg.type = .serverSecureSessionHelloResponsePacketReliable ∨
      msg.type = .serverAuthResponsePacketReliable)
    (hdisconnect : msg.disconnectAfterAck = true) (hcreated : outcome.packetCreated = true) :
    .peerDisconnectLater p ∈ (handleReliableMessage networkState peers msg outcome).calls ∨
    ∃ c packet channel, tryGetConnectionIdFromPeer peers (some p) = some c ∧
      .peerSend p channel packet ∈ (handleReliableMessage networkState peers msg outcome).calls ∧
      DisconnectingPacket p c packet := by
  unfold handleReliableMessage
  rcases htype with htype | htype <;> simp only [hpeer, htype, hdisconnect]
  · exact (sendPacket_disconnects hcreated).imp_right fun ⟨c, packet, h⟩ => ⟨c, packet, _, h⟩
  · exact (sendPacket_disconnects hcreated).imp_right fun ⟨c, packet, h⟩ => ⟨c, packet, _, h⟩

end Settled

/-- The ACK of a packet that is to disconnect its peer schedules the disconnect, if the
    connection is still there. -/
theorem onReliablePacketAcknowledgedRunActions_disconnects {networkState : NetworkState Peer}
    {peers : ENetPeers Peer} {p : Peer} {c : ConnectionId} {packet : ENetPacket Peer}
    (bound : BoundPeer networkState peers p c) (h : DisconnectingPacket p c packet) :
    (onReliablePacketAcknowledgedRunActions networkState peers packet).2 =
      [.peerDisconnectLater p] := by
  obtain ⟨context, huser, hpeer, rfl, hdisconnect⟩ := h.context
  have hbound := isPeerStillBoundToConnectionId_iff.mpr bound
  simp [onReliablePacketAcknowledgedRunActions, huser, hpeer, hbound, hdisconnect,
    disconnectLaterIf]

end ServerNetworkOutgoing

end RcnetServer
