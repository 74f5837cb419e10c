/-
  RcnetServer.Network.Incoming

  The network thread on ENet events (network/transport/incoming).

  CONNECT and DISCONNECT update the connection tables and push one message for
  the simulation.  A received packet is validated, guarded by channel, decoded,
  and ends in exactly one of three ways (`ReceiveOutcome`): it is dropped, one
  message is pushed, or the peer is disconnected.
-/

import RcnetServer.Network.Host
import RcnetServer.Network.PacketCodec

namespace RcnetServer

variable {Peer : Type} [DecidableEq Peer]

-- ============================================================================
-- Connect and disconnect events
-- ============================================================================

/-- `ServerNetworkIncoming_Event_HandleConnect`: the tables, the slots and the
    message pushed. -/
def ServerNetworkIncoming.eventHandleConnect (event : ENetEvent Peer)
    (networkState : NetworkState Peer) (peers : ENetPeers Peer) :
    NetworkState Peer × ENetPeers Peer × Option NetworkINToSimulationMessage :=
  match event.peer with
  | none => (networkState, peers, none)
  | some peer =>
      let connectionId : ConnectionId := networkState.nextConnectionId
      let networkState :=
        { networkState with
          nextConnectionId := networkState.nextConnectionId + 1
          connectionIdToEnetPeer :=
            networkState.connectionIdToEnetPeer.insert connectionId (some peer)
          connectionIdToEncryptionEnabled :=
            networkState.connectionIdToEncryptionEnabled.insert connectionId false }
      let peers :=
        peers.set peer { peers peer with data := dataOfConnectionId connectionId }
      (networkState, peers, some (.clientEventConnect connectionId))

/-- `ServerNetworkIncoming_Event_HandleDisconnect`. -/
def ServerNetworkIncoming.eventHandleDisconnect (event : ENetEvent Peer)
    (networkState : NetworkState Peer) (peers : ENetPeers Peer) :
    NetworkState Peer × ENetPeers Peer × Option NetworkINToSimulationMessage :=
  match event.peer with
  | none => (networkState, peers, none)
  | some peer =>
      if (peers peer).data = 0 then (networkState, peers, none)
      else
        let connectionId : ConnectionId := (peers peer).data.toUInt32
        let networkState :=
          { networkState with
            connectionIdToEnetPeer := networkState.connectionIdToEnetPeer.erase connectionId
            connectionIdToEncryptionEnabled :=
              networkState.connectionIdToEncryptionEnabled.erase connectionId }
        let peers := peers.set peer { peers peer with data := 0 }
        (networkState, peers, some (.clientEventDisconnect connectionId))

-- ============================================================================
-- Validation and channel guards
-- ============================================================================

/-- `ServerNetworkIncoming_GetValidatedConnectionIdOrZero`. -/
def ServerNetworkIncoming.getValidatedConnectionIdOrZero (event : ENetEvent Peer)
    (networkState : NetworkState Peer) (peers : ENetPeers Peer) : ConnectionId :=
  match event.peer with
  | none => 0
  | some peer =>
      if (peers peer).data = 0 then 0
      else
        let connectionId : ConnectionId := (peers peer).data.toUInt32
        if connectionId = 0 then 0
        else
          match networkState.connectionIdToEnetPeer.lookup connectionId with
          | none => 0
          | some tablePeer => if tablePeer ≠ some peer then 0 else connectionId

/-- `ServerNetworkIncoming_IsConnectionAllowedForAuthChannel`.  The flags are the
    ones `ServerNetworkIncoming_GetSessionFlags` copies under the mutex. -/
def ServerNetworkIncoming.isConnectionAllowedForAuthChannel (sessions : Sessions)
    (connectionId : ConnectionId) : Bool :=
  match sessions.lookup connectionId with
  | none => false
  | some session =>
      session.isTransportConnected && session.isSecureSessionEstablished &&
        session.isPacketEncryptionEnabled && session.authStatus ≠ .invalid

/-- `ServerNetworkIncoming_IsConnectionAllowedForGameplayChannels`. -/
def ServerNetworkIncoming.isConnectionAllowedForGameplayChannels (sessions : Sessions)
    (connectionId : ConnectionId) : Bool :=
  match sessions.lookup connectionId with
  | none => false
  | some session =>
      session.isTransportConnected && session.isSecureSessionEstablished &&
        session.isPacketEncryptionEnabled && session.authStatus = .valid

-- ============================================================================
-- Channels
-- ============================================================================

/-- How the handling of a received packet ends. -/
inductive ReceiveOutcome
  | drop
  | push (message : NetworkINToSimulationMessage)
  | disconnect
deriving DecidableEq

/-- `ServerNetworkIncoming_Channel_SecureSessionReliable`. -/
def ServerNetworkIncoming.channelSecureSessionReliable (event : ENetEvent Peer)
    (connectionId : ConnectionId) : ReceiveOutcome :=
  match deserializeClientSecureSessionHelloPacketReliable event.packet with
  | none => .drop
  | some packet =>
      if packet.networkProtocolVersion ≠ serverNetworkProtocolVersion then .disconnect
      else .push (.clientSecureSessionHelloPacketReliable connectionId packet)

/-- `ServerNetworkIncoming_Channel_AuthReliable`. -/
def ServerNetworkIncoming.channelAuthReliable (event : ENetEvent Peer)
    (connectionId : ConnectionId) : ReceiveOutcome :=
  match deserializeClientAuthPacketReliable event.packet with
  | none => .drop
  | some packet => .push (.clientAuthPacketReliable connectionId packet)

/-- `ServerNetworkIncoming_ReadClientReliablePacketType`: a byte that is no
    enumerator reaches the `default` case of its caller. -/
def ServerNetworkIncoming.readClientReliablePacketType (event : ENetEvent Peer) :
    Option (Option ClientReliablePacketType) :=
  (ByteReader.ofBytes event.packet).readU8.map fun r => ClientReliablePacketType.ofByte r.1

/-- `ServerNetworkIncoming_ReadClientUnreliablePacketType`. -/
def ServerNetworkIncoming.readClientUnreliablePacketType (event : ENetEvent Peer) :
    Option (Option ClientUnreliablePacketType) :=
  (ByteReader.ofBytes event.packet).readU8.map fun r => ClientUnreliablePacketType.ofByte r.1

/-- `ServerNetworkIncoming_HandlePacket_ReadyForMatch`. -/
def ServerNetworkIncoming.handlePacketReadyForMatch (event : ENetEvent Peer)
    (connectionId : ConnectionId) : ReceiveOutcome :=
  match deserializeClientReadyForMatchPacketReliable event.packet with
  | none => .drop
  | some _ => .push (.clientReadyForMatchPacketReliable connectionId)

/-- `ServerNetworkIncoming_HandlePacket_Input`. -/
def ServerNetworkIncoming.handlePacketInput (event : ENetEvent Peer)
    (connectionId : ConnectionId) : ReceiveOutcome :=
  match deserializeClientInputPacketUnreliable event.packet with
  | none => .drop
  | some packet => .push (.clientInputPacketUnreliable connectionId packet)

/-- `ServerNetworkIncoming_Channel_GameReliable`. -/
def ServerNetworkIncoming.channelGameReliable (event : ENetEvent Peer)
    (connectionId : ConnectionId) : ReceiveOutcome :=
  match ServerNetworkIncoming.readClientReliablePacketType event with
  | none => .drop
  | some packetType =>
      if packetType = some .clientReadyForMatchPacketReliable then
        ServerNetworkIncoming.handlePacketReadyForMatch event connectionId
      else .drop

/-- `ServerNetworkIncoming_Channel_GameUnreliable`. -/
def ServerNetworkIncoming.channelGameUnreliable (event : ENetEvent Peer)
    (connectionId : ConnectionId) : ReceiveOutcome :=
  match ServerNetworkIncoming.readClientUnreliablePacketType event with
  | none => .drop
  | some packetType =>
      if packetType = some .clientInputPacketUnreliable then
        ServerNetworkIncoming.handlePacketInput event connectionId
      else .drop

/-- `ServerNetworkIncoming_DispatchByChannel`. -/
def ServerNetworkIncoming.dispatchByChannel (event : ENetEvent Peer) (sessions : Sessions)
    (connectionId : ConnectionId) : ReceiveOutcome :=
  match NetworkChannel.ofByte event.channelID with
  | some .secureSessionReliable =>
      -- no guard in front of the secure-session channel
      ServerNetworkIncoming.channelSecureSessionReliable event connectionId
  | some .authReliable =>
      if !ServerNetworkIncoming.isConnectionAllowedForAuthChannel sessions connectionId then .drop
      else ServerNetworkIncoming.channelAuthReliable event connectionId
  | some .gameReliable =>
      if !ServerNetworkIncoming.isConnectionAllowedForGameplayChannels sessions connectionId then
        .drop
      else ServerNetworkIncoming.channelGameReliable event connectionId
  | some .gameUnreliable =>
      if !ServerNetworkIncoming.isConnectionAllowedForGameplayChannels sessions connectionId then
        .drop
      else ServerNetworkIncoming.channelGameUnreliable event connectionId
  | none => .drop

/-- `ServerNetworkIncoming_Event_HandleReceive`. -/
def ServerNetworkIncoming.eventHandleReceive (event : ENetEvent Peer)
    (networkState : NetworkState Peer) (peers : ENetPeers Peer) : ReceiveOutcome :=
  let connectionId :=
    ServerNetworkIncoming.getValidatedConnectionIdOrZero event networkState peers
  if connectionId = 0 then .drop
  else ServerNetworkIncoming.dispatchByChannel event networkState.sessions connectionId

-- ============================================================================
-- What an admitted packet says about the receiver
-- ============================================================================

namespace ServerNetworkIncoming

variable {event : ENetEvent Peer} {networkState : NetworkState Peer} {peers : ENetPeers Peer}

/-- A validated id is carried by the event's peer and bound to it in the table. -/
theorem getValidatedConnectionIdOrZero_spec {c : ConnectionId} (hc : c ≠ 0)
    (h : getValidatedConnectionIdOrZero event networkState peers = c) :
    ∃ p, event.peer = some p ∧ (peers p).data.toUInt32 = c ∧
      networkState.connectionIdToEnetPeer.lookup c = some (some p) := by
  unfold getValidatedConnectionIdOrZero at h
  cases hp : event.peer with
  | none => exact absurd (by simpa [hp] using h.symm) hc
  | some p =>
      simp only [hp] at h
      split at h
      · exact absurd h.symm hc
      · split at h
        · exact absurd h.symm hc
        · split at h
          · exact absurd h.symm hc
          · rename_i tablePeer htable
            split at h
            · exact absurd h.symm hc
            · rename_i hpeer
              subst h
              refine ⟨p, rfl, rfl, ?_⟩
              rw [htable, not_not.mp hpeer]

/-- The check in front of the channel a message came through. -/
def Guarded (sessions : Sessions) : NetworkINToSimulationMessage → Prop
  | .clientEventConnect _ => False
  | .clientEventDisconnect _ => False
  | .clientSecureSessionHelloPacketReliable _ packet =>
      packet.networkProtocolVersion = serverNetworkProtocolVersion
  | .clientAuthPacketReliable c _ => isConnectionAllowedForAuthChannel sessions c = true
  | .clientInputPacketUnreliable c _ => isConnectionAllowedForGameplayChannels sessions c = true
  | .clientReadyForMatchPacketReliable c =>
      isConnectionAllowedForGameplayChannels sessions c = true

omit [DecidableEq Peer] in
/-- A channel pushes only for the connection it was given, past its guard. -/
theorem dispatchByChannel_push {sessions : Sessions} {c : ConnectionId}
    {m : NetworkINToSimulationMessage} (h : dispatchByChannel event sessions c = .push m) :
    m.connectionId = c ∧ Guarded sessions m := by
  unfold dispatchByChannel at h
  split at h
  · unfold channelSecureSessionReliable at h
    split at h
    · cases h
    · split at h
      · cases h
      · rename_i hversion
        cases h
        exact ⟨rfl, not_not.mp hversion⟩
  · split at h
    · cases h
    · rename_i hallowed
      unfold channelAuthReliable at h
      split at h
      · cases h
      · cases h
        exact ⟨rfl, by simpa [Guarded] using hallowed⟩
  · split at h
    · cases h
    · rename_i hallowed
      unfold channelGameReliable at h
      split at h
      · cases h
      · split at h
        · unfold handlePacketReadyForMatch at h
          split at h
          · cases h
          · cases h
            exact ⟨rfl, by simpa [Guarded] using hallowed⟩
        · cases h
  · split at h
    · cases h
    · rename_i hallowed
      unfold channelGameUnreliable at h
      split at h
      · cases h
      · split at h
        · unfold handlePacketInput at h
          split at h
          · cases h
          · cases h
            exact ⟨rfl, by simpa [Guarded] using hallowed⟩
        · cases h
  · cases h

/-- A received packet that is pushed came from the peer bound to its connection
    and past the guard of its channel. -/
theorem eventHandleReceive_push {m : NetworkINToSimulationMessage}
    (h : eventHandleReceive event networkState peers = .push m) :
    m.connectionId ≠ 0 ∧
    (∃ p, event.peer = some p ∧ (peers p).data.toUInt32 = m.connectionId ∧
      networkState.connectionIdToEnetPeer.lookup m.connectionId = some (some p)) ∧
    Guarded networkState.sessions m := by
  simp only [eventHandleReceive] at h
  by_cases hid : getValidatedConnectionIdOrZero event networkState peers = 0
  · simp [hid] at h
  · rw [if_neg hid] at h
    obtain ⟨hm, hguard⟩ := dispatchByChannel_push h
    rw [hm]
    exact ⟨hid, getValidatedConnectionIdOrZero_spec hid rfl, hguard⟩

/-- What the auth guard asks of the session. -/
theorem isConnectionAllowedForAuthChannel_iff {sessions : Sessions} {c : ConnectionId} :
    isConnectionAllowedForAuthChannel sessions c = true ↔
      ∃ session, sessions.lookup c = some session ∧ session.isTransportConnected = true ∧
        session.isSecureSessionEstablished = true ∧ session.isPacketEncryptionEnabled = true ∧
        session.authStatus ≠ .invalid := by
  unfold isConnectionAllowedForAuthChannel
  cases h : sessions.lookup c with
  | none => simp
  | some session => simp [and_assoc]

/-- What the gameplay guard asks of the session. -/
theorem isConnectionAllowedForGameplayChannels_iff {sessions : Sessions} {c : ConnectionId} :
    isConnectionAllowedForGameplayChannels sessions c = true ↔
      ∃ session, sessions.lookup c = some session ∧ session.isTransportConnected = true ∧
        session.isSecureSessionEstablished = true ∧ session.isPacketEncryptionEnabled = true ∧
        session.authStatus = .valid := by
  unfold isConnectionAllowedForGameplayChannels
  cases h : sessions.lookup c with
  | none => simp
  | some session => simp [and_assoc]

end ServerNetworkIncoming

end RcnetServer
