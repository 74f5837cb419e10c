/-
  RcnetServer.Properties.Admission

  Which received packets are admitted.

  The decision is spread over the validation of the peer, two guards, the channel
  switch, two type pre-readers and four deserializers.  Put together it is one
  condition on the packet (`Admitted`), and the only other effect is the
  disconnect of a peer that speaks another version (`WrongVersion`).
-/

import RcnetServer.System

namespace RcnetServer

variable {Peer : Type} [DecidableEq Peer]

namespace ServerNetworkIncoming

-- ============================================================================
-- The conditions
-- ============================================================================

/-- `c` is the id in the data of the event's peer, it is not 0, and the table maps
    it to that same peer. -/
def SentBy (event : ENetEvent Peer) (networkState : NetworkState Peer) (peers : ENetPeers Peer)
    (c : ConnectionId) : Prop :=
  ∃ p, event.peer = some p ∧ (peers p).data.toUInt32 = c ∧ c ≠ 0 ∧
    networkState.connectionIdToEnetPeer.lookup c = some (some p)

/-- The packet of `event` passes the guard of its channel, decodes, and makes the
    message. -/
inductive Admitted (event : ENetEvent Peer) (sessions : Sessions) (c : ConnectionId) :
    NetworkINToSimulationMessage → Prop
  | hello {packet : ClientSecureSessionHelloPacketReliable}
      (channel : NetworkChannel.ofByte event.channelID = some .secureSessionReliable)
      (decoded : deserializeClientSecureSessionHelloPacketReliable event.packet = some packet)
      (version : packet.networkProtocolVersion = serverNetworkProtocolVersion) :
      Admitted event sessions c (.clientSecureSessionHelloPacketReliable c packet)
  | auth {packet : ClientAuthPacketReliable}
      (channel : NetworkChannel.ofByte event.channelID = some .authReliable)
      (guarded : isConnectionAllowedForAuthChannel sessions c = true)
      (decoded : deserializeClientAuthPacketReliable event.packet = some packet) :
      Admitted event sessions c (.clientAuthPacketReliable c packet)
  | ready {packet : ClientReadyForMatchPacketReliable}
      (channel : NetworkChannel.ofByte event.channelID = some .gameReliable)
      (guarded : isConnectionAllowedForGameplayChannels sessions c = true)
      (decoded : deserializeClientReadyForMatchPacketReliable event.packet = some packet) :
      Admitted event sessions c (.clientReadyForMatchPacketReliable c)
  | input {packet : ClientInputPacketUnreliable}
      (channel : NetworkChannel.ofByte event.channelID = some .gameUnreliable)
      (guarded : isConnectionAllowedForGameplayChannels sessions c = true)
      (decoded : deserializeClientInputPacketUnreliable event.packet = some packet) :
      Admitted event sessions c (.clientInputPacketUnreliable c packet)

/-- The packet of `event` is a hello of another protocol version. -/
def WrongVersion (event : ENetEvent Peer) : Prop :=
  NetworkChannel.ofByte event.channelID = some .secureSessionReliable ∧
    ∃ packet, deserializeClientSecureSessionHelloPacketReliable event.packet = some packet ∧
      packet.networkProtocolVersion ≠ serverNetworkProtocolVersion

-- ============================================================================
-- Validation and channels
-- ============================================================================

variable {event : ENetEvent Peer} {networkState : NetworkState Peer} {peers : ENetPeers Peer}
  {sessions : Sessions} {c : ConnectionId} {m : NetworkINToSimulationMessage}

/-- The validated id, where it is not 0, is the id the packet was sent by. -/
theorem getValidatedConnectionIdOrZero_eq_iff (hc : c ≠ 0) :
    getValidatedConnectionIdOrZero event networkState peers = c ↔
      SentBy event networkState peers c := by
  constructor
  · intro h
    obtain ⟨p, hp, hdata, htable⟩ := getValidatedConnectionIdOrZero_spec hc h
    exact ⟨p, hp, hdata, hc, htable⟩
  · rintro ⟨p, hp, rfl, _, htable⟩
    have hdata : (peers p).data ≠ 0 := by
      intro hzero
      rw [hzero] at hc
      exact hc rfl
    simp [getValidatedConnectionIdOrZero, hp, hdata, hc, htable]

section Channels

omit [DecidableEq Peer]

/-- The type pre-reader agrees with the deserializer behind it. -/
theorem readClientReliablePacketType_of_ready {packet : ClientReadyForMatchPacketReliable}
    (h : deserializeClientReadyForMatchPacketReliable event.packet = some packet) :
    readClientReliablePacketType event = some (some .clientReadyForMatchPacketReliable) := by
  unfold deserializeClientReadyForMatchPacketReliable at h
  simp only [Option.bind_eq_bind, Option.bind_eq_some_iff] at h
  obtain ⟨⟨rawType, reader⟩, hread, h⟩ := h
  split at h
  · cases h
  · rename_i htype
    simp only [readClientReliablePacketType, hread, Option.map_some]
    rw [not_not.mp htype]

theorem readClientUnreliablePacketType_of_input {packet : ClientInputPacketUnreliable}
    (h : deserializeClientInputPacketUnreliable event.packet = some packet) :
    readClientUnreliablePacketType event = some (some .clientInputPacketUnreliable) := by
  unfold deserializeClientInputPacketUnreliable at h
  simp only [Option.bind_eq_bind, Option.bind_eq_some_iff] at h
  obtain ⟨⟨rawType, reader⟩, hread, h⟩ := h
  split at h
  · cases h
  · rename_i htype
    simp only [readClientUnreliablePacketType, hread, Option.map_some]
    rw [not_not.mp htype]

theorem channelSecureSessionReliable_eq_push_iff :
    channelSecureSessionReliable event c = .push m ↔
      ∃ packet, deserializeClientSecureSessionHelloPacketReliable event.packet = some packet ∧
        packet.networkProtocolVersion = serverNetworkProtocolVersion ∧
        m = .clientSecureSessionHelloPacketReliable c packet := by
  unfold channelSecureSessionReliable
  cases deserializeClientSecureSessionHelloPacketReliable event.packet with
  | none => simp
  | some packet =>
      by_cases hversion : packet.networkProtocolVersion = serverNetworkProtocolVersion
      · simp [hversion, eq_comm]
      · simp [hversion]

theorem channelSecureSessionReliable_eq_disconnect_iff :
    channelSecureSessionReliable event c = .disconnect ↔
      ∃ packet, deserializeClientSecureSessionHelloPacketReliable event.packet = some packet ∧
        packet.networkProtocolVersion ≠ serverNetworkProtocolVersion := by
  unfold channelSecureSessionReliable
  cases deserializeClientSecureSessionHelloPacketReliable event.packet with
  | none => simp
  | some packet =>
      by_cases hversion : packet.networkProtocolVersion = serverNetworkProtocolVersion
      · simp [hversion]
      · simp [hversion]

theorem channelAuthReliable_eq_push_iff :
    channelAuthReliable event c = .push m ↔
      ∃ packet, deserializeClientAuthPacketReliable event.packet = some packet ∧
        m = .clientAuthPacketReliable c packet := by
  unfold channelAuthReliable
  cases deserializeClientAuthPacketReliable event.packet with
  | none => simp
  | some packet => simp [eq_comm]

theorem channelGameReliable_eq_push_iff :
    channelGameReliable event c = .push m ↔
      ∃ packet, deserializeClientReadyForMatchPacketReliable event.packet = some packet ∧
        m = .clientReadyForMatchPacketReliable c := by
  cases hdecoded : deserializeClientReadyForMatchPacketReliable event.packet with
  | none =>
      simp only [channelGameReliable, handlePacketReadyForMatch, hdecoded]
      split <;> simp
  | some packet =>
      simp only [channelGameReliable, handlePacketReadyForMatch, hdecoded,
        readClientReliablePacketType_of_ready hdecoded, if_true, ReceiveOutcome.push.injEq]
      constructor
      · rintro rfl
        exact ⟨packet, trivial, rfl⟩
      · rintro ⟨_, _, rfl⟩
        rfl

theorem channelGameUnreliable_eq_push_iff :
    channelGameUnreliable event c = .push m ↔
      ∃ packet, deserializeClientInputPacketUnreliable event.packet = some packet ∧
        m = .clientInputPacketUnreliable c packet := by
  cases hdecoded : deserializeClientInputPacketUnreliable event.packet with
  | none =>
      simp only [channelGameUnreliable, handlePacketInput, hdecoded]
      split <;> simp
  | some packet =>
      simp [channelGameUnreliable, handlePacketInput, hdecoded,
        readClientUnreliablePacketType_of_input hdecoded, eq_comm]

/-- Only the secure-session channel disconnects. -/
theorem channelAuthReliable_ne_disconnect : channelAuthReliable event c ≠ .disconnect := by
  unfold channelAuthReliable
  split <;> simp

theorem channelGameReliable_ne_disconnect : channelGameReliable event c ≠ .disconnect := by
  unfold channelGameReliable handlePacketReadyForMatch
  repeat' split
  all_goals simp

theorem channelGameUnreliable_ne_disconnect : channelGameUnreliable event c ≠ .disconnect := by
  unfold channelGameUnreliable handlePacketInput
  repeat' split
  all_goals simp

-- ============================================================================
-- The channel switch
-- ============================================================================

/-- A packet is pushed past the guard of its channel, and every packet that passes it is. -/
theorem dispatchByChannel_eq_push_iff :
    dispatchByChannel event sessions c = .push m ↔ Admitted event sessions c m := by
  constructor
  · intro h
    unfold dispatchByChannel at h
    split at h
    · rename_i channel
      obtain ⟨packet, decoded, version, rfl⟩ := channelSecureSessionReliable_eq_push_iff.mp h
      exact .hello channel decoded version
    · rename_i channel
      split at h
      · cases h
      · rename_i guarded
        obtain ⟨packet, decoded, rfl⟩ := channelAuthReliable_eq_push_iff.mp h
        exact .auth channel (by simpa using guarded) decoded
    · rename_i channel
      split at h
      · cases h
      · rename_i guarded
        obtain ⟨packet, decoded, rfl⟩ := channelGameReliable_eq_push_iff.mp h
        exact .ready channel (by simpa using guarded) decoded
    · rename_i channel
      split at h
      · cases h
      · rename_i guarded
        obtain ⟨packet, decoded, rfl⟩ := channelGameUnreliable_eq_push_iff.mp h
        exact .input channel (by simpa using guarded) decoded
    · cases h
  · intro h
    cases h with
    | hello channel decoded version =>
        simp only [dispatchByChannel, channel]
        exact channelSecureSessionReliable_eq_push_iff.mpr ⟨_, decoded, version, rfl⟩
    | auth channel guarded decoded =>
        simp only [dispatchByChannel, channel, guarded, Bool.not_true, Bool.false_eq_true, if_false]
        exact channelAuthReliable_eq_push_iff.mpr ⟨_, decoded, rfl⟩
    | ready channel guarded decoded =>
        simp only [dispatchByChannel, channel, guarded, Bool.not_true, Bool.false_eq_true, if_false]
        exact channelGameReliable_eq_push_iff.mpr ⟨_, decoded, rfl⟩
    | input channel guarded decoded =>
        simp only [dispatchByChannel, channel, guarded, Bool.not_true, Bool.false_eq_true, if_false]
        exact channelGameUnreliable_eq_push_iff.mpr ⟨_, decoded, rfl⟩

theorem dispatchByChannel_eq_disconnect_iff :
    dispatchByChannel event sessions c = .disconnect ↔ WrongVersion event := by
  unfold dispatchByChannel WrongVersion
  split
  · rename_i channel
    rw [channelSecureSessionReliable_eq_disconnect_iff]
    simp [channel]
  · rename_i channel
    split <;> simp [channel, channelAuthReliable_ne_disconnect]
  · rename_i channel
    split <;> simp [channel, channelGameReliable_ne_disconnect]
  · rename_i channel
    split <;> simp [channel, channelGameUnreliable_ne_disconnect]
  · rename_i channel
    simp [channel]

end Channels

-- ============================================================================
-- The event
-- ============================================================================

/-- What a received packet leads to, given who sent it. -/
theorem eventHandleReceive_of_sentBy (h : SentBy event networkState peers c) :
    eventHandleReceive event networkState peers =
      dispatchByChannel event networkState.sessions c := by
  obtain ⟨_, _, _, hc, _⟩ := id h
  have hid := (getValidatedConnectionIdOrZero_eq_iff hc).mpr h
  simp [eventHandleReceive, hid, hc]

theorem eventHandleReceive_of_not_sentBy (h : ¬ ∃ c, SentBy event networkState peers c) :
    eventHandleReceive event networkState peers = .drop := by
  have hid : getValidatedConnectionIdOrZero event networkState peers = 0 := by
    by_contra hne
    exact h ⟨_, (getValidatedConnectionIdOrZero_eq_iff hne).mp rfl⟩
  simp [eventHandleReceive, hid]

omit [DecidableEq Peer] in
/-- A packet has one sender. -/
theorem SentBy.unique {c' : ConnectionId} (h : SentBy event networkState peers c)
    (h' : SentBy event networkState peers c') : c = c' := by
  obtain ⟨p, hp, rfl, _⟩ := h
  obtain ⟨q, hq, rfl, _⟩ := h'
  rw [hp] at hq
  cases hq
  rfl

theorem eventHandleReceive_eq_push_iff :
    eventHandleReceive event networkState peers = .push m ↔
      ∃ c, SentBy event networkState peers c ∧ Admitted event networkState.sessions c m := by
  by_cases hsent : ∃ c, SentBy event networkState peers c
  · obtain ⟨c, hc⟩ := hsent
    rw [eventHandleReceive_of_sentBy hc, dispatchByChannel_eq_push_iff]
    constructor
    · exact fun h => ⟨c, hc, h⟩
    · rintro ⟨c', hc', h⟩
      rwa [hc.unique hc']
  · rw [eventHandleReceive_of_not_sentBy hsent]
    constructor
    · intro h
      cases h
    · rintro ⟨c, hc, _⟩
      exact absurd ⟨c, hc⟩ hsent

theorem eventHandleReceive_eq_disconnect_iff :
    eventHandleReceive event networkState peers = .disconnect ↔
      (∃ c, SentBy event networkState peers c) ∧ WrongVersion event := by
  by_cases hsent : ∃ c, SentBy event networkState peers c
  · obtain ⟨c, hc⟩ := hsent
    rw [eventHandleReceive_of_sentBy hc, dispatchByChannel_eq_disconnect_iff]
    exact (and_iff_right ⟨c, hc⟩).symm
  · rw [eventHandleReceive_of_not_sentBy hsent]
    simp [hsent]

end ServerNetworkIncoming

-- ============================================================================
-- Admission
-- ============================================================================

open ServerNetworkIncoming in
/-- A received packet is pushed exactly if its peer carries an id bound to it and the
    packet passes the guard and the deserializer of its channel; its peer is
    disconnected exactly on a hello of another version.  In the running server
    nothing else comes of it: the network state, the slots and the queue are as
    before, and the thread is about to push that message or none. -/
theorem received_packets_admitted_exactly (event : ENetEvent Peer)
    (networkState : NetworkState Peer) (peers : ENetPeers Peer) :
    (∀ m, eventHandleReceive event networkState peers = .push m ↔
      ∃ c, SentBy event networkState peers c ∧ Admitted event networkState.sessions c m) ∧
    (eventHandleReceive event networkState peers = .disconnect ↔
      (∃ c, SentBy event networkState peers c) ∧ WrongVersion event) ∧
    (∀ s s' : System Peer, ∀ es, s.networkState = networkState → s.peers = peers →
      event.type = .receive → s.enetEvent event = some (s', es) →
      s'.networkState = networkState ∧ s'.peers = peers ∧ s'.netToSim = s.netToSim ∧
      (∀ m, s'.network = .pushing m ↔
        ∃ c, SentBy event networkState peers c ∧ Admitted event networkState.sessions c m) ∧
      (∀ peer, Event.peerDisconnected peer ∈ es ↔
        peer = event.peer ∧ (∃ c, SentBy event networkState peers c) ∧ WrongVersion event)) := by
  refine ⟨fun _ => eventHandleReceive_eq_push_iff, eventHandleReceive_eq_disconnect_iff, ?_⟩
  rintro s s' es rfl rfl htype hs
  simp only [← eventHandleReceive_eq_push_iff, ← eventHandleReceive_eq_disconnect_iff]
  unfold System.enetEvent at hs
  split at hs
  · rename_i hidle
    split at hs
    · cases hs
    · simp only [htype] at hs
      split at hs
      · rename_i houtcome
        cases hs
        simp [hidle, houtcome]
      · rename_i houtcome
        cases hs
        simp [hidle, houtcome]
      · rename_i m houtcome
        cases hs
        simp [houtcome]
  · cases hs

end RcnetServer
