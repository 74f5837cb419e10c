/-
  RcnetServer.Network.Host

  The part of ENet the server touches: peer slots with their `data` pointer,
  events, packets with the post-ACK context, and the calls the server makes.

  ENet is not part of the sources.  A peer slot alternates CONNECT and
  DISCONNECT events; `connected` records which came last.  The outcome of a call
  (whether a packet or a context could be allocated, what `enet_peer_send`
  returned) is an input of the model.
-/

import RcnetServer.State

namespace RcnetServer

variable {Peer : Type}

/-- `ENetPeer`: the user pointer `data` as a `uintptr_t` (0 is `nullptr`), and
    whether ENet has announced a connection on the slot and no disconnection since. -/
structure ENetPeer where
  data : UInt64 := 0
  connected : Bool := false

/-- The peer slots of the host. -/
abbrev ENetPeers (Peer : Type) := Peer → ENetPeer

/-- Write a slot's fields. -/
def ENetPeers.set [DecidableEq Peer] (peers : ENetPeers Peer) (peer : Peer) (e : ENetPeer) :
    ENetPeers Peer :=
  fun p => if p = peer then e else peers p

@[simp] theorem ENetPeers.set_self [DecidableEq Peer] (peers : ENetPeers Peer) (peer : Peer)
    (e : ENetPeer) : peers.set peer e peer = e := by
  simp [ENetPeers.set]

theorem ENetPeers.set_of_ne [DecidableEq Peer] (peers : ENetPeers Peer) {p peer : Peer}
    (e : ENetPeer) (h : p ≠ peer) : peers.set peer e p = peers p := by
  simp [ENetPeers.set, h]

theorem ENetPeers.set_set [DecidableEq Peer] (peers : ENetPeers Peer) (p : Peer)
    (e e' : ENetPeer) : (peers.set p e).set p e' = peers.set p e' := by
  funext q
  by_cases hq : q = p <;> simp [ENetPeers.set, hq]

/-- `ENetEventType`. -/
inductive ENetEventType
  | connect
  | disconnect
  | disconnectTimeout
  | receive
deriving DecidableEq

/-- `ENetEvent`; `packet` is the payload of a receive event. -/
structure ENetEvent (Peer : Type) where
  type : ENetEventType
  peer : Option Peer
  channelID : UInt8 := 0
  packet : List UInt8 := []

/-- `ServerNetworkOutgoingReliableAckActionContext`. -/
structure ReliableAckActionContext (Peer : Type) where
  peer : Option Peer := none
  connectionId : ConnectionId := 0
  disconnectAfterAck : Bool := false
  enableEncryptionAfterAck : Bool := false

/-- `ENET_PACKET_FLAG_RELIABLE`. -/
def enetPacketFlagReliable : UInt32 := 1

/-- `ENetPacket`; the two flags say whether the server has registered its ACK and free
    callbacks on the packet. -/
structure ENetPacket (Peer : Type) where
  data : List UInt8
  flags : UInt32
  userData : Option (ReliableAckActionContext Peer) := none
  acknowledgeCallback : Bool := false
  freeCallback : Bool := false

/-- The ENet calls, and the context allocations, the server makes while sending. -/
inductive ENetCall (Peer : Type)
  /-- `enet_packet_create` returned a packet. -/
  | packetCreate
  /-- `new (std::nothrow)` returned a context. -/
  | newContext
  /-- `enet_peer_send` accepted the packet. -/
  | peerSend (peer : Peer) (channel : NetworkChannel) (packet : ENetPacket Peer)
  /-- `enet_packet_destroy`, which calls the free callback of the packet. -/
  | packetDestroy (packet : ENetPacket Peer)
  /-- `enet_peer_disconnect`. -/
  | peerDisconnect (peer : Peer)
  /-- `enet_peer_disconnect_later`. -/
  | peerDisconnectLater (peer : Peer)

/-- What ENet and the allocator answer during one `ServerNetworkOutgoing_SendPacket`. -/
structure SendOutcome where
  packetCreated : Bool := true
  contextAllocated : Bool := true
  sendResult : Int := 0

/-- The cast of a connection id into `peer->data`. -/
def dataOfConnectionId (c : ConnectionId) : UInt64 := c.toUInt64

/-- `ServerNetworkOutgoing_TryGetConnectionIdFromPeer`, of which the encryption
    module has its own identical copy. -/
def tryGetConnectionIdFromPeer (peers : ENetPeers Peer) (peer : Option Peer) :
    Option ConnectionId :=
  match peer with
  | none => none
  | some p =>
      if (peers p).data = 0 then none
      else
        let connectionId : ConnectionId := (peers p).data.toUInt32
        if connectionId = 0 then none else some connectionId

theorem dataOfConnectionId_toUInt32 (c : ConnectionId) : (dataOfConnectionId c).toUInt32 = c := by
  simp [dataOfConnectionId]

theorem dataOfConnectionId_inj {c c' : ConnectionId}
    (h : dataOfConnectionId c = dataOfConnectionId c') : c = c' := by
  rw [← dataOfConnectionId_toUInt32 c, h, dataOfConnectionId_toUInt32]

theorem dataOfConnectionId_eq_zero {c : ConnectionId} : dataOfConnectionId c = 0 ↔ c = 0 := by
  constructor
  · intro h
    rw [← dataOfConnectionId_toUInt32 c, h]
    rfl
  · rintro rfl
    rfl

/-- A slot that carries a non-zero id yields it. -/
theorem tryGetConnectionIdFromPeer_of_data {peers : ENetPeers Peer} {p : Peer} {c : ConnectionId}
    (h : (peers p).data = dataOfConnectionId c) (hc : c ≠ 0) :
    tryGetConnectionIdFromPeer peers (some p) = some c := by
  have hd : dataOfConnectionId c ≠ 0 := mt dataOfConnectionId_eq_zero.mp hc
  simp [tryGetConnectionIdFromPeer, h, hd, dataOfConnectionId_toUInt32, hc]

end RcnetServer
