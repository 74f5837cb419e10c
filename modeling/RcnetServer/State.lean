/-
  RcnetServer.State

  The shared state of the server: client sessions (simulation/session/client.h),
  `NetworkState` (network/state.h), `GameState` (game/state.h), the configuration
  and the messages carried by the inter-thread queues (core/threading/queues).

  A peer slot of the ENet host is a value of `Peer`; an `ENetPeer*` is an
  `Option Peer` with `none` for `nullptr`.
-/

import RcnetServer.Crypto
import RcnetServer.Lib.UnorderedMap

namespace RcnetServer

/-- The local id of a connection (`uint32_t connectionId`). -/
abbrev ConnectionId := UInt32

/-- `AuthStatus`. -/
inductive AuthStatus
  | none
  | waitingAuth
  | valid
  | invalid
deriving DecidableEq

/-- `ServerConfig`, as far as the modelled code reads it. -/
structure ServerConfig where
  maxClientsConnected : Nat := 4000

-- ============================================================================
-- Sessions and network state
-- ============================================================================

/-- `ClientSession`, with the defaults of a fresh session. -/
structure ClientSession where
  clientPublicKey : KxPublicKey := Vector.replicate 32 0
  serverRxKey : SessionKey := Vector.replicate 32 0
  serverTxKey : SessionKey := Vector.replicate 32 0
  authStatus : AuthStatus := .none
  authErrorMessage : String := ""
  isTransportConnected : Bool := false
  isSecureSessionEstablished : Bool := false
  isPacketEncryptionEnabled : Bool := false
  isReadyForMatch : Bool := false
  accountIdDatabase : UInt64 := 0
  accountUsernameDatabase : String := ""
  connectionId : ConnectionId := 0
  latestReceivedInputPacket : ClientInputPacketUnreliable := {}
  serverLastProcessedInputSequenceNumber : UInt32 := 0
  pendingInputPacketsQueue : List ClientInputPacketUnreliable := []
  serverNextSnapshotId : UInt32 := 1
  serverLastSentSnapshotId : UInt32 := 0
  clientLastAckedSnapshotId : UInt32 := 0
deriving DecidableEq

/-- The session table, `sessions`. -/
abbrev Sessions := UnorderedMap ConnectionId ClientSession

/-- `NetworkState`. -/
structure NetworkState (Peer : Type) where
  nextConnectionId : UInt32 := 1
  connectionIdToEnetPeer : UnorderedMap ConnectionId (Option Peer) := ∅
  connectionIdToEncryptionEnabled : UnorderedMap ConnectionId Bool := ∅
  sessions : Sessions := ∅
  cryptoKxState : ServerCryptoKxState
  cryptoSigningState : ServerCryptoSigningState

/-- A handler writing back the session it found under key `c`. -/
def NetworkState.setSession {Peer : Type} (networkState : NetworkState Peer) (c : ConnectionId)
    (session : ClientSession) : NetworkState Peer :=
  { networkState with sessions := networkState.sessions.replace c session }

/-- `GameState`, as far as the modelled code reads it. -/
structure GameState where
  matchInitSent : Bool := false
  worldStaticStateInitSent : Bool := false
  matchStartSent : Bool := false
  matchStarted : Bool := false
  matchStartTick : UInt64 := 0
deriving DecidableEq

-- ============================================================================
-- Queue messages
-- ============================================================================

/-- `NetworkINToSimulationMessage`: the type tag with the packet that goes with
    it. -/
inductive NetworkINToSimulationMessage
  | clientEventConnect (connectionId : ConnectionId)
  | clientEventDisconnect (connectionId : ConnectionId)
  | clientSecureSessionHelloPacketReliable (connectionId : ConnectionId)
      (packet : ClientSecureSessionHelloPacketReliable)
  | clientAuthPacketReliable (connectionId : ConnectionId) (packet : ClientAuthPacketReliable)
  | clientInputPacketUnreliable (connectionId : ConnectionId)
      (packet : ClientInputPacketUnreliable)
  | clientReadyForMatchPacketReliable (connectionId : ConnectionId)
deriving DecidableEq

/-- `message.connectionId`. -/
def NetworkINToSimulationMessage.connectionId : NetworkINToSimulationMessage → ConnectionId
  | clientEventConnect c => c
  | clientEventDisconnect c => c
  | clientSecureSessionHelloPacketReliable c _ => c
  | clientAuthPacketReliable c _ => c
  | clientInputPacketUnreliable c _ => c
  | clientReadyForMatchPacketReliable c => c

/-- `SimulationToNetworkOUTMessageType`. -/
inductive SimulationToNetworkOUTMessageType
  | serverSecureSessionHelloResponsePacketReliable
  | serverAuthResponsePacketReliable
  | serverMatchInitPacketReliable
  | serverSnapshotFullPacketUnreliable
  | serverWorldStaticStateInitPacketReliable
  | serverMatchStartPacketReliable
  | serverClockSyncPacketUnreliable
deriving DecidableEq

/-- `SimulationToNetworkOUTMessage`.  `serial` is not a field of the source: it
    numbers the messages in the order the simulation thread produces them, so
    that statements can tell equal messages apart.  No function reads it. -/
structure SimulationToNetworkOUTMessage where
  type : SimulationToNetworkOUTMessageType
  connectionId : ConnectionId := 0
  disconnectAfterAck : Bool := false
  enableEncryptionAfterAck : Bool := false
  serializedPacket : List UInt8 := []
  serial : Nat := 0
deriving DecidableEq

/-- `SimulationToHttpMessage` (its only type is `AUTH_VALIDATE_TOKEN_REQUEST`). -/
structure SimulationToHttpMessage where
  connectionId : ConnectionId
  authToken : List UInt8
deriving DecidableEq

/-- `AuthTokenVerificationHTTPResponse`. -/
structure AuthTokenVerificationHTTPResponse where
  isValid : Bool := false
  errorMessage : String := ""
  accountIdDatabase : UInt64 := 0
  accountUsernameDatabase : String := ""
deriving DecidableEq

/-- `HttpToSimulationMessage` (its only type is `AUTH_VALIDATE_TOKEN_RESPONSE`). -/
structure HttpToSimulationMessage where
  connectionId : ConnectionId
  authTokenVerificationResponse : AuthTokenVerificationHTTPResponse
deriving DecidableEq

-- ============================================================================
-- Session table lookups
-- ============================================================================

section SetSession

variable {Peer : Type} (networkState : NetworkState Peer) (c : ConnectionId)
  (session : ClientSession)

@[simp] theorem NetworkState.setSession_nextConnectionId :
    (networkState.setSession c session).nextConnectionId = networkState.nextConnectionId := rfl

@[simp] theorem NetworkState.setSession_connectionIdToEnetPeer :
    (networkState.setSession c session).connectionIdToEnetPeer =
      networkState.connectionIdToEnetPeer := rfl

@[simp] theorem NetworkState.setSession_connectionIdToEncryptionEnabled :
    (networkState.setSession c session).connectionIdToEncryptionEnabled =
      networkState.connectionIdToEncryptionEnabled := rfl

@[simp] theorem NetworkState.setSession_cryptoKxState :
    (networkState.setSession c session).cryptoKxState = networkState.cryptoKxState := rfl

@[simp] theorem NetworkState.setSession_cryptoSigningState :
    (networkState.setSession c session).cryptoSigningState = networkState.cryptoSigningState :=
  rfl

@[simp] theorem NetworkState.setSession_keys :
    (networkState.setSession c session).sessions.keys = networkState.sessions.keys :=
  @AList.keys_replace _ (fun _ => ClientSession) _ c session networkState.sessions

end SetSession

/-- Writing back a found session: the other sessions keep theirs. -/
theorem NetworkState.lookup_setSession {Peer : Type} {networkState : NetworkState Peer}
    {c : ConnectionId} {s₀ : ClientSession} (session : ClientSession)
    (h : networkState.sessions.lookup c = some s₀) (c' : ConnectionId) :
    (networkState.setSession c session).sessions.lookup c' =
      if c' = c then some session else networkState.sessions.lookup c' := by
  rw [NetworkState.setSession, UnorderedMap.lookup_replace, h]
  rfl

end RcnetServer
