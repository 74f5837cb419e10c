/-
  RcnetServer.Network.Packets

  The packets of the wire protocol (network/packets/{client,server}), the
  channels they travel on and the protocol constants.

  `std::array<uint8_t, n>` is `Vector UInt8 n`, `std::string` on the wire is its
  byte list.  Packet type enumerations are `uint8_t` in the source: `toByte` is
  the cast that writes one, `ofByte` the cast that reads one, with `none` for a
  byte that is no enumerator.
-/

import Mathlib.Init

namespace RcnetServer

/-! ## Sizes and protocol constants -/

/-- `std::array<uint8_t, crypto_kx_PUBLICKEYBYTES>`. -/
abbrev KxPublicKey := Vector UInt8 32

/-- `std::array<uint8_t, crypto_kx_SESSIONKEYBYTES>`. -/
abbrev SessionKey := Vector UInt8 32

/-- `std::array<uint8_t, SERVER_SECURE_SESSION_CLIENT_NONCE_BYTES>`. -/
abbrev ClientNonce := Vector UInt8 16

/-- `std::array<uint8_t, crypto_sign_BYTES>`. -/
abbrev Signature := Vector UInt8 64

def serverNetworkProtocolVersionMajor : UInt16 := 1
def serverNetworkProtocolVersionMinor : UInt16 := 2
def serverNetworkProtocolVersionPatch : UInt16 := 5

/-- `SERVER_NETWORK_PROTOCOL_VERSION`. -/
def serverNetworkProtocolVersion : UInt32 :=
  (serverNetworkProtocolVersionMajor.toUInt32 <<< 16) |||
  (serverNetworkProtocolVersionMinor.toUInt32 <<< 8) |||
  serverNetworkProtocolVersionPatch.toUInt32

/-- `SERVER_SECURE_SESSION_SIGNATURE_TTL_SECONDS`. -/
def serverSecureSessionSignatureTtlSeconds : UInt64 := 10

/-- `NetworkChannel`. -/
inductive NetworkChannel
  | secureSessionReliable
  | authReliable
  | gameReliable
  | gameUnreliable
deriving DecidableEq

/-- `static_cast<NetworkChannel>(channelID)`; `none` takes the `default` case. -/
def NetworkChannel.ofByte (b : UInt8) : Option NetworkChannel :=
  if b = 0 then some .secureSessionReliable
  else if b = 1 then some .authReliable
  else if b = 2 then some .gameReliable
  else if b = 3 then some .gameUnreliable
  else none

/-! ## Client packets -/

/-- `ClientReliablePacketType`. -/
inductive ClientReliablePacketType
  | clientSecureSessionHelloPacketReliable
  | clientAuthPacketReliable
  | clientReadyForMatchPacketReliable
deriving DecidableEq

def ClientReliablePacketType.ofByte (b : UInt8) : Option ClientReliablePacketType :=
  if b = 0 then some .clientSecureSessionHelloPacketReliable
  else if b = 1 then some .clientAuthPacketReliable
  else if b = 2 then some .clientReadyForMatchPacketReliable
  else none

def ClientReliablePacketType.toByte : ClientReliablePacketType → UInt8
  | .clientSecureSessionHelloPacketReliable => 0
  | .clientAuthPacketReliable => 1
  | .clientReadyForMatchPacketReliable => 2

/-- `ClientUnreliablePacketType`. -/
inductive ClientUnreliablePacketType
  | clientInputPacketUnreliable
  | clientClockSyncPacketUnreliable
deriving DecidableEq

def ClientUnreliablePacketType.ofByte (b : UInt8) : Option ClientUnreliablePacketType :=
  if b = 0 then some .clientInputPacketUnreliable
  else if b = 1 then some .clientClockSyncPacketUnreliable
  else none

def ClientUnreliablePacketType.toByte : ClientUnreliablePacketType → UInt8
  | .clientInputPacketUnreliable => 0
  | .clientClockSyncPacketUnreliable => 1

/-- `ClientSecureSessionHelloPacketReliable`.  The type header of a client
    packet is fixed by its structure once the packet has been decoded. -/
structure ClientSecureSessionHelloPacketReliable where
  networkProtocolVersion : UInt32
  clientPublicKey : KxPublicKey
  clientNonce : ClientNonce
deriving DecidableEq

structure ClientAuthPacketReliable where
  authToken : List UInt8
deriving DecidableEq

structure ClientReadyForMatchPacketReliable where
deriving DecidableEq

structure ClientInputPacketUnreliable where
  inputSequenceNumber : UInt32 := 0
  lastReceivedSnapshotId : UInt32 := 0
  movementHeldFlags : UInt8 := 0
  movementPressedFlags : UInt8 := 0
  movementReleasedFlags : UInt8 := 0
  actionHeldFlags : UInt8 := 0
  actionPressedFlags : UInt8 := 0
  actionReleasedFlags : UInt8 := 0
deriving DecidableEq

/-! ## Server packets -/

/-- `ServerReliablePacketType`. -/
inductive ServerReliablePacketType
  | serverSecureSessionHelloResponsePacketReliable
  | serverAuthResponsePacketReliable
  | serverMatchInitPacketReliable
  | serverWorldStaticStateInitPacketReliable
  | serverMatchStartPacketReliable
  | serverMatchEndPacketReliable
deriving DecidableEq

def ServerReliablePacketType.toByte : ServerReliablePacketType → UInt8
  | .serverSecureSessionHelloResponsePacketReliable => 0
  | .serverAuthResponsePacketReliable => 1
  | .serverMatchInitPacketReliable => 2
  | .serverWorldStaticStateInitPacketReliable => 3
  | .serverMatchStartPacketReliable => 4
  | .serverMatchEndPacketReliable => 5

/-- `ServerUnreliablePacketType`. -/
inductive ServerUnreliablePacketType
  | serverSnapshotFullPacketUnreliable
  | serverSnapshotDeltaPacketUnreliable
  | serverClockSyncPacketUnreliable
deriving DecidableEq

def ServerUnreliablePacketType.toByte : ServerUnreliablePacketType → UInt8
  | .serverSnapshotFullPacketUnreliable => 0
  | .serverSnapshotDeltaPacketUnreliable => 1
  | .serverClockSyncPacketUnreliable => 2

def ServerUnreliablePacketType.ofByte (b : UInt8) : Option ServerUnreliablePacketType :=
  if b = 0 then some .serverSnapshotFullPacketUnreliable
  else if b = 1 then some .serverSnapshotDeltaPacketUnreliable
  else if b = 2 then some .serverClockSyncPacketUnreliable
  else none

/-- `ServerMatchInitPacketReliable`. -/
structure ServerMatchInitPacketReliable where
  type : ServerReliablePacketType
  mapName : List UInt8
  mapVersion : UInt32
  mapChecksum : UInt32
  serverTick : UInt64
  serverTickRateHz : UInt32
  serverTimeNs : UInt64
deriving DecidableEq

structure ServerWorldStaticStateInitPacketReliable where
  type : ServerReliablePacketType
deriving DecidableEq

structure ServerMatchStartPacketReliable where
  type : ServerReliablePacketType
  serverTick : UInt64
  matchStartTick : UInt64
  countdownTicks : UInt32
  serverTimeNs : UInt64
deriving DecidableEq

/-- `ServerSecureSessionHelloResponseStatus`. -/
inductive ServerSecureSessionHelloResponseStatus
  | success
  | invalidClientKey
  | serverAttestationFailed
deriving DecidableEq

def ServerSecureSessionHelloResponseStatus.toByte :
    ServerSecureSessionHelloResponseStatus → UInt8
  | .success => 0
  | .invalidClientKey => 1
  | .serverAttestationFailed => 2

/-- `ServerSecureSessionHelloResponsePacketReliable`, with the defaults of a
    fresh packet. -/
structure ServerSecureSessionHelloResponsePacketReliable where
  type : ServerReliablePacketType := .serverSecureSessionHelloResponsePacketReliable
  status : ServerSecureSessionHelloResponseStatus := .invalidClientKey
  serverPublicKey : KxPublicKey := Vector.replicate 32 0
  issuedAtUnixSeconds : UInt64 := 0
  expiresAtUnixSeconds : UInt64 := 0
  clientNonceEcho : ClientNonce := Vector.replicate 16 0
  signature : Signature := Vector.replicate 64 0
deriving DecidableEq

/-- `ServerAuthResponseStatus`. -/
inductive ServerAuthResponseStatus
  | success
  | invalidAuthToken
deriving DecidableEq

def ServerAuthResponseStatus.toByte : ServerAuthResponseStatus → UInt8
  | .success => 0
  | .invalidAuthToken => 1

structure ServerAuthResponsePacketReliable where
  type : ServerReliablePacketType
  status : ServerAuthResponseStatus
deriving DecidableEq

/-- `ServerSnapshotFullPacketUnreliable`.  `snapshotId` is left for the network
    thread to fill in. -/
structure ServerSnapshotFullPacketUnreliable where
  type : ServerUnreliablePacketType
  snapshotId : UInt32 := 0
  serverTick : UInt64
  serverTimeNs : UInt64
  lastProcessedInputSequenceNumber : UInt32
deriving DecidableEq

end RcnetServer
