/-
  RcnetServer.Simulation.Handlers

  The simulation thread on queued messages (simulation/process).

  A handler looks its session up under the mutex, writes it back, and returns
  the message it pushes.  What the outside world answers during one hello (the
  wall clock, the signing primitive) is a `HelloOracle`.
-/

import RcnetServer.Network.PacketCodec
import RcnetServer.State

namespace RcnetServer

variable {Peer : Type}

-- ============================================================================
-- Connect, disconnect, input, ready
-- ============================================================================

/-- The session `HandleConnectMessage` creates. -/
def ClientSession.ofConnect (connectionId : ConnectionId) : ClientSession :=
  { connectionId := connectionId, isTransportConnected := true }

/-- `ServerSimulation_ProcessNetworkIncomingDispatcher_HandleConnectMessage`. -/
def ServerSimulation.handleConnectMessage (networkState : NetworkState Peer)
    (connectionId : ConnectionId) : NetworkState Peer :=
  { networkState with
    sessions := networkState.sessions.insert connectionId (ClientSession.ofConnect connectionId) }

/-- `ServerSimulation_ProcessNetworkIncomingDispatcher_HandleDisconnectMessage`. -/
def ServerSimulation.handleDisconnectMessage (networkState : NetworkState Peer)
    (connectionId : ConnectionId) : NetworkState Peer :=
  match networkState.sessions.lookup connectionId with
  | none => networkState
  | some _ => { networkState with sessions := networkState.sessions.erase connectionId }

/-- What an input packet does to its session. -/
def ClientSession.receiveInput (session : ClientSession)
    (inputPacket : ClientInputPacketUnreliable) : ClientSession :=
  let session :=
    { session with
      latestReceivedInputPacket := inputPacket
      clientLastAckedSnapshotId := inputPacket.lastReceivedSnapshotId }
  -- only a number already processed is ignored; the pending ones are not looked at
  if inputPacket.inputSequenceNumber ≤ session.serverLastProcessedInputSequenceNumber then session
  else
    { session with
      pendingInputPacketsQueue := session.pendingInputPacketsQueue ++ [inputPacket] }

/-- `ServerSimulation_ProcessNetworkIncomingDispatcher_HandleInputMessage`. -/
def ServerSimulation.handleInputMessage (networkState : NetworkState Peer)
    (connectionId : ConnectionId) (inputPacket : ClientInputPacketUnreliable) :
    NetworkState Peer :=
  match networkState.sessions.lookup connectionId with
  | none => networkState
  | some session => networkState.setSession connectionId (session.receiveInput inputPacket)

/-- `ServerSimulation_ProcessNetworkIncomingDispatcher_HandleReadyForMatchMessage`. -/
def ServerSimulation.handleReadyForMatchMessage (networkState : NetworkState Peer)
    (connectionId : ConnectionId) : NetworkState Peer :=
  match networkState.sessions.lookup connectionId with
  | none => networkState
  | some session =>
      networkState.setSession connectionId { session with isReadyForMatch := true }

-- ============================================================================
-- Secure-session hello
-- ============================================================================

/-- What one hello reads from outside: `system_clock::now()` in seconds, and
    `crypto_sign_detached` as it behaves at this call. -/
structure HelloOracle where
  nowUnixSeconds : UInt64
  sign : SignDetached

/-- Where the hello handler stands when it releases the mutex: the session it
    leaves, the response packet and `secureSessionAccepted`. -/
structure SecureSessionAnswer where
  session : ClientSession
  response : ServerSecureSessionHelloResponsePacketReliable
  secureSessionAccepted : Bool

/-- Steps 5 and 6 of
    `ServerSimulation_ProcessNetworkIncomingDispatcher_HandleSecureSessionHelloMessage`:
    the signed SUCCESS response, and whether signing succeeded. -/
def ServerSimulation.attestSecureSession (oracle : HelloOracle) (networkState : NetworkState Peer)
    (hello : ClientSecureSessionHelloPacketReliable) :
    ServerSecureSessionHelloResponsePacketReliable × Bool :=
  let issuedAtUnixSeconds := oracle.nowUnixSeconds
  let expiresAtUnixSeconds := issuedAtUnixSeconds + serverSecureSessionSignatureTtlSeconds
  let response : ServerSecureSessionHelloResponsePacketReliable :=
    { type := .serverSecureSessionHelloResponsePacketReliable
      status := .success
      serverPublicKey := networkState.cryptoKxState.serverPublicKey
      issuedAtUnixSeconds := issuedAtUnixSeconds
      expiresAtUnixSeconds := expiresAtUnixSeconds
      clientNonceEcho := hello.clientNonce }
  let signed :=
    ServerCryptoSigning.signSecureSessionPayload oracle.sign networkState.cryptoSigningState
      { serverKxPublicKey := response.serverPublicKey
        issuedAtUnixSeconds := response.issuedAtUnixSeconds
        expiresAtUnixSeconds := response.expiresAtUnixSeconds
        clientNonceEcho := response.clientNonceEcho }
  ({ response with signature := signed.2 }, signed.1)

/-- Steps 2 to 7 of the same handler, on the session found. -/
def ServerSimulation.answerSecureSessionHello (kx : KxServerSessionKeys) (oracle : HelloOracle)
    (networkState : NetworkState Peer) (session : ClientSession)
    (hello : ClientSecureSessionHelloPacketReliable) : SecureSessionAnswer :=
  -- the client's key is stored whatever happens next
  let session := { session with clientPublicKey := hello.clientPublicKey }
  match ServerCryptoKx.computeSessionKeys kx networkState.cryptoKxState hello.clientPublicKey with
  | none =>
      { session
        response :=
          { type := .serverSecureSessionHelloResponsePacketReliable
            status := .invalidClientKey }
        secureSessionAccepted := false }
  | some (serverRxKey, serverTxKey) =>
      let attested := ServerSimulation.attestSecureSession oracle networkState hello
      if attested.2 then
        -- installed at once, whatever keys are in use
        { session :=
            { session with
              serverRxKey := serverRxKey
              serverTxKey := serverTxKey
              isSecureSessionEstablished := true }
          response := attested.1
          secureSessionAccepted := true }
      else
        { session :=
            { session with
              isSecureSessionEstablished := false
              serverRxKey := Vector.replicate 32 0
              serverTxKey := Vector.replicate 32 0 }
          response := { attested.1 with status := .serverAttestationFailed }
          secureSessionAccepted := false }

/-- Step 8: the message that carries the response. -/
def SecureSessionAnswer.outMessage (answer : SecureSessionAnswer) (connectionId : ConnectionId) :
    SimulationToNetworkOUTMessage :=
  { type := .serverSecureSessionHelloResponsePacketReliable
    connectionId := connectionId
    disconnectAfterAck := !answer.secureSessionAccepted
    enableEncryptionAfterAck := answer.secureSessionAccepted
    serializedPacket := serializeServerSecureSessionHelloResponsePacketReliable answer.response }

/-- `ServerSimulation_ProcessNetworkIncomingDispatcher_HandleSecureSessionHelloMessage`. -/
def ServerSimulation.handleSecureSessionHelloMessage (kx : KxServerSessionKeys)
    (oracle : HelloOracle) (networkState : NetworkState Peer) (connectionId : ConnectionId)
    (hello : ClientSecureSessionHelloPacketReliable) :
    NetworkState Peer × List SimulationToNetworkOUTMessage :=
  match networkState.sessions.lookup connectionId with
  | none => (networkState, [])
  | some session =>
      let answer :=
        ServerSimulation.answerSecureSessionHello kx oracle networkState session hello
      (networkState.setSession connectionId answer.session, [answer.outMessage connectionId])

-- ============================================================================
-- Authentication
-- ============================================================================

/-- `ServerSimulation_ProcessNetworkIncomingDispatcher_HandleAuthMessage`. -/
def ServerSimulation.handleAuthMessage (networkState : NetworkState Peer)
    (connectionId : ConnectionId) (authPacket : ClientAuthPacketReliable) :
    NetworkState Peer × List SimulationToHttpMessage :=
  match networkState.sessions.lookup connectionId with
  | none => (networkState, [])
  | some session =>
      match session.authStatus with
      | .invalid => (networkState, [])
      | .valid => (networkState, [])
      | .waitingAuth => (networkState, [])
      | .none =>
          (networkState.setSession connectionId { session with authStatus := .waitingAuth },
            [{ connectionId := connectionId, authToken := authPacket.authToken }])

/-- What a backend reply does to its session. -/
def ClientSession.applyAuthResponse (session : ClientSession)
    (response : AuthTokenVerificationHTTPResponse) : ClientSession :=
  if response.isValid then
    { session with
      authStatus := .valid
      accountIdDatabase := response.accountIdDatabase
      accountUsernameDatabase := response.accountUsernameDatabase
      authErrorMessage := "" }
  else
    { session with
      authStatus := .invalid
      authErrorMessage := response.errorMessage }

/-- `ServerSimulation_ProcessHttpDispatcher_HandleAuthValidateTokenResponseMessage`.
    The status found in the session is not consulted. -/
def ServerSimulation.handleAuthValidateTokenResponseMessage (networkState : NetworkState Peer)
    (httpMessage : HttpToSimulationMessage) :
    NetworkState Peer × List SimulationToNetworkOUTMessage :=
  match networkState.sessions.lookup httpMessage.connectionId with
  | none => (networkState, [])
  | some session =>
      let response := httpMessage.authTokenVerificationResponse
      let authResponsePacket : ServerAuthResponsePacketReliable :=
        { type := .serverAuthResponsePacketReliable
          status := if response.isValid then .success else .invalidAuthToken }
      (networkState.setSession httpMessage.connectionId (session.applyAuthResponse response),
        [{ type := .serverAuthResponsePacketReliable
           connectionId := httpMessage.connectionId
           disconnectAfterAck := response.isValid = false
           serializedPacket := serializeServerAuthResponsePacketReliable authResponsePacket }])

-- ============================================================================
-- The dispatcher
-- ============================================================================

/-- One iteration of `ServerSimulation_ProcessNetworkIncomingDispatcher`: the
    network state and the messages pushed to the network and HTTP threads. -/
def ServerSimulation.processNetworkIncoming (kx : KxServerSessionKeys) (oracle : HelloOracle)
    (networkState : NetworkState Peer) :
    NetworkINToSimulationMessage →
      NetworkState Peer × List SimulationToNetworkOUTMessage × List SimulationToHttpMessage
  | .clientEventConnect c => (ServerSimulation.handleConnectMessage networkState c, [], [])
  | .clientEventDisconnect c => (ServerSimulation.handleDisconnectMessage networkState c, [], [])
  | .clientInputPacketUnreliable c packet =>
      (ServerSimulation.handleInputMessage networkState c packet, [], [])
  | .clientSecureSessionHelloPacketReliable c packet =>
      let result :=
        ServerSimulation.handleSecureSessionHelloMessage kx oracle networkState c packet
      (result.1, result.2, [])
  | .clientAuthPacketReliable c packet =>
      let result := ServerSimulation.handleAuthMessage networkState c packet
      (result.1, [], result.2)
  | .clientReadyForMatchPacketReliable c =>
      (ServerSimulation.handleReadyForMatchMessage networkState c, [], [])

/-- `ServerSimulation_ProcessNetworkIncomingDispatcher` over a batch, each message
    with what the outside answers while it is handled. -/
def ServerSimulation.processNetworkIncomingDispatcher (kx : KxServerSessionKeys) :
    NetworkState Peer → List (NetworkINToSimulationMessage × HelloOracle) →
      NetworkState Peer × List SimulationToNetworkOUTMessage × List SimulationToHttpMessage
  | networkState, [] => (networkState, [], [])
  | networkState, (m, oracle) :: rest =>
      let here := ServerSimulation.processNetworkIncoming kx oracle networkState m
      let after := ServerSimulation.processNetworkIncomingDispatcher kx here.1 rest
      (after.1, here.2.1 ++ after.2.1, here.2.2 ++ after.2.2)

/-- `ServerSimulation_ProcessHttpDispatcher` over a batch. -/
def ServerSimulation.processHttpDispatcher :
    NetworkState Peer → List HttpToSimulationMessage →
      NetworkState Peer × List SimulationToNetworkOUTMessage
  | networkState, [] => (networkState, [])
  | networkState, reply :: rest =>
      let here := ServerSimulation.handleAuthValidateTokenResponseMessage networkState reply
      let after := ServerSimulation.processHttpDispatcher here.1 rest
      (after.1, here.2 ++ after.2)

/-- The two dispatchers of a tick, in order. -/
def ServerSimulation.processIncomingMessages (kx : KxServerSessionKeys)
    (networkState : NetworkState Peer)
    (messages : List (NetworkINToSimulationMessage × HelloOracle))
    (httpMessages : List HttpToSimulationMessage) :
    NetworkState Peer × List SimulationToNetworkOUTMessage × List SimulationToHttpMessage :=
  let network := ServerSimulation.processNetworkIncomingDispatcher kx networkState messages
  let http := ServerSimulation.processHttpDispatcher network.1 httpMessages
  (http.1, network.2.1 ++ http.2, network.2.2)

-- ============================================================================
-- The view of one connection
-- ============================================================================

/-- What a network message does to the session of its own connection, and what
    is pushed on the way.  Of `networkState` only the crypto states are read. -/
def ServerSimulation.clientStep (kx : KxServerSessionKeys) (oracle : HelloOracle)
    (networkState : NetworkState Peer) :
    NetworkINToSimulationMessage → Option ClientSession →
      Option ClientSession × List SimulationToNetworkOUTMessage × List SimulationToHttpMessage
  | .clientEventConnect c, _ => (some (ClientSession.ofConnect c), [], [])
  | _, none => (none, [], [])
  | .clientEventDisconnect _, some _ => (none, [], [])
  | .clientInputPacketUnreliable _ packet, some session =>
      (some (session.receiveInput packet), [], [])
  | .clientSecureSessionHelloPacketReliable c packet, some session =>
      let answer :=
        ServerSimulation.answerSecureSessionHello kx oracle networkState session packet
      (some answer.session, [answer.outMessage c], [])
  | .clientAuthPacketReliable c packet, some session =>
      if session.authStatus = .none then
        (some { session with authStatus := .waitingAuth }, [],
          [{ connectionId := c, authToken := packet.authToken }])
      else (some session, [], [])
  | .clientReadyForMatchPacketReliable _, some session =>
      (some { session with isReadyForMatch := true }, [], [])

section ClientStep

variable (kx : KxServerSessionKeys) (oracle : HelloOracle) (networkState : NetworkState Peer)

/-- A handler leaves everything but the session table alone. -/
theorem ServerSimulation.processNetworkIncoming_eq (m : NetworkINToSimulationMessage) :
    (ServerSimulation.processNetworkIncoming kx oracle networkState m).1 =
      { networkState with
        sessions := (ServerSimulation.processNetworkIncoming kx oracle networkState m).1.sessions }
    := by
  cases m with
  | clientEventConnect c => rfl
  | clientEventDisconnect c =>
      simp only [processNetworkIncoming, handleDisconnectMessage]
      split <;> rfl
  | clientSecureSessionHelloPacketReliable c packet =>
      simp only [processNetworkIncoming, handleSecureSessionHelloMessage]
      split <;> rfl
  | clientAuthPacketReliable c packet =>
      simp only [processNetworkIncoming, handleAuthMessage]
      split
      · rfl
      · split <;> rfl
  | clientInputPacketUnreliable c packet =>
      simp only [processNetworkIncoming, handleInputMessage]
      split <;> rfl
  | clientReadyForMatchPacketReliable c =>
      simp only [processNetworkIncoming, handleReadyForMatchMessage]
      split <;> rfl

/-- The dispatcher acts on the session of the message's connection as
    `clientStep` says and keeps every other session; it pushes what `clientStep`
    pushes. -/
theorem ServerSimulation.processNetworkIncoming_client (m : NetworkINToSimulationMessage) :
    (∀ c, (processNetworkIncoming kx oracle networkState m).1.sessions.lookup c =
      if c = m.connectionId then
        (clientStep kx oracle networkState m (networkState.sessions.lookup m.connectionId)).1
      else networkState.sessions.lookup c) ∧
    (processNetworkIncoming kx oracle networkState m).2 =
      (clientStep kx oracle networkState m (networkState.sessions.lookup m.connectionId)).2 := by
  cases m with
  | clientEventConnect c₀ =>
      exact ⟨fun c => UnorderedMap.lookup_insert _ _ _ _, rfl⟩
  | clientEventDisconnect c₀ =>
      simp only [processNetworkIncoming, handleDisconnectMessage,
        NetworkINToSimulationMessage.connectionId]
      cases h : networkState.sessions.lookup c₀ with
      | none => exact ⟨UnorderedMap.lookup_eq_ite h, rfl⟩
      | some session => exact ⟨fun c => UnorderedMap.lookup_erase _ _ _, rfl⟩
  | clientSecureSessionHelloPacketReliable c₀ packet =>
      simp only [processNetworkIncoming, handleSecureSessionHelloMessage,
        NetworkINToSimulationMessage.connectionId]
      cases h : networkState.sessions.lookup c₀ with
      | none => exact ⟨UnorderedMap.lookup_eq_ite h, rfl⟩
      | some session => exact ⟨NetworkState.lookup_setSession _ h, rfl⟩
  | clientAuthPacketReliable c₀ packet =>
      simp only [processNetworkIncoming, handleAuthMessage,
        NetworkINToSimulationMessage.connectionId]
      cases h : networkState.sessions.lookup c₀ with
      | none => exact ⟨UnorderedMap.lookup_eq_ite h, rfl⟩
      | some session =>
          cases hs : session.authStatus with
          | none => simp [clientStep, hs, NetworkState.lookup_setSession _ h]
          | waitingAuth => simpa [clientStep, hs] using UnorderedMap.lookup_eq_ite h
          | valid => simpa [clientStep, hs] using UnorderedMap.lookup_eq_ite h
          | invalid => simpa [clientStep, hs] using UnorderedMap.lookup_eq_ite h
  | clientInputPacketUnreliable c₀ packet =>
      simp only [processNetworkIncoming, handleInputMessage,
        NetworkINToSimulationMessage.connectionId]
      cases h : networkState.sessions.lookup c₀ with
      | none => exact ⟨UnorderedMap.lookup_eq_ite h, rfl⟩
      | some session => exact ⟨NetworkState.lookup_setSession _ h, rfl⟩
  | clientReadyForMatchPacketReliable c₀ =>
      simp only [processNetworkIncoming, handleReadyForMatchMessage,
        NetworkINToSimulationMessage.connectionId]
      cases h : networkState.sessions.lookup c₀ with
      | none => exact ⟨UnorderedMap.lookup_eq_ite h, rfl⟩
      | some session => exact ⟨NetworkState.lookup_setSession _ h, rfl⟩

end ClientStep

-- ============================================================================
-- Outcomes of a hello and of a reply
-- ============================================================================

/-- A hello response whose status byte on the wire is SUCCESS. -/
def SimulationToNetworkOUTMessage.isHelloSuccess (m : SimulationToNetworkOUTMessage) : Bool :=
  m.type = .serverSecureSessionHelloResponsePacketReliable &&
    m.serializedPacket[1]? = some ServerSecureSessionHelloResponseStatus.success.toByte

section HelloOutcome

variable (kx : KxServerSessionKeys) (oracle : HelloOracle) (networkState : NetworkState Peer)
  (session : ClientSession) (hello : ClientSecureSessionHelloPacketReliable)

namespace ServerSimulation

/-- The three ends of a hello: no keys could be derived, the attestation could
    not be signed, or the derived keys are installed. -/
theorem answerSecureSessionHello_cases :
    (ServerCryptoKx.computeSessionKeys kx networkState.cryptoKxState hello.clientPublicKey = none ∧
      answerSecureSessionHello kx oracle networkState session hello =
        { session := { session with clientPublicKey := hello.clientPublicKey }
          response :=
            { type := .serverSecureSessionHelloResponsePacketReliable
              status := .invalidClientKey }
          secureSessionAccepted := false }) ∨
    (∃ rx tx,
      ServerCryptoKx.computeSessionKeys kx networkState.cryptoKxState hello.clientPublicKey =
        some (rx, tx) ∧
      (attestSecureSession oracle networkState hello).2 = false ∧
      answerSecureSessionHello kx oracle networkState session hello =
        { session :=
            { session with
              clientPublicKey := hello.clientPublicKey
              isSecureSessionEstablished := false
              serverRxKey := Vector.replicate 32 0
              serverTxKey := Vector.replicate 32 0 }
          response :=
            { (attestSecureSession oracle networkState hello).1 with
              status := .serverAttestationFailed }
          secureSessionAccepted := false }) ∨
    (∃ rx tx,
      ServerCryptoKx.computeSessionKeys kx networkState.cryptoKxState hello.clientPublicKey =
        some (rx, tx) ∧
      (attestSecureSession oracle networkState hello).2 = true ∧
      answerSecureSessionHello kx oracle networkState session hello =
        { session :=
            { session with
              clientPublicKey := hello.clientPublicKey
              serverRxKey := rx
              serverTxKey := tx
              isSecureSessionEstablished := true }
          response := (attestSecureSession oracle networkState hello).1
          secureSessionAccepted := true }) := by
  unfold answerSecureSessionHello
  cases hkx :
      ServerCryptoKx.computeSessionKeys kx networkState.cryptoKxState hello.clientPublicKey with
  | none => exact Or.inl ⟨rfl, rfl⟩
  | some keys =>
      obtain ⟨rx, tx⟩ := keys
      cases hsign : (attestSecureSession oracle networkState hello).2 with
      | false => exact Or.inr (Or.inl ⟨rx, tx, rfl, rfl, by simp [hsign]⟩)
      | true => exact Or.inr (Or.inr ⟨rx, tx, rfl, rfl, by simp [hsign]⟩)

/-- A hello writes the key material and the "established" flag of its session,
    nothing else. -/
theorem answerSecureSessionHello_session :
    ∃ pk rx tx established,
      (answerSecureSessionHello kx oracle networkState session hello).session =
        { session with
          clientPublicKey := pk
          serverRxKey := rx
          serverTxKey := tx
          isSecureSessionEstablished := established } := by
  rcases answerSecureSessionHello_cases kx oracle networkState session hello with
    ⟨_, h⟩ | ⟨rx, tx, _, _, h⟩ | ⟨rx, tx, _, _, h⟩
  · exact ⟨_, session.serverRxKey, session.serverTxKey, _, by rw [h]⟩
  · exact ⟨_, _, _, _, by rw [h]⟩
  · exact ⟨_, _, _, _, by rw [h]⟩

/-- The second byte of a hello response is its status. -/
theorem serialize_helloResponse_status (response : ServerSecureSessionHelloResponsePacketReliable) :
    (serializeServerSecureSessionHelloResponsePacketReliable response)[1]? =
      some response.status.toByte := by
  simp [serializeServerSecureSessionHelloResponsePacketReliable, ByteWriter.writeU8,
    ByteWriter.writeBytes, ByteWriter.writeU64]

/-- The wire says SUCCESS exactly when the session was accepted. -/
theorem isHelloSuccess_outMessage (c : ConnectionId) :
    ((answerSecureSessionHello kx oracle networkState session hello).outMessage c).isHelloSuccess =
      (answerSecureSessionHello kx oracle networkState session hello).secureSessionAccepted := by
  simp only [SimulationToNetworkOUTMessage.isHelloSuccess, SecureSessionAnswer.outMessage,
    serialize_helloResponse_status]
  rcases answerSecureSessionHello_cases kx oracle networkState session hello with
    ⟨_, h⟩ | ⟨rx, tx, _, _, h⟩ | ⟨rx, tx, _, _, h⟩
  · simp [h, ServerSecureSessionHelloResponseStatus.toByte]
  · simp [h, ServerSecureSessionHelloResponseStatus.toByte]
  · simp [h, attestSecureSession]

end ServerSimulation

end HelloOutcome

/-- An input packet writes the latest-input fields and may join the pending
    inputs, if its number has not been processed. -/
theorem ClientSession.receiveInput_eq (session : ClientSession)
    (packet : ClientInputPacketUnreliable) :
    ∃ pending,
      (pending = session.pendingInputPacketsQueue ∨
        (pending = session.pendingInputPacketsQueue ++ [packet] ∧
          session.serverLastProcessedInputSequenceNumber < packet.inputSequenceNumber)) ∧
      session.receiveInput packet =
        { session with
          latestReceivedInputPacket := packet
          clientLastAckedSnapshotId := packet.lastReceivedSnapshotId
          pendingInputPacketsQueue := pending } := by
  by_cases h : packet.inputSequenceNumber ≤ session.serverLastProcessedInputSequenceNumber
  · exact ⟨_, Or.inl rfl, by simp [receiveInput, h]⟩
  · exact ⟨_, Or.inr ⟨rfl, UInt32.not_le.mp h⟩, by simp [receiveInput, h]⟩

/-- A reply settles the status and writes account and error fields only. -/
theorem ClientSession.applyAuthResponse_eq (session : ClientSession)
    (response : AuthTokenVerificationHTTPResponse) :
    ∃ status accountId username error,
      (status = .valid ∨ status = .invalid) ∧
      session.applyAuthResponse response =
        { session with
          authStatus := status
          accountIdDatabase := accountId
          accountUsernameDatabase := username
          authErrorMessage := error } := by
  cases h : response.isValid with
  | true =>
      exact ⟨.valid, response.accountIdDatabase, response.accountUsernameDatabase, "",
        Or.inl rfl, by simp [applyAuthResponse, h]⟩
  | false =>
      exact ⟨.invalid, session.accountIdDatabase, session.accountUsernameDatabase,
        response.errorMessage, Or.inr rfl, by simp [applyAuthResponse, h]⟩

section AuthResponse

variable (networkState : NetworkState Peer) (reply : HttpToSimulationMessage)

/-- The reply handler leaves everything but the session table alone. -/
theorem ServerSimulation.handleAuthValidateTokenResponseMessage_eq :
    (handleAuthValidateTokenResponseMessage networkState reply).1 =
      { networkState with
        sessions := (handleAuthValidateTokenResponseMessage networkState reply).1.sessions } := by
  unfold handleAuthValidateTokenResponseMessage
  split <;> rfl

/-- A reply acts on the session it names, if there is one, and on no other. -/
theorem ServerSimulation.lookup_handleAuthValidateTokenResponseMessage (c : ConnectionId) :
    (handleAuthValidateTokenResponseMessage networkState reply).1.sessions.lookup c =
      if c = reply.connectionId then
        (networkState.sessions.lookup reply.connectionId).map fun session =>
          session.applyAuthResponse reply.authTokenVerificationResponse
      else networkState.sessions.lookup c := by
  unfold handleAuthValidateTokenResponseMessage
  cases h : networkState.sessions.lookup reply.connectionId with
  | none => exact UnorderedMap.lookup_eq_ite h c
  | some session => exact NetworkState.lookup_setSession _ h c

end AuthResponse

end RcnetServer
