/-
  RcnetServer.Properties.SignedAttestation

  The attestation of a secure session as the client reads it.

  Two encoders spell the attestation out: the signing layout (`Crypto`) and the
  packet layout (`PacketCodec`).  Reading the response back field by field gives
  the values that were signed, in the bytes that were signed.
-/

import RcnetServer.Network.RoundTrip
import RcnetServer.System

namespace RcnetServer

variable {Peer : Type}

-- ============================================================================
-- The response on the wire
-- ============================================================================

/-- The fields a client finds in a hello response. -/
structure ReadHelloResponse where
  type : UInt8
  status : UInt8
  serverPublicKey : List UInt8
  issuedAtUnixSeconds : UInt64
  expiresAtUnixSeconds : UInt64
  clientNonceEcho : List UInt8
  signature : List UInt8

/-- Read the fields of a hello response in the order of the wire. -/
def readHelloResponse (data : List UInt8) : Option ReadHelloResponse := do
  let reader := ByteReader.ofBytes data
  let (type, reader) ← reader.readU8
  let (status, reader) ← reader.readU8
  let (serverPublicKey, reader) ← reader.readBytes 32
  let (issuedAtUnixSeconds, reader) ← reader.readU64
  let (expiresAtUnixSeconds, reader) ← reader.readU64
  let (clientNonceEcho, reader) ← reader.readBytes 16
  let (signature, reader) ← reader.readBytes 64
  if !reader.empty then none
  else
    some
      { type, status, serverPublicKey, issuedAtUnixSeconds, expiresAtUnixSeconds
        clientNonceEcho, signature }

theorem serializeServerSecureSessionHelloResponsePacketReliable_eq
    (packet : ServerSecureSessionHelloResponsePacketReliable) :
    serializeServerSecureSessionHelloResponsePacketReliable packet =
      [packet.type.toByte] ++ ([packet.status.toByte] ++ (packet.serverPublicKey.toList ++
        (BigEndian.bytes64 packet.issuedAtUnixSeconds ++
          (BigEndian.bytes64 packet.expiresAtUnixSeconds ++
            (packet.clientNonceEcho.toList ++ packet.signature.toList))))) := by
  show ([] ++ [packet.type.toByte] ++ [packet.status.toByte] ++ packet.serverPublicKey.toList ++
    BigEndian.bytes64 packet.issuedAtUnixSeconds ++ BigEndian.bytes64 packet.expiresAtUnixSeconds ++
    packet.clientNonceEcho.toList ++ packet.signature.toList) = _
  simp only [List.nil_append, List.append_assoc]

/-- Every field of the response is read back. -/
theorem readHelloResponse_serialize (packet : ServerSecureSessionHelloResponsePacketReliable) :
    readHelloResponse (serializeServerSecureSessionHelloResponsePacketReliable packet) =
      some
        { type := packet.type.toByte
          status := packet.status.toByte
          serverPublicKey := packet.serverPublicKey.toList
          issuedAtUnixSeconds := packet.issuedAtUnixSeconds
          expiresAtUnixSeconds := packet.expiresAtUnixSeconds
          clientNonceEcho := packet.clientNonceEcho.toList
          signature := packet.signature.toList } := by
  rw [serializeServerSecureSessionHelloResponsePacketReliable_eq,
    ← List.append_nil packet.signature.toList]
  unfold readHelloResponse
  dsimp only
  rw [ByteReader.ofBytes_eq_after, ByteReader.readU8_after (by simp [ByteReader.Addressable])]
  simp only [Option.bind_eq_bind, Option.bind_some]
  rw [ByteReader.readU8_after (by simp [ByteReader.Addressable])]
  simp only [Option.bind_some]
  rw [ByteReader.readBytes_after (by simp [ByteReader.Addressable]) (by simp)]
  simp only [Option.bind_some]
  rw [ByteReader.readU64_after (by simp [ByteReader.Addressable])]
  simp only [Option.bind_some]
  rw [ByteReader.readU64_after (by simp [ByteReader.Addressable])]
  simp only [Option.bind_some]
  rw [ByteReader.readBytes_after (by simp [ByteReader.Addressable]) (by simp)]
  simp only [Option.bind_some]
  rw [ByteReader.readBytes_after (by simp [ByteReader.Addressable]) (by simp)]
  simp only [Option.bind_some, ByteReader.empty_after_nil, Bool.not_true, Bool.false_eq_true,
    if_false, List.append_nil]

-- ============================================================================
-- The signed bytes
-- ============================================================================

namespace ServerCryptoSigning

theorem writeU64Be_eq (value : UInt64) : writeU64Be value = BigEndian.bytes64 value := rfl

/-- The fields of a payload have fixed widths, so the message determines them. -/
theorem buildSecureSessionMessage_injective
    {payload payload' : ServerCryptoSigningSecureSessionPayload}
    (h : buildSecureSessionMessage payload = buildSecureSessionMessage payload') :
    payload = payload' := by
  obtain ⟨key, issued, expires, nonce⟩ := payload
  obtain ⟨key', issued', expires', nonce'⟩ := payload'
  simp only [buildSecureSessionMessage, writeU64Be_eq, List.append_assoc,
    List.append_cancel_left_eq] at h
  obtain ⟨hkey, h⟩ := List.append_inj h (by simp)
  obtain ⟨hissued, h⟩ := List.append_inj h (by simp)
  obtain ⟨hexpires, hnonce⟩ := List.append_inj h (by simp)
  rw [Vector.toList_inj.mp hkey, BigEndian.bytes64_injective hissued,
    BigEndian.bytes64_injective hexpires, Vector.toList_inj.mp hnonce]

end ServerCryptoSigning

namespace ServerSimulation

/-- The payload a hello has signed. -/
def attestedPayload (oracle : HelloOracle) (networkState : NetworkState Peer)
    (hello : ClientSecureSessionHelloPacketReliable) : ServerCryptoSigningSecureSessionPayload where
  serverKxPublicKey := networkState.cryptoKxState.serverPublicKey
  issuedAtUnixSeconds := oracle.nowUnixSeconds
  expiresAtUnixSeconds := oracle.nowUnixSeconds + serverSecureSessionSignatureTtlSeconds
  clientNonceEcho := hello.clientNonce

variable (kx : KxServerSessionKeys) (oracle : HelloOracle) (networkState : NetworkState Peer)
  (session : ClientSession) (hello : ClientSecureSessionHelloPacketReliable)

/-- Attesting is one call of the signing primitive, on the message of that payload. -/
theorem attestSecureSession_eq :
    attestSecureSession oracle networkState hello =
      ({ type := .serverSecureSessionHelloResponsePacketReliable
         status := .success
         serverPublicKey := (attestedPayload oracle networkState hello).serverKxPublicKey
         issuedAtUnixSeconds := (attestedPayload oracle networkState hello).issuedAtUnixSeconds
         expiresAtUnixSeconds := (attestedPayload oracle networkState hello).expiresAtUnixSeconds
         clientNonceEcho := (attestedPayload oracle networkState hello).clientNonceEcho
         signature := (oracle.sign
            (ServerCryptoSigning.buildSecureSessionMessage
              (attestedPayload oracle networkState hello))
            networkState.cryptoSigningState.identitySecretKey).signature },
        (oracle.sign
            (ServerCryptoSigning.buildSecureSessionMessage
              (attestedPayload oracle networkState hello))
            networkState.cryptoSigningState.identitySecretKey).code = 0 &&
          (oracle.sign
            (ServerCryptoSigning.buildSecureSessionMessage
              (attestedPayload oracle networkState hello))
            networkState.cryptoSigningState.identitySecretKey).signatureLength = 64) := rfl

/-- `signed` is the byte string signed while the hello is handled: signing it
    succeeded, and of the primitive nothing but its answer to `signed` is used. -/
structure SignedDuring (c : ConnectionId) (signed : List UInt8) : Prop where
  code : (oracle.sign signed networkState.cryptoSigningState.identitySecretKey).code = 0
  length : (oracle.sign signed
    networkState.cryptoSigningState.identitySecretKey).signatureLength = 64
  only : ∀ oracle' : HelloOracle, oracle'.nowUnixSeconds = oracle.nowUnixSeconds →
    oracle'.sign signed networkState.cryptoSigningState.identitySecretKey =
      oracle.sign signed networkState.cryptoSigningState.identitySecretKey →
    handleSecureSessionHelloMessage kx oracle' networkState c hello =
      handleSecureSessionHelloMessage kx oracle networkState c hello

/-- The handler reads the primitive at the message of the payload only. -/
theorem handleSecureSessionHelloMessage_congr (c : ConnectionId) {oracle oracle' : HelloOracle}
    (hclock : oracle'.nowUnixSeconds = oracle.nowUnixSeconds)
    (hsign : oracle'.sign
        (ServerCryptoSigning.buildSecureSessionMessage (attestedPayload oracle networkState hello))
        networkState.cryptoSigningState.identitySecretKey =
      oracle.sign
        (ServerCryptoSigning.buildSecureSessionMessage (attestedPayload oracle networkState hello))
        networkState.cryptoSigningState.identitySecretKey) :
    handleSecureSessionHelloMessage kx oracle' networkState c hello =
      handleSecureSessionHelloMessage kx oracle networkState c hello := by
  have hpayload : attestedPayload oracle' networkState hello =
      attestedPayload oracle networkState hello := by
    simp only [attestedPayload, hclock]
  have hattest : attestSecureSession oracle' networkState hello =
      attestSecureSession oracle networkState hello := by
    rw [attestSecureSession_eq, attestSecureSession_eq, hpayload, hsign]
  have hanswer : ∀ session, answerSecureSessionHello kx oracle' networkState session hello =
      answerSecureSessionHello kx oracle networkState session hello := by
    intro session
    unfold answerSecureSessionHello
    rw [hattest]
  unfold handleSecureSessionHelloMessage
  simp only [hanswer]

/-- A response is accepted exactly if its status is SUCCESS, and then it is the
    attested one. -/
theorem answerSecureSessionHello_response :
    ((answerSecureSessionHello kx oracle networkState session hello).secureSessionAccepted = true ∧
      (attestSecureSession oracle networkState hello).2 = true ∧
      (answerSecureSessionHello kx oracle networkState session hello).response =
        (attestSecureSession oracle networkState hello).1) ∨
    ((answerSecureSessionHello kx oracle networkState session hello).secureSessionAccepted = false ∧
      (answerSecureSessionHello kx oracle networkState session hello).response.status ≠
        .success) := by
  rcases answerSecureSessionHello_cases kx oracle networkState session hello with
    ⟨_, h⟩ | ⟨rx, tx, _, _, h⟩ | ⟨rx, tx, _, hsigned, h⟩
  · exact Or.inr (by simp [h])
  · exact Or.inr (by simp [h])
  · exact Or.inl (by simp [h, hsigned])

end ServerSimulation

-- ============================================================================
-- What is signed is what the client reads
-- ============================================================================

/-- The status byte says SUCCESS for no other status. -/
theorem ServerSecureSessionHelloResponseStatus.toByte_eq_success
    {status : ServerSecureSessionHelloResponseStatus} :
    status.toByte = ServerSecureSessionHelloResponseStatus.success.toByte ↔ status = .success := by
  cases status <;> decide

/-- A hello of an existing session is answered by one message, whose post-ACK
    actions follow the status on the wire.  A SUCCESS response carries the key, the
    times and the nonce that were signed, in the bytes that were signed; it names
    the nonce of the hello and expires one TTL after its issue.  Different payloads
    have different signed bytes. -/
theorem attestation_signed_as_read (kx : KxServerSessionKeys) (oracle : HelloOracle)
    (networkState : NetworkState Peer) (c : ConnectionId)
    (hello : ClientSecureSessionHelloPacketReliable) (session : ClientSession)
    (hsession : networkState.sessions.lookup c = some session)
    (hclock : oracle.nowUnixSeconds.toNat + serverSecureSessionSignatureTtlSeconds.toNat <
      2 ^ 64) :
    (∃ m read,
      (ServerSimulation.handleSecureSessionHelloMessage kx oracle networkState c hello).2 = [m] ∧
      m.type = .serverSecureSessionHelloResponsePacketReliable ∧ m.connectionId = c ∧
      readHelloResponse m.serializedPacket = some read ∧
      (m.enableEncryptionAfterAck = true ↔
        read.status = ServerSecureSessionHelloResponseStatus.success.toByte) ∧
      (m.disconnectAfterAck = true ↔
        read.status ≠ ServerSecureSessionHelloResponseStatus.success.toByte) ∧
      (read.status = ServerSecureSessionHelloResponseStatus.success.toByte →
        ∃ signed,
          ServerSimulation.SignedDuring kx oracle networkState hello c signed ∧
          read.signature = (oracle.sign signed
            networkState.cryptoSigningState.identitySecretKey).signature.toList ∧
          signed = secureSessionSigningDomain ++ read.serverPublicKey ++
            BigEndian.bytes64 read.issuedAtUnixSeconds ++
            BigEndian.bytes64 read.expiresAtUnixSeconds ++ read.clientNonceEcho ∧
          read.clientNonceEcho = hello.clientNonce.toList ∧
          read.expiresAtUnixSeconds.toNat =
            read.issuedAtUnixSeconds.toNat + serverSecureSessionSignatureTtlSeconds.toNat)) ∧
    (∀ payload payload' : ServerCryptoSigningSecureSessionPayload, payload ≠ payload' →
      ServerCryptoSigning.buildSecureSessionMessage payload ≠
        ServerCryptoSigning.buildSecureSessionMessage payload') := by
  refine ⟨?_, fun _ _ hne h => hne (ServerCryptoSigning.buildSecureSessionMessage_injective h)⟩
  have hanswer : (ServerSimulation.handleSecureSessionHelloMessage kx oracle networkState c
      hello).2 =
      [(ServerSimulation.answerSecureSessionHello kx oracle networkState session
        hello).outMessage c] := by
    simp only [ServerSimulation.handleSecureSessionHelloMessage, hsession]
  refine ⟨_, _, hanswer, rfl, rfl, readHelloResponse_serialize _, ?_⟩
  simp only [SecureSessionAnswer.outMessage,
    ServerSecureSessionHelloResponseStatus.toByte_eq_success, ne_eq]
  rcases ServerSimulation.answerSecureSessionHello_response kx oracle networkState session
      hello with
    ⟨haccepted, hsigned, hresponse⟩ | ⟨hrefused, hstatus⟩
  · have hsuccess : (ServerSimulation.attestSecureSession oracle networkState hello).1.status =
        .success := rfl
    rw [haccepted, hresponse]
    refine ⟨by simp [hsuccess], by simp [hsuccess], ?_⟩
    intro _
    rw [ServerSimulation.attestSecureSession_eq] at hsigned ⊢
    simp only [Bool.and_eq_true, decide_eq_true_eq] at hsigned
    refine ⟨_, ⟨hsigned.1, hsigned.2, ?_⟩, rfl, rfl, rfl, ?_⟩
    · intro oracle' hnow hsame
      exact ServerSimulation.handleSecureSessionHelloMessage_congr kx networkState hello c hnow
        hsame
    · show (oracle.nowUnixSeconds + serverSecureSessionSignatureTtlSeconds).toNat = _
      rw [UInt64.toNat_add]
      exact Nat.mod_eq_of_lt hclock
  · rw [hrefused]
    exact ⟨by simp [hstatus], by simp [hstatus], fun hs => absurd hs hstatus⟩

/-- The network state of the solo deployment once its client has a session. -/
def soloConnectedState : NetworkState Unit :=
  ServerSimulation.handleConnectMessage (System.init soloPlatform : System Unit).networkState 1

def soloHelloPacket : ClientSecureSessionHelloPacketReliable where
  networkProtocolVersion := serverNetworkProtocolVersion
  clientPublicKey := Vector.replicate 32 7
  clientNonce := Vector.replicate 16 8

/-- The client of the solo deployment gets a response that switches encryption on,
    with its own nonce and ten seconds to live. -/
theorem soloHello_signed_as_read :
    ∃ m read,
      (ServerSimulation.handleSecureSessionHelloMessage soloPlatform.kx signingOracle
        soloConnectedState 1 soloHelloPacket).2 = [m] ∧
      readHelloResponse m.serializedPacket = some read ∧ m.enableEncryptionAfterAck = true ∧
      read.clientNonceEcho = List.replicate 16 8 ∧
      read.expiresAtUnixSeconds.toNat = read.issuedAtUnixSeconds.toNat + 10 := by
  have hsession : soloConnectedState.sessions.lookup 1 = some (ClientSession.ofConnect 1) := by
    decide +kernel
  obtain ⟨⟨m, read, hm, _, _, hread, henable, _, hsigned⟩, _⟩ :=
    attestation_signed_as_read soloPlatform.kx signingOracle soloConnectedState 1 soloHelloPacket
      (ClientSession.ofConnect 1) hsession (by decide)
  have hflag : (ServerSimulation.handleSecureSessionHelloMessage soloPlatform.kx signingOracle
      soloConnectedState 1 soloHelloPacket).2.map (fun m => m.enableEncryptionAfterAck) =
      [true] := by
    decide +kernel
  rw [hm] at hflag
  have hon : m.enableEncryptionAfterAck = true := by simpa using hflag
  obtain ⟨_, _, _, _, hnonce, hexpires⟩ := hsigned (henable.mp hon)
  exact ⟨m, read, hm, hread, hon, hnonce, hexpires⟩

end RcnetServer
