/-
  RcnetServer.Properties.PacketEncryption

  Packet encryption round trips, and decryption accepts authentic packets only.

  What the cipher is relied on for is `Aead.Lawful`: sixteen bytes of expansion, in
  both directions, and that decryption undoes encryption.  The rest is the format the
  two callbacks share: magic, nonce, ciphertext.
-/

import RcnetServer.Network.Encryption

namespace RcnetServer

-- ============================================================================
-- What is relied on
-- ============================================================================

/-- XChaCha20-Poly1305 as libsodium documents it. -/
structure Aead.Lawful (aead : Aead) : Prop where
  /-- Encryption succeeds and adds a tag of sixteen bytes. -/
  encrypt : ∀ key nonce plaintext, plaintext.length + 16 < 2 ^ 64 →
    (aead.encrypt key nonce plaintext).code = 0 ∧
      (aead.encrypt key nonce plaintext).bytes.length = plaintext.length + 16 ∧
      (aead.encrypt key nonce plaintext).length.toNat = plaintext.length + 16
  /-- Decryption with the same key and nonce yields the plaintext. -/
  decrypt_encrypt : ∀ key nonce plaintext, plaintext.length + 16 < 2 ^ 64 →
    (aead.decrypt key nonce (aead.encrypt key nonce plaintext).bytes).code = 0 ∧
      (aead.decrypt key nonce (aead.encrypt key nonce plaintext).bytes).bytes = plaintext
  /-- A ciphertext that authenticates is sixteen bytes longer than its plaintext. -/
  decrypt_length : ∀ key nonce ciphertext, (aead.decrypt key nonce ciphertext).code = 0 →
    (aead.decrypt key nonce ciphertext).bytes.length + 16 = ciphertext.length ∧
      (aead.decrypt key nonce ciphertext).length.toNat + 16 = ciphertext.length

-- ============================================================================
-- The format
-- ============================================================================

section Format

variable {nonce : AeadNonce} {ciphertext bytes : List UInt8}

/-- A packet in the format of the callbacks. -/
def encryptedPacket (nonce : AeadNonce) (ciphertext : List UInt8) : List UInt8 :=
  encryptedPacketMagic ++ (nonce.toList ++ ciphertext)

theorem length_encryptedPacket :
    (encryptedPacket nonce ciphertext).length = ciphertext.length + 28 := by
  rw [encryptedPacket, List.length_append, List.length_append, Vector.length_toList]
  show 4 + (24 + ciphertext.length) = _
  omega

theorem take_encryptedPacket :
    (encryptedPacket nonce ciphertext).take 4 = encryptedPacketMagic := List.take_left' rfl

theorem drop_magic_encryptedPacket :
    (encryptedPacket nonce ciphertext).drop 4 = nonce.toList ++ ciphertext := List.drop_left' rfl

theorem drop_header_encryptedPacket :
    (encryptedPacket nonce ciphertext).drop 28 = ciphertext := by
  rw [show 28 = 4 + 24 from rfl, ← List.drop_drop, drop_magic_encryptedPacket]
  exact List.drop_left' Vector.length_toList

/-- The nonce is read from the front of what follows the magic. -/
theorem toByteArray_append (rest : List UInt8) : toByteArray 24 (nonce.toList ++ rest) = nonce := by
  apply Vector.ext
  intro i hi
  have hlt : i < nonce.toList.length := by
    rw [Vector.length_toList]
    exact hi
  simp [toByteArray, List.getElem?_append_left hlt, hi]

/-- Bytes that begin with the magic and hold a nonce are a packet. -/
theorem eq_encryptedPacket (hmagic : bytes.take 4 = encryptedPacketMagic)
    (hlength : 28 ≤ bytes.length) :
    bytes = encryptedPacket (toByteArray 24 (bytes.drop 4)) (bytes.drop 28) := by
  have hnonce : (toByteArray 24 (bytes.drop 4)).toList = (bytes.drop 4).take 24 := by
    apply List.ext_getElem
    · rw [Vector.length_toList, List.length_take_of_le]
      rw [List.length_drop]
      omega
    · intro i hi hi'
      rw [Vector.length_toList] at hi
      have hin : 4 + i < bytes.length := by omega
      simp [toByteArray, hin]
  rw [encryptedPacket, hnonce, ← hmagic, show 28 = 4 + 24 from rfl, ← List.drop_drop,
    List.take_append_drop, List.take_append_drop]

end Format

-- ============================================================================
-- The two callbacks
-- ============================================================================

section Callbacks

open ServerNetworkEncryption

variable {Peer : Type} {aead : Aead} {sessions : Sessions} {peers : ENetPeers Peer} {p : Peer}
  {session : ClientSession} {nonce : AeadNonce} {ciphertext : List UInt8}
  {buffers : List ENetBuffer} {inLimit outLimit : UInt64}

/-- Header and tag are 44 bytes. -/
theorem toNat_requiredSize (h : inLimit.toNat + 44 < 2 ^ 64) :
    (encryptedPacketHeaderSize + inLimit + encryptedPacketTagSize).toNat = inLimit.toNat + 44 := by
  have hheader : encryptedPacketHeaderSize.toNat = 28 := rfl
  have htag : encryptedPacketTagSize.toNat = 16 := rfl
  rw [UInt64.toNat_add, UInt64.toNat_add, hheader, htag]
  omega

/-- With room for 44 more bytes the datagram is sent encrypted. -/
theorem encryptCallback_eq (nonce : AeadNonce) (haead : aead.Lawful)
    (hpeer : EncryptedPeer sessions peers p session)
    (hholds : HoldsBytes buffers inLimit.toNat) (hsize : inLimit.toNat + 44 < 2 ^ 64)
    (hroom : inLimit.toNat + 44 ≤ outLimit.toNat) :
    encryptCallback aead sessions peers nonce (some p) (some buffers) inLimit outLimit =
      (inLimit + 44,
        encryptedPacket nonce (aead.encrypt session.serverTxKey nonce
          ((concatenation buffers).take inLimit.toNat)).bytes) := by
  have hrequired := toNat_requiredSize hsize
  have hplaintext : ((concatenation buffers).take inLimit.toNat).length = inLimit.toNat :=
    List.length_take_of_le hholds.le_length
  obtain ⟨hcode, _, hlength⟩ := haead.encrypt session.serverTxKey nonce
    ((concatenation buffers).take inLimit.toNat) (by omega)
  have hfits : ¬ encryptedPacketHeaderSize + inLimit + encryptedPacketTagSize > outLimit := by
    rw [gt_iff_lt, UInt64.lt_iff_toNat_lt, hrequired]
    omega
  have hreturned : encryptedPacketHeaderSize + (aead.encrypt session.serverTxKey nonce
      ((concatenation buffers).take inLimit.toNat)).length = inLimit + 44 := by
    have hheader : encryptedPacketHeaderSize.toNat = 28 := rfl
    have hexpansion : (44 : UInt64).toNat = 44 := rfl
    apply UInt64.toNat_inj.mp
    rw [UInt64.toNat_add, UInt64.toNat_add, hheader, hlength, hexpansion, hplaintext]
    omega
  rw [encryptCallback_of_encryptedPeer hpeer, if_neg hfits]
  simp only [copyInBuffersToOutData_of_holdsBytes hholds, ne_eq, not_true_eq_false, if_false, hcode,
    hreturned]
  rfl

/-- What the decrypt callback does with a packet in the format. -/
theorem decryptCallback_eq (hpeer : EncryptedPeer sessions peers p session)
    (hlength : (encryptedPacket nonce ciphertext).length = inLimit.toNat)
    (htag : 16 ≤ ciphertext.length) (hroom : ciphertext.length ≤ outLimit.toNat + 16)
    (hcode : (aead.decrypt session.serverRxKey nonce ciphertext).code = 0) :
    decryptCallback aead sessions peers (some p) inLimit
        (some ⟨encryptedPacket nonce ciphertext, hlength⟩) outLimit =
      ((aead.decrypt session.serverRxKey nonce ciphertext).length,
        (aead.decrypt session.serverRxKey nonce ciphertext).bytes) := by
  obtain ⟨c, hc, hsession, henabled⟩ := hpeer
  have hin : inLimit.toNat = ciphertext.length + 28 := by rw [← hlength, length_encryptedPacket]
  have hminimum : ¬ inLimit < encryptedPacketHeaderSize + encryptedPacketTagSize := by
    rw [UInt64.lt_iff_toNat_lt, hin]
    show ¬ ciphertext.length + 28 < 44
    omega
  have hheader : encryptedPacketHeaderSize.toNat = 28 := rfl
  have htagSize : encryptedPacketTagSize.toNat = 16 := rfl
  have hciphertextLen : (inLimit - encryptedPacketHeaderSize).toNat = ciphertext.length := by
    rw [UInt64.toNat_sub_of_le _ _ (UInt64.le_iff_toNat_le.mpr (by omega))]
    omega
  have hplaintextLen :
      ¬ inLimit - encryptedPacketHeaderSize - encryptedPacketTagSize > outLimit := by
    rw [gt_iff_lt, UInt64.lt_iff_toNat_lt,
      UInt64.toNat_sub_of_le _ _ (UInt64.le_iff_toNat_le.mpr (by omega))]
    omega
  have hmagic : (encryptedPacket nonce ciphertext).take encryptedPacketMagicSize.toNat =
      encryptedPacketMagic := take_encryptedPacket
  have hnonce : toByteArray 24 ((encryptedPacket nonce ciphertext).drop
      encryptedPacketMagicSize.toNat) = nonce := by
    show toByteArray 24 ((encryptedPacket nonce ciphertext).drop 4) = nonce
    rw [drop_magic_encryptedPacket, toByteArray_append]
  have hciphertext : (encryptedPacket nonce ciphertext).drop encryptedPacketHeaderSize.toNat =
      ciphertext := drop_header_encryptedPacket
  simp only [decryptCallback, hc, tryLoadSessionKeyIfEnabled_of_enabled hsession henabled,
    if_neg hminimum, hmagic, ne_eq, not_true_eq_false, if_false, hnonce, hciphertext,
    if_neg hplaintextLen, hcode, Bool.false_eq_true]

/-- A packet that is not rejected is in the format, and its ciphertext authenticates. -/
theorem exists_of_decryptCallback_ne_zero {peer : Option Peer}
    {inData : Option { bytes : List UInt8 // bytes.length = inLimit.toNat }}
    (h : (decryptCallback aead sessions peers peer inLimit inData outLimit).1 ≠ 0) :
    ∃ p session bytes nonce ciphertext, peer = some p ∧ EncryptedPeer sessions peers p session ∧
      inData = some bytes ∧ bytes.val = encryptedPacket nonce ciphertext ∧
      16 ≤ ciphertext.length ∧ ciphertext.length ≤ outLimit.toNat + 16 ∧
      (aead.decrypt session.serverRxKey nonce ciphertext).code = 0 := by
  have hheader : encryptedPacketHeaderSize.toNat = 28 := rfl
  have htagSize : encryptedPacketTagSize.toNat = 16 := rfl
  unfold decryptCallback at h
  split at h
  · exact absurd rfl h
  rename_i c hc
  split at h
  · exact absurd rfl h
  rename_i key hkey
  obtain ⟨p, session, rfl, hpeer, rfl⟩ := exists_encryptedPeer hc hkey
  split at h
  · exact absurd rfl h
  rename_i bytes
  split at h
  · exact absurd rfl h
  rename_i hminimum
  split at h
  · exact absurd rfl h
  rename_i hmagic
  simp only at h
  split at h
  · exact absurd rfl h
  rename_i hplaintextLen
  simp only [Bool.false_eq_true, if_false] at h
  split at h
  · exact absurd rfl h
  rename_i hcode
  have hmin : 44 ≤ inLimit.toNat := UInt64.le_iff_toNat_le.mp (UInt64.not_lt.mp hminimum)
  have hlength := bytes.property
  have hciphertext : (bytes.val.drop 28).length = inLimit.toNat - 28 := by
    rw [List.length_drop, hlength]
  rw [gt_iff_lt, UInt64.lt_iff_toNat_lt,
    UInt64.toNat_sub_of_le _ _ (UInt64.le_iff_toNat_le.mpr _),
    UInt64.toNat_sub_of_le _ _ (UInt64.le_iff_toNat_le.mpr (by omega))] at hplaintextLen
  · refine ⟨p, session, bytes, toByteArray 24 (bytes.val.drop 4), bytes.val.drop 28, rfl, hpeer,
      rfl, eq_encryptedPacket (not_not.mp hmagic) (by omega), by omega, by omega, ?_⟩
    exact not_not.mp hcode
  · rw [UInt64.toNat_sub_of_le _ _ (UInt64.le_iff_toNat_le.mpr (by omega))]
    omega

end Callbacks

-- ============================================================================
-- Round trip and authenticity
-- ============================================================================

/-- A datagram of an encrypted peer comes out of the decrypt callback of a peer that
    receives with the key it was sent with. -/
def RoundTrips (Peer : Type) (aead : Aead) : Prop :=
  ∀ (sessions sessions' : Sessions) (peers peers' : ENetPeers Peer) (p p' : Peer)
    (session session' : ClientSession) (nonce : AeadNonce) (buffers : List ENetBuffer)
    (inLimit outLimit : UInt64),
    EncryptedPeer sessions peers p session → EncryptedPeer sessions' peers' p' session' →
    session'.serverRxKey = session.serverTxKey →
    (∀ buffer ∈ buffers, buffer.data.isSome) →
    inLimit.toNat ≤ (concatenation buffers).length →
    1 ≤ inLimit.toNat → inLimit.toNat + 44 < 2 ^ 64 → inLimit.toNat + 44 ≤ outLimit.toNat →
    let sent := ServerNetworkEncryption.encryptCallback aead sessions peers nonce (some p)
      (some buffers) inLimit outLimit
    sent.1.toNat = inLimit.toNat + 44 ∧
    sent.2.length = sent.1.toNat ∧
    ∀ (received : { bytes : List UInt8 // bytes.length = sent.1.toNat }) (outLimit' : UInt64),
      received.val = sent.2 → inLimit ≤ outLimit' →
      ServerNetworkEncryption.decryptCallback aead sessions' peers' (some p') sent.1
          (some received) outLimit' =
        (inLimit, (concatenation buffers).take inLimit.toNat)

/-- What the decrypt callback lets through comes from a peer whose encryption is enabled,
    is magic, nonce and a ciphertext that authenticates under its key, and none of the
    sizes it was measured with has wrapped. -/
def AcceptsAuthenticOnly (Peer : Type) (aead : Aead) : Prop :=
  ∀ (sessions : Sessions) (peers : ENetPeers Peer) (peer : Option Peer) (inLimit outLimit : UInt64)
    (inData : Option { bytes : List UInt8 // bytes.length = inLimit.toNat }),
    let received := ServerNetworkEncryption.decryptCallback aead sessions peers peer inLimit inData
      outLimit
    received.1 ≠ 0 →
    ∃ p session bytes nonce ciphertext, peer = some p ∧ EncryptedPeer sessions peers p session ∧
      inData = some bytes ∧ bytes.val = encryptedPacketMagic ++ (nonce.toList ++ ciphertext) ∧
      (aead.decrypt session.serverRxKey nonce ciphertext).code = 0 ∧
      received.2 = (aead.decrypt session.serverRxKey nonce ciphertext).bytes ∧
      received.2.length = received.1.toNat ∧
      received.1.toNat + 44 = inLimit.toNat ∧ received.1 ≤ outLimit ∧
      encryptedPacketHeaderSize ≤ inLimit ∧
      encryptedPacketTagSize ≤ inLimit - encryptedPacketHeaderSize

theorem roundTrips_of_lawful (Peer : Type) {aead : Aead} (haead : aead.Lawful) :
    RoundTrips Peer aead := by
  intro sessions sessions' peers peers' p p' session session' nonce buffers inLimit outLimit hpeer
    hpeer' hkey hdata htotal _ hsize hroom sent
  have hholds : HoldsBytes buffers inLimit.toNat :=
    holdsBytes_of_readable (fun buffer hbuffer => Or.inr (hdata buffer hbuffer)) htotal
  have hplaintext : ((concatenation buffers).take inLimit.toNat).length = inLimit.toNat :=
    List.length_take_of_le htotal
  obtain ⟨_, hlength, _⟩ := haead.encrypt session.serverTxKey nonce
    ((concatenation buffers).take inLimit.toNat) (by omega)
  obtain ⟨hcode, hbytes⟩ := haead.decrypt_encrypt session.serverTxKey nonce
    ((concatenation buffers).take inLimit.toNat) (by omega)
  have hdecrypted := (haead.decrypt_length _ _ _ hcode).2
  have hsent : sent = _ := encryptCallback_eq nonce haead hpeer hholds hsize hroom
  clear_value sent
  subst hsent
  have hsum : (inLimit + 44).toNat = inLimit.toNat + 44 := by
    rw [UInt64.toNat_add]
    show (inLimit.toNat + 44) % 2 ^ 64 = _
    omega
  refine ⟨hsum, ?_, ?_⟩
  · rw [length_encryptedPacket, hlength, hplaintext, hsum]
  · rintro ⟨received, hreceived⟩ outLimit' rfl hlimit
    have hlimit' := UInt64.le_iff_toNat_le.mp hlimit
    rw [← hkey] at hcode hbytes hlength hdecrypted
    have hreturned : (aead.decrypt session'.serverRxKey nonce
        (aead.encrypt session'.serverRxKey nonce
          ((concatenation buffers).take inLimit.toNat)).bytes).length = inLimit := by
      apply UInt64.toNat_inj.mp
      omega
    simp only [← hkey]
    rw [decryptCallback_eq hpeer' _ (by omega) (by omega) hcode, hreturned, hbytes]

theorem acceptsAuthenticOnly_of_lawful (Peer : Type) {aead : Aead} (haead : aead.Lawful) :
    AcceptsAuthenticOnly Peer aead := by
  intro sessions peers peer inLimit outLimit inData received hreceived
  obtain ⟨p, session, bytes, nonce, ciphertext, rfl, hpeer, rfl, hbytes, htag, hroom, hcode⟩ :=
    exists_of_decryptCallback_ne_zero hreceived
  obtain ⟨bytes, hlength⟩ := bytes
  obtain rfl : bytes = encryptedPacket nonce ciphertext := hbytes
  obtain ⟨hplaintext, hreturned⟩ := haead.decrypt_length _ _ _ hcode
  have hin : inLimit.toNat = ciphertext.length + 28 := by rw [← hlength, length_encryptedPacket]
  have heq : received = _ := decryptCallback_eq hpeer hlength htag hroom hcode
  have hheader : encryptedPacketHeaderSize.toNat = 28 := rfl
  have htagSize : encryptedPacketTagSize.toNat = 16 := rfl
  have hfirst : encryptedPacketHeaderSize ≤ inLimit := UInt64.le_iff_toNat_le.mpr (by omega)
  have hsecond : encryptedPacketTagSize ≤ inLimit - encryptedPacketHeaderSize := by
    rw [UInt64.le_iff_toNat_le, UInt64.toNat_sub_of_le _ _ hfirst]
    omega
  clear_value received
  subst heq
  refine ⟨p, session, _, nonce, ciphertext, rfl, hpeer, rfl, rfl, hcode, rfl, ?_, ?_, ?_, hfirst,
    hsecond⟩
  · show (aead.decrypt session.serverRxKey nonce ciphertext).bytes.length =
      (aead.decrypt session.serverRxKey nonce ciphertext).length.toNat
    omega
  · show (aead.decrypt session.serverRxKey nonce ciphertext).length.toNat + 44 = _
    omega
  · apply UInt64.le_iff_toNat_le.mpr
    show (aead.decrypt session.serverRxKey nonce ciphertext).length.toNat ≤ _
    omega

/-- Under the documented behaviour of the cipher, both hold. -/
theorem packet_encryption_round_trips (Peer : Type) {aead : Aead} (haead : aead.Lawful) :
    RoundTrips Peer aead ∧ AcceptsAuthenticOnly Peer aead :=
  ⟨roundTrips_of_lawful Peer haead, acceptsAuthenticOnly_of_lawful Peer haead⟩

-- ============================================================================
-- A concrete cipher
-- ============================================================================

/-- A cipher that only adds a tag of zeros, and checks it. -/
def taggingAead : Aead where
  encrypt := fun _ _ plaintext =>
    { code := 0
      bytes := plaintext ++ List.replicate 16 0
      length := UInt64.ofNat (plaintext.length + 16) }
  decrypt := fun _ _ ciphertext =>
    let plaintext := ciphertext.take (ciphertext.length - 16)
    if plaintext ++ List.replicate 16 0 = ciphertext ∧ ciphertext.length < 2 ^ 64 then
      { code := 0, bytes := plaintext, length := UInt64.ofNat plaintext.length }
    else { code := -1, bytes := [], length := 0 }

theorem taggingAead_lawful : taggingAead.Lawful where
  encrypt := by
    intro key nonce plaintext hlength
    refine ⟨rfl, ?_, ?_⟩
    · simp [taggingAead]
    · show (UInt64.ofNat (plaintext.length + 16)).toNat = _
      rw [UInt64.toNat_ofNat']
      omega
  decrypt_encrypt := by
    intro key nonce plaintext hlength
    have htake : (plaintext ++ List.replicate 16 (0 : UInt8)).take
        ((plaintext ++ List.replicate 16 (0 : UInt8)).length - 16) = plaintext := by
      refine List.take_left' ?_
      rw [List.length_append, List.length_replicate]
      omega
    have hfits : (plaintext ++ List.replicate 16 (0 : UInt8)).length < 2 ^ 64 := by
      rw [List.length_append, List.length_replicate]
      exact hlength
    simp only [taggingAead, htake, hfits, and_self, if_true]
  decrypt_length := by
    intro key nonce ciphertext hcode
    simp only [taggingAead] at hcode ⊢
    split at hcode
    · rename_i h
      have hlength := congrArg List.length h.1
      rw [List.length_append, List.length_replicate] at hlength
      rw [if_pos h]
      refine ⟨hlength, ?_⟩
      show (UInt64.ofNat _).toNat + 16 = _
      rw [UInt64.toNat_ofNat']
      omega
    · cases hcode

/-- A session whose encryption is enabled. -/
def encryptedSession : ClientSession where
  connectionId := 1
  isTransportConnected := true
  isSecureSessionEstablished := true
  isPacketEncryptionEnabled := true

def encryptedSessions : Sessions := (∅ : Sessions).insert 1 encryptedSession

/-- The single slot carries its id. -/
def encryptedPeers : ENetPeers Unit := fun _ => { data := dataOfConnectionId 1 }

theorem encryptedPeers_encrypted :
    EncryptedPeer encryptedSessions encryptedPeers () encryptedSession :=
  ⟨1, by decide, by decide, rfl⟩

/-- Three bytes in two fragments, with an empty one between them. -/
def threeBytes : List ENetBuffer :=
  [{ dataLength := 2, data := some ⟨[5, 6], rfl⟩ }, { dataLength := 0, data := some ⟨[], rfl⟩ },
    { dataLength := 1, data := some ⟨[7], rfl⟩ }]

/-- They are received as they were sent. -/
theorem threeBytes_received :
    let sent := ServerNetworkEncryption.encryptCallback taggingAead encryptedSessions encryptedPeers
      (Vector.replicate 24 9) (some ()) (some threeBytes) 3 47
    sent.1.toNat = 47 ∧ ∀ received : { bytes : List UInt8 // bytes.length = sent.1.toNat },
      received.val = sent.2 →
      ServerNetworkEncryption.decryptCallback taggingAead encryptedSessions encryptedPeers (some ())
        sent.1 (some received) 3 = (3, [5, 6, 7]) := by
  have h := (packet_encryption_round_trips Unit taggingAead_lawful).1 encryptedSessions
    encryptedSessions encryptedPeers encryptedPeers () () encryptedSession encryptedSession
    (Vector.replicate 24 9) threeBytes 3 47 encryptedPeers_encrypted encryptedPeers_encrypted rfl
    (by decide) (by decide) (by decide) (by decide) (by decide)
  exact ⟨h.1, fun received hreceived => h.2.2 received 3 hreceived (UInt64.le_refl 3)⟩

end RcnetServer
