/-
  RcnetServer.Network.Encryption

  The encryptor ENet calls for every datagram of a host (network/transport/encryption):
  which session key the two callbacks use, what they write and what they return.

  libsodium is not part of the sources: its XChaCha20-Poly1305 is a parameter, and so
  are the random bytes of a nonce.
-/

import RcnetServer.Network.Fragments
import RcnetServer.Network.Host
import RcnetServer.Network.PacketCodec

namespace RcnetServer

/-- `ServerNetworkEncryption_TryLoadSessionKeyIfEnabled`: `none` is the `false`
    on which the encrypt callback leaves the datagram in clear. -/
def ServerNetworkEncryption.tryLoadSessionKeyIfEnabled (sessions : Sessions)
    (connectionId : ConnectionId) (forOutgoingEncryption : Bool) : Option SessionKey :=
  match sessions.lookup connectionId with
  | none => none
  | some session =>
      if !session.isPacketEncryptionEnabled then none
      else some (if forOutgoingEncryption then session.serverTxKey else session.serverRxKey)

/-- A key is loaded exactly from a session with encryption enabled. -/
theorem ServerNetworkEncryption.tryLoadSessionKeyIfEnabled_of_enabled {sessions : Sessions}
    {c : ConnectionId} {s : ClientSession} (h : sessions.lookup c = some s)
    (he : s.isPacketEncryptionEnabled = true) (forOutgoingEncryption : Bool) :
    ServerNetworkEncryption.tryLoadSessionKeyIfEnabled sessions c forOutgoingEncryption =
      some (if forOutgoingEncryption then s.serverTxKey else s.serverRxKey) := by
  simp [ServerNetworkEncryption.tryLoadSessionKeyIfEnabled, h, he]

/-- And from no other. -/
theorem ServerNetworkEncryption.tryLoadSessionKeyIfEnabled_eq_some {sessions : Sessions}
    {c : ConnectionId} {forOutgoingEncryption : Bool} {key : SessionKey}
    (h : ServerNetworkEncryption.tryLoadSessionKeyIfEnabled sessions c forOutgoingEncryption =
      some key) :
    ∃ s, sessions.lookup c = some s ∧ s.isPacketEncryptionEnabled = true ∧
      key = if forOutgoingEncryption then s.serverTxKey else s.serverRxKey := by
  unfold ServerNetworkEncryption.tryLoadSessionKeyIfEnabled at h
  split at h
  · cases h
  · rename_i s hsession
    split at h
    · cases h
    · rename_i henabled
      exact ⟨s, hsession, by simpa using henabled, (Option.some.inj h).symm⟩

-- ============================================================================
-- XChaCha20-Poly1305
-- ============================================================================

/-- A nonce, `crypto_aead_xchacha20poly1305_ietf_NPUBBYTES` bytes. -/
abbrev AeadNonce := Vector UInt8 24

/-- What one call of the cipher yields: its return code, the bytes it wrote and the
    length it reported. -/
structure AeadResult where
  code : Int
  bytes : List UInt8
  length : UInt64

/-- `crypto_aead_xchacha20poly1305_ietf_encrypt` and `_decrypt`, without associated
    data. -/
structure Aead where
  encrypt : SessionKey → AeadNonce → List UInt8 → AeadResult
  decrypt : SessionKey → AeadNonce → List UInt8 → AeadResult

-- ============================================================================
-- The callbacks
-- ============================================================================

/-- `kEncryptedPacketMagic`, the four characters RCN1. -/
def encryptedPacketMagic : List UInt8 := [82, 67, 78, 49]

def encryptedPacketMagicSize : UInt64 := 4
def encryptedPacketNonceSize : UInt64 := 24
def encryptedPacketTagSize : UInt64 := 16

/-- `kEncryptedPacketHeaderSize`. -/
def encryptedPacketHeaderSize : UInt64 := encryptedPacketMagicSize + encryptedPacketNonceSize

namespace ServerNetworkEncryption

/-- `ServerNetworkEncryption_CopyInBuffersToOutData`: the value returned and the output. -/
def copyInBuffersToOutData (inBuffers : Option (List ENetBuffer)) (inLimit : UInt64)
    (outData : Option (List UInt8)) (outLimit : UInt64) : UInt64 × List UInt8 :=
  match inBuffers, outData with
  | some buffers, some out =>
      if inLimit > outLimit then (0, out)
      else
        match copyFragments inLimit buffers 0 out with
        | (none, out) => (0, out)
        | (some copied, out) => (if copied = inLimit then copied else 0, out)
  | _, out => (0, out.getD [])

variable {Peer : Type}

/-- `ServerNetworkEncryption_EncryptCallback`: the value returned, 0 for a datagram ENet
    sends in clear, and what has been written at `outData`. -/
def encryptCallback (aead : Aead) (sessions : Sessions) (peers : ENetPeers Peer)
    (randomNonce : AeadNonce) (peer : Option Peer) (inBuffers : Option (List ENetBuffer))
    (inLimit outLimit : UInt64) : UInt64 × List UInt8 :=
  match tryGetConnectionIdFromPeer peers peer with
  | none => (0, [])
  | some connectionId =>
      match tryLoadSessionKeyIfEnabled sessions connectionId true with
      | none => (0, [])
      | some txKey =>
          let requiredSize := encryptedPacketHeaderSize + inLimit + encryptedPacketTagSize
          if requiredSize > outLimit then (0, [])
          else
            let plaintext :=
              copyInBuffersToOutData inBuffers inLimit (some (List.replicate inLimit.toNat 0))
                inLimit
            if plaintext.1 ≠ inLimit then (0, [])
            else
              let result := aead.encrypt txKey randomNonce plaintext.2
              let written := encryptedPacketMagic ++ (randomNonce.toList ++ result.bytes)
              -- a failure is reported to ENet with the value that means "in clear"
              if result.code ≠ 0 then (0, written)
              else (encryptedPacketHeaderSize + result.length, written)

/-- `ServerNetworkEncryption_DecryptCallback`: the value returned, 0 for a datagram that
    is rejected, and what has been written at `outData`. -/
def decryptCallback (aead : Aead) (sessions : Sessions) (peers : ENetPeers Peer)
    (peer : Option Peer) (inLimit : UInt64)
    (inData : Option { bytes : List UInt8 // bytes.length = inLimit.toNat })
    (outLimit : UInt64) : UInt64 × List UInt8 :=
  match tryGetConnectionIdFromPeer peers peer with
  | none => (0, [])
  | some connectionId =>
      match tryLoadSessionKeyIfEnabled sessions connectionId false with
      | none => (0, [])
      | some rxKey =>
          match inData with
          | none => (0, [])
          | some inData =>
              if inLimit < encryptedPacketHeaderSize + encryptedPacketTagSize then (0, [])
              else if inData.val.take encryptedPacketMagicSize.toNat ≠ encryptedPacketMagic then
                (0, [])
              else
                let nonce := toByteArray 24 (inData.val.drop encryptedPacketMagicSize.toNat)
                let ciphertext := inData.val.drop encryptedPacketHeaderSize.toNat
                let ciphertextLen := inLimit - encryptedPacketHeaderSize
                let maximumPlaintextLen := ciphertextLen - encryptedPacketTagSize
                if maximumPlaintextLen > outLimit then (0, [])
                else
                  let result := aead.decrypt rxKey nonce ciphertext
                  if result.code ≠ 0 then (0, result.bytes) else (result.length, result.bytes)

end ServerNetworkEncryption

-- ============================================================================
-- Peers whose packets are encrypted
-- ============================================================================

/-- Slot `p` carries the id of `session`, and its packet encryption is enabled. -/
def EncryptedPeer {Peer : Type} (sessions : Sessions) (peers : ENetPeers Peer) (p : Peer)
    (session : ClientSession) : Prop :=
  ∃ c, tryGetConnectionIdFromPeer peers (some p) = some c ∧ sessions.lookup c = some session ∧
    session.isPacketEncryptionEnabled = true

namespace ServerNetworkEncryption

section Callbacks

variable {Peer : Type} {aead : Aead} {sessions : Sessions} {peers : ENetPeers Peer} {p : Peer}
  {session : ClientSession} {nonce : AeadNonce} {buffers : List ENetBuffer}
  {inBuffers : Option (List ENetBuffer)} {inLimit outLimit : UInt64}

/-- A key is loaded for an encrypted peer only. -/
theorem exists_encryptedPeer {peer : Option Peer} {c : ConnectionId} {outgoing : Bool}
    {key : SessionKey} (hc : tryGetConnectionIdFromPeer peers peer = some c)
    (hkey : tryLoadSessionKeyIfEnabled sessions c outgoing = some key) :
    ∃ p session, peer = some p ∧ EncryptedPeer sessions peers p session ∧
      key = if outgoing then session.serverTxKey else session.serverRxKey := by
  cases peer with
  | none => cases hc
  | some p =>
      obtain ⟨session, hsession, henabled, hloaded⟩ := tryLoadSessionKeyIfEnabled_eq_some hkey
      exact ⟨p, session, rfl, ⟨c, hc, hsession, henabled⟩, hloaded⟩

/-- With room for the datagram, the loop is all the function does. -/
theorem copyInBuffersToOutData_eq {buffers : List ENetBuffer} {out : List UInt8}
    (hlimit : inLimit ≤ outLimit) :
    copyInBuffersToOutData (some buffers) inLimit (some out) outLimit =
      (if (copyFragments inLimit buffers 0 out).1 = some inLimit then inLimit else 0,
        (copyFragments inLimit buffers 0 out).2) := by
  simp only [copyInBuffersToOutData, gt_iff_lt, if_neg (UInt64.not_lt.mpr hlimit)]
  generalize copyFragments inLimit buffers 0 out = result
  obtain ⟨_ | copied, out⟩ := result
  · simp
  · by_cases hall : copied = inLimit
    · simp [hall]
    · simp [hall]

/-- Fragments that hold the datagram are copied whole. -/
theorem copyInBuffersToOutData_of_holdsBytes (h : HoldsBytes buffers inLimit.toNat) :
    copyInBuffersToOutData (some buffers) inLimit (some (List.replicate inLimit.toNat 0))
        inLimit =
      (inLimit, (concatenation buffers).take inLimit.toNat) := by
  rw [copyInBuffersToOutData_eq (UInt64.le_refl _), copyFragments_fresh h, if_pos rfl]

/-- Others are not. -/
theorem copyInBuffersToOutData_of_not_holdsBytes (hpositive : inLimit ≠ 0)
    (h : ¬ ∃ buffers, inBuffers = some buffers ∧ HoldsBytes buffers inLimit.toNat)
    (out : List UInt8) :
    (copyInBuffersToOutData inBuffers inLimit (some out) inLimit).1 ≠ inLimit := by
  cases inBuffers with
  | none => exact Ne.symm hpositive
  | some buffers =>
      have hcopy : (copyFragments inLimit buffers 0 out).1 ≠ some inLimit :=
        copyFragments_of_not_holdsBytes (UInt64.le_iff_toNat_le.mpr (Nat.zero_le _))
          fun hholds => h ⟨buffers, rfl, hholds⟩
      rw [copyInBuffersToOutData_eq (UInt64.le_refl _), if_neg hcopy]
      exact Ne.symm hpositive

/-- What the encrypt callback does with a datagram of an encrypted peer: it gives up, or
    hands the whole datagram to the cipher. -/
theorem encryptCallback_of_encryptedPeer (hpeer : EncryptedPeer sessions peers p session) :
    encryptCallback aead sessions peers nonce (some p) inBuffers inLimit outLimit =
      if encryptedPacketHeaderSize + inLimit + encryptedPacketTagSize > outLimit then (0, [])
      else
        let plaintext :=
          copyInBuffersToOutData inBuffers inLimit (some (List.replicate inLimit.toNat 0)) inLimit
        if plaintext.1 ≠ inLimit then (0, [])
        else
          let result := aead.encrypt session.serverTxKey nonce plaintext.2
          let written := encryptedPacketMagic ++ (nonce.toList ++ result.bytes)
          if result.code ≠ 0 then (0, written)
          else (encryptedPacketHeaderSize + result.length, written) := by
  obtain ⟨c, hc, hsession, henabled⟩ := hpeer
  simp only [encryptCallback, hc, tryLoadSessionKeyIfEnabled_of_enabled hsession henabled, if_true]

end Callbacks

end ServerNetworkEncryption

end RcnetServer
