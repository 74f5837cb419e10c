/-
  RcnetServer.Properties.EncryptionFailures

  When the encrypt callback leaves a datagram of an encrypted peer in clear.

  The callback has one value, 0, for "encryption is not enabled yet" and for every
  failure, and ENet sends the datagram in clear on it.  So an encrypted peer's
  datagram is encrypted exactly when nothing fails.
-/

import RcnetServer.Properties.PacketEncryption

namespace RcnetServer

section Failures

open ServerNetworkEncryption

variable {Peer : Type} {aead : Aead} {sessions : Sessions} {peers : ENetPeers Peer} {p : Peer}
  {session : ClientSession} {nonce : AeadNonce} {inBuffers : Option (List ENetBuffer)}
  {inLimit outLimit : UInt64}

/-- The output has room, the fragments hold the datagram, and the cipher succeeds with a
    length that does not make the sum wrap to 0. -/
def EncryptionSucceeds (aead : Aead) (txKey : SessionKey) (nonce : AeadNonce)
    (inBuffers : Option (List ENetBuffer)) (inLimit outLimit : UInt64) : Prop :=
  encryptedPacketHeaderSize + inLimit + encryptedPacketTagSize ≤ outLimit ∧
  ∃ buffers, inBuffers = some buffers ∧ HoldsBytes buffers inLimit.toNat ∧
    (aead.encrypt txKey nonce ((concatenation buffers).take inLimit.toNat)).code = 0 ∧
    encryptedPacketHeaderSize +
      (aead.encrypt txKey nonce ((concatenation buffers).take inLimit.toNat)).length ≠ 0

/-- Exactly then the callback does not return 0, the value that means "in clear". -/
theorem encrypted_peer_not_in_clear_iff (hpeer : EncryptedPeer sessions peers p session)
    (hlimit : 1 ≤ inLimit.toNat) :
    (encryptCallback aead sessions peers nonce (some p) inBuffers inLimit outLimit).1 ≠ 0 ↔
      EncryptionSucceeds aead session.serverTxKey nonce inBuffers inLimit outLimit := by
  have hpositive : inLimit ≠ 0 := by
    rintro rfl
    exact absurd hlimit (by decide)
  rw [encryptCallback_of_encryptedPeer hpeer, EncryptionSucceeds]
  by_cases hroom : encryptedPacketHeaderSize + inLimit + encryptedPacketTagSize > outLimit
  · rw [if_pos hroom]
    refine ⟨fun h => absurd rfl h, fun h => ?_⟩
    exact absurd h.1 (UInt64.not_le.mpr hroom)
  rw [if_neg hroom]
  by_cases hholds : ∃ buffers, inBuffers = some buffers ∧ HoldsBytes buffers inLimit.toNat
  · obtain ⟨buffers, rfl, hholds⟩ := hholds
    simp only [copyInBuffersToOutData_of_holdsBytes hholds, ne_eq, not_true_eq_false, if_false]
    constructor
    · intro h
      split at h
      · exact absurd rfl h
      · rename_i hcode
        exact ⟨UInt64.not_lt.mp hroom, buffers, rfl, hholds, not_not.mp hcode, h⟩
    · rintro ⟨_, _, hbuffers, _, hcode, hlength⟩
      obtain rfl := Option.some.inj hbuffers
      rw [if_neg (not_not.mpr hcode)]
      exact hlength
  · have hcopied := copyInBuffersToOutData_of_not_holdsBytes hpositive hholds
      (List.replicate inLimit.toNat 0)
    simp only [if_pos hcopied]
    refine ⟨fun h => absurd rfl h, ?_⟩
    rintro ⟨_, buffers, hbuffers, hbuffersHold, _⟩
    exact absurd ⟨buffers, hbuffers, hbuffersHold⟩ hholds

end Failures

/-- Three bytes for which there is room are not sent in clear. -/
theorem threeBytes_not_in_clear :
    (ServerNetworkEncryption.encryptCallback taggingAead encryptedSessions encryptedPeers
      (Vector.replicate 24 9) (some ()) (some threeBytes) 3 47).1 ≠ 0 := by
  have hholds : HoldsBytes threeBytes (3 : UInt64).toNat :=
    ⟨threeBytes, List.prefix_refl _, fun buffer hbuffer => Or.inr (by
      revert buffer
      decide), by decide⟩
  exact (encrypted_peer_not_in_clear_iff encryptedPeers_encrypted (by decide)).mpr
    ⟨by decide, threeBytes, rfl, hholds, rfl, by decide⟩

/-- The same datagram with room for one byte less is sent in clear, although the peer is
    encrypted. -/
theorem threeBytes_in_clear :
    ¬ ∀ (aead : Aead) (sessions : Sessions) (peers : ENetPeers Unit) (nonce : AeadNonce)
      (p : Unit) (session : ClientSession) (inBuffers : Option (List ENetBuffer))
      (inLimit outLimit : UInt64),
      EncryptedPeer sessions peers p session → 1 ≤ inLimit.toNat →
      (ServerNetworkEncryption.encryptCallback aead sessions peers nonce (some p) inBuffers inLimit
        outLimit).1 ≠ 0 := by
  intro hclaim
  have hsent := hclaim taggingAead encryptedSessions encryptedPeers (Vector.replicate 24 9) ()
    encryptedSession (some threeBytes) 3 46 encryptedPeers_encrypted (by decide)
  exact hsent (by decide)

end RcnetServer
