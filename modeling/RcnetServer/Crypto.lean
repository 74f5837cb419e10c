/-
  RcnetServer.Crypto

  Key exchange and attestation signing (crypto/kx, crypto/signing).

  libsodium is not part of the sources: `crypto_kx_server_session_keys` is a
  parameter (a function, as X25519 key derivation is), and so is what
  `crypto_sign_detached` returns at a call.
-/

import RcnetServer.Network.Packets

namespace RcnetServer

/-- `crypto_kx_server_session_keys(rx, tx, server_pk, server_sk, client_pk)`:
    the derived `(rx, tx)` pair, or `none` when it returns a non-zero code. -/
abbrev KxServerSessionKeys :=
  KxPublicKey → Vector UInt8 32 → KxPublicKey → Option (SessionKey × SessionKey)

/-- `ServerCryptoKxState`. -/
structure ServerCryptoKxState where
  serverPublicKey : KxPublicKey
  serverSecretKey : Vector UInt8 32

/-- `ServerCryptoKx_ComputeSessionKeys`: the `(rx, tx)` pair, `none` for `false`. -/
def ServerCryptoKx.computeSessionKeys (kx : KxServerSessionKeys) (state : ServerCryptoKxState)
    (clientPublicKey : KxPublicKey) : Option (SessionKey × SessionKey) :=
  kx state.serverPublicKey state.serverSecretKey clientPublicKey

/-- What one call of `crypto_sign_detached` yields: its return code, the
    signature buffer and the reported signature length. -/
structure SignDetachedResult where
  code : Int
  signature : Signature
  signatureLength : UInt64

/-- `crypto_sign_detached(message, secret key)`. -/
abbrev SignDetached := List UInt8 → Vector UInt8 64 → SignDetachedResult

/-- `ServerCryptoSigningState`; only the secret key is read after start-up. -/
structure ServerCryptoSigningState where
  identitySecretKey : Vector UInt8 64

/-- `ServerCryptoSigningSecureSessionPayload`. -/
structure ServerCryptoSigningSecureSessionPayload where
  serverKxPublicKey : KxPublicKey
  issuedAtUnixSeconds : UInt64
  expiresAtUnixSeconds : UInt64
  clientNonceEcho : ClientNonce

/-- `kSecureSessionSigningDomain`, without its terminating zero. -/
def secureSessionSigningDomain : List UInt8 :=
  ['S', 'E', 'R', 'V', 'E', 'R', '_', 'E', 'D', '2', '5', '5', '1', '9', '_',
    'D', 'O', 'M', 'A', 'I', 'N', '_', 'S', 'E', 'C', 'U', 'R', 'E', '_',
    'S', 'E', 'S', 'S', 'I', 'O', 'N', '_', 'A', 'T', 'T', 'E', 'S', 'T', 'A', 'T', 'I', 'O', 'N',
    '_', 'V', '1'].map fun c => UInt8.ofNat c.toNat

/-- `ServerCryptoSigning_WriteU64Be`. -/
def ServerCryptoSigning.writeU64Be (value : UInt64) : List UInt8 :=
  [((value >>> 56) &&& 0xFF).toUInt8, ((value >>> 48) &&& 0xFF).toUInt8,
    ((value >>> 40) &&& 0xFF).toUInt8, ((value >>> 32) &&& 0xFF).toUInt8,
    ((value >>> 24) &&& 0xFF).toUInt8, ((value >>> 16) &&& 0xFF).toUInt8,
    ((value >>> 8) &&& 0xFF).toUInt8, (value &&& 0xFF).toUInt8]

/-- `ServerCryptoSigning_BuildSecureSessionMessage`. -/
def ServerCryptoSigning.buildSecureSessionMessage
    (payload : ServerCryptoSigningSecureSessionPayload) : List UInt8 :=
  secureSessionSigningDomain ++ payload.serverKxPublicKey.toList ++
    ServerCryptoSigning.writeU64Be payload.issuedAtUnixSeconds ++
    ServerCryptoSigning.writeU64Be payload.expiresAtUnixSeconds ++
    payload.clientNonceEcho.toList

/-- `ServerCryptoSigning_SignSecureSessionPayload`: whether signing succeeded and
    the content of the output signature buffer. -/
def ServerCryptoSigning.signSecureSessionPayload (sign : SignDetached)
    (state : ServerCryptoSigningState) (payload : ServerCryptoSigningSecureSessionPayload) :
    Bool × Signature :=
  let message := ServerCryptoSigning.buildSecureSessionMessage payload
  let result := sign message state.identitySecretKey
  (result.code = 0 && result.signatureLength = 64, result.signature)

end RcnetServer
