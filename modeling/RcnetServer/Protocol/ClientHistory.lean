/-
  RcnetServer.Protocol.ClientHistory

  What a session says about its client, as a function of what was handled for it.

  The simulation thread keeps one record a client and overwrites it message by
  message.  Here the messages are kept instead: a history only grows, and the
  record is read off it.  The key pair is that of the last hello which keys could
  be derived from, provided that hello was answered with SUCCESS; the account is
  the one of the last favourable verdict; the pending inputs are the inputs with a
  number other than 0.
-/

import RcnetServer.State

namespace RcnetServer

/-- What has been handled for a connection since its CONNECT. -/
structure ClientHistory where
  /-- The hellos, each with whether it was answered with SUCCESS. -/
  hellos : List (ClientSecureSessionHelloPacketReliable × Bool) := []
  authPackets : List ClientAuthPacketReliable := []
  verdicts : List AuthTokenVerificationHTTPResponse := []
  inputs : List ClientInputPacketUnreliable := []
  readies : Nat := 0

namespace ClientHistory

-- ============================================================================
-- Growth
-- ============================================================================

/-- One more hello. -/
def withHello (h : ClientHistory) (hello : ClientSecureSessionHelloPacketReliable)
    (accepted : Bool) : ClientHistory :=
  { h with hellos := h.hellos ++ [(hello, accepted)] }

/-- One more auth packet. -/
def withAuthPacket (h : ClientHistory) (packet : ClientAuthPacketReliable) : ClientHistory :=
  { h with authPackets := h.authPackets ++ [packet] }

/-- One more verdict of the backend. -/
def withVerdict (h : ClientHistory) (verdict : AuthTokenVerificationHTTPResponse) :
    ClientHistory :=
  { h with verdicts := h.verdicts ++ [verdict] }

/-- One more input. -/
def withInput (h : ClientHistory) (packet : ClientInputPacketUnreliable) : ClientHistory :=
  { h with inputs := h.inputs ++ [packet] }

/-- One more READY. -/
def withReady (h : ClientHistory) : ClientHistory :=
  { h with readies := h.readies + 1 }

-- ============================================================================
-- The record
-- ============================================================================

variable (deriveKeys : KxPublicKey → Option (SessionKey × SessionKey)) (h : ClientHistory)

/-- What a hello does to the session keys: `none` when no keys can be derived, else
    the keys it leaves, if any. -/
def keyChange (attempt : ClientSecureSessionHelloPacketReliable × Bool) :
    Option (Option (SessionKey × SessionKey)) :=
  (deriveKeys attempt.1.clientPublicKey).map fun keys => if attempt.2 then some keys else none

/-- The pair `(rx, tx)` in use. -/
def sessionKeys : Option (SessionKey × SessionKey) :=
  (h.hellos.filterMap (keyChange deriveKeys)).getLast?.join

/-- Where the authentication stands. -/
def authStatus : AuthStatus :=
  match h.verdicts.getLast? with
  | some verdict => if verdict.isValid then .valid else .invalid
  | none => if h.authPackets.isEmpty then .none else .waitingAuth

/-- The text of the last verdict, when it was a refusal. -/
def authErrorMessage : String :=
  match h.verdicts.getLast? with
  | some verdict => if verdict.isValid then "" else verdict.errorMessage
  | none => ""

/-- The account the backend gave. -/
def account : UInt64 × String :=
  match (h.verdicts.filter (·.isValid)).getLast? with
  | some verdict => (verdict.accountIdDatabase, verdict.accountUsernameDatabase)
  | none => (0, "")

/-- The session of connection `c`, as far as the simulation thread writes it. -/
def session (c : ConnectionId) : ClientSession where
  clientPublicKey :=
    (h.hellos.getLast?.map (·.1.clientPublicKey)).getD (Vector.replicate 32 0)
  serverRxKey := ((h.sessionKeys deriveKeys).map Prod.fst).getD (Vector.replicate 32 0)
  serverTxKey := ((h.sessionKeys deriveKeys).map Prod.snd).getD (Vector.replicate 32 0)
  authStatus := h.authStatus
  authErrorMessage := h.authErrorMessage
  isTransportConnected := true
  isSecureSessionEstablished := (h.sessionKeys deriveKeys).isSome
  isReadyForMatch := h.readies != 0
  accountIdDatabase := h.account.1
  accountUsernameDatabase := h.account.2
  connectionId := c
  latestReceivedInputPacket := h.inputs.getLast?.getD {}
  pendingInputPacketsQueue := h.inputs.filter fun packet => decide (0 < packet.inputSequenceNumber)
  clientLastAckedSnapshotId := (h.inputs.getLast?.map (·.lastReceivedSnapshotId)).getD 0

-- ============================================================================
-- The record as the history grows
-- ============================================================================

variable (c : ConnectionId)

/-- A hello without keys leaves the keys in use. -/
theorem sessionKeys_withHello_of_none {hello : ClientSecureSessionHelloPacketReliable}
    (hkeys : deriveKeys hello.clientPublicKey = none) (accepted : Bool) :
    (h.withHello hello accepted).sessionKeys deriveKeys = h.sessionKeys deriveKeys := by
  simp [sessionKeys, withHello, keyChange, hkeys]

/-- Any other hello decides alone. -/
theorem sessionKeys_withHello_of_some {hello : ClientSecureSessionHelloPacketReliable}
    {keys : SessionKey × SessionKey} (hkeys : deriveKeys hello.clientPublicKey = some keys)
    (accepted : Bool) :
    (h.withHello hello accepted).sessionKeys deriveKeys =
      if accepted then some keys else none := by
  simp [sessionKeys, withHello, keyChange, hkeys]

/-- A hello writes the client's key and the session keys. -/
theorem session_withHello (hello : ClientSecureSessionHelloPacketReliable) (accepted : Bool) :
    (h.withHello hello accepted).session deriveKeys c =
      { h.session deriveKeys c with
        clientPublicKey := hello.clientPublicKey
        serverRxKey := (((h.withHello hello accepted).sessionKeys deriveKeys).map Prod.fst).getD
          (Vector.replicate 32 0)
        serverTxKey := (((h.withHello hello accepted).sessionKeys deriveKeys).map Prod.snd).getD
          (Vector.replicate 32 0)
        isSecureSessionEstablished :=
          ((h.withHello hello accepted).sessionKeys deriveKeys).isSome } := by
  simp [session, withHello, authStatus, authErrorMessage, account]

/-- An auth packet counts when it is the first and no verdict has come. -/
theorem session_withAuthPacket (packet : ClientAuthPacketReliable) :
    (h.withAuthPacket packet).session deriveKeys c =
      if h.authStatus = .none then
        { h.session deriveKeys c with authStatus := .waitingAuth }
      else h.session deriveKeys c := by
  have hstatus : (h.withAuthPacket packet).authStatus =
      if h.authStatus = .none then .waitingAuth else h.authStatus := by
    unfold authStatus withAuthPacket
    cases h.verdicts.getLast? with
    | none => by_cases hempty : h.authPackets.isEmpty <;> simp [hempty]
    | some verdict => cases hvalid : verdict.isValid <;> simp [hvalid]
  split
  · rename_i hnone
    rw [if_pos hnone] at hstatus
    simp only [session, hstatus]
    rfl
  · rename_i hnone
    rw [if_neg hnone] at hstatus
    simp only [session, hstatus]
    rfl

end ClientHistory

end RcnetServer
