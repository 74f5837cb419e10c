/-
  RcnetServer.Properties.RejectedHellos

  What a rejected hello leaves behind.

  The handler stores the client's key before it knows whether keys can be derived,
  and takes a failed attestation back without the encryption flag.  So a hello that
  is rejected while there is a secure session leaves a mixture: a key the session
  keys do not belong to, or encryption with zeroed keys.
-/

import RcnetServer.System.KeyMaterial

namespace RcnetServer

-- ============================================================================
-- The security of one session
-- ============================================================================

namespace ClientSession

/-- The five security fields of a session. -/
def security (session : ClientSession) : KxPublicKey × SessionKey × SessionKey × Bool × Bool :=
  (session.clientPublicKey, session.serverRxKey, session.serverTxKey,
    session.isSecureSessionEstablished, session.isPacketEncryptionEnabled)

/-- There is no secure session at all. -/
structure NoSecureSession (session : ClientSession) : Prop where
  notEstablished : session.isSecureSessionEstablished = false
  notEncrypted : session.isPacketEncryptionEnabled = false
  rxKey : session.serverRxKey = Vector.replicate 32 0
  txKey : session.serverTxKey = Vector.replicate 32 0

/-- A session is established with the keys of its stored client key, or it is not
    secure at all; encryption is on in the first case only. -/
structure SecurityConsistent (kx : KxServerSessionKeys) (state : ServerCryptoKxState)
    (session : ClientSession) : Prop where
  derived : session.isSecureSessionEstablished = true →
    ServerCryptoKx.computeSessionKeys kx state session.clientPublicKey =
      some (session.serverRxKey, session.serverTxKey)
  unsecured : session.isSecureSessionEstablished = false → session.NoSecureSession

section Security

variable {kx : KxServerSessionKeys} {state : ServerCryptoKxState} {x y : ClientSession}

theorem NoSecureSession.of_security_eq (h : x.NoSecureSession) (hsame : y.security = x.security) :
    y.NoSecureSession := by
  simp only [security, Prod.mk.injEq] at hsame
  obtain ⟨_, hrx, htx, hestablished, hencrypted⟩ := hsame
  exact ⟨hestablished.trans h.notEstablished, hencrypted.trans h.notEncrypted,
    hrx.trans h.rxKey, htx.trans h.txKey⟩

theorem NoSecureSession.consistent (h : x.NoSecureSession) : x.SecurityConsistent kx state where
  derived := by
    intro hestablished
    rw [h.notEstablished] at hestablished
    cases hestablished
  unsecured := fun _ => h

theorem SecurityConsistent.of_security_eq (h : x.SecurityConsistent kx state)
    (hsame : y.security = x.security) : y.SecurityConsistent kx state where
  derived := by
    simp only [security, Prod.mk.injEq] at hsame
    obtain ⟨hkey, hrx, htx, hestablished, _⟩ := hsame
    rw [hestablished, hkey, hrx, htx]
    exact h.derived
  unsecured := by
    intro hestablished
    refine NoSecureSession.of_security_eq (h.unsecured ?_) hsame
    simp only [security, Prod.mk.injEq] at hsame
    rw [← hsame.2.2.2.1]
    exact hestablished

/-- Encryption is on with derived keys only: never with keys that were zeroed. -/
theorem SecurityConsistent.encrypted (h : x.SecurityConsistent kx state)
    (hencrypted : x.isPacketEncryptionEnabled = true) :
    x.isSecureSessionEstablished = true ∧
      ServerCryptoKx.computeSessionKeys kx state x.clientPublicKey =
        some (x.serverRxKey, x.serverTxKey) := by
  cases hestablished : x.isSecureSessionEstablished with
  | true => exact ⟨rfl, h.derived hestablished⟩
  | false =>
      rw [(h.unsecured hestablished).notEncrypted] at hencrypted
      cases hencrypted

end Security

end ClientSession

-- ============================================================================
-- One rejected hello
-- ============================================================================

section Hello

variable {Peer : Type} (kx : KxServerSessionKeys) (oracle : HelloOracle)
  (networkState : NetworkState Peer) (x : ClientSession)
  (hello : ClientSecureSessionHelloPacketReliable)

/-- The session a hello leaves has the security it had before, or none. -/
def HelloLeavesConsistent : Prop :=
  let answer := ServerSimulation.answerSecureSessionHello kx oracle networkState x hello
  answer.response.status ≠ .success →
    answer.session.security = x.security ∨ answer.session.NoSecureSession

/-- No keys are established and both are zero, so a failed attestation takes
    nothing back. -/
def ClientSession.hasNoKeys (session : ClientSession) : Bool :=
  !session.isSecureSessionEstablished && session.serverRxKey = Vector.replicate 32 0 &&
    session.serverTxKey = Vector.replicate 32 0

/-- A hello no keys can be derived for repeats the stored key or finds no secure
    session; one that cannot be attested finds encryption off, or repeats the stored
    key of a session without keys. -/
def ServerSimulation.rejectionKeepsSecurity : Bool :=
  match ServerCryptoKx.computeSessionKeys kx networkState.cryptoKxState hello.clientPublicKey with
  | none =>
      hello.clientPublicKey = x.clientPublicKey || (x.hasNoKeys && !x.isPacketEncryptionEnabled)
  | some _ =>
      (attestSecureSession oracle networkState hello).2 || !x.isPacketEncryptionEnabled ||
        (hello.clientPublicKey = x.clientPublicKey && x.hasNoKeys)

theorem ClientSession.noSecureSession_iff (session : ClientSession) :
    session.NoSecureSession ↔
      (session.hasNoKeys && !session.isPacketEncryptionEnabled) = true := by
  simp only [hasNoKeys, Bool.and_eq_true, Bool.not_eq_true', decide_eq_true_eq]
  constructor
  · rintro ⟨hestablished, hencrypted, hrx, htx⟩
    exact ⟨⟨⟨hestablished, hrx⟩, htx⟩, hencrypted⟩
  · rintro ⟨⟨⟨hestablished, hrx⟩, htx⟩, hencrypted⟩
    exact ⟨hestablished, hencrypted, hrx, htx⟩

/-- Exactly then is the session consistent after a rejected hello. -/
theorem helloLeavesConsistent_iff :
    HelloLeavesConsistent kx oracle networkState x hello ↔
      ServerSimulation.rejectionKeepsSecurity kx oracle networkState x hello = true := by
  unfold HelloLeavesConsistent ServerSimulation.rejectionKeepsSecurity
  rcases ServerSimulation.answerSecureSessionHello_cases kx oracle networkState x hello with
    ⟨hkx, h⟩ | ⟨rx, tx, hkx, hsign, h⟩ | ⟨rx, tx, hkx, hsign, h⟩
  · -- no keys: only the stored client key has changed
    have hnone : (∀ y : ClientSession, y = { x with clientPublicKey := hello.clientPublicKey } →
        (y.NoSecureSession ↔ x.NoSecureSession)) := by
      rintro y rfl
      exact ⟨fun h => ⟨h.1, h.2, h.3, h.4⟩, fun h => ⟨h.1, h.2, h.3, h.4⟩⟩
    simp only [h, hkx, hnone _ rfl, x.noSecureSession_iff, ne_eq, reduceCtorEq, not_false_eq_true,
      forall_const, ClientSession.security, Prod.mk.injEq, and_true, Bool.or_eq_true,
      decide_eq_true_eq]
  · -- no attestation: the key is stored, the session keys are gone, the flag stays
    simp only [h, hkx, hsign, ne_eq, reduceCtorEq, not_false_eq_true, forall_const,
      ClientSession.noSecureSession_iff, ClientSession.hasNoKeys, ClientSession.security,
      Prod.mk.injEq, Bool.or_eq_true, Bool.and_eq_true, Bool.not_eq_true', decide_eq_true_eq]
    grind
  · -- accepted
    have hsuccess :
        (ServerSimulation.attestSecureSession oracle networkState hello).1.status = .success := rfl
    simp [h, hkx, hsign, hsuccess]

/-- A consistent session is consistent after a hello of that kind. -/
theorem ClientSession.SecurityConsistent.afterHello
    (hx : x.SecurityConsistent kx networkState.cryptoKxState)
    (hok : ServerSimulation.rejectionKeepsSecurity kx oracle networkState x hello = true) :
    (ServerSimulation.answerSecureSessionHello kx oracle networkState x
      hello).session.SecurityConsistent kx networkState.cryptoKxState := by
  have hleaves := (helloLeavesConsistent_iff kx oracle networkState x hello).mpr hok
  unfold HelloLeavesConsistent at hleaves
  by_cases hstatus : (ServerSimulation.answerSecureSessionHello kx oracle networkState x
      hello).response.status = .success
  · rcases ServerSimulation.answerSecureSessionHello_cases kx oracle networkState x hello with
      ⟨_, h⟩ | ⟨_, _, _, _, h⟩ | ⟨rx, tx, hkx, _, h⟩
    · rw [h] at hstatus
      cases hstatus
    · rw [h] at hstatus
      cases hstatus
    · rw [h]
      exact ⟨fun _ => hkx, fun hestablished => by cases hestablished⟩
  · rcases hleaves hstatus with hsame | hnone
    · exact hx.of_security_eq hsame
    · exact hnone.consistent

end Hello

-- ============================================================================
-- Whole runs
-- ============================================================================

variable {Peer : Type} [DecidableEq Peer] {platform : Platform} {s s' : System Peer}
  {a : Action Peer} {tr es : List (Event Peer)}

/-- A rejected hello, if one is handled next, finds one of the sessions above; an ACK
    that enables encryption finds its session established. -/
def System.rejectsConsistently (platform : Platform) (s : System Peer) : Action Peer → Bool
  | .handleNetwork oracle =>
      match s.simulation.networkMessages with
      | .clientSecureSessionHelloPacketReliable c hello :: _ =>
          (s.networkState.sessions.lookup c).all fun session =>
            ServerSimulation.rejectionKeepsSecurity platform.kx oracle s.networkState session hello
      | _ => true
  | .acknowledge i =>
      match (s.inFlight[i]?).bind fun owned => owned.packet.userData with
      | none => true
      | some context =>
          !context.enableEncryptionAfterAck ||
            !ServerNetworkOutgoing.isPeerStillBoundToConnectionId s.networkState s.peers
              context.peer context.connectionId ||
            (s.networkState.sessions.lookup context.connectionId).all fun session =>
              session.isSecureSessionEstablished
  | _ => true

/-- Every session is consistent. -/
def SessionsConsistent (platform : Platform) (s : System Peer) : Prop :=
  ∀ c session, s.networkState.sessions.lookup c = some session →
    session.SecurityConsistent platform.kx platform.cryptoKxState

/-- A network message keeps the security of a session, opens one without, or is a
    hello. -/
theorem ServerSimulation.clientStep_security {Peer : Type} {kx : KxServerSessionKeys}
    {oracle : HelloOracle} {networkState : NetworkState Peer} {m : NetworkINToSimulationMessage}
    {session? : Option ClientSession} {y : ClientSession}
    (h : (clientStep kx oracle networkState m session?).1 = some y) :
    y.NoSecureSession ∨ ∃ x, session? = some x ∧ (y.security = x.security ∨
      ∃ hello, m = .clientSecureSessionHelloPacketReliable m.connectionId hello ∧
        y = (answerSecureSessionHello kx oracle networkState x hello).session) := by
  by_cases hkind : m.kind = .opens
  · rcases clientStep_session kx oracle networkState h with ⟨_, rfl⟩ | ⟨huses, _⟩
    · exact Or.inl ⟨rfl, rfl, rfl, rfl⟩
    · rw [hkind] at huses
      cases huses
  · right
    cases session? with
    | none =>
        rcases clientStep_session kx oracle networkState h with ⟨hopens, _⟩ | ⟨_, x, hx, _⟩
        · exact absurd hopens hkind
        · cases hx
    | some x =>
        rcases clientStep_eq hkind h with ⟨_, _, _, _, _, rfl⟩ | hhello
        · exact ⟨x, rfl, Or.inl rfl⟩
        · exact ⟨x, rfl, Or.inr hhello⟩

/-- An ACK switches encryption on for established sessions only. -/
theorem SessionsConsistent.acknowledge (inv : SessionsConsistent platform s) {i : Nat}
    (h : System.Steps platform s (.acknowledge i) s' es)
    (hok : s.rejectsConsistently platform (.acknowledge i) = true) :
    SessionsConsistent platform s' := by
  cases h with
  | acknowledgeIgnored => exact inv
  | @acknowledge _ owned context p _ inFlight userData peer bound =>
      intro c y hy
      simp only at hy
      split at hy
      · rename_i henable
        rw [NetworkState.lookup_enableEncryption] at hy
        split at hy
        · rename_i hc
          obtain ⟨x, hx, rfl⟩ := Option.map_eq_some_iff.mp hy
          have hbound := ServerNetworkOutgoing.isPeerStillBoundToConnectionId_iff.mpr bound
          have hestablished : x.isSecureSessionEstablished = true := by
            simpa [System.rejectsConsistently, inFlight, userData, peer, henable, hbound, hx]
              using hok
          refine ⟨(inv _ x hx).derived, ?_⟩
          intro hnot
          rw [hestablished] at hnot
          cases hnot
        · exact inv c y hy
      · exact inv c y hy

theorem SessionsConsistent.step (inv : SessionsConsistent platform s)
    (hstate : s.networkState.cryptoKxState = platform.cryptoKxState)
    (h : System.Steps platform s a s' es) (hok : s.rejectsConsistently platform a = true) :
    SessionsConsistent platform s' := by
  intro c y hy
  have hchange := h.session c
  rw [hy] at hchange
  cases hchange with
  | same kept => exact inv c y kept.symm
  | @handled oracle m rest _ own next left =>
      rcases ServerSimulation.clientStep_security left with
        hnone | ⟨x, hx, hsame | ⟨hello, hm, rfl⟩⟩
      · exact hnone.consistent
      · exact (inv c x hx).of_security_eq hsame
      · rw [own] at hm
        rw [← hstate]
        refine ClientSession.SecurityConsistent.afterHello _ _ _ _ _ ?_ ?_
        · rw [hstate]
          exact inv c x hx
        · simpa [System.rejectsConsistently, next, hm, hx] using hok
  | @replied reply rest x own next found =>
      obtain ⟨_, _, _, _, _, hreply⟩ := x.applyAuthResponse_eq reply.authTokenVerificationResponse
      rw [hreply]
      exact (inv c x found).of_security_eq rfl
  | encrypted => exact inv.acknowledge h hok c _ hy
  | @snapshot _ x found => exact (inv c x found).of_security_eq rfl

/-- In every run in which rejected hellos meet the condition, every session is
    consistent.  The condition is exact: the handler leaves a session its security or
    none after a rejected hello, of whatever kind, if and only if it holds. -/
theorem rejected_hellos_leave_consistent_sessions
    (hr : (server Peer platform).Run
      (fun s _ a => s.rejectsConsistently platform a = true) s tr) :
    SessionsConsistent platform s ∧
    ∀ c x hello oracle, s.networkState.sessions.lookup c = some x →
      (HelloLeavesConsistent platform.kx oracle s.networkState x hello ↔
        ServerSimulation.rejectionKeepsSecurity platform.kx oracle s.networkState x hello =
          true) := by
  refine ⟨?_, fun _ x hello oracle _ => helloLeavesConsistent_iff _ oracle _ x hello⟩
  refine TraceMachine.Run.invariant (P := fun s _ => SessionsConsistent platform s) ?_ ?_ hr
  · simp [SessionsConsistent, server, System.init]
  · intro s tr a s' es hr inv hok hs
    exact inv.step (cryptoKxState_of_reach hr.reach) (System.step_cases hs) hok

-- ============================================================================
-- A key exchange that refuses
-- ============================================================================

/-- The deployment of the concrete runs, where no keys can be derived from the
    all-zero client key. -/
def refusingPlatform : Platform :=
  { soloPlatform with
    kx := fun _ _ clientPublicKey =>
      if clientPublicKey = Vector.replicate 32 0 then none
      else some (clientPublicKey, clientPublicKey) }

/-- A fresh client says hello with the zero key, which is rejected, and then with
    another one, which is accepted and acknowledged. -/
def refusedThenAcceptedRun : List (Action Unit) :=
  [Action.soloConnect] ++ Action.soloHello 0 ++ Action.soloHello 7 ++ Action.soloTick 1 2 ++
    [.simulationPush, .handleNetwork signingOracle, .simulationPush, .beginOutgoing,
      .sendReliable {}, .sendReliable {}, .endOutgoing, .acknowledge 1]

theorem refusedThenAcceptedRun_runs :
    ((server Unit refusingPlatform).exec
      (fun s _ a => s.rejectsConsistently refusingPlatform a = true)
      refusedThenAcceptedRun).isSome = true := by
  decide +kernel

/-- The state and the trace of the run. -/
def refusedThenAcceptedResult : System Unit × List (Event Unit) :=
  ((server Unit refusingPlatform).exec
    (fun s _ a => s.rejectsConsistently refusingPlatform a = true)
    refusedThenAcceptedRun).get refusedThenAcceptedRun_runs

/-- The run ends with an encrypted session, and it is consistent. -/
theorem refusedThenAccepted_consistent :
    (refusedThenAcceptedResult.1.networkState.sessions.lookup 1).map
      (·.isPacketEncryptionEnabled) = some true ∧
    SessionsConsistent refusingPlatform refusedThenAcceptedResult.1 := by
  have hr : (server Unit refusingPlatform).Run
      (fun s _ a => s.rejectsConsistently refusingPlatform a = true)
      refusedThenAcceptedResult.1 refusedThenAcceptedResult.2 :=
    TraceMachine.run_get refusedThenAcceptedRun_runs
  refine ⟨?_, (rejected_hellos_leave_consistent_sessions hr).1⟩
  decide +kernel

theorem refusingHandshake_runs :
    ((server Unit refusingPlatform).exec (fun _ _ _ => True)
      (Action.soloHandshake 7)).isSome = true := by
  decide +kernel

/-- A client whose handshake with key 7 is complete. -/
def refusingHandshakeResult : System Unit × List (Event Unit) :=
  ((server Unit refusingPlatform).exec (fun _ _ _ => True)
    (Action.soloHandshake 7)).get refusingHandshake_runs

/-- A second hello with the zero key. -/
def zeroKeyHello : ClientSecureSessionHelloPacketReliable where
  networkProtocolVersion := serverNetworkProtocolVersion
  clientPublicKey := Vector.replicate 32 0
  clientNonce := Vector.replicate 16 0

/-- The zero key is stored over key 7, whose session keys stay in force. -/
theorem zeroKeyHello_not_consistent :
    ¬ ∀ (s : System Unit) (tr : List (Event Unit)), (server Unit refusingPlatform).Reach s tr →
      ∀ c x hello oracle, s.networkState.sessions.lookup c = some x →
        HelloLeavesConsistent refusingPlatform.kx oracle s.networkState x hello := by
  intro hclaim
  have hsession : (refusingHandshakeResult.1.networkState.sessions.lookup 1).any
      (fun x => !ServerSimulation.rejectionKeepsSecurity refusingPlatform.kx signingOracle
        refusingHandshakeResult.1.networkState x zeroKeyHello) = true := by
    decide +kernel
  obtain ⟨x, hx, hnot⟩ := (Option.any_eq_true _ _).mp hsession
  have hreach : (server Unit refusingPlatform).Reach refusingHandshakeResult.1
      refusingHandshakeResult.2 := TraceMachine.run_get refusingHandshake_runs
  have hkeeps := (helloLeavesConsistent_iff _ _ _ _ _).mp
    (hclaim _ _ hreach 1 x zeroKeyHello signingOracle hx)
  rw [hkeeps] at hnot
  cases hnot

end RcnetServer
