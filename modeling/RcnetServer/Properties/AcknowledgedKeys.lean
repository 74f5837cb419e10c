/-
  RcnetServer.Properties.AcknowledgedKeys

  The keys in force against the hellos the peer has confirmed.

  The handler installs the keys of a hello at once, so a second hello replaces
  keys that are in use, or about to be put in use by an ACK on its way.  As long
  as no hello does that, the keys in force come from an acknowledged hello.
-/

import RcnetServer.Network.Encryption
import RcnetServer.System.KeyMaterial

namespace RcnetServer

variable {Peer : Type}

-- ============================================================================
-- Acknowledged hellos
-- ============================================================================

namespace Event

/-- The hello of `c` answered with SUCCESS in this step, with its response. -/
def acceptedHello (c : ConnectionId) : Event Peer →
    Option (ClientSecureSessionHelloPacketReliable × SimulationToNetworkOUTMessage)
  | .networkHandled (.clientSecureSessionHelloPacketReliable c' hello) [m] _ =>
      if c' = c ∧ m.isHelloSuccess = true then some (hello, m) else none
  | _ => none

/-- The message whose packet was acknowledged in this step. -/
def acknowledgedMessage : Event Peer → Option SimulationToNetworkOUTMessage
  | .acknowledged m _ => some m
  | _ => none

end Event

/-- The messages of the acknowledged packets. -/
def acknowledgedLog (tr : List (Event Peer)) : List SimulationToNetworkOUTMessage :=
  tr.filterMap Event.acknowledgedMessage

/-- The hellos of `c` whose SUCCESS response has been acknowledged. -/
def acknowledgedHellos (c : ConnectionId) (tr : List (Event Peer)) :
    List ClientSecureSessionHelloPacketReliable :=
  (tr.filterMap (Event.acceptedHello c)).filterMap fun answered =>
    if answered.2 ∈ acknowledgedLog tr then some answered.1 else none

theorem mem_acknowledgedHellos {platform : Platform} {tr : List (Event Peer)}
    {hello : ClientSecureSessionHelloPacketReliable} {m : SimulationToNetworkOUTMessage}
    {calls : List (ENetCall Peer)} (haccepted : HelloAccepted platform tr hello m)
    (hack : Event.acknowledged m calls ∈ tr) : hello ∈ acknowledgedHellos m.connectionId tr := by
  refine List.mem_filterMap.mpr ⟨(hello, m), List.mem_filterMap.mpr ⟨_, haccepted.handled, ?_⟩, ?_⟩
  · simp [Event.acceptedHello, haccepted.success]
  · have hmem : m ∈ acknowledgedLog tr := List.mem_filterMap.mpr ⟨_, hack, rfl⟩
    simp [hmem]

/-- The keys of an encrypted session, and so the keys the encrypt and decrypt
    callbacks load, come from an acknowledged hello of its connection. -/
def KeysAcknowledged (platform : Platform) (s : System Peer) (tr : List (Event Peer)) : Prop :=
  (∀ c session, s.networkState.sessions.lookup c = some session →
    session.isPacketEncryptionEnabled = true →
    ∃ hello ∈ acknowledgedHellos c tr,
      ServerCryptoKx.computeSessionKeys platform.kx platform.cryptoKxState hello.clientPublicKey =
        some (session.serverRxKey, session.serverTxKey)) ∧
  (∀ c forOutgoingEncryption key,
    ServerNetworkEncryption.tryLoadSessionKeyIfEnabled s.networkState.sessions c
      forOutgoingEncryption = some key →
    ∃ hello ∈ acknowledgedHellos c tr, ∃ rx tx,
      ServerCryptoKx.computeSessionKeys platform.kx platform.cryptoKxState hello.clientPublicKey =
        some (rx, tx) ∧ key = if forOutgoingEncryption then tx else rx)

/-- The callbacks load the keys of the session, so the first half is enough. -/
theorem keysAcknowledged_of_sessions {platform : Platform} {s : System Peer}
    {tr : List (Event Peer)}
    (h : ∀ c session, s.networkState.sessions.lookup c = some session →
      session.isPacketEncryptionEnabled = true →
      ∃ hello ∈ acknowledgedHellos c tr,
        ServerCryptoKx.computeSessionKeys platform.kx platform.cryptoKxState
          hello.clientPublicKey = some (session.serverRxKey, session.serverTxKey)) :
    KeysAcknowledged platform s tr := by
  refine ⟨h, ?_⟩
  intro c forOutgoingEncryption key hkey
  obtain ⟨session, hsession, henabled, rfl⟩ :=
    ServerNetworkEncryption.tryLoadSessionKeyIfEnabled_eq_some hkey
  obtain ⟨hello, hmem, hkx⟩ := h c session hsession henabled
  exact ⟨hello, hmem, _, _, hkx, rfl⟩

variable [DecidableEq Peer]

-- ============================================================================
-- When a hello leaves keys in use alone
-- ============================================================================

/-- The keys of connection `c` are in use, or an ACK on its way will put them in
    use: its session is encrypted, or a SUCCESS response to it is on its way. -/
def System.keysInUse (s : System Peer) (c : ConnectionId) (session : ClientSession) : Bool :=
  session.isPacketEncryptionEnabled ||
    s.outgoingMessages.any fun m => m.connectionId = c && m.enableEncryptionAfterAck

/-- A hello, if one is handled next, does not replace keys in use: no keys can be
    derived for it, or the same keys are and signing succeeds. -/
def System.helloKeepsKeysInUse (platform : Platform) (s : System Peer) : Action Peer → Bool
  | .handleNetwork oracle =>
      match s.simulation.networkMessages with
      | .clientSecureSessionHelloPacketReliable c hello :: _ =>
          match s.networkState.sessions.lookup c,
              ServerCryptoKx.computeSessionKeys platform.kx s.networkState.cryptoKxState
                hello.clientPublicKey with
          | some session, some (rx, tx) =>
              !s.keysInUse c session ||
                (rx = session.serverRxKey && tx = session.serverTxKey &&
                  (ServerSimulation.attestSecureSession oracle s.networkState hello).2)
          | _, _ => true
      | _ => true
  | _ => true

variable {platform : Platform} {s s' : System Peer} {a : Action Peer} {tr es : List (Event Peer)}

/-- Such a step keeps the keys in use. -/
theorem sessionKeys_kept (h : System.Steps platform s a s' es) (table : SessionInv s tr)
    (hwf : WellFormedLog (handledLog (tr ++ es)))
    (hok : s.helloKeepsKeysInUse platform a = true) {c : ConnectionId} {x y : ClientSession}
    (hx : s.networkState.sessions.lookup c = some x)
    (hy : s'.networkState.sessions.lookup c = some y) (huse : s.keysInUse c x = true) :
    (y.serverRxKey, y.serverTxKey) = (x.serverRxKey, x.serverTxKey) := by
  rcases h.keyMaterial table hwf hx hy with hsame | ⟨oracle, hello, rest, rfl, next, rfl⟩
  · exact congrArg Prod.snd hsame
  · rcases ServerSimulation.answerSecureSessionHello_cases platform.kx oracle s.networkState x
        hello with ⟨_, hanswer⟩ | ⟨rx, tx, hkx, hsign, _⟩ | ⟨rx, tx, hkx, hsign, hanswer⟩
    · rw [hanswer]
    · -- a failing signature is excluded for keys in use
      simp [System.helloKeepsKeysInUse, next, hx, hkx, hsign, huse] at hok
    · simp only [System.helloKeepsKeysInUse, next, hx, hkx, hsign, huse, Bool.not_true,
        Bool.false_or, Bool.and_eq_true, decide_eq_true_eq] at hok
      rw [hanswer, hok.1.1, hok.1.2]

/-- Every enabling message on its way, and every encrypted session, belongs to an
    accepted hello that derives the keys of the session. -/
structure KeyInv (platform : Platform) (s : System Peer) (tr : List (Event Peer)) : Prop where
  onTheWay : ∀ m ∈ s.outgoingMessages, m.enableEncryptionAfterAck = true →
    ∃ hello, HelloAccepted platform tr hello m ∧
      ∀ session, s.networkState.sessions.lookup m.connectionId = some session →
        ServerCryptoKx.computeSessionKeys platform.kx platform.cryptoKxState
          hello.clientPublicKey = some (session.serverRxKey, session.serverTxKey)
  inForce : ∀ c session, s.networkState.sessions.lookup c = some session →
    session.isPacketEncryptionEnabled = true →
    ∃ m hello calls, Event.acknowledged m calls ∈ tr ∧ m.connectionId = c ∧
      HelloAccepted platform tr hello m ∧
      ServerCryptoKx.computeSessionKeys platform.kx platform.cryptoKxState
        hello.clientPublicKey = some (session.serverRxKey, session.serverTxKey)

namespace KeyInv

omit [DecidableEq Peer] in
theorem init (platform : Platform) : KeyInv platform (System.init platform : System Peer) [] where
  onTheWay := by simp [System.init, System.outgoingMessages]
  inForce := by simp [System.init]

theorem step (hr : (server Peer platform).Reach s tr)
    (hr' : (server Peer platform).Reach s' (tr ++ es)) (inv : KeyInv platform s tr)
    (h : System.Steps platform s a s' es) (few : FewConnects (tr ++ es))
    (hok : s.helloKeepsKeysInUse platform a = true) : KeyInv platform s' (tr ++ es) := by
  have table := SessionInv.of_reach hr few.of_append
  have hwf := handledLog_wellFormed hr' few
  refine ⟨?_, ?_⟩
  · intro m hm henable
    rcases h.mem_outgoingMessages hm with hold | hnew
    · obtain ⟨hello, haccepted, hkeys⟩ := inv.onTheWay m hold henable
      refine ⟨hello, haccepted.append es, ?_⟩
      intro y hy
      have hnamed : connectionPhase m.connectionId (handledLog tr) ≠ .fresh := by
        rw [Ne, Lifecycle.phase_eq_fresh_iff]
        exact fun hall => hall _ (mem_handledLog.mpr ⟨_, _, haccepted.handled⟩) rfl
      obtain ⟨x, hx⟩ := h.session_before hwf hnamed hy
      have huse : s.keysInUse m.connectionId x = true := by
        simp only [System.keysInUse, Bool.or_eq_true, List.any_eq_true, Bool.and_eq_true,
          decide_eq_true_eq]
        exact Or.inr ⟨m, hold, rfl, henable⟩
      rw [hkeys x hx, sessionKeys_kept h table hwf hok hx hy huse]
    · obtain ⟨hello, x, rx, tx, rfl, hsuccess, _, hkx, hsession⟩ :=
        h.enabling_produced hnew henable
      rw [cryptoKxState_of_reach hr] at hkx
      refine ⟨hello, ⟨List.mem_append_right _ (List.mem_singleton.mpr rfl), hsuccess,
        by simp [hkx]⟩, ?_⟩
      intro y hy
      obtain rfl := Option.some.inj (hsession.symm.trans hy)
      exact hkx
  · intro c y hy henabled
    -- encrypted before, with the same keys, or by the ACK of this step
    have hold : ∀ x, s.networkState.sessions.lookup c = some x →
        x.isPacketEncryptionEnabled = true →
        ∃ m hello calls, Event.acknowledged m calls ∈ tr ++ es ∧ m.connectionId = c ∧
          HelloAccepted platform (tr ++ es) hello m ∧
          ServerCryptoKx.computeSessionKeys platform.kx platform.cryptoKxState
            hello.clientPublicKey = some (y.serverRxKey, y.serverTxKey) := by
      intro x hx hxe
      obtain ⟨m, hello, calls, hack, hm, haccepted, hkeys⟩ := inv.inForce c x hx hxe
      have huse : s.keysInUse c x = true := by simp [System.keysInUse, hxe]
      refine ⟨m, hello, calls, List.mem_append_left _ hack, hm, haccepted.append es, ?_⟩
      rw [hkeys, sessionKeys_kept h table hwf hok hx hy huse]
    have hchange := h.session c
    rw [hy] at hchange
    cases hchange with
    | same kept => exact hold y kept.symm henabled
    | handled _ _ left =>
        rcases ServerSimulation.clientStep_session _ _ _ left with
          ⟨_, rfl⟩ | ⟨_, x, hx, _, _, _, _, _, _, _, _, _, rfl⟩
        · cases henabled
        · exact hold x hx henabled
    | @replied reply _ x _ _ found =>
        obtain ⟨_, _, _, _, _, hreply⟩ := x.applyAuthResponse_eq reply.authTokenVerificationResponse
        rw [hreply] at henabled
        exact hold x found henabled
    | @encrypted i owned context x inFlight userData enable own found =>
        have hmem := List.mem_of_getElem? inFlight
        obtain ⟨hid, _, henable⟩ :=
          (ContextInv.of_reach hr few.of_append).context owned hmem context userData
        have hout : owned.message ∈ s.outgoingMessages := by
          simp only [System.outgoingMessages, List.mem_append]
          exact Or.inl (Or.inl (Or.inl (List.mem_map_of_mem hmem)))
        obtain ⟨hello, haccepted, hkeys⟩ := inv.onTheWay owned.message hout (henable enable)
        obtain ⟨calls, rfl⟩ := h.acknowledged_eq inFlight
        refine ⟨owned.message, hello, calls, List.mem_append_right _ (List.mem_singleton.mpr rfl),
          hid.symm.trans own, haccepted.append _, ?_⟩
        exact hkeys x (hid ▸ own ▸ found)
    | @snapshot _ x found => exact hold x found henabled

theorem of_run (hr : (server Peer platform).Run
      (fun s _ a => s.helloKeepsKeysInUse platform a = true) s tr) (few : FewConnects tr) :
    KeyInv platform s tr :=
  TraceMachine.Run.invariant_of_prefix (P := KeyInv platform) (B := FewConnects)
    (fun _ _ h => h.of_append) (KeyInv.init platform)
    (fun _ _ _ _ _ hr inv hok hs few =>
      inv.step hr.reach (hr.reach.next hs) (System.step_cases hs) few hok)
    hr few

end KeyInv

/-- While no hello replaces keys in use, the keys in force are those of an
    acknowledged hello. -/
theorem keys_in_force_acknowledged (hr : (server Peer platform).Run
      (fun s _ a => s.helloKeepsKeysInUse platform a = true) s tr) (few : FewConnects tr) :
    KeysAcknowledged platform s tr := by
  refine keysAcknowledged_of_sessions ?_
  intro c session hsession henabled
  obtain ⟨m, hello, calls, hack, rfl, haccepted, hkeys⟩ :=
    (KeyInv.of_run hr few).inForce c session hsession henabled
  exact ⟨hello, mem_acknowledgedHellos haccepted hack, hkeys⟩

theorem soloHandshake_runs :
    ((server Unit soloPlatform).exec
      (fun s _ a => s.helloKeepsKeysInUse soloPlatform a = true)
      (Action.soloHandshake 7)).isSome = true := by
  decide +kernel

/-- The state and the trace of a handshake. -/
def soloHandshakeResult : System Unit × List (Event Unit) :=
  ((server Unit soloPlatform).exec (fun s _ a => s.helloKeepsKeysInUse soloPlatform a = true)
    (Action.soloHandshake 7)).get soloHandshake_runs

/-- After one handshake the keys in force are those of the hello. -/
theorem soloHandshake_keys_acknowledged :
    (∃ session, soloHandshakeResult.1.networkState.sessions.lookup 1 = some session ∧
      session.isPacketEncryptionEnabled = true) ∧
    KeysAcknowledged soloPlatform soloHandshakeResult.1 soloHandshakeResult.2 := by
  have hr : (server Unit soloPlatform).Run
      (fun s _ a => s.helloKeepsKeysInUse soloPlatform a = true)
      soloHandshakeResult.1 soloHandshakeResult.2 :=
    TraceMachine.run_get soloHandshake_runs
  have few : FewConnects soloHandshakeResult.2 := by
    unfold FewConnects
    decide +kernel
  have henabled : (soloHandshakeResult.1.networkState.sessions.lookup 1).map
      (·.isPacketEncryptionEnabled) = some true := by
    decide +kernel
  exact ⟨Option.map_eq_some_iff.mp henabled, keys_in_force_acknowledged hr few⟩

/-- A second hello, with another key, is handled when the first is acknowledged. -/
def rekeyedRun : List (Action Unit) :=
  Action.soloEndTick (Action.soloHandshake 7 ++ Action.soloHello 9) 2 ++ Action.soloTick 2 1

theorem rekeyedRun_runs :
    ((server Unit soloPlatform).exec (fun _ _ _ => True) rekeyedRun).isSome = true := by
  decide +kernel

/-- The state and the trace of the run. -/
def rekeyedRunResult : System Unit × List (Event Unit) :=
  ((server Unit soloPlatform).exec (fun _ _ _ => True) rekeyedRun).get rekeyedRun_runs

/-- The run ends with an encrypted session whose keys no acknowledged hello derives. -/
theorem rekeyedRun_keys_not_acknowledged :
    (server Unit soloPlatform).Reach rekeyedRunResult.1 rekeyedRunResult.2 ∧
      FewConnects rekeyedRunResult.2 ∧
      ¬ KeysAcknowledged soloPlatform rekeyedRunResult.1 rekeyedRunResult.2 := by
  refine ⟨TraceMachine.run_get rekeyedRun_runs, ?_, ?_⟩
  · unfold FewConnects
    decide +kernel
  · rintro ⟨hkeys, _⟩
    have hsession : (rekeyedRunResult.1.networkState.sessions.lookup 1).any
        (fun session => session.isPacketEncryptionEnabled &&
          (acknowledgedHellos 1 rekeyedRunResult.2).all fun hello =>
            ServerCryptoKx.computeSessionKeys soloPlatform.kx soloPlatform.cryptoKxState
              hello.clientPublicKey ≠ some (session.serverRxKey, session.serverTxKey)) = true := by
      decide +kernel
    obtain ⟨session, hlookup, hsession⟩ := (Option.any_eq_true _ _).mp hsession
    obtain ⟨henabled, hnone⟩ := (Bool.and_eq_true _ _).mp hsession
    obtain ⟨hello, hmem, hkx⟩ := hkeys 1 session hlookup henabled
    exact of_decide_eq_true (List.all_eq_true.mp hnone hello hmem) hkx

end RcnetServer
