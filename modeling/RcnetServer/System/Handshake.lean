/-
  RcnetServer.System.Handshake

  Encryption over whole runs.

  A message that asks for encryption after its ACK is the SUCCESS response of a
  hello for which keys could be derived (`HelloAccepted`).  The flag is set in
  both tables at once, by the ACK of such a response, and taken away only with
  the connection (`EncryptionInv`).
-/

import RcnetServer.System.Sending

namespace RcnetServer

variable {Peer : Type}

-- ============================================================================
-- Where enabling messages come from
-- ============================================================================

/-- `m` is the response to the accepted `hello`, whose keys could be derived. -/
structure HelloAccepted (platform : Platform) (tr : List (Event Peer))
    (hello : ClientSecureSessionHelloPacketReliable) (m : SimulationToNetworkOUTMessage) :
    Prop where
  handled : Event.networkHandled (.clientSecureSessionHelloPacketReliable m.connectionId hello)
    [m] [] ∈ tr
  success : m.isHelloSuccess = true
  keys : (ServerCryptoKx.computeSessionKeys platform.kx platform.cryptoKxState
    hello.clientPublicKey).isSome = true

theorem HelloAccepted.append {platform : Platform} {tr : List (Event Peer)}
    {hello : ClientSecureSessionHelloPacketReliable} {m : SimulationToNetworkOUTMessage}
    (h : HelloAccepted platform tr hello m) (es : List (Event Peer)) :
    HelloAccepted platform (tr ++ es) hello m :=
  { h with handled := List.mem_append_left es h.handled }

/-- Only an accepted hello yields a message that enables encryption; its keys are
    installed in the session found. -/
theorem ServerSimulation.clientStep_enable {kx : KxServerSessionKeys} {oracle : HelloOracle}
    {networkState : NetworkState Peer} {m : NetworkINToSimulationMessage}
    {session? : Option ClientSession} {out : SimulationToNetworkOUTMessage}
    (hout : out ∈ (clientStep kx oracle networkState m session?).2.1)
    (henable : out.enableEncryptionAfterAck = true) :
    ∃ hello x rx tx, m = .clientSecureSessionHelloPacketReliable out.connectionId hello ∧
      out.isHelloSuccess = true ∧ session? = some x ∧
      ServerCryptoKx.computeSessionKeys kx networkState.cryptoKxState hello.clientPublicKey =
        some (rx, tx) ∧
      clientStep kx oracle networkState m session? =
        (some
          { x with
            clientPublicKey := hello.clientPublicKey
            serverRxKey := rx
            serverTxKey := tx
            isSecureSessionEstablished := true }, [out], []) := by
  obtain ⟨hello, x, rfl, rfl, hanswer⟩ := clientStep_out kx oracle networkState hout
  have haccepted :
      (answerSecureSessionHello kx oracle networkState x hello).secureSessionAccepted = true := by
    rw [hanswer] at henable
    exact henable
  rcases answerSecureSessionHello_cases kx oracle networkState x hello with
    ⟨_, h⟩ | ⟨rx, tx, _, _, h⟩ | ⟨rx, tx, hkx, _, h⟩
  · rw [h] at haccepted
    cases haccepted
  · rw [h] at haccepted
    cases haccepted
  · refine ⟨hello, x, rx, tx, rfl, ?_, rfl, hkx, ?_⟩
    · rw [hanswer, isHelloSuccess_outMessage, haccepted]
    · rw [h] at hanswer
      simp only [clientStep, h, ← hanswer]

theorem ServerSimulation.reply_not_enable {networkState : NetworkState Peer}
    {reply : HttpToSimulationMessage} {out : SimulationToNetworkOUTMessage}
    (hout : out ∈ (handleAuthValidateTokenResponseMessage networkState reply).2) :
    out.enableEncryptionAfterAck = false := by
  unfold handleAuthValidateTokenResponseMessage at hout
  split at hout
  · cases hout
  · simp only [List.mem_singleton] at hout
    rw [hout]

variable [DecidableEq Peer]

/-- The key-exchange state is the one of start-up. -/
theorem cryptoKxState_of_reach {platform : Platform} {s : System Peer} {tr : List (Event Peer)}
    (hr : (server Peer platform).Reach s tr) :
    s.networkState.cryptoKxState = platform.cryptoKxState := by
  refine TraceMachine.Run.invariant
    (P := fun s _ => s.networkState.cryptoKxState = platform.cryptoKxState) rfl ?_ hr
  intro s tr a s' es _ inv _ hs
  cases System.step_cases hs with
  | acknowledge =>
      simp only
      split
      · exact inv
      · exact inv
  | handleNetwork => exact inv
  | handleHttp => exact inv
  | checkMatchFlow => exact inv
  | createSnapshots => exact inv
  | _ => exact inv

/-- A step that makes an enabling message handles the accepted hello it answers,
    and installs the keys derived from it. -/
theorem System.Steps.enabling_produced {platform : Platform} {s s' : System Peer}
    {a : Action Peer} {es : List (Event Peer)} (h : System.Steps platform s a s' es)
    {m : SimulationToNetworkOUTMessage} (hm : m ∈ producedLog es)
    (henable : m.enableEncryptionAfterAck = true) :
    ∃ hello x rx tx,
      es = [.networkHandled (.clientSecureSessionHelloPacketReliable m.connectionId hello) [m] []] ∧
      m.isHelloSuccess = true ∧ s.networkState.sessions.lookup m.connectionId = some x ∧
      ServerCryptoKx.computeSessionKeys platform.kx s.networkState.cryptoKxState
        hello.clientPublicKey = some (rx, tx) ∧
      s'.networkState.sessions.lookup m.connectionId =
        some
          { x with
            clientPublicKey := hello.clientPublicKey
            serverRxKey := rx
            serverTxKey := tx
            isSecureSessionEstablished := true } := by
  have hnetwork : ∃ oracle, a = .handleNetwork oracle := by
    cases h.produces hm with
    | @client oracle => exact ⟨oracle, rfl⟩
    | reply _ made =>
        exact absurd henable (by simp [ServerSimulation.reply_not_enable made])
    | matchFlow _ made =>
        exact absurd henable (by simp [(ServerSimulation.mem_checkMatchFlow made).2.2.1])
    | snapshot _ made =>
        obtain ⟨_, _, _, rfl⟩ := ServerSimulation.mem_createFullSnapshots made
        cases henable
  obtain ⟨oracle, rfl⟩ := hnetwork
  cases h with
  | @handleNetwork _ msg rest next phase pushed =>
      rw [producedLog_singleton] at hm
      obtain ⟨hlookup, hout⟩ :=
        ServerSimulation.processNetworkIncoming_client platform.kx oracle s.networkState msg
      rw [hout] at hm ⊢
      obtain ⟨m₀, hm₀, serial, rfl⟩ := System.mem_stamp hm
      obtain ⟨hello, x, rx, tx, rfl, hsuccess, hx, hkx, hstep⟩ :=
        ServerSimulation.clientStep_enable hm₀ henable
      rw [hstep] at hm ⊢
      simp only [System.stamp, List.mapIdx_cons, List.mapIdx_nil, Event.produced,
        List.mem_singleton] at hm ⊢
      rw [← hm]
      refine ⟨hello, x, rx, tx, rfl, hsuccess, hx, hkx, ?_⟩
      exact (hlookup m₀.connectionId).trans ((if_pos rfl).trans (congrArg Prod.fst hstep))

/-- Every message made that enables encryption answers an accepted hello. -/
theorem helloAccepted_of_produced {platform : Platform} {s : System Peer}
    {tr : List (Event Peer)} (hr : (server Peer platform).Reach s tr)
    {m : SimulationToNetworkOUTMessage} (hm : m ∈ producedLog tr)
    (henable : m.enableEncryptionAfterAck = true) : ∃ hello, HelloAccepted platform tr hello m := by
  refine TraceMachine.Run.invariant
    (P := fun _ tr => ∀ m ∈ producedLog tr, m.enableEncryptionAfterAck = true →
      ∃ hello, HelloAccepted platform tr hello m) (by simp) ?_ hr m hm henable
  intro s tr a s' es hr ih _ hs m hm henable
  rw [producedLog_append] at hm
  rcases List.mem_append.mp hm with hm | hm
  · obtain ⟨hello, h⟩ := ih m hm henable
    exact ⟨hello, h.append es⟩
  · obtain ⟨hello, _, rx, tx, rfl, hsuccess, _, hkx, _⟩ :=
      (System.step_cases hs).enabling_produced hm henable
    rw [cryptoKxState_of_reach hr.reach] at hkx
    exact ⟨hello, List.mem_append_right _ (List.mem_singleton.mpr rfl), hsuccess, by simp [hkx]⟩

/-- A hello that reaches the simulation carries the server's protocol version. -/
theorem hello_version {platform : Platform} {s : System Peer} {tr : List (Event Peer)}
    (hr : (server Peer platform).Reach s tr) {c : ConnectionId}
    {hello : ClientSecureSessionHelloPacketReliable}
    (hm : .clientSecureSessionHelloPacketReliable c hello ∈ incomingLog tr) :
    hello.networkProtocolVersion = serverNetworkProtocolVersion := by
  refine TraceMachine.Run.invariant
    (P := fun _ tr => ∀ c hello, .clientSecureSessionHelloPacketReliable c hello ∈ incomingLog tr →
      hello.networkProtocolVersion = serverNetworkProtocolVersion) (by simp) ?_ hr c hello hm
  intro s tr a s' es _ ih _ hs c hello hm
  rw [incomingLog_append] at hm
  rcases List.mem_append.mp hm with hm | hm
  · exact ih c hello hm
  · cases System.step_cases hs with
    | receive _ pushed =>
        obtain rfl := List.mem_singleton.mp hm
        exact (ServerNetworkIncoming.eventHandleReceive_push pushed).2.2
    | connect => cases List.mem_singleton.mp hm
    | disconnect => cases List.mem_singleton.mp hm
    | _ => cases hm

-- ============================================================================
-- The encryption flags
-- ============================================================================

/-- The encryption flag of the connection table and the one of the session. -/
structure EncryptionInv (platform : Platform) (s : System Peer) (tr : List (Event Peer)) :
    Prop where
  agree : ∀ c flag session,
    s.networkState.connectionIdToEncryptionEnabled.lookup c = some flag →
    s.networkState.sessions.lookup c = some session → flag = session.isPacketEncryptionEnabled
  named : ∀ c, s.networkState.connectionIdToEncryptionEnabled.lookup c = some true →
    connectionPhase c (handledLog tr) ≠ .fresh
  /-- Encryption was switched on by the ACK of an accepted hello's response. -/
  acknowledged : ∀ c session, s.networkState.sessions.lookup c = some session →
    session.isPacketEncryptionEnabled = true →
    ∃ m hello calls, Event.acknowledged m calls ∈ tr ∧ m.connectionId = c ∧
      HelloAccepted platform tr hello m

namespace EncryptionInv

omit [DecidableEq Peer] in
theorem init (platform : Platform) :
    EncryptionInv platform (System.init platform : System Peer) [] where
  agree := by simp [System.init]
  named := by simp [System.init]
  acknowledged := by simp [System.init]

/-- Steps other than an ACK, as long as no connection is added. -/
theorem keep {platform : Platform} {s s' : System Peer} {a : Action Peer}
    {tr es : List (Event Peer)} (inv : EncryptionInv platform s tr)
    (h : System.Steps platform s a s' es) (ha : ∀ i, a ≠ .acknowledge i)
    (hflags : ∀ c flag, s'.networkState.connectionIdToEncryptionEnabled.lookup c = some flag →
      s.networkState.connectionIdToEncryptionEnabled.lookup c = some flag)
    (hwf : WellFormedLog (handledLog (tr ++ es))) : EncryptionInv platform s' (tr ++ es) := by
  refine ⟨?_, ?_, ?_⟩
  · intro c flag session hflag hsession
    have hflag := hflags c flag hflag
    have hchange := h.session c
    rw [hsession] at hchange
    cases hchange with
    | same kept => exact inv.agree c flag session hflag kept.symm
    | @handled oracle m rest _ own next left =>
        rcases ServerSimulation.clientStep_session _ _ _ left with
          ⟨hkind, rfl⟩ | ⟨_, x, hx, _, _, _, _, _, _, _, _, _, rfl⟩
        · -- a connection that is just being opened cannot be encrypted
          rw [handledLog_append, h.handledLog_eq next] at hwf
          have hfresh := Lifecycle.fresh_of_next (hwf m.connectionId) hkind
          cases flag with
          | false => rfl
          | true => exact absurd (own ▸ hfresh) (inv.named c hflag)
        · exact inv.agree c flag x hflag hx
    | @replied reply _ x _ _ found =>
        obtain ⟨_, _, _, _, _, hreply⟩ := x.applyAuthResponse_eq reply.authTokenVerificationResponse
        rw [hreply]
        exact inv.agree c flag x hflag found
    | encrypted => exact absurd rfl (ha _)
    | @snapshot _ x found => exact inv.agree c flag x hflag found
  · intro c hflag
    rw [handledLog_append]
    exact Lifecycle.phase_ne_fresh_append _ (inv.named c (hflags c true hflag))
  · intro c session hsession henabled
    have hold : ∃ x, s.networkState.sessions.lookup c = some x ∧
        x.isPacketEncryptionEnabled = true := by
      have hchange := h.session c
      rw [hsession] at hchange
      cases hchange with
      | same kept => exact ⟨session, kept.symm, henabled⟩
      | handled _ _ left =>
          rcases ServerSimulation.clientStep_session _ _ _ left with
            ⟨_, rfl⟩ | ⟨_, x, hx, _, _, _, _, _, _, _, _, _, rfl⟩
          · cases henabled
          · exact ⟨x, hx, henabled⟩
      | @replied reply _ x _ _ found =>
          obtain ⟨_, _, _, _, _, hreply⟩ :=
            x.applyAuthResponse_eq reply.authTokenVerificationResponse
          rw [hreply] at henabled
          exact ⟨x, found, henabled⟩
      | encrypted => exact absurd rfl (ha _)
      | @snapshot _ x found => exact ⟨x, found, henabled⟩
    obtain ⟨x, hx, hxe⟩ := hold
    obtain ⟨m, hello, calls, hack, hm, haccepted⟩ := inv.acknowledged c x hx hxe
    exact ⟨m, hello, calls, List.mem_append_left _ hack, hm, haccepted.append es⟩

/-- A new connection starts in clear, and nothing has been handled for it yet. -/
theorem connected {platform : Platform} {s : System Peer} {p : Peer} {tr es : List (Event Peer)}
    (inv : EncryptionInv platform s tr) (hes : handledLog es = [])
    (hnone : s.networkState.sessions.lookup s.networkState.nextConnectionId = none) :
    EncryptionInv platform (s.connected p) (tr ++ es) := by
  refine ⟨?_, ?_, ?_⟩
  · intro c flag session hflag hsession
    simp only [System.connected, UnorderedMap.lookup_insert] at hflag hsession
    split at hflag
    · rename_i hc
      rw [hc, hnone] at hsession
      cases hsession
    · exact inv.agree c flag session hflag hsession
  · intro c hflag
    simp only [System.connected, UnorderedMap.lookup_insert] at hflag
    rw [handledLog_append, hes, List.append_nil]
    split at hflag
    · cases hflag
    · exact inv.named c hflag
  · intro c session hsession henabled
    obtain ⟨m, hello, calls, hack, hm, haccepted⟩ := inv.acknowledged c session hsession henabled
    exact ⟨m, hello, calls, List.mem_append_left _ hack, hm, haccepted.append es⟩

omit [DecidableEq Peer] in
/-- Nothing changes while the network state stays and no message is handled. -/
theorem quiet {platform : Platform} {s s' : System Peer} {tr es : List (Event Peer)}
    (inv : EncryptionInv platform s tr) (hstate : s'.networkState = s.networkState)
    (hes : handledLog es = []) : EncryptionInv platform s' (tr ++ es) := by
  refine ⟨?_, ?_, ?_⟩
  · rw [hstate]
    exact inv.agree
  · rw [hstate, handledLog_append, hes, List.append_nil]
    exact inv.named
  · rw [hstate]
    intro c session hsession henabled
    obtain ⟨m, hello, calls, hack, hm, haccepted⟩ := inv.acknowledged c session hsession henabled
    exact ⟨m, hello, calls, List.mem_append_left _ hack, hm, haccepted.append es⟩

omit [DecidableEq Peer] in
/-- An ACK sets both flags of the connection of its message. -/
theorem enabled {platform : Platform} {s : System Peer} {tr es : List (Event Peer)}
    {inFlight : List (OwnedPacket Peer)} (inv : EncryptionInv platform s tr)
    {m : SimulationToNetworkOUTMessage} {hello : ClientSecureSessionHelloPacketReliable}
    {calls : List (ENetCall Peer)} (hes : handledLog es = [])
    (hack : Event.acknowledged m calls ∈ es) (haccepted : HelloAccepted platform tr hello m) :
    EncryptionInv platform
      { s with
        networkState := s.networkState.enableEncryption m.connectionId
        inFlight := inFlight } (tr ++ es) := by
  refine ⟨?_, ?_, ?_⟩
  · intro c flag session hflag hsession
    simp only [NetworkState.lookup_enableEncryption] at hsession
    simp only [NetworkState.enableEncryption, UnorderedMap.lookup_insert] at hflag
    by_cases hc : c = m.connectionId
    · rw [if_pos hc] at hflag hsession
      obtain ⟨x, _, rfl⟩ := Option.map_eq_some_iff.mp hsession
      exact (Option.some.inj hflag).symm
    · rw [if_neg hc] at hflag hsession
      exact inv.agree c flag session hflag hsession
  · intro c hflag
    rw [handledLog_append, hes, List.append_nil]
    simp only [NetworkState.enableEncryption, UnorderedMap.lookup_insert] at hflag
    by_cases hc : c = m.connectionId
    · have hhandled := mem_handledLog.mpr ⟨_, _, haccepted.handled⟩
      rw [Ne, Lifecycle.phase_eq_fresh_iff]
      exact fun hall => hall _ hhandled hc.symm
    · rw [if_neg hc] at hflag
      exact inv.named c hflag
  · intro c session hsession henabled
    simp only [NetworkState.lookup_enableEncryption] at hsession
    by_cases hc : c = m.connectionId
    · exact ⟨m, hello, calls, List.mem_append_right _ hack, hc.symm, haccepted.append es⟩
    · rw [if_neg hc] at hsession
      obtain ⟨m', hello', calls', hack', hm', haccepted'⟩ :=
        inv.acknowledged c session hsession henabled
      exact ⟨m', hello', calls', List.mem_append_left _ hack', hm', haccepted'.append es⟩

theorem step {platform : Platform} {s s' : System Peer} {a : Action Peer}
    {tr es : List (Event Peer)} (hr : (server Peer platform).Reach s tr)
    (hr' : (server Peer platform).Reach s' (tr ++ es)) (inv : EncryptionInv platform s tr)
    (h : System.Steps platform s a s' es) (few : FewConnects (tr ++ es)) :
    EncryptionInv platform s' (tr ++ es) := by
  have hwf := handledLog_wellFormed hr' few
  have hnew := inv.keep h
  cases h with
  | connect =>
      -- the next id is fresh in the whole log, so also in what has been handled
      have hfresh := (TableInv.of_reach hr few.of_append).fresh_next
      rw [(FifoInv.of_reach hr).incoming_eq] at hfresh
      refine inv.connected rfl (Option.not_isSome_iff_eq_none.mp ?_)
      intro hsome
      have hlive := ((SessionInv.of_reach hr few.of_append).live _).mp hsome
      exact Lifecycle.phase_ne_fresh_append _ (by simp [hlive]) hfresh
  | disconnect =>
      refine hnew (by simp) ?_ hwf
      intro c flag hflag
      simp only [System.disconnected, UnorderedMap.lookup_erase] at hflag
      split at hflag
      · cases hflag
      · exact hflag
  | acknowledgeIgnored => exact inv.quiet rfl rfl
  | @acknowledge i owned context p idle inFlight userData peer bound =>
      have hmem := List.mem_of_getElem? inFlight
      obtain ⟨hid, _, henable⟩ :=
        (ContextInv.of_reach hr few.of_append).context owned hmem context userData
      cases hcontext : context.enableEncryptionAfterAck with
      | true =>
          have houtgoing := OutgoingInv.of_reach hr
          obtain ⟨hello, haccepted⟩ := helloAccepted_of_produced hr
            (houtgoing.produced_of_reliableLog (houtgoing.inFlight owned hmem))
            (henable hcontext)
          rw [if_pos rfl, hid]
          exact inv.enabled rfl (List.mem_singleton.mpr rfl) haccepted
      | false => exact inv.quiet rfl rfl
  | _ => exact hnew (by simp) (fun _ _ hflag => hflag) hwf

theorem of_reach {platform : Platform} {s : System Peer} {tr : List (Event Peer)}
    (hr : (server Peer platform).Reach s tr) (few : FewConnects tr) :
    EncryptionInv platform s tr :=
  TraceMachine.Run.invariant_of_prefix (P := EncryptionInv platform) (B := FewConnects)
    (fun _ _ h => h.of_append) (EncryptionInv.init platform)
    (fun _ _ _ _ _ hr inv _ hs few =>
      inv.step hr.reach (hr.reach.next hs) (System.step_cases hs) few)
    hr few

end EncryptionInv

/-- An encrypted connection of the table has its session. -/
theorem session_of_encrypted {platform : Platform} {s : System Peer} {tr : List (Event Peer)}
    (hr : (server Peer platform).Reach s tr) (few : FewConnects tr) {c : ConnectionId}
    (hflag : s.networkState.connectionIdToEncryptionEnabled.lookup c = some true) :
    (s.networkState.sessions.lookup c).isSome = true := by
  have table := TableInv.of_reach hr few
  have hnamed := (EncryptionInv.of_reach hr few).named c hflag
  -- named in the handled prefix and live in the whole log: live in the prefix
  have hlive : connectionPhase c (incomingLog tr) = .live := by
    refine (table.live c).mp ?_
    rw [← table.encryptionKeys c, hflag]
    rfl
  rw [(FifoInv.of_reach hr).incoming_eq] at hlive
  exact ((SessionInv.of_reach hr few).live c).mpr (Lifecycle.live_of_named hlive hnamed)

end RcnetServer
