/-
  RcnetServer.Properties.SessionHistory

  A session is its client's history.

  The abstract table keeps for every connection the history of what was handled
  for it, begun by its CONNECT and dropped by its DISCONNECT.  In every reachable
  state the session table is the image of that table, up to the three fields which
  the network thread writes: nothing else that happens, for this connection or for
  another, shows in a session.  No bound on the number of connections is needed for
  that, since a CONNECT overwrites whatever its id was used for before; with the bound
  a history is there exactly while its connection is live.
-/

import RcnetServer.Protocol.ClientHistory
import RcnetServer.System.Handshake
import RcnetServer.System.MatchPhases

namespace RcnetServer

open ServerSimulation

/-- The session without what the network thread writes. -/
def ClientSession.simulationPart (x : ClientSession) : ClientSession :=
  { x with
    isPacketEncryptionEnabled := false
    serverNextSnapshotId := 1
    serverLastSentSnapshotId := 0 }

-- ============================================================================
-- Histories of a run
-- ============================================================================

/-- What a message adds to the history of its connection; `accepted` tells whether a
    hello was answered with SUCCESS. -/
def NetworkINToSimulationMessage.record (accepted : Bool) :
    NetworkINToSimulationMessage → Option ClientHistory → Option ClientHistory
  | .clientEventConnect _, _ => some {}
  | .clientEventDisconnect _, _ => none
  | .clientSecureSessionHelloPacketReliable _ hello, h => h.map (·.withHello hello accepted)
  | .clientAuthPacketReliable _ packet, h => h.map (·.withAuthPacket packet)
  | .clientInputPacketUnreliable _ packet, h => h.map (·.withInput packet)
  | .clientReadyForMatchPacketReliable _, h => h.map (·.withReady)

/-- Whether the answer that is sent starts the encryption. -/
def startsEncryption (out : List SimulationToNetworkOUTMessage) : Bool :=
  out.any (·.enableEncryptionAfterAck)

@[simp] theorem startsEncryption_stamp (start : Nat) (out : List SimulationToNetworkOUTMessage) :
    startsEncryption (System.stamp start out) = startsEncryption out := by
  rw [Bool.eq_iff_iff, startsEncryption, startsEncryption, List.any_eq_true, List.any_eq_true]
  refine ⟨?_, ?_⟩
  · rintro ⟨_, hm, h⟩
    obtain ⟨m₀, hm₀, serial, rfl⟩ := System.mem_stamp hm
    exact ⟨m₀, hm₀, h⟩
  · rintro ⟨m₀, hm₀, h⟩
    obtain ⟨serial, hm⟩ := System.mem_stamp_of_mem start hm₀
    exact ⟨_, hm, h⟩

variable {Peer : Type}

/-- What an event adds to the history of `c`. -/
def Event.record (c : ConnectionId) : Event Peer → Option ClientHistory → Option ClientHistory
  | .networkHandled m out _, h =>
      if m.connectionId = c then m.record (startsEncryption out) h else h
  | .replyHandled reply _ _, h =>
      if reply.connectionId = c then h.map (·.withVerdict reply.authTokenVerificationResponse)
      else h
  | _, h => h

/-- The history of `c`, while it is connected. -/
def historyOf (c : ConnectionId) (tr : List (Event Peer)) : Option ClientHistory :=
  tr.foldl (fun h e => e.record c h) none

theorem historyOf_append (c : ConnectionId) (tr es : List (Event Peer)) :
    historyOf c (tr ++ es) = es.foldl (fun h e => e.record c h) (historyOf c tr) :=
  List.foldl_append

-- ============================================================================
-- The handlers
-- ============================================================================

section Handlers

variable {kx : KxServerSessionKeys} {oracle : HelloOracle} {networkState : NetworkState Peer}
  {h : ClientHistory} {c : ConnectionId}

/-- The hello handler on the part of the simulation. -/
theorem simulationPart_answerSecureSessionHello (x : ClientSession)
    (hello : ClientSecureSessionHelloPacketReliable) :
    (answerSecureSessionHello kx oracle networkState x hello).session.simulationPart =
      (answerSecureSessionHello kx oracle networkState x.simulationPart hello).session ∧
    (answerSecureSessionHello kx oracle networkState x hello).secureSessionAccepted =
      (answerSecureSessionHello kx oracle networkState x.simulationPart
        hello).secureSessionAccepted := by
  unfold answerSecureSessionHello
  dsimp only
  split
  · exact ⟨rfl, rfl⟩
  · split
    · exact ⟨rfl, rfl⟩
    · exact ⟨rfl, rfl⟩

/-- The hello handler adds a hello to the history. -/
theorem answerSecureSessionHello_history (hello : ClientSecureSessionHelloPacketReliable) :
    (answerSecureSessionHello kx oracle networkState
        (h.session (ServerCryptoKx.computeSessionKeys kx networkState.cryptoKxState) c)
        hello).session =
      (h.withHello hello (answerSecureSessionHello kx oracle networkState
        (h.session (ServerCryptoKx.computeSessionKeys kx networkState.cryptoKxState) c)
        hello).secureSessionAccepted).session
        (ServerCryptoKx.computeSessionKeys kx networkState.cryptoKxState) c := by
  rw [ClientHistory.session_withHello]
  unfold answerSecureSessionHello
  dsimp only
  split
  · rename_i hkeys
    rw [ClientHistory.sessionKeys_withHello_of_none _ _ hkeys]
    rfl
  · rename_i hkeys
    rw [ClientHistory.sessionKeys_withHello_of_some _ _ hkeys]
    split
    · rfl
    · rfl

/-- An input is added to the history.  No number is ever processed, so only the
    number 0 is refused. -/
theorem receiveInput_history {deriveKeys : KxPublicKey → Option (SessionKey × SessionKey)}
    (packet : ClientInputPacketUnreliable) :
    (h.session deriveKeys c).receiveInput packet = (h.withInput packet).session deriveKeys c := by
  unfold ClientSession.receiveInput
  dsimp only
  split
  · rename_i hseq
    have hzero : ¬0 < packet.inputSequenceNumber := UInt32.not_lt.mpr hseq
    simp [ClientHistory.session, ClientHistory.withInput, hzero, ClientHistory.sessionKeys,
      ClientHistory.authStatus, ClientHistory.authErrorMessage, ClientHistory.account]
  · rename_i hseq
    have hpos : 0 < packet.inputSequenceNumber := UInt32.not_le.mp hseq
    simp [ClientHistory.session, ClientHistory.withInput, hpos, ClientHistory.sessionKeys,
      ClientHistory.authStatus, ClientHistory.authErrorMessage, ClientHistory.account]

/-- A verdict on the part of the simulation. -/
theorem ClientSession.simulationPart_applyAuthResponse (x : ClientSession)
    (verdict : AuthTokenVerificationHTTPResponse) :
    (x.applyAuthResponse verdict).simulationPart = x.simulationPart.applyAuthResponse verdict := by
  unfold ClientSession.applyAuthResponse
  split
  · rfl
  · rfl

/-- An input on the part of the simulation. -/
theorem ClientSession.simulationPart_receiveInput (x : ClientSession)
    (packet : ClientInputPacketUnreliable) :
    (x.receiveInput packet).simulationPart = x.simulationPart.receiveInput packet := by
  unfold ClientSession.receiveInput ClientSession.simulationPart
  dsimp only
  split
  · rfl
  · rfl

/-- A verdict is added to the history. -/
theorem applyAuthResponse_history {deriveKeys : KxPublicKey → Option (SessionKey × SessionKey)}
    (verdict : AuthTokenVerificationHTTPResponse) :
    (h.session deriveKeys c).applyAuthResponse verdict =
      (h.withVerdict verdict).session deriveKeys c := by
  unfold ClientSession.applyAuthResponse
  split
  · rename_i hvalid
    simp [ClientHistory.session, ClientHistory.withVerdict, hvalid, ClientHistory.sessionKeys,
      ClientHistory.authStatus, ClientHistory.authErrorMessage, ClientHistory.account]
  · rename_i hvalid
    simp [ClientHistory.session, ClientHistory.withVerdict, hvalid, ClientHistory.sessionKeys,
      ClientHistory.authStatus, ClientHistory.authErrorMessage, ClientHistory.account]

/-- A message is handled for a session as it is recorded in its history. -/
theorem clientStep_history (m : NetworkINToSimulationMessage) (hc : m.connectionId = c)
    {session? : Option ClientSession} {history? : Option ClientHistory}
    (hsession : session?.map ClientSession.simulationPart = history?.map
      (·.session (ServerCryptoKx.computeSessionKeys kx networkState.cryptoKxState) c)) :
    (clientStep kx oracle networkState m session?).1.map ClientSession.simulationPart =
      (m.record (startsEncryption (clientStep kx oracle networkState m session?).2.1)
        history?).map
        (·.session (ServerCryptoKx.computeSessionKeys kx networkState.cryptoKxState) c) := by
  subst hc
  cases session? with
  | none =>
      obtain rfl : history? = none := Option.map_eq_none_iff.mp hsession.symm
      cases m <;> rfl
  | some x =>
      obtain ⟨h, rfl, hx⟩ := Option.map_eq_some_iff.mp hsession.symm
      cases m with
      | clientEventConnect c => rfl
      | clientEventDisconnect c => rfl
      | clientSecureSessionHelloPacketReliable c hello =>
          have hanswer := @simulationPart_answerSecureSessionHello Peer kx oracle networkState x
            hello
          rw [← hx] at hanswer
          have haccepted : startsEncryption (clientStep kx oracle networkState
              (.clientSecureSessionHelloPacketReliable c hello) (some x)).2.1 =
                (answerSecureSessionHello kx oracle networkState x hello).secureSessionAccepted :=
            Bool.or_false _
          rw [haccepted, hanswer.2]
          exact congrArg some (hanswer.1.trans (answerSecureSessionHello_history hello))
      | clientAuthPacketReliable c packet =>
          have hstatus : x.authStatus = h.authStatus := congrArg ClientSession.authStatus hx.symm
          simp only [clientStep, NetworkINToSimulationMessage.record, Option.map_some,
            ClientHistory.session_withAuthPacket, hstatus]
          split
          · exact congrArg (fun y => some { y with authStatus := .waitingAuth }) hx.symm
          · exact congrArg some hx.symm
      | clientInputPacketUnreliable c packet =>
          refine congrArg some ((x.simulationPart_receiveInput packet).trans ?_)
          rw [← hx]
          exact receiveInput_history packet
      | clientReadyForMatchPacketReliable c =>
          have hready := congrArg (fun y => { y with isReadyForMatch := true }) hx
          refine congrArg some (hready.symm.trans ?_)
          simp [ClientHistory.session, ClientHistory.withReady, ClientHistory.sessionKeys,
            ClientHistory.authStatus, ClientHistory.authErrorMessage, ClientHistory.account]

end Handlers

-- ============================================================================
-- Runs
-- ============================================================================

variable [DecidableEq Peer] {platform : Platform} {s s' : System Peer} {a : Action Peer}
  {tr es : List (Event Peer)}

/-- The network thread writes only its three fields, and sees no message handled. -/
theorem System.Steps.network_history (h : System.Steps platform s a s' es) (c : ConnectionId)
    (hnetwork : ∀ oracle, a ≠ .handleNetwork oracle) (hhttp : a ≠ .handleHttp) :
    (s'.networkState.sessions.lookup c).map ClientSession.simulationPart =
        (s.networkState.sessions.lookup c).map ClientSession.simulationPart ∧
      ∀ history?, es.foldl (fun h e => e.record c h) history? = history? := by
  refine ⟨?_, ?_⟩
  · have hchange := h.session c
    generalize s'.networkState.sessions.lookup c = session? at hchange
    cases hchange with
    | same kept => rw [kept]
    | handled => exact absurd rfl (hnetwork _)
    | replied => exact absurd rfl hhttp
    | encrypted _ _ _ _ found => rw [found]; rfl
    | snapshot found => rw [found]; rfl
  · intro history?
    cases h with
    | handleNetwork => exact absurd rfl (hnetwork _)
    | handleHttp => exact absurd rfl hhttp
    | _ => rfl

/-- Handling a message records it. -/
theorem System.Steps.handleNetwork_history {oracle : HelloOracle}
    (h : System.Steps platform s (.handleNetwork oracle) s' es) (c : ConnectionId)
    (hkx : s.networkState.cryptoKxState = platform.cryptoKxState)
    {history? : Option ClientHistory}
    (hsession : (s.networkState.sessions.lookup c).map ClientSession.simulationPart =
      history?.map (·.session
        (ServerCryptoKx.computeSessionKeys platform.kx platform.cryptoKxState) c)) :
    (s'.networkState.sessions.lookup c).map ClientSession.simulationPart =
      (es.foldl (fun h e => e.record c h) history?).map (·.session
        (ServerCryptoKx.computeSessionKeys platform.kx platform.cryptoKxState) c) := by
  cases h with
  | @handleNetwork _ m rest next phase pushed =>
      obtain ⟨hlookup, hout⟩ := ServerSimulation.processNetworkIncoming_client platform.kx oracle
        s.networkState m
      simp only [List.foldl_cons, List.foldl_nil, Event.record, System.produce_networkState,
        hlookup c, startsEncryption_stamp, hout]
      by_cases hc : m.connectionId = c
      · rw [if_pos hc.symm, if_pos hc]
        rw [← hkx] at hsession ⊢
        exact clientStep_history m hc (hc ▸ hsession)
      · rw [if_neg (Ne.symm hc), if_neg hc]
        exact hsession

/-- Applying a reply records its verdict. -/
theorem System.Steps.handleHttp_history (h : System.Steps platform s .handleHttp s' es)
    (c : ConnectionId) {deriveKeys : KxPublicKey → Option (SessionKey × SessionKey)}
    {history? : Option ClientHistory}
    (hsession : (s.networkState.sessions.lookup c).map ClientSession.simulationPart =
      history?.map (·.session deriveKeys c)) :
    (s'.networkState.sessions.lookup c).map ClientSession.simulationPart =
      (es.foldl (fun h e => e.record c h) history?).map (·.session deriveKeys c) := by
  cases h with
  | @handleHttp reply rest networkDone next phase pushed =>
      simp only [List.foldl_cons, List.foldl_nil, Event.record, System.produce_networkState,
        ServerSimulation.lookup_handleAuthValidateTokenResponseMessage]
      by_cases hc : reply.connectionId = c
      · subst hc
        rw [if_pos rfl, if_pos rfl, Option.map_map, Option.map_map]
        have happly := congrArg
          (Option.map (·.applyAuthResponse reply.authTokenVerificationResponse)) hsession
        rw [Option.map_map, Option.map_map] at happly
        refine Eq.trans ?_ (happly.trans ?_)
        · refine congrArg (Option.map · _) (funext fun x => ?_)
          exact x.simulationPart_applyAuthResponse _
        · refine congrArg (Option.map · _) (funext fun h => ?_)
          exact applyAuthResponse_history _
      · rw [if_neg (Ne.symm hc), if_neg hc]
        exact hsession

/-- In every reachable state a session is a function of its client's history, which
    is there exactly while the session is. -/
theorem session_eq_history (hr : (server Peer platform).Reach s tr) (c : ConnectionId) :
    (s.networkState.sessions.lookup c).map ClientSession.simulationPart =
      (historyOf c tr).map (·.session
        (ServerCryptoKx.computeSessionKeys platform.kx platform.cryptoKxState) c) := by
  induction hr with
  | start => rfl
  | @step s s' tr es a hr _ hs ih =>
      have hsteps := System.step_cases hs
      rw [historyOf_append]
      by_cases hnetwork : ∃ oracle, a = .handleNetwork oracle
      · obtain ⟨oracle, rfl⟩ := hnetwork
        exact hsteps.handleNetwork_history c (cryptoKxState_of_reach hr) ih
      · by_cases hhttp : a = .handleHttp
        · subst hhttp
          exact hsteps.handleHttp_history c ih
        · obtain ⟨hkept, hnone⟩ :=
            hsteps.network_history c (fun oracle ha => hnetwork ⟨oracle, ha⟩) hhttp
          rw [hkept, hnone, ih]

/-- While fewer than 2^32 connections have been made, the session table is the table of
    the histories: a connection has a history exactly while it is live in what has been
    handled, and a session exactly then; its session is what the history makes. -/
theorem session_is_its_history (hr : (server Peer platform).Reach s tr) (few : FewConnects tr)
    (c : ConnectionId) :
    ((historyOf c tr).isSome ↔ connectionPhase c (handledLog tr) = .live) ∧
      (s.networkState.sessions.lookup c).map ClientSession.simulationPart =
        (historyOf c tr).map (·.session
          (ServerCryptoKx.computeSessionKeys platform.kx platform.cryptoKxState) c) := by
  have hsession := session_eq_history hr c
  refine ⟨?_, hsession⟩
  have hsome := congrArg Option.isSome hsession
  rw [Option.isSome_map, Option.isSome_map] at hsome
  rw [← hsome]
  exact (SessionInv.of_reach hr few).live c

/-- In the run that announces a start, the one client's history makes its session. -/
theorem soloAnnounced_history :
    (historyOf 1 soloAnnouncedResult.2).isSome = true ∧
      (soloAnnouncedResult.1.networkState.sessions.lookup 1).map ClientSession.simulationPart =
        (historyOf 1 soloAnnouncedResult.2).map (·.session
          (ServerCryptoKx.computeSessionKeys soloPlatform.kx soloPlatform.cryptoKxState) 1) :=
  ⟨by decide +kernel, (session_is_its_history soloAnnounced_reach soloAnnounced_few 1).2⟩

end RcnetServer
