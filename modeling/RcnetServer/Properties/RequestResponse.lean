/-
  RcnetServer.Properties.RequestResponse

  Every hello is answered, and every authentication asked for once and answered
  with the verdict on the token that was asked about.

  A message that reaches the simulation finds the session of its connection, since
  the queue in between is a FIFO and a packet is only let in while its connection
  is live.  So a hello is never handled in vain: the responses made for a
  connection correspond, one for one and in order, to the hellos handled for it,
  and the passes hand them to the sender in that order.
-/

import RcnetServer.System.Gating
import RcnetServer.System.MatchPhases
import RcnetServer.System.Snapshots

namespace RcnetServer

-- ============================================================================
-- Requests and responses of a connection
-- ============================================================================

/-- The hello of connection `c` that a message carries. -/
def NetworkINToSimulationMessage.helloOf (c : ConnectionId) :
    NetworkINToSimulationMessage → Option ClientSecureSessionHelloPacketReliable
  | .clientSecureSessionHelloPacketReliable c' packet => if c' = c then some packet else none
  | _ => none

/-- The auth packet of connection `c` that a message carries. -/
def NetworkINToSimulationMessage.authPacketOf (c : ConnectionId) :
    NetworkINToSimulationMessage → Option ClientAuthPacketReliable
  | .clientAuthPacketReliable c' packet => if c' = c then some packet else none
  | _ => none

/-- The hellos of `c` in a message log. -/
def hellosOf (c : ConnectionId) (log : List NetworkINToSimulationMessage) :
    List ClientSecureSessionHelloPacketReliable :=
  log.filterMap (·.helloOf c)

/-- The auth packets of `c` in a message log. -/
def authPacketsOf (c : ConnectionId) (log : List NetworkINToSimulationMessage) :
    List ClientAuthPacketReliable :=
  log.filterMap (·.authPacketOf c)

section Append

variable (c : ConnectionId) (log log' : List NetworkINToSimulationMessage)

@[simp] theorem authPacketsOf_nil : authPacketsOf c [] = [] := rfl

@[simp] theorem hellosOf_append : hellosOf c (log ++ log') = hellosOf c log ++ hellosOf c log' :=
  List.filterMap_append

@[simp] theorem authPacketsOf_append :
    authPacketsOf c (log ++ log') = authPacketsOf c log ++ authPacketsOf c log' :=
  List.filterMap_append

end Append

/-- The reliable messages contain the ones of each reliable type. -/
theorem ofFamily_onlyReliable {type : SimulationToNetworkOUTMessageType}
    (htype : type.isReliable = true) (c : ConnectionId)
    (batch : List SimulationToNetworkOUTMessage) :
    ofFamily type c (onlyReliable batch) = ofFamily type c batch := by
  rw [ofFamily, ofFamily, onlyReliable, List.filter_filter]
  refine List.filter_congr ?_
  intro m _
  by_cases hm : m.type = type
  · simp [hm, htype]
  · simp [hm]

theorem ofFamily_eq_nil {type : SimulationToNetworkOUTMessageType} {c : ConnectionId}
    {batch : List SimulationToNetworkOUTMessage}
    (h : ∀ m ∈ batch, m.type = type → m.connectionId ≠ c) : ofFamily type c batch = [] := by
  rw [ofFamily, List.filter_eq_nil_iff]
  intro m hm
  simpa using h m hm

theorem ofFamily_singleton {type : SimulationToNetworkOUTMessageType} {c : ConnectionId}
    {m : SimulationToNetworkOUTMessage} (htype : m.type = type) (hc : m.connectionId = c) :
    ofFamily type c [m] = [m] := by
  simp [ofFamily, htype, hc]

/-- `m` answers `hello`: the flags go with the status on the wire, and a SUCCESS
    echoes the nonce and announces the server's key. -/
def AnswersHello (platform : Platform) (hello : ClientSecureSessionHelloPacketReliable)
    (m : SimulationToNetworkOUTMessage) : Prop :=
  ∃ response : ServerSecureSessionHelloResponsePacketReliable,
    m.serializedPacket = serializeServerSecureSessionHelloResponsePacketReliable response ∧
    (response.status = .success ↔ m.enableEncryptionAfterAck = true) ∧
    (response.status = .success ↔ m.disconnectAfterAck = false) ∧
    (response.status = .success → response.clientNonceEcho = hello.clientNonce ∧
      response.serverPublicKey = platform.cryptoKxState.serverPublicKey)

variable {Peer : Type}

/-- The handler answers the hello it is given. -/
theorem answersHello_outMessage {platform : Platform} {oracle : HelloOracle}
    {networkState : NetworkState Peer}
    (hkx : networkState.cryptoKxState = platform.cryptoKxState) (session : ClientSession)
    (hello : ClientSecureSessionHelloPacketReliable) (c : ConnectionId) (serial : Nat) :
    AnswersHello platform hello
      { (ServerSimulation.answerSecureSessionHello platform.kx oracle networkState session
          hello).outMessage c with serial := serial } := by
  refine ⟨_, rfl, ?_⟩
  simp only [SecureSessionAnswer.outMessage]
  rcases ServerSimulation.answerSecureSessionHello_cases platform.kx oracle networkState session
      hello with ⟨_, h⟩ | ⟨_, _, _, _, h⟩ | ⟨_, _, _, _, h⟩
  · simp [h]
  · simp [h]
  · simp [h, ServerSimulation.attestSecureSession, hkx]

/-- Handling a hello of a live connection makes one message, which answers it. -/
theorem clientStep_answers_hello {platform : Platform} {oracle : HelloOracle}
    {networkState : NetworkState Peer}
    (hkx : networkState.cryptoKxState = platform.cryptoKxState) (session : ClientSession)
    (hello : ClientSecureSessionHelloPacketReliable) (c : ConnectionId) (start : Nat) :
    ∃ m, System.stamp start (ServerSimulation.clientStep platform.kx oracle networkState
        (.clientSecureSessionHelloPacketReliable c hello) (some session)).2.1 = [m] ∧
      m.type = .serverSecureSessionHelloResponsePacketReliable ∧ m.connectionId = c ∧
      AnswersHello platform hello m :=
  ⟨_, rfl, rfl, rfl, answersHello_outMessage hkx session hello c start⟩

variable [DecidableEq Peer] {platform : Platform} {s s' : System Peer} {a : Action Peer}
  {tr es : List (Event Peer)}

-- ============================================================================
-- Hellos
-- ============================================================================

/-- Only the handling of a message makes hello responses, and for its connection. -/
theorem System.Steps.helloResponse_produced (h : System.Steps platform s a s' es)
    {m : SimulationToNetworkOUTMessage} (hm : m ∈ producedLog es)
    (htype : m.type = .serverSecureSessionHelloResponsePacketReliable) :
    ∃ hello, .clientSecureSessionHelloPacketReliable m.connectionId hello ∈ handledLog es := by
  cases h.produces hm with
  | client next made =>
      obtain ⟨hello, _, hmsg, _⟩ := ServerSimulation.clientStep_out _ _ _ made
      refine ⟨hello, ?_⟩
      rw [h.handledLog_eq next, hmsg]
      exact List.mem_singleton_self _
  | reply _ made => simp [ServerSimulation.reply_type made] at htype
  | matchFlow _ made =>
      obtain ⟨_, _, _, _, htypes⟩ := ServerSimulation.mem_checkMatchFlow made
      rcases htypes with ⟨hother, _⟩ | ⟨hother, _⟩ | ⟨hother, _⟩ <;> simp [hother] at htype
  | snapshot _ made =>
      obtain ⟨_, _, _, rfl⟩ := ServerSimulation.mem_createFullSnapshots made
      cases htype

/-- A packet or a DISCONNECT that reaches its handler finds the session of its
    connection: the CONNECT came before it in the queue, and no DISCONNECT did. -/
theorem System.Steps.session_found {oracle : HelloOracle} {m : NetworkINToSimulationMessage}
    {rest : List NetworkINToSimulationMessage} (hr : (server Peer platform).Reach s tr)
    (h : System.Steps platform s (.handleNetwork oracle) s' es)
    (hwf : WellFormedLog (handledLog (tr ++ es))) (few : FewConnects tr)
    (next : s.simulation.networkMessages = m :: rest) (hkind : m.kind ≠ .opens) :
    ∃ session, s.networkState.sessions.lookup m.connectionId = some session := by
  rw [handledLog_append, h.handledLog_eq next] at hwf
  have hlive : connectionPhase m.connectionId (handledLog tr) = .live :=
    Lifecycle.live_of_next (hwf m.connectionId) hkind
  exact Option.isSome_iff_exists.mp (((SessionInv.of_reach hr few).live _).mpr hlive)

/-- The responses made for a connection answer the hellos handled for it, in order. -/
theorem hellos_answered (hr : (server Peer platform).Reach s tr) (few : FewConnects tr)
    (c : ConnectionId) :
    List.Forall₂ (AnswersHello platform) (hellosOf c (handledLog tr))
      (ofFamily .serverSecureSessionHelloResponsePacketReliable c (producedLog tr)) := by
  refine TraceMachine.Run.invariant_of_prefix
    (P := fun (_ : System Peer) (tr : List (Event Peer)) =>
      List.Forall₂ (AnswersHello platform) (hellosOf c (handledLog tr))
        (ofFamily .serverSecureSessionHelloResponsePacketReliable c (producedLog tr)))
    (B := FewConnects) (fun _ _ h => h.of_append) .nil ?_ hr few
  intro s tr a s' es hr ih _ hs few
  have hsteps := System.step_cases hs
  rw [handledLog_append, hellosOf_append, producedLog_append, ofFamily_append]
  refine List.rel_append ih ?_
  by_cases hhello : hellosOf c (handledLog es) = []
  · -- no hello of `c` is handled, so no response is made for it
    have hnone :
        ofFamily .serverSecureSessionHelloResponsePacketReliable c (producedLog es) = [] := by
      refine ofFamily_eq_nil fun m hm htype hc => ?_
      obtain ⟨hello, hmem⟩ := hsteps.helloResponse_produced hm htype
      have hsome : hello ∈ hellosOf c (handledLog es) :=
        List.mem_filterMap.mpr ⟨_, hmem, by simp [NetworkINToSimulationMessage.helloOf, hc]⟩
      rw [hhello] at hsome
      cases hsome
    rw [hhello, hnone]
    exact .nil
  · -- the step handles a hello of `c`, whose session is there
    have hwf := handledLog_wellFormed (hr.reach.next hs) few
    have hhandle := hsteps
    cases hsteps with
    | @handleNetwork oracle m rest next phase pushed =>
        have hlog : handledLog [(Event.networkHandled m
            (System.stamp s.producedCount (ServerSimulation.processNetworkIncoming platform.kx
              oracle s.networkState m).2.1) (ServerSimulation.processNetworkIncoming platform.kx
              oracle s.networkState m).2.2 : Event Peer)] = [m] := rfl
        rw [hlog] at hhello ⊢
        cases m with
        | clientSecureSessionHelloPacketReliable c' hello =>
            obtain rfl : c' = c := by
              by_contra hc
              exact hhello (by simp [hellosOf, NetworkINToSimulationMessage.helloOf, hc])
            obtain ⟨session, hsession⟩ := hhandle.session_found hr.reach hwf few.of_append next
              (by simp [NetworkINToSimulationMessage.kind])
            have hout := (ServerSimulation.processNetworkIncoming_client platform.kx oracle
              s.networkState (.clientSecureSessionHelloPacketReliable c' hello)).2
            obtain ⟨m, hmade, htype, hm, hanswers⟩ := clientStep_answers_hello
              (cryptoKxState_of_reach hr.reach) session hello c' s.producedCount
            have hasked : hellosOf c' [.clientSecureSessionHelloPacketReliable c' hello] =
                [hello] := by
              simp [hellosOf, NetworkINToSimulationMessage.helloOf]
            rw [producedLog_singleton, hout, hsession, Event.produced, hmade, hasked,
              ofFamily_singleton htype hm]
            exact .cons hanswers .nil
        | _ => exact absurd rfl hhello
    | _ => exact absurd rfl hhello

/-- The reliable messages on their way to `handleReliableMessage`. -/
def System.unsentReliable (s : System Peer) : List SimulationToNetworkOUTMessage :=
  s.network.reliableMessages ++ onlyReliable (s.simToNet ++ s.simulation.outbox)

/-- The messages of a reliable type made for a connection are those a pass has
    handled, and then those on their way. -/
theorem ofFamily_produced (hr : (server Peer platform).Reach s tr)
    {type : SimulationToNetworkOUTMessageType} (htype : type.isReliable = true)
    (c : ConnectionId) :
    ofFamily type c (producedLog tr) =
      ofFamily type c (reliableLog tr) ++ ofFamily type c s.unsentReliable := by
  rw [← ofFamily_onlyReliable htype, (OutgoingInv.of_reach hr).fifo, List.append_assoc,
    ofFamily_append, System.unsentReliable]

/-- Every hello of a connection is answered by one response, in order: of those the
    network thread has let in, the first are answered and the others still wait for
    the simulation, and the responses leave in the order of the hellos. -/
theorem every_hello_answered_in_order (hr : (server Peer platform).Reach s tr)
    (few : FewConnects tr) (c : ConnectionId) :
    ∃ answered, hellosOf c (incomingLog tr) = answered ++ hellosOf c s.undelivered ∧
      List.Forall₂ (AnswersHello platform) answered
        (ofFamily .serverSecureSessionHelloResponsePacketReliable c (reliableLog tr) ++
          ofFamily .serverSecureSessionHelloResponsePacketReliable c s.unsentReliable) := by
  refine ⟨hellosOf c (handledLog tr), ?_, ?_⟩
  · rw [(FifoInv.of_reach hr).incoming_eq, hellosOf_append, System.undelivered]
  · rw [← ofFamily_produced hr rfl]
    exact hellos_answered hr few c

/-- In the run with two clients the first has said hello twice, and both are answered. -/
theorem duoStarted_hellos_answered :
    ∃ answered, answered.length = 2 ∧
      hellosOf 1 (incomingLog duoStartedResult.2) =
        answered ++ hellosOf 1 duoStartedResult.1.undelivered ∧
      List.Forall₂ (AnswersHello duoPlatform) answered
        (ofFamily .serverSecureSessionHelloResponsePacketReliable 1
            (reliableLog duoStartedResult.2) ++
          ofFamily .serverSecureSessionHelloResponsePacketReliable 1
            duoStartedResult.1.unsentReliable) := by
  have hall : (hellosOf 1 (incomingLog duoStartedResult.2)).length = 2 := by decide +kernel
  have hnone : (hellosOf 1 duoStartedResult.1.undelivered).length = 0 := by decide +kernel
  obtain ⟨answered, hsplit, hanswers⟩ :=
    every_hello_answered_in_order duoStarted_reach duoStarted_few 1
  refine ⟨answered, ?_, hsplit, hanswers⟩
  have hlength := congrArg List.length hsplit
  rw [List.length_append, hall, hnone] at hlength
  exact hlength.symm

-- ============================================================================
-- Authentication requests
-- ============================================================================

/-- The request for the token of an auth packet. -/
def tokenRequest (c : ConnectionId) (packet : ClientAuthPacketReliable) :
    SimulationToHttpMessage :=
  { connectionId := c, authToken := packet.authToken }

omit [DecidableEq Peer] in
/-- Only an auth packet of a session that has not asked makes a request, and the
    request carries its token. -/
theorem ServerSimulation.clientStep_http (kx : KxServerSessionKeys) (oracle : HelloOracle)
    (networkState : NetworkState Peer) (m : NetworkINToSimulationMessage)
    (x : ClientSession) :
    (clientStep kx oracle networkState m (some x)).2.2 =
      if x.authStatus = .none then
        (authPacketsOf m.connectionId [m]).map (tokenRequest m.connectionId)
      else [] := by
  cases m with
  | clientAuthPacketReliable c packet =>
      by_cases hstatus : x.authStatus = .none
      · simp [clientStep, hstatus, authPacketsOf, NetworkINToSimulationMessage.authPacketOf,
          NetworkINToSimulationMessage.connectionId, tokenRequest]
      · simp [clientStep, hstatus]
  | _ =>
      simp [clientStep, authPacketsOf, NetworkINToSimulationMessage.authPacketOf]

/-- The requests a step makes. -/
@[simp] def Event.authRequests : Event Peer → List SimulationToHttpMessage
  | .networkHandled _ _ http => http
  | _ => []

/-- The requests made, in order. -/
def authRequestLog (tr : List (Event Peer)) : List SimulationToHttpMessage :=
  tr.flatMap Event.authRequests

/-- The requests of a connection. -/
def requestsOf (c : ConnectionId) (requests : List SimulationToHttpMessage) :
    List SimulationToHttpMessage :=
  requests.filter fun request => request.connectionId = c

omit [DecidableEq Peer] in
@[simp] theorem authRequestLog_nil : authRequestLog ([] : List (Event Peer)) = [] := rfl

omit [DecidableEq Peer] in
@[simp] theorem authRequestLog_cons (e : Event Peer) (es : List (Event Peer)) :
    authRequestLog (e :: es) = e.authRequests ++ authRequestLog es := rfl

omit [DecidableEq Peer] in
theorem authRequestLog_append (tr es : List (Event Peer)) :
    authRequestLog (tr ++ es) = authRequestLog tr ++ authRequestLog es :=
  List.flatMap_append

theorem requestsOf_append (c : ConnectionId) (requests requests' : List SimulationToHttpMessage) :
    requestsOf c (requests ++ requests') = requestsOf c requests ++ requestsOf c requests' :=
  List.filter_append _ _

omit [DecidableEq Peer] in
/-- A connection has asked exactly if there is a request of it. -/
theorem mem_requestLog_iff (c : ConnectionId) (tr : List (Event Peer)) :
    c ∈ requestLog tr ↔ requestsOf c (authRequestLog tr) ≠ [] := by
  have hids : requestLog tr = (authRequestLog tr).map (·.connectionId) := by
    rw [requestLog, authRequestLog, List.map_flatMap]
    refine List.flatMap_congr ?_
    intro e _
    cases e <;> rfl
  rw [hids, List.mem_map, requestsOf, Ne, List.filter_eq_nil_iff]
  simp

/-- A message brings at most one auth packet, and only for its own connection. -/
theorem authPacketsOf_singleton (c : ConnectionId) (m : NetworkINToSimulationMessage) :
    requestsOf c ((authPacketsOf m.connectionId [m]).map (tokenRequest m.connectionId)) =
      ((authPacketsOf c [m]).head?.map (tokenRequest c)).toList := by
  cases m with
  | clientAuthPacketReliable c' packet =>
      by_cases hc : c' = c
      · simp [authPacketsOf, NetworkINToSimulationMessage.authPacketOf,
          NetworkINToSimulationMessage.connectionId, requestsOf, tokenRequest, hc]
      · simp [authPacketsOf, NetworkINToSimulationMessage.authPacketOf,
          NetworkINToSimulationMessage.connectionId, requestsOf, tokenRequest, hc]
  | _ => rfl

theorem authPacketsOf_eq_nil {c : ConnectionId} {m : NetworkINToSimulationMessage}
    (hc : m.connectionId ≠ c) : authPacketsOf c [m] = [] := by
  cases m with
  | clientAuthPacketReliable c' packet =>
      have hne : c' ≠ c := hc
      simp [authPacketsOf, NetworkINToSimulationMessage.authPacketOf, hne]
  | _ => rfl

/-- One more list item changes the first one only if there was none. -/
theorem head?_append_map {α β : Type} (f : α → β) (xs ys : List α) :
    ((xs ++ ys).head?.map f).toList =
      (xs.head?.map f).toList ++ if xs = [] then (ys.head?.map f).toList else [] := by
  cases xs with
  | nil => simp
  | cons x xs => simp

/-- What a connection asks of the backend is its first auth packet's token, once it
    has been handled, and nothing else. -/
theorem requests_eq_first (hr : (server Peer platform).Reach s tr) (few : FewConnects tr)
    (c : ConnectionId) :
    requestsOf c (authRequestLog tr) =
      ((authPacketsOf c (handledLog tr)).head?.map (tokenRequest c)).toList := by
  refine TraceMachine.Run.invariant_of_prefix
    (P := fun (_ : System Peer) (tr : List (Event Peer)) => requestsOf c (authRequestLog tr) =
      ((authPacketsOf c (handledLog tr)).head?.map (tokenRequest c)).toList)
    (B := FewConnects) (fun _ _ h => h.of_append) rfl ?_ hr few
  intro s tr a s' es hr ih _ hs few
  have hsteps := System.step_cases hs
  have hwf := handledLog_wellFormed (hr.reach.next hs) few
  rw [authRequestLog_append, requestsOf_append, ih, handledLog_append, authPacketsOf_append,
    head?_append_map, List.append_cancel_left_eq]
  by_cases hnetwork : ∀ oracle, a ≠ .handleNetwork oracle
  · have hnone : authRequestLog es = [] := by
      cases hsteps with
      | handleNetwork => exact absurd rfl (hnetwork _)
      | _ => rfl
    rw [hnone, hsteps.handledLog_eq_nil hnetwork]
    simp [requestsOf]
  · push Not at hnetwork
    obtain ⟨oracle, rfl⟩ := hnetwork
    have hhandle := hsteps
    cases hsteps with
    | @handleNetwork _ m rest next phase pushed =>
        have hasked : authRequestLog [(Event.networkHandled m
            (System.stamp s.producedCount (ServerSimulation.processNetworkIncoming platform.kx
              oracle s.networkState m).2.1) (ServerSimulation.processNetworkIncoming platform.kx
              oracle s.networkState m).2.2 : Event Peer)] =
            (ServerSimulation.clientStep platform.kx oracle s.networkState m
              (s.networkState.sessions.lookup m.connectionId)).2.2 := by
          rw [← (ServerSimulation.processNetworkIncoming_client platform.kx oracle s.networkState
            m).2]
          exact List.append_nil _
        rw [hasked, hhandle.handledLog_eq next]
        by_cases hkind : m.kind = .opens
        · -- a CONNECT
          cases m with
          | clientEventConnect c' => simp [ServerSimulation.clientStep, requestsOf, authPacketsOf,
              NetworkINToSimulationMessage.authPacketOf]
          | _ => cases hkind
        · obtain ⟨x, hx⟩ := hhandle.session_found hr.reach hwf few.of_append next hkind
          rw [hx, ServerSimulation.clientStep_http]
          by_cases hc : m.connectionId = c
          · -- the session has asked exactly if an auth packet was handled before
            subst hc
            have hnew : x.authStatus = .none ↔
                authPacketsOf m.connectionId (handledLog tr) = [] := by
              rw [(AuthInv.of_reach hr.reach few.of_append).asked _ x hx, mem_requestLog_iff, ih]
              simp
            simp only [hnew]
            split
            · exact authPacketsOf_singleton _ m
            · rfl
          · -- the message is of another connection
            rw [authPacketsOf_eq_nil hc]
            split
            · rw [authPacketsOf_singleton, authPacketsOf_eq_nil hc]
              simp
            · simp [requestsOf]

/-- The requests made and not yet answered by the backend. -/
def System.openRequests (s : System Peer) : List SimulationToHttpMessage :=
  s.httpBatch ++ s.simToHttp.q ++ s.simulation.httpOutbox

/-- The open requests come last among the requests made. -/
theorem openRequests_suffix (hr : (server Peer platform).Reach s tr) :
    s.openRequests <:+ authRequestLog tr := by
  refine TraceMachine.Run.invariant
    (P := fun (s : System Peer) (tr : List (Event Peer)) => s.openRequests <:+ authRequestLog tr)
    (List.suffix_refl _) ?_ hr
  intro s tr a s' es _ ih _ hs
  rw [authRequestLog_append]
  cases System.step_cases hs with
  | handleNetwork next phase pushed =>
      have hempty : s.simulation.httpOutbox = [] := by
        simp only [System.simulationHasPushed, Bool.and_eq_true, List.isEmpty_iff] at pushed
        exact pushed.2
      obtain ⟨answered, hlog⟩ := ih
      rw [System.openRequests, hempty, List.append_nil] at hlog
      refine ⟨answered, ?_⟩
      simp [System.openRequests, ← hlog]
  | connect => simpa [System.openRequests, System.connected] using ih
  | disconnect => simpa [System.openRequests, System.disconnected] using ih
  | simulationPushHttp next =>
      simpa [System.openRequests, next, StoppableQueue.push] using ih
  | httpDrain done => simpa [System.openRequests, done] using ih
  | httpReply next =>
      rw [System.openRequests, next] at ih
      obtain ⟨answered, hlog⟩ := ih
      exact ⟨answered ++ [_], by simpa [System.openRequests] using hlog⟩
  | _ => simpa [System.openRequests] using ih

-- ============================================================================
-- Verdicts
-- ============================================================================

/-- The verdict that a step applied to the session of `c`. -/
@[simp] def Event.verdict (c : ConnectionId) :
    Event Peer → Option AuthTokenVerificationHTTPResponse
  | .replyHandled reply (some _) _ =>
      if reply.connectionId = c then some reply.authTokenVerificationResponse else none
  | _ => none

/-- The verdicts applied to the session of `c`, in order. -/
def verdictsOf (c : ConnectionId) (tr : List (Event Peer)) :
    List AuthTokenVerificationHTTPResponse :=
  tr.filterMap (Event.verdict c)

/-- `m` tells the client the verdict, and a client that is refused is disconnected
    once it has been told. -/
def AnswersVerdict (verdict : AuthTokenVerificationHTTPResponse)
    (m : SimulationToNetworkOUTMessage) : Prop :=
  m.serializedPacket = serializeServerAuthResponsePacketReliable
      { type := .serverAuthResponsePacketReliable
        status := if verdict.isValid then .success else .invalidAuthToken } ∧
    m.disconnectAfterAck = !verdict.isValid ∧ m.enableEncryptionAfterAck = false

/-- Only the handling of a reply makes auth responses. -/
theorem System.Steps.authResponse_produced (h : System.Steps platform s a s' es)
    {m : SimulationToNetworkOUTMessage} (hm : m ∈ producedLog es)
    (htype : m.type = .serverAuthResponsePacketReliable) : a = .handleHttp := by
  cases h.produces hm with
  | client next made =>
      obtain ⟨_, _, _, _, hout⟩ := ServerSimulation.clientStep_out _ _ _ made
      rw [hout] at htype
      cases htype
  | reply => rfl
  | matchFlow _ made =>
      obtain ⟨_, _, _, _, htypes⟩ := ServerSimulation.mem_checkMatchFlow made
      rcases htypes with ⟨hother, _⟩ | ⟨hother, _⟩ | ⟨hother, _⟩ <;> simp [hother] at htype
  | snapshot _ made =>
      obtain ⟨_, _, _, rfl⟩ := ServerSimulation.mem_createFullSnapshots made
      cases htype

/-- The auth responses made for a connection tell it the verdicts applied to it. -/
theorem verdicts_answered (hr : (server Peer platform).Reach s tr) (c : ConnectionId) :
    List.Forall₂ AnswersVerdict (verdictsOf c tr)
      (ofFamily .serverAuthResponsePacketReliable c (producedLog tr)) := by
  refine TraceMachine.Run.invariant
    (P := fun (_ : System Peer) (tr : List (Event Peer)) =>
      List.Forall₂ AnswersVerdict (verdictsOf c tr)
        (ofFamily .serverAuthResponsePacketReliable c (producedLog tr))) .nil ?_ hr
  intro s tr a s' es hr ih _ hs
  have hsteps := System.step_cases hs
  rw [verdictsOf, List.filterMap_append, producedLog_append, ofFamily_append]
  refine List.rel_append ih ?_
  by_cases ha : a = .handleHttp
  · subst ha
    cases hsteps with
    | @handleHttp reply rest networkDone next phase pushed =>
        rw [producedLog_singleton]
        cases hlookup : s.networkState.sessions.lookup reply.connectionId with
        | none =>
            simp [ServerSimulation.handleAuthValidateTokenResponseMessage, hlookup, System.stamp,
              ofFamily]
        | some session =>
            by_cases hc : reply.connectionId = c
            · simp [ServerSimulation.handleAuthValidateTokenResponseMessage, hlookup,
                System.stamp, ofFamily, hc, AnswersVerdict]
            · simp [ServerSimulation.handleAuthValidateTokenResponseMessage, hlookup,
                System.stamp, ofFamily, hc]
  · have hnone : ofFamily .serverAuthResponsePacketReliable c (producedLog es) = [] :=
      ofFamily_eq_nil fun m hm htype _ => ha (hsteps.authResponse_produced hm htype)
    rw [hnone]
    cases hsteps with
    | handleHttp => exact absurd rfl ha
    | _ => exact .nil

omit [DecidableEq Peer] in
/-- Every verdict of a connection is one of the replies for it. -/
theorem verdictsOf_length_le_count (c : ConnectionId) (tr : List (Event Peer)) :
    (verdictsOf c tr).length ≤ (replyLog tr).count c := by
  induction tr with
  | nil => simp [verdictsOf]
  | cons e tr ih =>
      rw [replyLog_cons, List.count_append, verdictsOf, ← List.singleton_append,
        List.filterMap_append, List.length_append]
      refine Nat.add_le_add ?_ ih
      cases e with
      | replyHandled reply session out =>
          cases session with
          | none => exact Nat.zero_le _
          | some x => by_cases hc : reply.connectionId = c <;> simp [hc]
      | _ => simp

/-- A connection has at most one verdict, its request being unique. -/
theorem verdictsOf_length_le (hr : (server Peer platform).Reach s tr) (few : FewConnects tr)
    (c : ConnectionId) : (verdictsOf c tr).length ≤ 1 := by
  have honce := (AuthInv.of_reach hr few).once
  rw [(PipelineInv.of_reach hr).conserved] at honce
  exact le_trans (verdictsOf_length_le_count c tr)
    (List.nodup_iff_count_le_one.mp (List.nodup_append.mp honce).1 c)

/-- The first auth packet of a connection decides: its token is the only one the
    backend is asked about, the verdict is applied at most once, and every verdict
    applied is told to the client, who is disconnected unless it is valid. -/
theorem first_token_decides (hr : (server Peer platform).Reach s tr) (few : FewConnects tr)
    (c : ConnectionId) :
    requestsOf c (authRequestLog tr) =
        ((authPacketsOf c (handledLog tr)).head?.map (tokenRequest c)).toList ∧
      (∀ request ∈ s.openRequests, request.connectionId = c →
        (authPacketsOf c (handledLog tr)).head?.map (tokenRequest c) = some request) ∧
      (verdictsOf c tr).length ≤ 1 ∧
      List.Forall₂ AnswersVerdict (verdictsOf c tr)
        (ofFamily .serverAuthResponsePacketReliable c (reliableLog tr) ++
          ofFamily .serverAuthResponsePacketReliable c s.unsentReliable) := by
  have hrequests := requests_eq_first hr few c
  refine ⟨hrequests, ?_, verdictsOf_length_le hr few c, ?_⟩
  · intro request hmem hc
    have hasked : request ∈ requestsOf c (authRequestLog tr) :=
      List.mem_filter.mpr ⟨(openRequests_suffix hr).subset hmem, by simpa using hc⟩
    rw [hrequests] at hasked
    exact Option.mem_toList.mp hasked
  · rw [← ofFamily_produced hr rfl]
    exact verdicts_answered hr c

/-- In the run with two clients the first has sent two tokens; the backend was asked about
    the first of them, and one verdict was applied and told. -/
theorem duoStarted_token_decides :
    (authPacketsOf 1 (handledLog duoStartedResult.2)).map (·.authToken) = [[65], [67]] ∧
      (requestsOf 1 (authRequestLog duoStartedResult.2)).map (·.authToken) = [[65]] ∧
      (verdictsOf 1 duoStartedResult.2).length = 1 ∧
      List.Forall₂ AnswersVerdict (verdictsOf 1 duoStartedResult.2)
        (ofFamily .serverAuthResponsePacketReliable 1 (reliableLog duoStartedResult.2) ++
          ofFamily .serverAuthResponsePacketReliable 1
            duoStartedResult.1.unsentReliable) := by
  have htokens : (authPacketsOf 1 (handledLog duoStartedResult.2)).map (·.authToken) =
      [[65], [67]] := by
    decide +kernel
  have hone : (verdictsOf 1 duoStartedResult.2).length = 1 := by decide +kernel
  obtain ⟨hrequests, _, _, hanswers⟩ := first_token_decides duoStarted_reach duoStarted_few 1
  refine ⟨htokens, ?_, hone, hanswers⟩
  rw [hrequests]
  cases hpackets : authPacketsOf 1 (handledLog duoStartedResult.2) with
  | nil => simp [hpackets] at htokens
  | cons packet rest =>
      rw [hpackets, List.map_cons] at htokens
      simp [tokenRequest, (List.cons.inj htokens).1]

end RcnetServer
