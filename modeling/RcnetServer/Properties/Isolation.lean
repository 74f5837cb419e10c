/-
  RcnetServer.Properties.Isolation

  The dispatchers of a tick keep clients apart.

  Every handler is isolated in the sense of `Lib.Isolation`: it reads and writes
  the session of its message's connection (and reads the crypto states, which no
  handler writes), and addresses what it pushes to that connection.  Hence a
  client sees of the two batches of a tick what it sees of its own messages.
-/

import RcnetServer.Lib.Isolation
import RcnetServer.Simulation.Handlers

namespace RcnetServer

variable {Peer : Type}

-- ============================================================================
-- The handlers are isolated
-- ============================================================================

/-- What a handler sees of the state when it works for `c`. -/
def NetworkState.clientView (networkState : NetworkState Peer) (c : ConnectionId) :
    Option ClientSession × ServerCryptoKxState × ServerCryptoSigningState :=
  (networkState.sessions.lookup c, networkState.cryptoKxState, networkState.cryptoSigningState)

theorem NetworkState.clientView_eq {networkState networkState' : NetworkState Peer}
    {c : ConnectionId} (h : networkState.clientView c = networkState'.clientView c) :
    networkState.sessions.lookup c = networkState'.sessions.lookup c ∧
      networkState.cryptoKxState = networkState'.cryptoKxState ∧
      networkState.cryptoSigningState = networkState'.cryptoSigningState := by
  simpa [clientView] using h

namespace ServerSimulation

section Network

variable (kx : KxServerSessionKeys)

/-- Of the network state a message reads the crypto states only. -/
theorem clientStep_congr {networkState networkState' : NetworkState Peer} (oracle : HelloOracle)
    (hkx : networkState.cryptoKxState = networkState'.cryptoKxState)
    (hsigning : networkState.cryptoSigningState = networkState'.cryptoSigningState)
    (m : NetworkINToSimulationMessage) (session? : Option ClientSession) :
    clientStep kx oracle networkState m session? =
      clientStep kx oracle networkState' m session? := by
  have hattest : ∀ hello, attestSecureSession oracle networkState hello =
      attestSecureSession oracle networkState' hello := by
    intro hello
    simp only [attestSecureSession, hkx, hsigning]
  have hanswer : ∀ session hello, answerSecureSessionHello kx oracle networkState session hello =
      answerSecureSessionHello kx oracle networkState' session hello := by
    intro session hello
    unfold answerSecureSessionHello
    rw [hkx, hattest]
  cases m <;> cases session? <;> try rfl
  simp only [clientStep, hanswer]

/-- What a message pushes names its own connection. -/
theorem clientStep_addressed (oracle : HelloOracle) (networkState : NetworkState Peer)
    (m : NetworkINToSimulationMessage) (session? : Option ClientSession) :
    (∀ out ∈ (clientStep kx oracle networkState m session?).2.1,
      out.connectionId = m.connectionId) ∧
    (∀ http ∈ (clientStep kx oracle networkState m session?).2.2,
      http.connectionId = m.connectionId) := by
  cases m <;> cases session? <;> simp only [clientStep] <;> try simp
  case clientSecureSessionHelloPacketReliable.some =>
    rfl
  case clientAuthPacketReliable.some session =>
    split <;> simp [NetworkINToSimulationMessage.connectionId]

/-- One message, as the outgoing queue sees it. -/
def stepOut (networkState : NetworkState Peer) (m : NetworkINToSimulationMessage × HelloOracle) :
    NetworkState Peer × List SimulationToNetworkOUTMessage :=
  ((processNetworkIncoming kx m.2 networkState m.1).1,
    (processNetworkIncoming kx m.2 networkState m.1).2.1)

/-- One message, as the HTTP queue sees it. -/
def stepHttp (networkState : NetworkState Peer) (m : NetworkINToSimulationMessage × HelloOracle) :
    NetworkState Peer × List SimulationToHttpMessage :=
  ((processNetworkIncoming kx m.2 networkState m.1).1,
    (processNetworkIncoming kx m.2 networkState m.1).2.2)

/-- The view of a connection after a message. -/
theorem clientView_processNetworkIncoming (oracle : HelloOracle) (networkState : NetworkState Peer)
    (m : NetworkINToSimulationMessage) (c : ConnectionId) :
    (processNetworkIncoming kx oracle networkState m).1.clientView c =
      if c = m.connectionId then
        ((clientStep kx oracle networkState m (networkState.sessions.lookup c)).1,
          networkState.cryptoKxState, networkState.cryptoSigningState)
      else networkState.clientView c := by
  rw [NetworkState.clientView, (processNetworkIncoming_client kx oracle networkState m).1 c,
    processNetworkIncoming_eq]
  split
  · rename_i hc
    rw [hc]
  · rfl

theorem isolated_stepOut :
    Isolated (stepOut kx) (@NetworkState.clientView Peer) (fun m => m.1.connectionId)
      SimulationToNetworkOUTMessage.connectionId where
  own := by
    intro networkState networkState' m hview
    obtain ⟨hsession, hkx, hsigning⟩ := NetworkState.clientView_eq hview
    simp only [stepOut, clientView_processNetworkIncoming, if_true]
    rw [hsession, hkx, hsigning, clientStep_congr kx m.2 hkx hsigning]
  outputs := by
    intro networkState networkState' m hview
    obtain ⟨hsession, hkx, hsigning⟩ := NetworkState.clientView_eq hview
    simp only [stepOut, (processNetworkIncoming_client kx m.2 _ m.1).2]
    rw [hsession, clientStep_congr kx m.2 hkx hsigning]
  other := by
    intro networkState m c hc
    simp only [stepOut, clientView_processNetworkIncoming, if_neg hc]
  addressed := by
    intro networkState m
    simp only [stepOut, (processNetworkIncoming_client kx m.2 _ m.1).2]
    exact (clientStep_addressed kx m.2 networkState m.1 _).1

theorem isolated_stepHttp :
    Isolated (stepHttp kx) (@NetworkState.clientView Peer) (fun m => m.1.connectionId)
      SimulationToHttpMessage.connectionId where
  own := (isolated_stepOut kx).own
  outputs := by
    intro networkState networkState' m hview
    obtain ⟨hsession, hkx, hsigning⟩ := NetworkState.clientView_eq hview
    simp only [stepHttp, (processNetworkIncoming_client kx m.2 _ m.1).2]
    rw [hsession, clientStep_congr kx m.2 hkx hsigning]
  other := (isolated_stepOut kx).other
  addressed := by
    intro networkState m
    simp only [stepHttp, (processNetworkIncoming_client kx m.2 _ m.1).2]
    exact (clientStep_addressed kx m.2 networkState m.1 _).2

/-- The dispatcher is the batch of its single steps. -/
theorem processNetworkIncomingDispatcher_eq (networkState : NetworkState Peer)
    (messages : List (NetworkINToSimulationMessage × HelloOracle)) :
    processNetworkIncomingDispatcher kx networkState messages =
        ((processBatch (stepOut kx) networkState messages).1,
          (processBatch (stepOut kx) networkState messages).2,
          (processBatch (stepHttp kx) networkState messages).2) ∧
      (processBatch (stepHttp kx) networkState messages).1 =
        (processBatch (stepOut kx) networkState messages).1 := by
  induction messages generalizing networkState with
  | nil => exact ⟨rfl, rfl⟩
  | cons m rest ih =>
      obtain ⟨hall, hstate⟩ := ih (processNetworkIncoming kx m.2 networkState m.1).1
      simp only [processNetworkIncomingDispatcher, processBatch_cons, hall]
      exact ⟨rfl, hstate⟩

end Network

section Http

theorem isolated_handleAuthValidateTokenResponseMessage :
    Isolated (@handleAuthValidateTokenResponseMessage Peer) NetworkState.clientView
      HttpToSimulationMessage.connectionId SimulationToNetworkOUTMessage.connectionId where
  own := by
    intro networkState networkState' reply hview
    obtain ⟨hsession, hkx, hsigning⟩ := NetworkState.clientView_eq hview
    simp only [NetworkState.clientView, lookup_handleAuthValidateTokenResponseMessage, if_true]
    rw [hsession, handleAuthValidateTokenResponseMessage_eq,
      handleAuthValidateTokenResponseMessage_eq networkState']
    simp only [hkx, hsigning]
  outputs := by
    intro networkState networkState' reply hview
    obtain ⟨hsession, _, _⟩ := NetworkState.clientView_eq hview
    simp only [handleAuthValidateTokenResponseMessage, hsession]
    cases networkState'.sessions.lookup reply.connectionId <;> rfl
  other := by
    intro networkState reply c hc
    simp only [NetworkState.clientView, lookup_handleAuthValidateTokenResponseMessage, if_neg hc]
    rw [handleAuthValidateTokenResponseMessage_eq]
  addressed := by
    intro networkState reply out hout
    simp only [handleAuthValidateTokenResponseMessage] at hout
    split at hout
    · cases hout
    · obtain rfl := List.mem_singleton.mp hout
      rfl

theorem processHttpDispatcher_eq (networkState : NetworkState Peer)
    (httpMessages : List HttpToSimulationMessage) :
    processHttpDispatcher networkState httpMessages =
      processBatch handleAuthValidateTokenResponseMessage networkState httpMessages := by
  induction httpMessages generalizing networkState with
  | nil => rfl
  | cons reply rest ih => simp only [processHttpDispatcher, processBatch_cons, ih]

end Http

end ServerSimulation

-- ============================================================================
-- Both batches
-- ============================================================================

/-- What client `c` can observe of the dispatchers of a tick: its session, the
    messages sent to it and the requests made for it. -/
def observation (c : ConnectionId)
    (result : NetworkState Peer × List SimulationToNetworkOUTMessage ×
      List SimulationToHttpMessage) :
    Option ClientSession × List SimulationToNetworkOUTMessage × List SimulationToHttpMessage :=
  (result.1.sessions.lookup c, result.2.1.filter fun m => m.connectionId = c,
    result.2.2.filter fun m => m.connectionId = c)

/-- The network messages of `c`. -/
def messagesOf (c : ConnectionId) (messages : List (NetworkINToSimulationMessage × HelloOracle)) :
    List (NetworkINToSimulationMessage × HelloOracle) :=
  messages.filter fun m => m.1.connectionId = c

/-- The backend replies for `c`. -/
def repliesOf (c : ConnectionId) (httpMessages : List HttpToSimulationMessage) :
    List HttpToSimulationMessage :=
  httpMessages.filter fun reply => reply.connectionId = c

/-- Batches that agree on the messages of `c` show `c` the same. -/
theorem observation_congr (kx : KxServerSessionKeys) (networkState : NetworkState Peer)
    (c : ConnectionId) {messages messages' : List (NetworkINToSimulationMessage × HelloOracle)}
    {httpMessages httpMessages' : List HttpToSimulationMessage}
    (hmessages : messagesOf c messages = messagesOf c messages')
    (hreplies : repliesOf c httpMessages = repliesOf c httpMessages') :
    observation c
        (ServerSimulation.processIncomingMessages kx networkState messages httpMessages) =
      observation c
        (ServerSimulation.processIncomingMessages kx networkState messages' httpMessages') := by
  obtain ⟨hnetwork, hout⟩ :=
    (ServerSimulation.isolated_stepOut kx).processBatch_reorder c hmessages
      (rfl : networkState.clientView c = networkState.clientView c)
  obtain ⟨_, hhttp⟩ :=
    (ServerSimulation.isolated_stepHttp kx).processBatch_reorder c hmessages
      (rfl : networkState.clientView c = networkState.clientView c)
  obtain ⟨hview, hanswers⟩ :=
    ServerSimulation.isolated_handleAuthValidateTokenResponseMessage.processBatch_reorder c
      hreplies hnetwork
  have hsession := (NetworkState.clientView_eq hview).1
  simp only [observation, ServerSimulation.processIncomingMessages,
    (ServerSimulation.processNetworkIncomingDispatcher_eq kx networkState _).1,
    ServerSimulation.processHttpDispatcher_eq, List.filter_append]
  rw [hsession, hout, hanswers, hhttp]

/-- A client observes of the two batches of a tick what it observes of its own
    messages in them; so batches that order the messages of different clients
    differently are the same to every client. -/
theorem clients_isolated (kx : KxServerSessionKeys) (networkState : NetworkState Peer)
    (messages : List (NetworkINToSimulationMessage × HelloOracle))
    (httpMessages : List HttpToSimulationMessage) :
    (∀ c,
      observation c
          (ServerSimulation.processIncomingMessages kx networkState messages httpMessages) =
        observation c
          (ServerSimulation.processIncomingMessages kx networkState (messagesOf c messages)
            (repliesOf c httpMessages))) ∧
    (∀ messages' httpMessages',
      (∀ c, messagesOf c messages = messagesOf c messages') →
      (∀ c, repliesOf c httpMessages = repliesOf c httpMessages') →
      ∀ c,
        observation c
            (ServerSimulation.processIncomingMessages kx networkState messages httpMessages) =
          observation c (ServerSimulation.processIncomingMessages kx networkState messages'
            httpMessages')) := by
  refine ⟨?_, ?_⟩
  · intro c
    refine observation_congr kx networkState c ?_ ?_
    · simp [messagesOf]
    · simp [repliesOf]
  · intro messages' httpMessages' hmessages hreplies c
    exact observation_congr kx networkState c (hmessages c) (hreplies c)

end RcnetServer
