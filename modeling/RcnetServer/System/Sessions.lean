/-
  RcnetServer.System.Sessions

  The session table over whole runs, and what a step does to one session.

  The network-to-simulation queue is a FIFO: what the simulation thread has
  handled, its batch, the queue and the message being pushed are, in this order,
  the log of incoming messages (`FifoInv`).  So the handled log is a prefix of a
  well-formed log, and a session exists exactly while its connection is live in
  that prefix (`SessionInv`).
-/

import RcnetServer.System.Connections

namespace RcnetServer

variable {Peer : Type} [DecidableEq Peer]

-- ============================================================================
-- The queue
-- ============================================================================

/-- The message being pushed, if there is one. -/
@[simp] def NetworkThread.pushingMessages : NetworkThread Peer → List NetworkINToSimulationMessage
  | .pushing m => [m]
  | _ => []

/-- The messages pushed and not yet handled: the batch, then the queue. -/
def System.pendingNetwork (s : System Peer) : List NetworkINToSimulationMessage :=
  s.simulation.networkMessages ++ s.netToSim

/-- First in, first out. -/
structure FifoInv (s : System Peer) (tr : List (Event Peer)) : Prop where
  pushed : pushedLog tr = handledLog tr ++ s.pendingNetwork
  incoming : incomingLog tr = pushedLog tr ++ s.network.pushingMessages
  /-- The batch is empty before a tick and after its dispatch. -/
  batchDone : s.simulation.phase = .idle ∨ s.simulation.phase = .snapshots →
    s.simulation.networkMessages = []

namespace FifoInv

omit [DecidableEq Peer] in
theorem init (platform : Platform) : FifoInv (System.init platform : System Peer) [] where
  pushed := rfl
  incoming := rfl
  batchDone := fun _ => rfl

theorem step {platform : Platform} {s s' : System Peer} {a : Action Peer}
    {tr es : List (Event Peer)} (inv : FifoInv s tr) (h : System.Steps platform s a s' es) :
    FifoInv s' (tr ++ es) := by
  obtain ⟨hpushed, hincoming, hdone⟩ := inv
  simp only [System.pendingNetwork] at hpushed
  cases h with
  | connect idle =>
      refine ⟨?_, by simpa [System.connected, idle] using hincoming, hdone⟩
      simp [System.pendingNetwork, System.connected, hpushed]
  | disconnect idle =>
      refine ⟨?_, by simpa [System.disconnected, idle] using hincoming, hdone⟩
      simp [System.pendingNetwork, System.disconnected, hpushed]
  | receive idle =>
      refine ⟨by simpa [System.pendingNetwork] using hpushed, ?_, hdone⟩
      simpa [idle] using hincoming
  | networkPush pushing =>
      refine ⟨by simp [System.pendingNetwork, hpushed], ?_, hdone⟩
      simpa [pushing] using hincoming
  | beginOutgoing idle =>
      refine ⟨by simpa [System.pendingNetwork] using hpushed, ?_, hdone⟩
      simpa [idle] using hincoming
  | sendReliable outgoing =>
      refine ⟨by simpa [System.pendingNetwork] using hpushed, ?_, hdone⟩
      simpa [outgoing] using hincoming
  | skipSnapshot outgoing =>
      refine ⟨by simpa [System.pendingNetwork] using hpushed, ?_, hdone⟩
      simpa [outgoing] using hincoming
  | patchSnapshot outgoing =>
      refine ⟨by simpa [System.pendingNetwork] using hpushed, ?_, hdone⟩
      simpa [outgoing] using hincoming
  | sendSnapshot sending =>
      refine ⟨by simpa [System.pendingNetwork] using hpushed, ?_, hdone⟩
      simpa [sending] using hincoming
  | endOutgoing outgoing =>
      refine ⟨by simpa [System.pendingNetwork] using hpushed, ?_, hdone⟩
      simpa [outgoing] using hincoming
  | beginTick phase =>
      refine ⟨?_, by simpa using hincoming, by simp⟩
      simpa [System.pendingNetwork, hdone (Or.inl phase)] using hpushed
  | drainHttp =>
      exact ⟨by simpa [System.pendingNetwork] using hpushed, by simpa using hincoming, by simp⟩
  | handleNetwork next phase =>
      refine ⟨?_, by simpa using hincoming, by simp [phase]⟩
      simpa [System.pendingNetwork, next] using hpushed
  | handleHttp networkDone =>
      refine ⟨by simpa [System.pendingNetwork] using hpushed, by simpa using hincoming, ?_⟩
      simp [networkDone]
  | checkMatchFlow _ _ networkDone =>
      refine ⟨by simpa [System.pendingNetwork] using hpushed, by simpa using hincoming, ?_⟩
      simp [networkDone]
  | createSnapshots phase =>
      refine ⟨by simpa [System.pendingNetwork] using hpushed, by simpa using hincoming, ?_⟩
      simp [hdone (Or.inr phase)]
  | _ => exact ⟨by simpa [System.pendingNetwork] using hpushed, by simpa using hincoming, hdone⟩

theorem of_reach {platform : Platform} {s : System Peer} {tr : List (Event Peer)}
    (hr : (server Peer platform).Reach s tr) : FifoInv s tr :=
  TraceMachine.Run.invariant (P := FifoInv) (FifoInv.init platform)
    (fun _ _ _ _ _ _ inv _ hs => inv.step (System.step_cases hs)) hr

omit [DecidableEq Peer] in
/-- The handled messages come first among the incoming ones. -/
theorem incoming_eq {s : System Peer} {tr : List (Event Peer)} (inv : FifoInv s tr) :
    incomingLog tr = handledLog tr ++ (s.pendingNetwork ++ s.network.pushingMessages) := by
  rw [inv.incoming, inv.pushed, List.append_assoc]

end FifoInv

/-- Only packets wait to be pushed. -/
theorem pushing_kind {platform : Platform} {s : System Peer} {tr : List (Event Peer)}
    (hr : (server Peer platform).Reach s tr) :
    ∀ m ∈ s.network.pushingMessages, m.kind = .uses := by
  refine TraceMachine.Run.invariant
    (P := fun s _ => ∀ m ∈ s.network.pushingMessages, m.kind = .uses)
    (by simp [server, System.init]) ?_ hr
  intro s tr a s' es _ inv _ hs
  cases System.step_cases hs with
  | receive _ pushed =>
      have hkind := (ServerNetworkIncoming.eventHandleReceive_push pushed).2.2.kind
      simpa using hkind
  | connect => exact inv
  | disconnect => exact inv
  | _ => first | exact inv | simp

-- ============================================================================
-- One session in one step
-- ============================================================================

/-- What a step can do to the session of connection `c`. -/
inductive SessionChange (platform : Platform) (s : System Peer) (c : ConnectionId) :
    Action Peer → Option ClientSession → Prop
  | same {a : Action Peer} {session? : Option ClientSession}
      (kept : session? = s.networkState.sessions.lookup c) :
      SessionChange platform s c a session?
  /-- A message of `c` is handled. -/
  | handled {oracle : HelloOracle} {m : NetworkINToSimulationMessage}
      {rest : List NetworkINToSimulationMessage} {session? : Option ClientSession}
      (own : m.connectionId = c) (next : s.simulation.networkMessages = m :: rest)
      (left : (ServerSimulation.clientStep platform.kx oracle s.networkState m
        (s.networkState.sessions.lookup c)).1 = session?) :
      SessionChange platform s c (.handleNetwork oracle) session?
  /-- A backend reply for `c` is applied. -/
  | replied {reply : HttpToSimulationMessage} {rest : List HttpToSimulationMessage}
      {session : ClientSession} (own : reply.connectionId = c)
      (next : s.simulation.httpMessages = reply :: rest)
      (found : s.networkState.sessions.lookup c = some session) :
      SessionChange platform s c .handleHttp
        (some (session.applyAuthResponse reply.authTokenVerificationResponse))
  /-- An ACK enables encryption for `c`. -/
  | encrypted {i : Nat} {owned : OwnedPacket Peer} {context : ReliableAckActionContext Peer}
      {session : ClientSession} (inFlight : s.inFlight[i]? = some owned)
      (userData : owned.packet.userData = some context)
      (enable : context.enableEncryptionAfterAck = true) (own : context.connectionId = c)
      (found : s.networkState.sessions.lookup c = some session) :
      SessionChange platform s c (.acknowledge i)
        (some { session with isPacketEncryptionEnabled := true })
  /-- A snapshot id is allocated for `c`. -/
  | snapshot {c' : ConnectionId} {session : ClientSession}
      (found : s.networkState.sessions.lookup c = some session) :
      SessionChange platform s c (.patchSnapshot c') (some session.allocateSnapshotId)

/-- Every step changes a session in one of these ways. -/
theorem System.Steps.session {platform : Platform} {s s' : System Peer} {a : Action Peer}
    {es : List (Event Peer)} (h : System.Steps platform s a s' es) (c : ConnectionId) :
    SessionChange platform s c a (s'.networkState.sessions.lookup c) := by
  cases h with
  | @acknowledge _ _ context _ _ inFlight userData =>
      simp only
      split
      · rename_i henable
        rw [NetworkState.lookup_enableEncryption]
        by_cases hc : c = context.connectionId
        · rw [if_pos hc, ← hc]
          cases hs : s.networkState.sessions.lookup c with
          | none => exact .same hs.symm
          | some session => exact .encrypted inFlight userData henable hc.symm hs
        · rw [if_neg hc]
          exact .same rfl
      · exact .same rfl
  | @patchSnapshot _ _ m _ _ _ _ _ _ _ found =>
      simp only [NetworkState.lookup_setSession _ found]
      by_cases hc : c = m.connectionId
      · rw [if_pos hc]
        exact .snapshot (hc ▸ found)
      · rw [if_neg hc]
        exact .same rfl
  | @handleNetwork _ m _ next =>
      simp only [System.produce_networkState]
      rw [(ServerSimulation.processNetworkIncoming_client _ _ _ _).1 c]
      by_cases hc : c = m.connectionId
      · rw [if_pos hc, ← hc]
        exact .handled hc.symm next rfl
      · rw [if_neg hc]
        exact .same rfl
  | @handleHttp reply _ _ next =>
      simp only [System.produce_networkState]
      rw [ServerSimulation.lookup_handleAuthValidateTokenResponseMessage]
      by_cases hc : c = reply.connectionId
      · rw [if_pos hc, ← hc]
        cases hs : s.networkState.sessions.lookup c with
        | none => exact .same hs.symm
        | some session => exact .replied hc.symm next hs
      · rw [if_neg hc]
        exact .same rfl
  | _ => exact .same rfl

-- ============================================================================
-- The session table
-- ============================================================================

section ClientStep

omit [DecidableEq Peer]

variable (kx : KxServerSessionKeys) (oracle : HelloOracle) (networkState : NetworkState Peer)

/-- Only CONNECT makes a session and only DISCONNECT removes it. -/
theorem ServerSimulation.clientStep_isSome (m : NetworkINToSimulationMessage)
    (session? : Option ClientSession) :
    (clientStep kx oracle networkState m session?).1.isSome =
      match m.kind with
      | .opens => true
      | .uses => session?.isSome
      | .closes => false := by
  cases m <;> cases session? <;> try rfl
  -- an auth message of a session that has asked before
  simp only [clientStep]
  split <;> rfl

/-- The only thing pushed for the network is the answer to a hello. -/
theorem ServerSimulation.clientStep_out {m : NetworkINToSimulationMessage}
    {session? : Option ClientSession} {out : SimulationToNetworkOUTMessage}
    (hout : out ∈ (clientStep kx oracle networkState m session?).2.1) :
    ∃ hello x, m = .clientSecureSessionHelloPacketReliable out.connectionId hello ∧
      session? = some x ∧
      out =
        (answerSecureSessionHello kx oracle networkState x hello).outMessage out.connectionId := by
  cases m with
  | clientSecureSessionHelloPacketReliable c hello =>
      cases session? with
      | none => cases hout
      | some x =>
          obtain rfl := List.mem_singleton.mp hout
          exact ⟨hello, x, rfl, rfl, rfl⟩
  | clientAuthPacketReliable c packet =>
      cases session? with
      | none => cases hout
      | some x =>
          simp only [clientStep] at hout
          split at hout <;> cases hout
  | _ => cases session? <;> cases hout

/-- A session after a message is the fresh one of a CONNECT, or the old one with
    changes in the fields that handlers write. -/
theorem ServerSimulation.clientStep_session {m : NetworkINToSimulationMessage}
    {session? : Option ClientSession} {y : ClientSession}
    (h : (clientStep kx oracle networkState m session?).1 = some y) :
    (m.kind = .opens ∧ y = ClientSession.ofConnect m.connectionId) ∨
    (m.kind = .uses ∧ ∃ x, session? = some x ∧
      ∃ pk rx tx established status ready input acked pending,
      y = { x with
        clientPublicKey := pk
        serverRxKey := rx
        serverTxKey := tx
        isSecureSessionEstablished := established
        authStatus := status
        isReadyForMatch := ready
        latestReceivedInputPacket := input
        clientLastAckedSnapshotId := acked
        pendingInputPacketsQueue := pending }) := by
  cases m with
  | clientEventConnect c => exact Or.inl ⟨rfl, (Option.some.inj h).symm⟩
  | clientEventDisconnect c => cases session? <;> cases h
  | clientSecureSessionHelloPacketReliable c packet =>
      cases session? with
      | none => cases h
      | some x =>
          obtain ⟨pk, rx, tx, e, hsession⟩ :=
            answerSecureSessionHello_session kx oracle networkState x packet
          simp only [clientStep, hsession, Option.some.injEq] at h
          exact Or.inr ⟨rfl, x, rfl, _, _, _, _, _, _, _, _, _, h.symm⟩
  | clientAuthPacketReliable c packet =>
      cases session? with
      | none => cases h
      | some x =>
          simp only [clientStep] at h
          split at h
          · exact Or.inr ⟨rfl, x, rfl, _, _, _, _, _, _, _, _, _, (Option.some.inj h).symm⟩
          · exact Or.inr ⟨rfl, x, rfl, _, _, _, _, _, _, _, _, _, (Option.some.inj h).symm⟩
  | clientInputPacketUnreliable c packet =>
      cases session? with
      | none => cases h
      | some x =>
          obtain ⟨pending, _, hsession⟩ := x.receiveInput_eq packet
          simp only [clientStep, hsession, Option.some.injEq] at h
          exact Or.inr ⟨rfl, x, rfl, _, _, _, _, _, _, _, _, _, h.symm⟩
  | clientReadyForMatchPacketReliable c =>
      cases session? with
      | none => cases h
      | some x => exact Or.inr ⟨rfl, x, rfl, _, _, _, _, _, _, _, _, _, (Option.some.inj h).symm⟩

/-- Besides a CONNECT, only an input touches what a session keeps of inputs. -/
theorem ServerSimulation.clientStep_inputs {m : NetworkINToSimulationMessage}
    {session? : Option ClientSession} {y : ClientSession}
    (h : (clientStep kx oracle networkState m session?).1 = some y) :
    (m = .clientEventConnect m.connectionId ∧ y = ClientSession.ofConnect m.connectionId) ∨
    ∃ x, session? = some x ∧
      ((y.pendingInputPacketsQueue = x.pendingInputPacketsQueue ∧
        y.serverLastProcessedInputSequenceNumber = x.serverLastProcessedInputSequenceNumber ∧
        y.clientLastAckedSnapshotId = x.clientLastAckedSnapshotId ∧
        y.serverLastSentSnapshotId = x.serverLastSentSnapshotId) ∨
      ∃ packet, m = .clientInputPacketUnreliable m.connectionId packet ∧
        y = x.receiveInput packet) := by
  cases m with
  | clientEventConnect c => exact Or.inl ⟨rfl, (Option.some.inj h).symm⟩
  | clientEventDisconnect c => cases session? <;> cases h
  | clientSecureSessionHelloPacketReliable c packet =>
      cases session? with
      | none => cases h
      | some x =>
          obtain ⟨pk, rx, tx, e, hsession⟩ :=
            answerSecureSessionHello_session kx oracle networkState x packet
          simp only [clientStep, hsession, Option.some.injEq] at h
          rw [← h]
          exact Or.inr ⟨x, rfl, Or.inl ⟨rfl, rfl, rfl, rfl⟩⟩
  | clientAuthPacketReliable c packet =>
      cases session? with
      | none => cases h
      | some x =>
          refine Or.inr ⟨x, rfl, Or.inl ?_⟩
          simp only [clientStep] at h
          split at h
          · obtain rfl := Option.some.inj h
            exact ⟨rfl, rfl, rfl, rfl⟩
          · obtain rfl := Option.some.inj h
            exact ⟨rfl, rfl, rfl, rfl⟩
  | clientInputPacketUnreliable c packet =>
      cases session? with
      | none => cases h
      | some x => exact Or.inr ⟨x, rfl, Or.inr ⟨packet, rfl, (Option.some.inj h).symm⟩⟩
  | clientReadyForMatchPacketReliable c =>
      cases session? with
      | none => cases h
      | some x =>
          obtain rfl := Option.some.inj h
          exact Or.inr ⟨x, rfl, Or.inl ⟨rfl, rfl, rfl, rfl⟩⟩

/-- A handler keeps the id and the transport flag a session was created with. -/
theorem ServerSimulation.clientStep_own {m : NetworkINToSimulationMessage}
    {session? : Option ClientSession}
    (h : ∀ x, session? = some x → x.connectionId = m.connectionId ∧ x.isTransportConnected = true)
    (y : ClientSession) (hy : (clientStep kx oracle networkState m session?).1 = some y) :
    y.connectionId = m.connectionId ∧ y.isTransportConnected = true := by
  rcases clientStep_session kx oracle networkState hy with
    ⟨_, rfl⟩ | ⟨_, x, hx, _, _, _, _, _, _, _, _, _, rfl⟩
  · exact ⟨rfl, rfl⟩
  · exact h x hx

end ClientStep

/-- The sessions are stored under their own ids. -/
def System.SessionsOwned (s : System Peer) : Prop :=
  ∀ c session, s.networkState.sessions.lookup c = some session →
    session.connectionId = c ∧ session.isTransportConnected = true

/-- No handler changes the id of a session, and CONNECT makes one under its own id. -/
theorem System.Steps.sessionsOwned {platform : Platform} {s s' : System Peer} {a : Action Peer}
    {es : List (Event Peer)} (h : System.Steps platform s a s' es) (own : s.SessionsOwned) :
    s'.SessionsOwned := by
  intro c session hsession
  have hchange := h.session c
  rw [hsession] at hchange
  cases hchange with
  | same kept => exact own c session kept.symm
  | handled hown _ left =>
      subst hown
      exact ServerSimulation.clientStep_own _ _ _ (own _) session left
  | @replied reply _ old _ _ found =>
      obtain ⟨status, id, name, error, _, hreply⟩ :=
        old.applyAuthResponse_eq reply.authTokenVerificationResponse
      rw [hreply]
      exact own c old found
  | @encrypted _ _ _ old _ _ _ _ found => exact own c old found
  | @snapshot _ old found => exact own c old found

/-- In every reachable state, however often ids have been given out. -/
theorem sessionsOwned_of_reach {platform : Platform} {s : System Peer} {tr : List (Event Peer)}
    (hr : (server Peer platform).Reach s tr) : s.SessionsOwned :=
  TraceMachine.Run.invariant (P := fun s _ => System.SessionsOwned s)
    (by simp [System.SessionsOwned, server, System.init])
    (fun _ _ _ _ _ _ own _ hs => (System.step_cases hs).sessionsOwned own) hr

omit [DecidableEq Peer] in
/-- Only the handling of a network message makes or removes a session. -/
theorem SessionChange.isSome_eq {platform : Platform} {s : System Peer} {c : ConnectionId}
    {a : Action Peer} {session? : Option ClientSession}
    (h : SessionChange platform s c a session?) (ha : ∀ oracle, a ≠ .handleNetwork oracle) :
    session?.isSome = (s.networkState.sessions.lookup c).isSome := by
  cases h with
  | same kept => rw [kept]
  | handled => exact absurd rfl (ha _)
  | replied _ _ found => simp [found]
  | encrypted _ _ _ _ found => simp [found]
  | snapshot found => simp [found]

/-- Outside the dispatchers of a tick, a step only switches the encryption of a
    session on or allocates a snapshot id. -/
theorem System.Steps.session_kept {platform : Platform} {s s' : System Peer} {a : Action Peer}
    {es : List (Event Peer)} (h : System.Steps platform s a s' es)
    (hnetwork : ∀ oracle, a ≠ .handleNetwork oracle) (hhttp : a ≠ .handleHttp)
    {c : ConnectionId} {y : ClientSession} (hy : s'.networkState.sessions.lookup c = some y) :
    ∃ x encrypted nextId sentId, s.networkState.sessions.lookup c = some x ∧
      (x.isPacketEncryptionEnabled = true → encrypted = true) ∧
      y = { x with
        isPacketEncryptionEnabled := encrypted
        serverNextSnapshotId := nextId
        serverLastSentSnapshotId := sentId } := by
  have hchange := h.session c
  rw [hy] at hchange
  cases hchange with
  | same kept => exact ⟨y, _, _, _, kept.symm, id, rfl⟩
  | handled => exact absurd rfl (hnetwork _)
  | replied => exact absurd rfl hhttp
  | @encrypted _ _ _ x _ _ _ _ found => exact ⟨x, _, _, _, found, fun _ => rfl, rfl⟩
  | @snapshot _ x found => exact ⟨x, _, _, _, found, id, rfl⟩

theorem System.Steps.handledLog_eq_nil {platform : Platform} {s s' : System Peer}
    {a : Action Peer} {es : List (Event Peer)} (h : System.Steps platform s a s' es)
    (ha : ∀ oracle, a ≠ .handleNetwork oracle) : handledLog es = [] := by
  cases h with
  | handleNetwork => exact absurd rfl (ha _)
  | _ => rfl

/-- The handled log grows by the message at the head of the batch. -/
theorem System.Steps.handledLog_eq {platform : Platform} {s s' : System Peer}
    {es : List (Event Peer)} {oracle : HelloOracle} {m : NetworkINToSimulationMessage}
    {rest : List NetworkINToSimulationMessage}
    (h : System.Steps platform s (.handleNetwork oracle) s' es)
    (next : s.simulation.networkMessages = m :: rest) : handledLog es = [m] := by
  cases h with
  | handleNetwork next' =>
      rw [next] at next'
      cases next'
      rfl

/-- What has been handled is well formed, being a prefix of the incoming log. -/
theorem handledLog_wellFormed {platform : Platform} {s : System Peer} {tr : List (Event Peer)}
    (hr : (server Peer platform).Reach s tr) (few : FewConnects tr) :
    WellFormedLog (handledLog tr) := by
  have hwf := (TableInv.of_reach hr few).wellFormed
  rw [(FifoInv.of_reach hr).incoming_eq] at hwf
  exact Lifecycle.WellFormed.of_append hwf

/-- The session table, against the log of handled messages. -/
structure SessionInv (s : System Peer) (tr : List (Event Peer)) : Prop where
  live : ∀ c, (s.networkState.sessions.lookup c).isSome = true ↔
    connectionPhase c (handledLog tr) = .live
  own : ∀ c session, s.networkState.sessions.lookup c = some session →
    session.connectionId = c ∧ session.isTransportConnected = true

/-- A message handled for a session that is there does not open its connection. -/
theorem SessionInv.not_opens {platform : Platform} {s s' : System Peer} {tr es : List (Event Peer)}
    {oracle : HelloOracle} (table : SessionInv s tr)
    (h : System.Steps platform s (.handleNetwork oracle) s' es)
    (hwf : WellFormedLog (handledLog (tr ++ es))) {m : NetworkINToSimulationMessage}
    {rest : List NetworkINToSimulationMessage} (next : s.simulation.networkMessages = m :: rest)
    {x : ClientSession} (hx : s.networkState.sessions.lookup m.connectionId = some x) :
    m.kind ≠ .opens := by
  intro hkind
  have hlive := (table.live m.connectionId).mp (by simp [hx])
  rw [handledLog_append, h.handledLog_eq next] at hwf
  have hfresh := Lifecycle.fresh_of_next (hwf m.connectionId) hkind
  exact absurd (hlive.symm.trans hfresh) (by simp)

namespace SessionInv

omit [DecidableEq Peer] in
theorem init (platform : Platform) : SessionInv (System.init platform : System Peer) [] where
  live := by simp [System.init]
  own := by simp [System.init]

/-- A step that handles no network message keeps the table. -/
theorem keep {platform : Platform} {s s' : System Peer} {a : Action Peer}
    {tr es : List (Event Peer)} (inv : SessionInv s tr) (h : System.Steps platform s a s' es)
    (ha : ∀ oracle, a ≠ .handleNetwork oracle) (hlog : handledLog es = []) :
    SessionInv s' (tr ++ es) := by
  refine ⟨?_, h.sessionsOwned inv.own⟩
  intro c
  rw [(h.session c).isSome_eq ha, handledLog_append, hlog, List.append_nil]
  exact inv.live c

theorem step {platform : Platform} {s s' : System Peer} {a : Action Peer}
    {tr es : List (Event Peer)} (inv : SessionInv s tr) (h : System.Steps platform s a s' es)
    (hwf : WellFormedLog (handledLog (tr ++ es))) : SessionInv s' (tr ++ es) := by
  by_cases ha : ∀ oracle, a ≠ .handleNetwork oracle
  · exact inv.keep h ha (h.handledLog_eq_nil ha)
  · push Not at ha
    obtain ⟨oracle, rfl⟩ := ha
    refine ⟨?_, h.sessionsOwned inv.own⟩
    cases h with
    | @handleNetwork _ m rest next phase pushed =>
        have hlookup := fun c =>
          (ServerSimulation.processNetworkIncoming_client platform.kx oracle s.networkState m).1 c
        simp only [handledLog_append, handledLog_cons, handledLog_nil, Event.handledMessage,
          Option.toList_some, List.append_nil] at hwf
        intro c
        simp only [handledLog_append, handledLog_cons, handledLog_nil, Event.handledMessage,
          Option.toList_some, List.append_nil, System.produce_networkState, hlookup]
        by_cases hc : m.connectionId = c
        · have hphase := connectionPhase_append_self (handledLog tr) hc
          have hnb : connectionPhase c (handledLog tr ++ [m]) ≠ .broken := hwf c
          have hlive := inv.live c
          rw [hphase] at hnb ⊢
          rw [if_pos hc.symm, ServerSimulation.clientStep_isSome, hc]
          -- an opening message finds the key fresh, the others find it live
          cases hk : m.kind <;> cases hp : connectionPhase c (handledLog tr) <;>
            simp_all [Lifecycle.next]
        · rw [if_neg (Ne.symm hc), connectionPhase_append_of_ne _ hc]
          exact inv.live c

/-- The session table of a reachable state. -/
theorem of_reach {platform : Platform} {s : System Peer} {tr : List (Event Peer)}
    (hr : (server Peer platform).Reach s tr) (few : FewConnects tr) : SessionInv s tr :=
  TraceMachine.Run.invariant_of_prefix (P := SessionInv) (B := FewConnects)
    (fun _ _ h => h.of_append) (SessionInv.init platform)
    (fun _ _ _ _ _ hr inv _ hs few =>
      inv.step (System.step_cases hs) (handledLog_wellFormed (hr.reach.next hs) few))
    hr few

end SessionInv

end RcnetServer
