/-
  RcnetServer.Properties.MatchInit

  MATCH_INIT and WORLD_STATIC_STATE_INIT against MATCH_START.

  The two initialisation phases are latched on the number of sessions alone, while
  the guard of the outgoing pass drops their messages for a session that is not
  yet authenticated, and a session that joins after the latch gets none.  As long
  as neither happens, a client is initialised before it is told the start.
-/

import RcnetServer.Lib.Precedence
import RcnetServer.System.MatchPhases

namespace RcnetServer

variable {Peer : Type}

-- ============================================================================
-- What is handed to ENet
-- ============================================================================

/-- `enet_peer_send` accepted a packet. -/
def ENetCall.isPeerSend : ENetCall Peer → Bool
  | .peerSend _ _ _ => true
  | _ => false

/-- The reliable message whose packet was handed to ENet in this step. -/
@[simp] def Event.handed : Event Peer → List SimulationToNetworkOUTMessage
  | .reliableHandled m calls => if calls.any ENetCall.isPeerSend then [m] else []
  | _ => []

/-- The reliable messages whose packets were handed to ENet, in order. -/
def handedLog (tr : List (Event Peer)) : List SimulationToNetworkOUTMessage :=
  tr.flatMap Event.handed

@[simp] theorem handedLog_nil : handedLog ([] : List (Event Peer)) = [] := rfl

@[simp] theorem handedLog_append (tr es : List (Event Peer)) :
    handedLog (tr ++ es) = handedLog tr ++ handedLog es :=
  List.flatMap_append

@[simp] theorem handedLog_cons (e : Event Peer) (es : List (Event Peer)) :
    handedLog (e :: es) = e.handed ++ handedLog es := rfl

/-- In a log of outgoing messages, each MATCH_START of a connection comes after a
    message of the given type for the same connection. -/
abbrev StartPreceded (type : SimulationToNetworkOUTMessageType) :
    List SimulationToNetworkOUTMessage → Prop :=
  Preceded (fun m => m.type = .serverMatchStartPacketReliable)
    fun m m' => m'.type = type ∧ m'.connectionId = m.connectionId

/-- Whenever a MATCH_START packet is handed to ENet, a MATCH_INIT packet and a
    WORLD_STATIC_STATE_INIT packet for the same connection were handed to it
    earlier. -/
def StartInitialised (tr : List (Event Peer)) : Prop :=
  StartPreceded .serverMatchInitPacketReliable (handedLog tr) ∧
    StartPreceded .serverWorldStaticStateInitPacketReliable (handedLog tr)

theorem startInitialised_iff {tr : List (Event Peer)} :
    StartInitialised tr ↔ ∀ type : SimulationToNetworkOUTMessageType,
      type.isInitialisation = true → StartPreceded type (handedLog tr) := by
  constructor
  · rintro ⟨hinit, hworld⟩ type htype
    cases type with
    | serverMatchInitPacketReliable => exact hinit
    | serverWorldStaticStateInitPacketReliable => exact hworld
    | _ => cases htype
  · intro hall
    exact ⟨hall _ rfl, hall _ rfl⟩

theorem mem_handedLog_singleton {m : SimulationToNetworkOUTMessage} {calls : List (ENetCall Peer)} :
    m ∈ handedLog [Event.reliableHandled m calls] ↔
      ∃ p channel packet, ENetCall.peerSend p channel packet ∈ calls := by
  have hsend : calls.any ENetCall.isPeerSend = true ↔
      ∃ p channel packet, ENetCall.peerSend p channel packet ∈ calls := by
    rw [List.any_eq_true]
    constructor
    · rintro ⟨call, hcall, hsent⟩
      cases call with
      | peerSend p channel packet => exact ⟨p, channel, packet, hcall⟩
      | _ => cases hsent
    · rintro ⟨p, channel, packet, hcall⟩
      exact ⟨_, hcall, rfl⟩
  rw [← hsend]
  cases h : calls.any ENetCall.isPeerSend <;> simp [h]

variable [DecidableEq Peer]

-- ============================================================================
-- When initialisation is not lost
-- ============================================================================

/-- An initialisation message, if one is handled next, is not lost: its connection
    is gone, or the gameplay guard lets it through and ENet accepts its packet. -/
def System.sendsInitialisation (s : System Peer) : Action Peer → Bool
  | .sendReliable outcome =>
      match s.network.reliableMessages with
      | [] => true
      | m :: _ =>
          !m.type.isInitialisation ||
            match ServerNetworkOutgoing.findPeerByConnectionId s.networkState m.connectionId with
            | none => true
            | some p =>
                ServerNetworkOutgoing.isPeerAllowedToSendPacket s.networkState s.peers (some p)
                    true &&
                  outcome.packetCreated && 0 ≤ outcome.sendResult
  | _ => true

/-- A match-flow pass, if it is about to send MATCH_START, finds only sessions that
    were there when each initialisation phase was latched. -/
def System.startsInitialised (platform : Platform) (s : System Peer) (tr : List (Event Peer)) :
    Action Peer → Bool
  | .checkMatchFlow order _ =>
      s.gameState.matchStartSent ||
        !ServerSimulation.areAllSessionsReadyForMatch platform.config
          { s.networkState with sessions := order } ||
        [SimulationToNetworkOUTMessageType.serverMatchInitPacketReliable,
            .serverWorldStaticStateInitPacketReliable].all fun type =>
          !s.gameState.hasSent type ||
            (UnorderedMap.values order).all fun session =>
              (producedLog tr).any fun m =>
                m.type = type && m.connectionId = session.connectionId
  | _ => true

/-- No initialisation is lost in this step. -/
def System.keepsInitialisation (platform : Platform) (s : System Peer) (tr : List (Event Peer))
    (a : Action Peer) : Bool :=
  s.sendsInitialisation a && s.startsInitialised platform tr a

variable {platform : Platform} {s s' : System Peer} {a : Action Peer} {tr es : List (Event Peer)}

omit [DecidableEq Peer] in
/-- Under this condition a message of the type was made for every session that is
    about to be told the start. -/
theorem produced_of_startsInitialised {order : Sessions} {clock : Nat → UInt64}
    (hok : s.startsInitialised platform tr (.checkMatchFlow order clock) = true)
    (hflag : s.gameState.matchStartSent = false)
    (hready : ServerSimulation.areAllSessionsReadyForMatch platform.config
      { s.networkState with sessions := order } = true)
    {type : SimulationToNetworkOUTMessageType} (htype : type.isInitialisation = true)
    (hsent : s.gameState.hasSent type = true) {session : ClientSession}
    (hsession : session ∈ UnorderedMap.values order) :
    ∃ m ∈ producedLog tr, m.type = type ∧ m.connectionId = session.connectionId := by
  simp only [System.startsInitialised, hflag, hready, Bool.not_true, Bool.false_or,
    List.all_eq_true, Bool.or_eq_true, Bool.not_eq_true', List.any_eq_true, Bool.and_eq_true,
    decide_eq_true_eq] at hok
  have hmem : type ∈ [SimulationToNetworkOUTMessageType.serverMatchInitPacketReliable,
      .serverWorldStaticStateInitPacketReliable] := by
    cases type with
    | serverMatchInitPacketReliable => simp
    | serverWorldStaticStateInitPacketReliable => simp
    | _ => cases htype
  rcases hok type hmem with hunsent | hall
  · exact absurd (hsent.symm.trans hunsent) (by simp)
  · exact hall session hsession

theorem System.Steps.reliableLog_eq_nil (h : System.Steps platform s a s' es)
    (ha : ∀ outcome, a ≠ .sendReliable outcome) : reliableLog es = [] ∧ handedLog es = [] := by
  cases h with
  | sendReliable => exact absurd rfl (ha _)
  | _ => exact ⟨rfl, rfl⟩

-- ============================================================================
-- Whole runs
-- ============================================================================

theorem isReliable_of_isMatchPhase {type : SimulationToNetworkOUTMessageType}
    (h : type.isMatchPhase = true) : type.isReliable = true := by
  cases type <;> first | rfl | cases h

theorem isMatchPhase_of_isInitialisation {type : SimulationToNetworkOUTMessageType}
    (h : type.isInitialisation = true) : type.isMatchPhase = true := by
  cases type <;> first | rfl | cases h

/-- The messages of the match phases over a run. -/
structure InitialisationInv (s : System Peer) (tr : List (Event Peer)) : Prop where
  /-- MATCH_START is made after the initialisation of its connection. -/
  made : ∀ type : SimulationToNetworkOUTMessageType, type.isInitialisation = true →
    StartPreceded type (onlyReliable (producedLog tr))
  /-- An initialisation message that a pass has handled was handed over, unless its
      connection is gone. -/
  handed : ∀ m ∈ reliableLog tr, m.type.isInitialisation = true →
    m ∈ handedLog tr ∨ connectionPhase m.connectionId (incomingLog tr) = .ended
  started : ∀ type : SimulationToNetworkOUTMessageType, type.isInitialisation = true →
    StartPreceded type (handedLog tr)

namespace InitialisationInv

omit [DecidableEq Peer] in
theorem init (platform : Platform) :
    InitialisationInv (System.init platform : System Peer) [] where
  made := fun _ _ => EachAfter.nil
  handed := by simp
  started := fun _ _ => EachAfter.nil

/-- The messages made in a step keep their order. -/
theorem made_step (inv : InitialisationInv s tr) (h : System.Steps platform s a s' es)
    (hok : s.startsInitialised platform tr a = true) {type : SimulationToNetworkOUTMessageType}
    (htype : type.isInitialisation = true) :
    StartPreceded type (onlyReliable (producedLog (tr ++ es))) := by
  rw [producedLog_append, onlyReliable_append]
  by_cases ha : ∀ order clock, a ≠ .checkMatchFlow order clock
  · -- no other step makes a MATCH_START
    refine Preceded.append (inv.made type htype) ?_
    intro m hm hstart
    obtain ⟨order, clock, _, _, hcheck, _⟩ :=
      h.matchPhase_produced (List.mem_filter.mp hm).1 (by rw [hstart]; rfl)
    exact absurd hcheck (ha order clock)
  · push Not at ha
    obtain ⟨order, clock, rfl⟩ := ha
    cases h with
    | checkMatchFlow phase pushed networkDone httpDone perm =>
        obtain ⟨inits, starts, hout, hinits, hstarts⟩ :=
          ServerSimulation.checkMatchFlow_order platform.engine platform.config clock
            { s.networkState with sessions := order } s.simulation.currentTick s.gameState
        rw [producedLog_singleton, Event.produced, hout, System.stamp_append,
          onlyReliable_append, ← List.append_assoc]
        refine Preceded.append (Preceded.append (inv.made type htype) ?_) ?_
        · intro m hm hstart
          obtain ⟨m₀, hm₀, serial, rfl⟩ := System.mem_stamp (List.mem_filter.mp hm).1
          have hinit := hinits m₀ hm₀
          rw [hstart] at hinit
          cases hinit
        · intro m hm _
          obtain ⟨m₀, hm₀, serial, rfl⟩ := System.mem_stamp (List.mem_filter.mp hm).1
          obtain ⟨hflag, hready, session, hsession, hown, hall⟩ := hstarts m₀ hm₀
          have hreliable := isReliable_of_isMatchPhase (isMatchPhase_of_isInitialisation htype)
          -- latched before, or sent in this pass
          rcases hall type htype with hsent | ⟨m₁, hm₁, hm₁type, hm₁own⟩
          · obtain ⟨m', hm', rfl, hm'own⟩ :=
              produced_of_startsInitialised hok hflag hready htype hsent hsession
            exact ⟨m', List.mem_append_left _ (List.mem_filter.mpr ⟨hm', hreliable⟩), rfl,
              hm'own.trans hown.symm⟩
          · obtain ⟨serial', hstamped⟩ := System.mem_stamp_of_mem s.producedCount hm₁
            refine ⟨_, List.mem_append_right _ (List.mem_filter.mpr ⟨hstamped, ?_⟩), hm₁type,
              hm₁own.trans hown.symm⟩
            rw [← hm₁type] at hreliable
            exact hreliable

/-- A pass hands an initialisation message over, unless its connection is gone. -/
theorem handed_step (hr : (server Peer platform).Reach s tr) (few : FewConnects tr)
    {outcome : SendOutcome} {prepared : ServerNetworkOutgoingPreparedMessages}
    {m : SimulationToNetworkOUTMessage} {rest : List SimulationToNetworkOUTMessage}
    (outgoing : s.network = .outgoing prepared)
    (next : prepared.reliableMessages = m :: rest)
    (hok : s.sendsInitialisation (.sendReliable outcome) = true)
    (htype : m.type.isInitialisation = true) :
    m ∈ handedLog [Event.reliableHandled m (ServerNetworkOutgoing.handleReliableMessage
      s.networkState s.peers m outcome).calls] ∨
    connectionPhase m.connectionId (incomingLog tr) = .ended := by
  have table := TableInv.of_reach hr few
  cases hpeer : ServerNetworkOutgoing.findPeerByConnectionId s.networkState m.connectionId with
  | none =>
      right
      have hproduced : m ∈ producedLog tr := by
        have hmem : m ∈ onlyReliable (producedLog tr) := by
          rw [(OutgoingInv.of_reach hr).fifo]
          simp [outgoing, next]
        exact (List.mem_filter.mp hmem).1
      have hnamed := matchPhase_named hr few hproduced (isMatchPhase_of_isInitialisation htype)
      have hdead : connectionPhase m.connectionId (incomingLog tr) ≠ .live := by
        intro hlive
        obtain ⟨p, hp⟩ := table.table_of_live hlive
        simp [ServerNetworkOutgoing.findPeerByConnectionId, hp] at hpeer
      cases hphase : connectionPhase m.connectionId (incomingLog tr) with
      | fresh => exact absurd hphase hnamed
      | live => exact absurd hphase hdead
      | ended => rfl
      | broken => exact absurd hphase (table.wellFormed _)
  | some p =>
      left
      simp only [System.sendsInitialisation, outgoing, NetworkThread.reliableMessages, next, htype,
        hpeer, Bool.not_true, Bool.false_or, Bool.and_eq_true, decide_eq_true_eq] at hok
      obtain ⟨⟨hallowed, hcreated⟩, hsent⟩ := hok
      have hphase : m.type = .serverMatchInitPacketReliable ∨
          m.type = .serverWorldStaticStateInitPacketReliable ∨
          m.type = .serverMatchStartPacketReliable := by
        cases hm : m.type <;>
          simp [hm, SimulationToNetworkOUTMessageType.isInitialisation] at htype ⊢
      exact mem_handedLog_singleton.mpr ⟨_, _, _,
        ServerNetworkOutgoing.handleReliableMessage_peerSend hpeer hphase hallowed hcreated hsent⟩

/-- MATCH_START is handed over for a live connection, whose initialisation has been
    handled and so handed over. -/
theorem started_step (hr : (server Peer platform).Reach s tr) (few : FewConnects tr)
    (inv : InitialisationInv s tr) {outcome : SendOutcome}
    {prepared : ServerNetworkOutgoingPreparedMessages}
    {m : SimulationToNetworkOUTMessage} {rest : List SimulationToNetworkOUTMessage}
    (outgoing : s.network = .outgoing prepared)
    (next : prepared.reliableMessages = m :: rest)
    {type : SimulationToNetworkOUTMessageType} (htype : type.isInitialisation = true)
    (hstart : m.type = .serverMatchStartPacketReliable)
    (hm : m ∈ handedLog [Event.reliableHandled m (ServerNetworkOutgoing.handleReliableMessage
      s.networkState s.peers m outcome).calls]) :
    ∃ m' ∈ handedLog tr, m'.type = type ∧ m'.connectionId = m.connectionId := by
  obtain ⟨p, channel, packet, hsend⟩ := mem_handedLog_singleton.mp hm
  have hpeer := (ServerNetworkOutgoing.peerSend_mem_handleReliableMessage hsend).1
  have hlive := (TableInv.of_reach hr few).live_of_table
    (ContextInv.findPeerByConnectionId_eq_some hpeer)
  have hfifo := (OutgoingInv.of_reach hr).fifo
  simp only [outgoing, NetworkThread.reliableMessages, next] at hfifo
  -- everything made before this message has been handled
  rw [List.append_assoc, List.cons_append] at hfifo
  obtain ⟨m', hm', hm'type, hm'own⟩ := inv.made type htype _ m _ hfifo hstart
  rcases inv.handed m' hm' (by rw [hm'type]; exact htype) with hhanded | hended
  · exact ⟨m', hhanded, hm'type, hm'own⟩
  · rw [hm'own] at hended
    cases hlive.symm.trans hended

theorem step (hr : (server Peer platform).Reach s tr)
    (hr' : (server Peer platform).Reach s' (tr ++ es)) (few : FewConnects (tr ++ es))
    (inv : InitialisationInv s tr) (h : System.Steps platform s a s' es)
    (hok : s.keepsInitialisation platform tr a = true) : InitialisationInv s' (tr ++ es) := by
  simp only [System.keepsInitialisation, Bool.and_eq_true] at hok
  -- a connection that is gone stays gone
  have hended : ∀ c, connectionPhase c (incomingLog tr) = .ended →
      connectionPhase c (incomingLog (tr ++ es)) = .ended := by
    intro c hc
    have hwf := (TableInv.of_reach hr' few).wellFormed c
    rw [incomingLog_append] at hwf ⊢
    exact Lifecycle.phase_append_of_ended hc hwf
  have hkept : ∀ m ∈ reliableLog tr, m.type.isInitialisation = true →
      m ∈ handedLog (tr ++ es) ∨
        connectionPhase m.connectionId (incomingLog (tr ++ es)) = .ended := by
    intro m hm htype
    rcases inv.handed m hm htype with hhanded | hgone
    · exact Or.inl (by simp [hhanded])
    · exact Or.inr (hended _ hgone)
  by_cases ha : ∀ outcome, a ≠ .sendReliable outcome
  · obtain ⟨hreliable, hhanded⟩ := h.reliableLog_eq_nil ha
    refine ⟨fun _ => inv.made_step h hok.2, ?_, ?_⟩
    · rw [reliableLog_append, hreliable, List.append_nil]
      exact hkept
    · rw [handedLog_append, hhanded, List.append_nil]
      exact inv.started
  · push Not at ha
    obtain ⟨outcome, rfl⟩ := ha
    refine ⟨fun _ => inv.made_step h hok.2, ?_, ?_⟩
    · intro m hm htype
      rw [reliableLog_append] at hm
      rcases List.mem_append.mp hm with hm | hm
      · exact hkept m hm htype
      · cases h with
        | sendReliable outgoing next =>
            obtain rfl := List.mem_singleton.mp hm
            rcases handed_step hr few.of_append outgoing next hok.1 htype with hhanded | hgone
            · rw [handedLog_append]
              exact Or.inl (List.mem_append_right _ hhanded)
            · exact Or.inr (hended _ hgone)
    · intro type htype
      rw [handedLog_append]
      refine Preceded.append (inv.started type htype) ?_
      intro m hm hstart
      cases h with
      | sendReliable outgoing next =>
          obtain rfl : m = _ := by
            simp only [handedLog_cons, Event.handed, handedLog_nil, List.append_nil] at hm
            split at hm
            · exact List.mem_singleton.mp hm
            · cases hm
          exact started_step hr few.of_append inv outgoing next htype hstart hm

theorem of_run (hr : (server Peer platform).Run
      (fun s tr a => s.keepsInitialisation platform tr a = true) s tr) (few : FewConnects tr) :
    InitialisationInv s tr :=
  TraceMachine.Run.invariant_of_prefix (P := InitialisationInv) (B := FewConnects)
    (fun _ _ h => h.of_append) (InitialisationInv.init platform)
    (fun _ _ _ _ _ hr inv hok hs few =>
      inv.step hr.reach (hr.reach.next hs) few (System.step_cases hs) hok)
    hr few

end InitialisationInv

/-- As long as no initialisation is lost, a client is handed MATCH_INIT and
    WORLD_STATIC_STATE_INIT before MATCH_START. -/
theorem match_start_after_initialisation (hr : (server Peer platform).Run
      (fun s tr a => s.keepsInitialisation platform tr a = true) s tr) (few : FewConnects tr) :
    StartInitialised tr :=
  startInitialised_iff.mpr (InitialisationInv.of_run hr few).started

/-- The first pass after the handshake takes place when START has been announced. -/
def onePassRun : List (Action Unit) :=
  Action.soloAnnounced ++ [.beginOutgoing] ++ List.replicate 4 (.sendReliable {})

theorem onePassRun_runs :
    ((server Unit soloPlatform).exec
      (fun s tr a => s.keepsInitialisation soloPlatform tr a = true) onePassRun).isSome = true := by
  decide +kernel

/-- The state and the trace of the run. -/
def onePassResult : System Unit × List (Event Unit) :=
  ((server Unit soloPlatform).exec
    (fun s tr a => s.keepsInitialisation soloPlatform tr a = true) onePassRun).get onePassRun_runs

/-- The run hands over the three phases of the match in order. -/
theorem onePass_initialised :
    (handedLog onePassResult.2).map (·.type) =
      [.serverSecureSessionHelloResponsePacketReliable, .serverMatchInitPacketReliable,
        .serverWorldStaticStateInitPacketReliable, .serverAuthResponsePacketReliable,
        .serverMatchStartPacketReliable] ∧
    StartInitialised onePassResult.2 := by
  have hr : (server Unit soloPlatform).Run
      (fun s tr a => s.keepsInitialisation soloPlatform tr a = true)
      onePassResult.1 onePassResult.2 :=
    TraceMachine.run_get onePassRun_runs
  have few : FewConnects onePassResult.2 := by
    unfold FewConnects
    decide +kernel
  refine ⟨?_, match_start_after_initialisation hr few⟩
  decide +kernel

/-- An ordinary match: a pass takes place between the end of the first tick and the
    verdict, and another one when START has been announced. -/
def earlyPassRun : List (Action Unit) :=
  Action.soloAnnounce (Action.soloGrant (Action.soloRequested ++
      [.beginOutgoing, .sendReliable {}, .sendReliable {}, .patchSnapshot 1, .sendSnapshot {},
        .endOutgoing])) ++
    [.beginOutgoing, .sendReliable {}, .sendReliable {}]

theorem earlyPassRun_runs :
    ((server Unit soloPlatform).exec (fun _ _ _ => True) earlyPassRun).isSome = true := by
  decide +kernel

/-- The state and the trace of the run. -/
def earlyPassResult : System Unit × List (Event Unit) :=
  ((server Unit soloPlatform).exec (fun _ _ _ => True) earlyPassRun).get earlyPassRun_runs

/-- In the run MATCH_START is handed over, and MATCH_INIT never was. -/
theorem earlyPass_not_initialised :
    (server Unit soloPlatform).Reach earlyPassResult.1 earlyPassResult.2 ∧
      ¬ StartInitialised earlyPassResult.2 := by
  refine ⟨TraceMachine.run_get earlyPassRun_runs, ?_⟩
  rintro ⟨hinit, _⟩
  have htypes : (handedLog earlyPassResult.2).map (·.type) =
      [.serverSecureSessionHelloResponsePacketReliable, .serverAuthResponsePacketReliable,
        .serverMatchStartPacketReliable] := by
    decide +kernel
  obtain ⟨m, hm, hstart⟩ : ∃ m ∈ handedLog earlyPassResult.2,
      m.type = .serverMatchStartPacketReliable := by
    rw [← List.mem_map, htypes]
    decide
  obtain ⟨m', hm', htype, _⟩ := Preceded.exists_mem hinit hm hstart
  have hmem := List.mem_map_of_mem (f := (·.type)) hm'
  rw [htypes, htype] at hmem
  exact absurd hmem (by decide)

end RcnetServer
