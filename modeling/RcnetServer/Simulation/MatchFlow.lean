/-
  RcnetServer.Simulation.MatchFlow

  The match phases and the snapshots of a tick (simulation/match_flow.cpp,
  simulation/snapshots.cpp).

  The RCNET engine is not part of the sources; its answers are an `Engine`.
  `clock i` is the i-th reading of the monotonic clock in the pass.  A pass holds
  `sessionsMutex` while it iterates, and no other thread writes the fields it
  reads, so the messages are computed from one table.
-/

import RcnetServer.Network.PacketCodec
import RcnetServer.State

namespace RcnetServer

variable {Peer : Type}

/-- The engine values read by the simulation (`rcnet_engine_*`). -/
structure Engine where
  simulationTickRateHz : UInt32
  networkOutgoingTickRateHz : UInt32
  durationMsToTicks : UInt32 → UInt32
  isNetworkOutgoingProductionTick : UInt64 → UInt32 → Bool

/-- The messages that prepare a client for the start of the match. -/
def SimulationToNetworkOUTMessageType.isInitialisation :
    SimulationToNetworkOUTMessageType → Bool
  | .serverMatchInitPacketReliable => true
  | .serverWorldStaticStateInitPacketReliable => true
  | _ => false

/-- The flag that is latched when the messages of a match phase are made. -/
def GameState.hasSent (gameState : GameState) : SimulationToNetworkOUTMessageType → Bool
  | .serverMatchInitPacketReliable => gameState.matchInitSent
  | .serverWorldStaticStateInitPacketReliable => gameState.worldStaticStateInitSent
  | .serverMatchStartPacketReliable => gameState.matchStartSent
  | _ => false

/-- Numbering the elements of a list does not change what is read off them without
    their number. -/
theorem map_mapIdx_eq_map {α β γ : Type*} {f : Nat → α → β} {g : β → γ} {h : α → γ}
    (hf : ∀ i a, g (f i a) = h a) (l : List α) : (l.mapIdx f).map g = l.map h := by
  apply List.ext_getElem
  · simp
  · intro i _ _
    simp [hf]

namespace ServerSimulation

variable (engine : Engine) (config : ServerConfig) (clock : Nat → UInt64)
  (networkState : NetworkState Peer) (currentTick : UInt64)

-- ============================================================================
-- Messages of the phases
-- ============================================================================

/-- `"ExampleNameMap"`. -/
def exampleMapName : List UInt8 :=
  ['E', 'x', 'a', 'm', 'p', 'l', 'e', 'N', 'a', 'm', 'e', 'M', 'a', 'p'].map
    fun c => UInt8.ofNat c.toNat

def matchInitPacket (serverTimeNs : UInt64) : ServerMatchInitPacketReliable :=
  { type := .serverMatchInitPacketReliable
    mapName := exampleMapName
    mapVersion := 1
    mapChecksum := 0
    serverTick := currentTick
    serverTickRateHz := engine.simulationTickRateHz
    serverTimeNs := serverTimeNs }

/-- The MATCH_INIT message of one session.  The map name is short enough for
    `writeString` (`serializeMatchInit_isSome`), so the default is never taken. -/
def matchInitMessage (serverTimeNs : UInt64) (session : ClientSession) :
    SimulationToNetworkOUTMessage :=
  { type := .serverMatchInitPacketReliable
    connectionId := session.connectionId
    serializedPacket :=
      (serializeServerMatchInitPacketReliable
        (matchInitPacket engine currentTick serverTimeNs)).getD [] }

theorem serializeMatchInit_isSome (serverTimeNs : UInt64) :
    (serializeServerMatchInitPacketReliable
      (matchInitPacket engine currentTick serverTimeNs)).isSome = true := by
  have hlen : ¬ exampleMapName.length > 65535 := by decide
  simp [serializeServerMatchInitPacketReliable, matchInitPacket, ByteWriter.writeString, hlen]

def worldStaticStateInitMessage (session : ClientSession) : SimulationToNetworkOUTMessage :=
  { type := .serverWorldStaticStateInitPacketReliable
    connectionId := session.connectionId
    serializedPacket :=
      serializeServerWorldStaticStateInitPacketReliable
        { type := .serverWorldStaticStateInitPacketReliable } }

def matchStartMessage (matchStartTick : UInt64) (countdownTicks : UInt32) (serverTimeNs : UInt64)
    (session : ClientSession) : SimulationToNetworkOUTMessage :=
  { type := .serverMatchStartPacketReliable
    connectionId := session.connectionId
    serializedPacket :=
      serializeServerMatchStartPacketReliable
        { type := .serverMatchStartPacketReliable
          serverTick := currentTick
          matchStartTick := matchStartTick
          countdownTicks := countdownTicks
          serverTimeNs := serverTimeNs } }

-- ============================================================================
-- CheckMatchFlow
-- ============================================================================

/-- `ServerSimulation_AreAllSessionsReadyForMatch`. -/
def areAllSessionsReadyForMatch : Bool :=
  if UnorderedMap.size networkState.sessions < config.maxClientsConnected then false
  else (UnorderedMap.values networkState.sessions).all fun session => session.isReadyForMatch

/-- The MATCH_INIT phase of `ServerSimulation_CheckMatchFlow`. -/
def sendMatchInit (gameState : GameState) : GameState × List SimulationToNetworkOUTMessage :=
  if !gameState.matchInitSent then
    ({ gameState with matchInitSent := true },
      (UnorderedMap.values networkState.sessions).mapIdx fun i session =>
        matchInitMessage engine currentTick (clock i) session)
  else (gameState, [])

/-- The WORLD_STATIC_STATE_INIT phase. -/
def sendWorldStaticStateInit (gameState : GameState) :
    GameState × List SimulationToNetworkOUTMessage :=
  if !gameState.worldStaticStateInitSent then
    ({ gameState with worldStaticStateInitSent := true },
      (UnorderedMap.values networkState.sessions).map worldStaticStateInitMessage)
  else (gameState, [])

/-- The MATCH_START phase; its clock readings follow those of MATCH_INIT. -/
def sendMatchStart (gameState : GameState) : GameState × List SimulationToNetworkOUTMessage :=
  if !gameState.matchStartSent && areAllSessionsReadyForMatch config networkState then
    let countdownTicks := engine.durationMsToTicks 3000
    let matchStartTick := currentTick + countdownTicks.toUInt64
    ({ gameState with matchStartTick := matchStartTick, matchStartSent := true },
      (UnorderedMap.values networkState.sessions).mapIdx fun i session =>
        matchStartMessage currentTick matchStartTick countdownTicks
          (clock (UnorderedMap.size networkState.sessions + i)) session)
  else (gameState, [])

/-- The last phase: the match starts once its start tick is reached. -/
def startMatch (gameState : GameState) : GameState :=
  if !gameState.matchStarted && gameState.matchStartSent &&
      gameState.matchStartTick ≤ currentTick then
    { gameState with matchStarted := true }
  else gameState

/-- `ServerSimulation_CheckMatchFlow`: the game state and the messages pushed. -/
def checkMatchFlow (gameState : GameState) : GameState × List SimulationToNetworkOUTMessage :=
  -- the count is tested before every phase, the start of the match included
  if UnorderedMap.size networkState.sessions < config.maxClientsConnected then (gameState, [])
  else
    let init := sendMatchInit engine clock networkState currentTick gameState
    let world := sendWorldStaticStateInit networkState init.1
    let start := sendMatchStart engine config clock networkState currentTick world.1
    (startMatch currentTick start.1, init.2 ++ world.2 ++ start.2)

-- ============================================================================
-- Snapshots
-- ============================================================================

/-- `ServerSimulation_CreateFullSnapshotAndEnqueue`. -/
def createFullSnapshotAndEnqueue (serverTimeNs : UInt64) (session : ClientSession) :
    SimulationToNetworkOUTMessage :=
  { type := .serverSnapshotFullPacketUnreliable
    connectionId := session.connectionId
    serializedPacket :=
      serializeServerSnapshotFullPacketUnreliable
        { type := .serverSnapshotFullPacketUnreliable
          serverTick := currentTick
          serverTimeNs := serverTimeNs
          lastProcessedInputSequenceNumber := session.serverLastProcessedInputSequenceNumber } }

/-- `ServerSimulation_CreateFullSnapshotsForAllSessionsAndEnqueueForNetworkOutgoing`. -/
def createFullSnapshotsForAllSessionsAndEnqueueForNetworkOutgoing :
    List SimulationToNetworkOUTMessage :=
  (UnorderedMap.values networkState.sessions).mapIdx fun i session =>
    createFullSnapshotAndEnqueue currentTick (clock i) session

-- ============================================================================
-- What a pass does
-- ============================================================================

section Spec

variable {engine config clock networkState currentTick} {gameState : GameState}
  {m : SimulationToNetworkOUTMessage}

theorem areAllSessionsReadyForMatch_iff :
    areAllSessionsReadyForMatch config networkState = true ↔
      config.maxClientsConnected ≤ UnorderedMap.size networkState.sessions ∧
        ∀ c session, networkState.sessions.lookup c = some session →
          session.isReadyForMatch = true := by
  unfold areAllSessionsReadyForMatch
  by_cases hsize : UnorderedMap.size networkState.sessions < config.maxClientsConnected
  · rw [if_pos hsize]
    simp only [Bool.false_eq_true, false_iff, not_and]
    intro hle
    omega
  · rw [if_neg hsize, List.all_eq_true]
    constructor
    · intro hall
      exact ⟨by omega, fun c session hc => hall session (UnorderedMap.mem_values.mpr ⟨c, hc⟩)⟩
    · rintro ⟨_, hall⟩ session hsession
      obtain ⟨c, hc⟩ := UnorderedMap.mem_values.mp hsession
      exact hall c session hc

/-- The first two phases only latch their flag. -/
@[simp] theorem sendMatchInit_gameState :
    (sendMatchInit engine clock networkState currentTick gameState).1 =
      { gameState with matchInitSent := true } := by
  unfold sendMatchInit
  cases h : gameState.matchInitSent <;> simp [← h]

@[simp] theorem sendWorldStaticStateInit_gameState :
    (sendWorldStaticStateInit networkState gameState).1 =
      { gameState with worldStaticStateInitSent := true } := by
  unfold sendWorldStaticStateInit
  cases h : gameState.worldStaticStateInitSent <;> simp [← h]

/-- MATCH_INIT is made for sessions of the table, before its flag is latched. -/
theorem mem_sendMatchInit
    (hm : m ∈ (sendMatchInit engine clock networkState currentTick gameState).2) :
    gameState.matchInitSent = false ∧ ∃ session ∈ UnorderedMap.values networkState.sessions,
      ∃ serverTimeNs, m = matchInitMessage engine currentTick serverTimeNs session := by
  unfold sendMatchInit at hm
  split at hm
  · rename_i hflag
    obtain ⟨i, hi, rfl⟩ := List.mem_mapIdx.mp hm
    exact ⟨by simpa using hflag, _, List.getElem_mem hi, clock i, rfl⟩
  · cases hm

theorem mem_sendWorldStaticStateInit
    (hm : m ∈ (sendWorldStaticStateInit networkState gameState).2) :
    gameState.worldStaticStateInitSent = false ∧
    ∃ session ∈ UnorderedMap.values networkState.sessions,
      m = worldStaticStateInitMessage session := by
  unfold sendWorldStaticStateInit at hm
  split at hm
  · rename_i hflag
    obtain ⟨session, hsession, rfl⟩ := List.mem_map.mp hm
    exact ⟨by simpa using hflag, session, hsession, rfl⟩
  · cases hm

/-- MATCH_START is made for sessions of the table, once all of them are ready, and
    announces the tick that the phase writes. -/
theorem mem_sendMatchStart
    (hm : m ∈ (sendMatchStart engine config clock networkState currentTick gameState).2) :
    gameState.matchStartSent = false ∧ areAllSessionsReadyForMatch config networkState = true ∧
    ∃ session ∈ UnorderedMap.values networkState.sessions, ∃ countdownTicks serverTimeNs,
      m = matchStartMessage currentTick
        (sendMatchStart engine config clock networkState currentTick gameState).1.matchStartTick
        countdownTicks serverTimeNs session ∧
      (sendMatchStart engine config clock networkState currentTick gameState).1.matchStartSent =
        true := by
  unfold sendMatchStart at hm ⊢
  split at hm
  · rename_i hcond
    rw [if_pos hcond]
    obtain ⟨i, hi, rfl⟩ := List.mem_mapIdx.mp hm
    have hflags : gameState.matchStartSent = false ∧
        areAllSessionsReadyForMatch config networkState = true := by
      simpa using hcond
    exact ⟨hflags.1, hflags.2, _, List.getElem_mem hi, _, _, rfl, rfl⟩
  · cases hm

/-- MATCH_START is sent once. -/
theorem sendMatchStart_of_sent (h : gameState.matchStartSent = true) :
    sendMatchStart engine config clock networkState currentTick gameState = (gameState, []) := by
  simp [sendMatchStart, h]

/-- MATCH_START latches no other flag. -/
theorem sendMatchStart_hasSent {type : SimulationToNetworkOUTMessageType}
    (htype : type.isInitialisation = true) :
    (sendMatchStart engine config clock networkState currentTick gameState).1.hasSent type =
      gameState.hasSent type := by
  unfold sendMatchStart
  split
  · cases type <;> first | rfl | cases htype
  · rfl

@[simp] theorem sendMatchStart_matchStarted :
    (sendMatchStart engine config clock networkState currentTick gameState).1.matchStarted =
      gameState.matchStarted := by
  unfold sendMatchStart
  split <;> rfl

/-- The last phase touches neither the latch nor the announced tick. -/
@[simp] theorem startMatch_matchStartSent :
    (startMatch currentTick gameState).matchStartSent = gameState.matchStartSent := by
  unfold startMatch
  split <;> rfl

@[simp] theorem startMatch_matchStartTick :
    (startMatch currentTick gameState).matchStartTick = gameState.matchStartTick := by
  unfold startMatch
  split <;> rfl

@[simp] theorem startMatch_hasSent (type : SimulationToNetworkOUTMessageType) :
    (startMatch currentTick gameState).hasSent type = gameState.hasSent type := by
  unfold startMatch
  split <;> cases type <;> rfl

/-- It starts a match exactly if it was announced for this tick or an earlier one. -/
theorem startMatch_matchStarted_iff :
    (startMatch currentTick gameState).matchStarted = true ↔
      gameState.matchStarted = true ∨
        (gameState.matchStartSent = true ∧ gameState.matchStartTick ≤ currentTick) := by
  unfold startMatch
  cases hstarted : gameState.matchStarted with
  | true => simp [hstarted]
  | false =>
      cases hsent : gameState.matchStartSent with
      | false => simp [hstarted]
      | true => by_cases htick : gameState.matchStartTick ≤ currentTick <;> simp [htick, hstarted]

/-- Without enough sessions a pass does nothing. -/
theorem checkMatchFlow_of_lt
    (h : UnorderedMap.size networkState.sessions < config.maxClientsConnected) :
    checkMatchFlow engine config clock networkState currentTick gameState = (gameState, []) := by
  simp [checkMatchFlow, h]

/-- With enough sessions a pass goes through all phases. -/
theorem checkMatchFlow_of_le
    (h : config.maxClientsConnected ≤ UnorderedMap.size networkState.sessions) :
    checkMatchFlow engine config clock networkState currentTick gameState =
      (startMatch currentTick (sendMatchStart engine config clock networkState currentTick
          { gameState with matchInitSent := true, worldStaticStateInitSent := true }).1,
        (sendMatchInit engine clock networkState currentTick gameState).2 ++
        (sendWorldStaticStateInit networkState { gameState with matchInitSent := true }).2 ++
        (sendMatchStart engine config clock networkState currentTick
          { gameState with matchInitSent := true, worldStaticStateInitSent := true }).2) := by
  have hlt : ¬ UnorderedMap.size networkState.sessions < config.maxClientsConnected := by omega
  simp only [checkMatchFlow, if_neg hlt, sendMatchInit_gameState,
    sendWorldStaticStateInit_gameState]

/-- With enough sessions a pass leaves the match started exactly if it was started
    before or the announced tick is reached. -/
theorem checkMatchFlow_matchStarted_iff
    (hsize : config.maxClientsConnected ≤ UnorderedMap.size networkState.sessions) :
    (checkMatchFlow engine config clock networkState currentTick gameState).1.matchStarted = true ↔
      gameState.matchStarted = true ∨
      ((checkMatchFlow engine config clock networkState currentTick gameState).1.matchStartSent =
        true ∧
      (checkMatchFlow engine config clock networkState currentTick gameState).1.matchStartTick ≤
        currentTick) := by
  rw [checkMatchFlow_of_le hsize]
  simp only [startMatch_matchStarted_iff, sendMatchStart_matchStarted, startMatch_matchStartSent,
    startMatch_matchStartTick]

/-- Once MATCH_START is sent, a pass keeps the announced tick. -/
theorem checkMatchFlow_of_sent (h : gameState.matchStartSent = true) :
    (checkMatchFlow engine config clock networkState currentTick gameState).1.matchStartSent =
      true ∧
    (checkMatchFlow engine config clock networkState currentTick gameState).1.matchStartTick =
      gameState.matchStartTick := by
  unfold checkMatchFlow
  split
  · exact ⟨h, rfl⟩
  · simp [sendMatchStart_of_sent, h]

/-- A pass starts the match only at the announced tick or later. -/
theorem checkMatchFlow_starts
    (h : (checkMatchFlow engine config clock networkState currentTick gameState).1.matchStarted =
      true) :
    gameState.matchStarted = true ∨
      (checkMatchFlow engine config clock networkState currentTick gameState).1.matchStartTick ≤
        currentTick := by
  by_cases hsize : UnorderedMap.size networkState.sessions < config.maxClientsConnected
  · rw [checkMatchFlow_of_lt hsize] at h
    exact Or.inl h
  · exact ((checkMatchFlow_matchStarted_iff (by omega)).mp h).imp_right And.right

/-- The MATCH_START messages of a pass announce the tick it leaves. -/
theorem checkMatchFlow_announces
    (hm : m ∈ (checkMatchFlow engine config clock networkState currentTick gameState).2)
    (htype : m.type = .serverMatchStartPacketReliable) :
    (checkMatchFlow engine config clock networkState currentTick gameState).1.matchStartSent =
      true ∧
    ∃ packet, m.serializedPacket = serializeServerMatchStartPacketReliable packet ∧
      packet.matchStartTick =
        (checkMatchFlow engine config clock networkState currentTick gameState).1.matchStartTick
    := by
  by_cases hsize : UnorderedMap.size networkState.sessions < config.maxClientsConnected
  · rw [checkMatchFlow_of_lt hsize] at hm
    cases hm
  · rw [checkMatchFlow_of_le (by omega)] at hm ⊢
    simp only [startMatch_matchStartSent, startMatch_matchStartTick]
    rcases List.mem_append.mp hm with hm | hm
    · rcases List.mem_append.mp hm with hm | hm
      · obtain ⟨_, _, _, _, rfl⟩ := mem_sendMatchInit hm
        cases htype
      · obtain ⟨_, _, _, rfl⟩ := mem_sendWorldStaticStateInit hm
        cases htype
    · obtain ⟨_, _, _, _, _, _, rfl, hsent⟩ := mem_sendMatchStart hm
      exact ⟨hsent, _, rfl, rfl⟩

/-- The messages of a pass: each of the three kinds is sent by its own phase,
    to the sessions of the table, and asks for no post-ACK action. -/
theorem mem_checkMatchFlow
    (hm : m ∈ (checkMatchFlow engine config clock networkState currentTick gameState).2) :
    config.maxClientsConnected ≤ UnorderedMap.size networkState.sessions ∧
    m.disconnectAfterAck = false ∧ m.enableEncryptionAfterAck = false ∧
    (∃ c session, networkState.sessions.lookup c = some session ∧
      m.connectionId = session.connectionId) ∧
    ((m.type = .serverMatchInitPacketReliable ∧ gameState.matchInitSent = false) ∨
      (m.type = .serverWorldStaticStateInitPacketReliable ∧
        gameState.worldStaticStateInitSent = false) ∨
      (m.type = .serverMatchStartPacketReliable ∧ gameState.matchStartSent = false ∧
        areAllSessionsReadyForMatch config networkState = true)) := by
  by_cases hsize : UnorderedMap.size networkState.sessions < config.maxClientsConnected
  · rw [checkMatchFlow_of_lt hsize] at hm
    cases hm
  · have hle : config.maxClientsConnected ≤ UnorderedMap.size networkState.sessions := by omega
    have hlookup : ∀ session ∈ UnorderedMap.values networkState.sessions,
        ∃ c session', networkState.sessions.lookup c = some session' ∧
          session.connectionId = session'.connectionId := by
      intro session hmem
      obtain ⟨c, hc⟩ := UnorderedMap.mem_values.mp hmem
      exact ⟨c, session, hc, rfl⟩
    rw [checkMatchFlow_of_le hle] at hm
    rcases List.mem_append.mp hm with hm | hm
    · rcases List.mem_append.mp hm with hm | hm
      · obtain ⟨hflag, session, hsession, _, rfl⟩ := mem_sendMatchInit hm
        exact ⟨hle, rfl, rfl, hlookup session hsession, Or.inl ⟨rfl, hflag⟩⟩
      · obtain ⟨hflag, session, hsession, rfl⟩ := mem_sendWorldStaticStateInit hm
        exact ⟨hle, rfl, rfl, hlookup session hsession, Or.inr (Or.inl ⟨rfl, hflag⟩)⟩
    · obtain ⟨hflag, hready, session, hsession, _, _, rfl, _⟩ := mem_sendMatchStart hm
      exact ⟨hle, rfl, rfl, hlookup session hsession, Or.inr (Or.inr ⟨rfl, hflag, hready⟩)⟩

variable (engine config clock networkState currentTick gameState) in
/-- The initialisation messages of a pass come first.  A session that is told
    MATCH_START gets those of a type in the same pass, unless their flag was
    latched before. -/
theorem checkMatchFlow_order :
    ∃ inits starts,
      (checkMatchFlow engine config clock networkState currentTick gameState).2 =
        inits ++ starts ∧
      (∀ m ∈ inits, m.type.isInitialisation = true) ∧
      ∀ m ∈ starts, gameState.matchStartSent = false ∧
        areAllSessionsReadyForMatch config networkState = true ∧
        ∃ session ∈ UnorderedMap.values networkState.sessions,
          m.connectionId = session.connectionId ∧
          ∀ type : SimulationToNetworkOUTMessageType, type.isInitialisation = true →
            gameState.hasSent type = true ∨
            ∃ m' ∈ inits, m'.type = type ∧ m'.connectionId = session.connectionId := by
  by_cases hsize : UnorderedMap.size networkState.sessions < config.maxClientsConnected
  · rw [checkMatchFlow_of_lt hsize]
    exact ⟨[], [], rfl, by simp, by simp⟩
  · rw [checkMatchFlow_of_le (by omega)]
    refine ⟨_, _, rfl, ?_, ?_⟩
    · intro m hm
      rcases List.mem_append.mp hm with hm | hm
      · obtain ⟨_, _, _, _, rfl⟩ := mem_sendMatchInit hm
        rfl
      · obtain ⟨_, _, _, rfl⟩ := mem_sendWorldStaticStateInit hm
        rfl
    · intro m hm
      obtain ⟨hflag, hready, session, hsession, _, _, rfl, _⟩ := mem_sendMatchStart hm
      refine ⟨hflag, hready, session, hsession, rfl, ?_⟩
      intro type htype
      cases type with
      | serverMatchInitPacketReliable =>
          cases hsent : gameState.matchInitSent with
          | true => exact Or.inl hsent
          | false =>
              obtain ⟨i, hi, rfl⟩ := List.mem_iff_getElem.mp hsession
              refine Or.inr ⟨matchInitMessage engine currentTick (clock i) _,
                List.mem_append_left _ ?_, rfl, rfl⟩
              simp only [sendMatchInit, hsent, Bool.not_false, if_true]
              exact List.mem_mapIdx.mpr ⟨i, hi, rfl⟩
      | serverWorldStaticStateInitPacketReliable =>
          cases hsent : gameState.worldStaticStateInitSent with
          | true => exact Or.inl hsent
          | false =>
              refine Or.inr ⟨worldStaticStateInitMessage session, List.mem_append_right _ ?_,
                rfl, rfl⟩
              simp only [sendWorldStaticStateInit, Bool.not_false, if_true]
              exact List.mem_map_of_mem hsession
      | _ => cases htype

-- ============================================================================
-- Whom a phase addresses
-- ============================================================================

/-- What a pass does for the phase that makes messages of `type`: the phase is performed,
    and addresses each session once, or it is left out. -/
structure PhasePass (sessions : Sessions) (before after : GameState)
    (type : SimulationToNetworkOUTMessageType) (messages : List SimulationToNetworkOUTMessage) :
    Prop where
  types : ∀ m ∈ messages, m.type = type
  latch : (after.hasSent type = before.hasSent type ∧ messages = []) ∨
    (before.hasSent type = false ∧ after.hasSent type = true ∧
      messages.map (·.connectionId) = (UnorderedMap.values sessions).map (·.connectionId))

/-- Of the state before the pass only the flag of the phase matters. -/
theorem PhasePass.of_before {sessions : Sessions} {before before' after : GameState}
    {type : SimulationToNetworkOUTMessageType} {messages : List SimulationToNetworkOUTMessage}
    (hbefore : before.hasSent type = before'.hasSent type)
    (h : PhasePass sessions before after type messages) :
    PhasePass sessions before' after type messages := by
  obtain ⟨htypes, hlatch⟩ := h
  rw [hbefore] at hlatch
  exact ⟨htypes, hlatch⟩

theorem sendMatchInit_pass {after : GameState}
    (hafter : after.hasSent .serverMatchInitPacketReliable = true) :
    PhasePass networkState.sessions gameState after .serverMatchInitPacketReliable
      (sendMatchInit engine clock networkState currentTick gameState).2 where
  types := by
    intro m hm
    obtain ⟨_, _, _, _, rfl⟩ := mem_sendMatchInit hm
    rfl
  latch := by
    unfold sendMatchInit
    cases hsent : gameState.matchInitSent with
    | true => exact Or.inl ⟨hafter.trans hsent.symm, rfl⟩
    | false =>
        refine Or.inr ⟨hsent, hafter, ?_⟩
        simp only [Bool.not_false, if_true]
        apply map_mapIdx_eq_map
        intro _ _
        rfl

theorem sendWorldStaticStateInit_pass {after : GameState}
    (hafter : after.hasSent .serverWorldStaticStateInitPacketReliable = true) :
    PhasePass networkState.sessions gameState after .serverWorldStaticStateInitPacketReliable
      (sendWorldStaticStateInit networkState gameState).2 where
  types := by
    intro m hm
    obtain ⟨_, _, _, rfl⟩ := mem_sendWorldStaticStateInit hm
    rfl
  latch := by
    unfold sendWorldStaticStateInit
    cases hsent : gameState.worldStaticStateInitSent with
    | true => exact Or.inl ⟨hafter.trans hsent.symm, rfl⟩
    | false =>
        refine Or.inr ⟨hsent, hafter, ?_⟩
        simp only [Bool.not_false, if_true, List.map_map]
        rfl

theorem sendMatchStart_pass {after : GameState}
    (hafter : after.hasSent .serverMatchStartPacketReliable =
      (sendMatchStart engine config clock networkState currentTick gameState).1.matchStartSent) :
    PhasePass networkState.sessions gameState after .serverMatchStartPacketReliable
      (sendMatchStart engine config clock networkState currentTick gameState).2 where
  types := by
    intro m hm
    obtain ⟨_, _, _, _, _, _, rfl, _⟩ := mem_sendMatchStart hm
    rfl
  latch := by
    unfold sendMatchStart at hafter ⊢
    split at hafter
    · rename_i hcond
      rw [if_pos hcond]
      simp only [Bool.and_eq_true, Bool.not_eq_true'] at hcond
      refine Or.inr ⟨hcond.1, hafter, ?_⟩
      apply map_mapIdx_eq_map
      intro _ _
      rfl
    · rename_i hcond
      rw [if_neg hcond]
      exact Or.inl ⟨hafter, rfl⟩

variable (engine config clock networkState currentTick gameState) in
/-- A pass makes the messages of its three phases one after the other. -/
theorem checkMatchFlow_phases :
    ∃ inits worlds starts,
      (checkMatchFlow engine config clock networkState currentTick gameState).2 =
        inits ++ worlds ++ starts ∧
      PhasePass networkState.sessions gameState
        (checkMatchFlow engine config clock networkState currentTick gameState).1
        .serverMatchInitPacketReliable inits ∧
      PhasePass networkState.sessions gameState
        (checkMatchFlow engine config clock networkState currentTick gameState).1
        .serverWorldStaticStateInitPacketReliable worlds ∧
      PhasePass networkState.sessions gameState
        (checkMatchFlow engine config clock networkState currentTick gameState).1
        .serverMatchStartPacketReliable starts := by
  by_cases hsize : UnorderedMap.size networkState.sessions < config.maxClientsConnected
  · rw [checkMatchFlow_of_lt hsize]
    have hidle : ∀ type, PhasePass networkState.sessions gameState gameState type [] :=
      fun _ => ⟨by simp, Or.inl ⟨rfl, rfl⟩⟩
    exact ⟨[], [], [], rfl, hidle _, hidle _, hidle _⟩
  · rw [checkMatchFlow_of_le (by omega)]
    refine ⟨_, _, _, rfl, sendMatchInit_pass ?_, ?_, ?_⟩
    · rw [startMatch_hasSent, sendMatchStart_hasSent rfl]
      rfl
    · refine PhasePass.of_before ?_ (sendWorldStaticStateInit_pass ?_)
      · rfl
      · rw [startMatch_hasSent, sendMatchStart_hasSent rfl]
        rfl
    · refine PhasePass.of_before ?_ (sendMatchStart_pass (startMatch_hasSent _))
      rfl

end Spec

end ServerSimulation

end RcnetServer
