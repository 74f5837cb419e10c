/-
  RcnetServer.System.MatchPhases

  The match phases over whole runs: which step makes their messages and writes
  the game state, and whom a performed phase addresses.
-/

import RcnetServer.System.Sending

namespace RcnetServer

/-- The messages of the match phases. -/
def SimulationToNetworkOUTMessageType.isMatchPhase : SimulationToNetworkOUTMessageType → Bool
  | .serverMatchInitPacketReliable => true
  | .serverWorldStaticStateInitPacketReliable => true
  | .serverMatchStartPacketReliable => true
  | _ => false

/-- The match phases, in order. -/
def matchPhases : List SimulationToNetworkOUTMessageType :=
  [.serverMatchInitPacketReliable, .serverWorldStaticStateInitPacketReliable,
    .serverMatchStartPacketReliable]

/-- The flags of the phases are latched in order. -/
structure GameState.PhasesOrdered (gameState : GameState) : Prop where
  /-- The two initialisation phases take place in the same pass. -/
  world : gameState.worldStaticStateInitSent = gameState.matchInitSent
  start : gameState.matchStartSent = true → gameState.matchInitSent = true
  started : gameState.matchStarted = true → gameState.matchStartSent = true

/-- The phases performed between two states. -/
def GameState.newPhases (before after : GameState) : List SimulationToNetworkOUTMessageType :=
  matchPhases.filter fun type => !before.hasSent type && after.hasSent type

/-- Phases performed later come after the ones performed before. -/
theorem GameState.PhasesOrdered.filter_hasSent {before after : GameState}
    (hbefore : before.PhasesOrdered) (hafter : after.PhasesOrdered)
    (hkept : ∀ type, before.hasSent type = true → after.hasSent type = true) :
    matchPhases.filter after.hasSent =
      matchPhases.filter before.hasSent ++ before.newPhases after := by
  have hinit := hkept .serverMatchInitPacketReliable
  have hstart := hkept .serverMatchStartPacketReliable
  obtain ⟨init, world, start, _, _⟩ := before
  obtain ⟨init', world', start', _, _⟩ := after
  obtain ⟨hworld, hordered, _⟩ := hbefore
  obtain ⟨hworld', hordered', _⟩ := hafter
  simp only [hasSent] at hinit hstart hworld hordered hworld' hordered'
  subst hworld hworld'
  simp only [newPhases, matchPhases, List.filter_cons, List.filter_nil, hasSent]
  cases world <;> cases start <;> cases world' <;> cases start' <;> simp_all

/-- The connections that get a message of a type, in the order they get it. -/
def addressees (type : SimulationToNetworkOUTMessageType)
    (messages : List SimulationToNetworkOUTMessage) : List ConnectionId :=
  (messages.filter fun m => m.type = type).map (·.connectionId)

/-- The match phases of the messages for a connection, in order. -/
def phaseTypes (c : ConnectionId) (messages : List SimulationToNetworkOUTMessage) :
    List SimulationToNetworkOUTMessageType :=
  (messages.filter fun m => m.type.isMatchPhase && m.connectionId = c).map (·.type)

variable {Peer : Type}

namespace ServerSimulation

/-- The handling of a network message makes hello responses only. -/
theorem clientStep_type {kx : KxServerSessionKeys} {oracle : HelloOracle}
    {networkState : NetworkState Peer} {m : NetworkINToSimulationMessage}
    {session? : Option ClientSession} {out : SimulationToNetworkOUTMessage}
    (hout : out ∈ (clientStep kx oracle networkState m session?).2.1) :
    out.type = .serverSecureSessionHelloResponsePacketReliable := by
  obtain ⟨hello, x, -, -, hanswer⟩ := clientStep_out kx oracle networkState hout
  rw [hanswer]
  rfl

/-- A reply makes an auth response only. -/
theorem reply_type {networkState : NetworkState Peer} {reply : HttpToSimulationMessage}
    {out : SimulationToNetworkOUTMessage}
    (hout : out ∈ (handleAuthValidateTokenResponseMessage networkState reply).2) :
    out.type = .serverAuthResponsePacketReliable := by
  unfold handleAuthValidateTokenResponseMessage at hout
  split at hout
  · cases hout
  · obtain rfl := List.mem_singleton.mp hout
    rfl

end ServerSimulation

-- ============================================================================
-- Whom the messages are for
-- ============================================================================

section Addressees

variable (type : SimulationToNetworkOUTMessageType) (c : ConnectionId)
  (messages messages' : List SimulationToNetworkOUTMessage)

@[simp] theorem addressees_nil : addressees type [] = [] := rfl

@[simp] theorem phaseTypes_nil : phaseTypes c [] = [] := rfl

@[simp] theorem addressees_append : addressees type (messages ++ messages') =
    addressees type messages ++ addressees type messages' := by
  simp [addressees]

@[simp] theorem phaseTypes_append :
    phaseTypes c (messages ++ messages') = phaseTypes c messages ++ phaseTypes c messages' := by
  simp [phaseTypes]

/-- Numbering leaves the kinds and the connections of the messages. -/
theorem map_tags_stamp (start : Nat) :
    (System.stamp start messages).map (fun m => (m.type, m.connectionId)) =
      messages.map fun m => (m.type, m.connectionId) := by
  apply map_mapIdx_eq_map
  intro _ _
  rfl

theorem addressees_stamp (start : Nat) :
    addressees type (System.stamp start messages) = addressees type messages := by
  have htags : ∀ l, addressees type l =
      ((l.map fun m => (m.type, m.connectionId)).filter fun tag => tag.1 = type).map (·.2) := by
    intro l
    simp [addressees, List.filter_map, Function.comp_def]
  rw [htags, htags, map_tags_stamp]

theorem phaseTypes_stamp (start : Nat) :
    phaseTypes c (System.stamp start messages) = phaseTypes c messages := by
  have htags : ∀ l, phaseTypes c l =
      ((l.map fun m => (m.type, m.connectionId)).filter fun tag =>
        tag.1.isMatchPhase && tag.2 = c).map (·.1) := by
    intro l
    simp [phaseTypes, List.filter_map, Function.comp_def]
  rw [htags, htags, map_tags_stamp]

variable {type c messages}

theorem addressees_eq_nil (h : ∀ m ∈ messages, m.type ≠ type) : addressees type messages = [] := by
  rw [addressees, List.map_eq_nil_iff, List.filter_eq_nil_iff]
  intro m hm
  simpa using h m hm

theorem phaseTypes_eq_nil (h : ∀ m ∈ messages, m.type.isMatchPhase = false) :
    phaseTypes c messages = [] := by
  rw [phaseTypes, List.map_eq_nil_iff, List.filter_eq_nil_iff]
  intro m hm
  simp [h m hm]

end Addressees

-- ============================================================================
-- One pass
-- ============================================================================

namespace ServerSimulation

section Pass

variable {sessions : Sessions} {before after : GameState}
  {type type' : SimulationToNetworkOUTMessageType} {messages : List SimulationToNetworkOUTMessage}

namespace PhasePass

theorem addressees_of_ne (h : PhasePass sessions before after type messages)
    (hne : type ≠ type') : addressees type' messages = [] :=
  addressees_eq_nil fun m hm => (h.types m hm).symm ▸ hne

theorem hasSent_mono (h : PhasePass sessions before after type messages)
    (hsent : before.hasSent type = true) : after.hasSent type = true := by
  rcases h.latch with ⟨hsame, _⟩ | ⟨_, hafter, _⟩
  · exact hsame.trans hsent
  · exact hafter

theorem addressees_self (h : PhasePass sessions before after type messages) :
    addressees type messages = messages.map (·.connectionId) := by
  rw [addressees, List.filter_eq_self.mpr]
  intro m hm
  simpa using h.types m hm

/-- A phase that is performed addresses every session of the table, under its key. -/
theorem performed (h : PhasePass sessions before after type messages)
    (own : ∀ c session, sessions.lookup c = some session → session.connectionId = c) :
    (after.hasSent type = before.hasSent type ∧ addressees type messages = []) ∨
    (before.hasSent type = false ∧ after.hasSent type = true ∧
      addressees type messages = sessions.keys) := by
  rw [h.addressees_self]
  rcases h.latch with ⟨hsame, rfl⟩ | ⟨hbefore, hafter, hall⟩
  · exact Or.inl ⟨hsame, rfl⟩
  · exact Or.inr ⟨hbefore, hafter, hall.trans (UnorderedMap.map_values_eq_keys own)⟩

/-- A connection is told a phase at most once, and only by the pass that latches it. -/
theorem phaseTypes_sublist (h : PhasePass sessions before after type messages)
    (own : ∀ c session, sessions.lookup c = some session → session.connectionId = c)
    (c : ConnectionId) :
    (phaseTypes c messages).Sublist
      ([type].filter fun type => !before.hasSent type && after.hasSent type) := by
  rcases h.latch with ⟨_, rfl⟩ | ⟨hbefore, hafter, hall⟩
  · exact List.nil_sublist _
  · have hnew : ([type].filter fun type => !before.hasSent type && after.hasSent type) =
        [type] := by
      simp [hbefore, hafter]
    rw [hnew]
    -- all of its messages have the one type, and at most one is for `c`
    have hcount : (messages.filter fun m => m.connectionId = c).length ≤ 1 := by
      have hkeys : messages.map (·.connectionId) = sessions.keys :=
        hall.trans (UnorderedMap.map_values_eq_keys own)
      have hnodup : (messages.map (·.connectionId)).Nodup := hkeys ▸ sessions.nodupKeys
      have hle := List.nodup_iff_count_le_one.mp hnodup c
      rw [List.count_eq_length_filter, List.filter_map, List.length_map] at hle
      simpa [Function.comp_def, beq_eq_decide] using hle
    have hlength : (phaseTypes c messages).length ≤ 1 := by
      rw [phaseTypes, List.length_map]
      refine le_trans (List.Sublist.length_le ?_) hcount
      exact List.monotone_filter_right _ fun m hm => (Bool.and_eq_true_iff.mp hm).2
    have htypes : phaseTypes c messages = List.replicate (phaseTypes c messages).length type := by
      refine List.eq_replicate_of_mem ?_
      intro type' htype'
      obtain ⟨m, hm, rfl⟩ := List.mem_map.mp htype'
      exact h.types m (List.mem_of_mem_filter hm)
    rw [htypes]
    exact (List.replicate_sublist_replicate type).mpr hlength

end PhasePass

end Pass

section CheckMatchFlow

variable {engine : Engine} {config : ServerConfig} {clock : Nat → UInt64}
  {networkState : NetworkState Peer} {currentTick : UInt64} {gameState : GameState}

variable (engine config clock networkState currentTick gameState) in
/-- What a pass does for each phase. -/
theorem checkMatchFlow_performs
    (own : ∀ c session, networkState.sessions.lookup c = some session → session.connectionId = c)
    {type : SimulationToNetworkOUTMessageType} (htype : type.isMatchPhase = true) :
    ((checkMatchFlow engine config clock networkState currentTick gameState).1.hasSent type =
        gameState.hasSent type ∧
      addressees type
        (checkMatchFlow engine config clock networkState currentTick gameState).2 = []) ∨
    (gameState.hasSent type = false ∧
      (checkMatchFlow engine config clock networkState currentTick gameState).1.hasSent type =
        true ∧
      addressees type
        (checkMatchFlow engine config clock networkState currentTick gameState).2 =
          networkState.sessions.keys) := by
  obtain ⟨inits, worlds, starts, hout, hinits, hworlds, hstarts⟩ :=
    checkMatchFlow_phases engine config clock networkState currentTick gameState
  rw [hout, addressees_append, addressees_append]
  cases type with
  | serverMatchInitPacketReliable =>
      rw [hworlds.addressees_of_ne (by simp), hstarts.addressees_of_ne (by simp), List.append_nil,
        List.append_nil]
      exact hinits.performed own
  | serverWorldStaticStateInitPacketReliable =>
      rw [hinits.addressees_of_ne (by simp), hstarts.addressees_of_ne (by simp), List.nil_append,
        List.append_nil]
      exact hworlds.performed own
  | serverMatchStartPacketReliable =>
      rw [hinits.addressees_of_ne (by simp), hworlds.addressees_of_ne (by simp), List.nil_append,
        List.nil_append]
      exact hstarts.performed own
  | _ => cases htype

variable (engine config clock networkState currentTick gameState) in
/-- A pass tells a connection the phases it performs, in order. -/
theorem checkMatchFlow_phaseTypes
    (own : ∀ c session, networkState.sessions.lookup c = some session → session.connectionId = c)
    (c : ConnectionId) :
    (phaseTypes c
      (checkMatchFlow engine config clock networkState currentTick gameState).2).Sublist
      (gameState.newPhases
        (checkMatchFlow engine config clock networkState currentTick gameState).1) := by
  obtain ⟨inits, worlds, starts, hout, hinits, hworlds, hstarts⟩ :=
    checkMatchFlow_phases engine config clock networkState currentTick gameState
  have hphases : matchPhases = [.serverMatchInitPacketReliable] ++
      [.serverWorldStaticStateInitPacketReliable] ++ [.serverMatchStartPacketReliable] := rfl
  rw [hout, phaseTypes_append, phaseTypes_append, GameState.newPhases, hphases,
    List.filter_append, List.filter_append]
  exact ((hinits.phaseTypes_sublist own c).append (hworlds.phaseTypes_sublist own c)).append
    (hstarts.phaseTypes_sublist own c)

/-- A pass never clears a flag. -/
theorem checkMatchFlow_hasSent_mono (type : SimulationToNetworkOUTMessageType)
    (h : gameState.hasSent type = true) :
    (checkMatchFlow engine config clock networkState currentTick gameState).1.hasSent type =
      true := by
  obtain ⟨_, _, _, _, hinits, hworlds, hstarts⟩ :=
    checkMatchFlow_phases engine config clock networkState currentTick gameState
  cases type with
  | serverMatchInitPacketReliable => exact hinits.hasSent_mono h
  | serverWorldStaticStateInitPacketReliable => exact hworlds.hasSent_mono h
  | serverMatchStartPacketReliable => exact hstarts.hasSent_mono h
  | _ => cases h

theorem checkMatchFlow_matchStarted_mono (h : gameState.matchStarted = true) :
    (checkMatchFlow engine config clock networkState currentTick gameState).1.matchStarted =
      true := by
  by_cases hsize : UnorderedMap.size networkState.sessions < config.maxClientsConnected
  · rw [checkMatchFlow_of_lt hsize]
    exact h
  · exact (checkMatchFlow_matchStarted_iff (by omega)).mpr (Or.inl h)

/-- A pass keeps the flags in order. -/
theorem checkMatchFlow_phasesOrdered (h : gameState.PhasesOrdered) :
    (checkMatchFlow engine config clock networkState currentTick gameState).1.PhasesOrdered := by
  by_cases hsize : UnorderedMap.size networkState.sessions < config.maxClientsConnected
  · rw [checkMatchFlow_of_lt hsize]
    exact h
  · have hle : config.maxClientsConnected ≤ UnorderedMap.size networkState.sessions := by omega
    have hsent : ∀ type : SimulationToNetworkOUTMessageType, type.isInitialisation = true →
        (checkMatchFlow engine config clock networkState currentTick gameState).1.hasSent type =
          true := by
      intro type htype
      rw [checkMatchFlow_of_le hle, startMatch_hasSent, sendMatchStart_hasSent htype]
      cases type <;> first | rfl | cases htype
    have hinit := hsent .serverMatchInitPacketReliable rfl
    refine ⟨(hsent .serverWorldStaticStateInitPacketReliable rfl).trans hinit.symm,
      fun _ => hinit, ?_⟩
    intro hstarted
    rcases (checkMatchFlow_matchStarted_iff hle).mp hstarted with hbefore | ⟨hstart, _⟩
    · exact checkMatchFlow_hasSent_mono .serverMatchStartPacketReliable (h.started hbefore)
    · exact hstart

end CheckMatchFlow

end ServerSimulation

variable [DecidableEq Peer] {platform : Platform} {s s' : System Peer} {a : Action Peer}
  {es : List (Event Peer)}

/-- Only a match-flow pass makes the messages of the match phases. -/
theorem System.Steps.matchPhase_produced (h : System.Steps platform s a s' es)
    {m : SimulationToNetworkOUTMessage} (hm : m ∈ producedLog es)
    (htype : m.type.isMatchPhase = true) :
    ∃ order clock m₀ serial, a = .checkMatchFlow order clock ∧
      order.entries.Perm s.networkState.sessions.entries ∧
      m₀ ∈ (ServerSimulation.checkMatchFlow platform.engine platform.config clock
        { s.networkState with sessions := order } s.simulation.currentTick s.gameState).2 ∧
      m = { m₀ with serial := serial } := by
  cases h.produces hm with
  | @matchFlow order clock m₀ serial perm made =>
      exact ⟨order, clock, m₀, serial, rfl, perm, made, rfl⟩
  | client _ made =>
      simp [ServerSimulation.clientStep_type made,
        SimulationToNetworkOUTMessageType.isMatchPhase] at htype
  | reply _ made =>
      simp [ServerSimulation.reply_type made,
        SimulationToNetworkOUTMessageType.isMatchPhase] at htype
  | snapshot _ made =>
      obtain ⟨_, _, _, rfl⟩ := ServerSimulation.mem_createFullSnapshots made
      cases htype

/-- The messages of the match phases are made for connections that have a
    session, so their connections are known to the network thread. -/
theorem matchPhase_named {tr : List (Event Peer)} (hr : (server Peer platform).Reach s tr)
    (few : FewConnects tr) {m : SimulationToNetworkOUTMessage} (hm : m ∈ producedLog tr)
    (htype : m.type.isMatchPhase = true) :
    connectionPhase m.connectionId (incomingLog tr) ≠ .fresh := by
  refine TraceMachine.Run.invariant_of_prefix
    (P := fun (_ : System Peer) (tr : List (Event Peer)) => ∀ m ∈ producedLog tr,
      m.type.isMatchPhase = true → connectionPhase m.connectionId (incomingLog tr) ≠ .fresh)
    (B := FewConnects) (fun _ _ h => h.of_append) (by simp) ?_ hr few m hm htype
  intro s tr a s' es hr ih _ hs few m hm htype
  rw [producedLog_append] at hm
  rw [incomingLog_append]
  refine Lifecycle.phase_ne_fresh_append _ ?_
  rcases List.mem_append.mp hm with hm | hm
  · exact ih m hm htype
  · obtain ⟨order, clock, m₀, serial, _, perm, hm₀, rfl⟩ :=
      (System.step_cases hs).matchPhase_produced hm htype
    obtain ⟨_, _, _, ⟨c, session, hsession, hown⟩, _⟩ := ServerSimulation.mem_checkMatchFlow hm₀
    have table := SessionInv.of_reach hr.reach few.of_append
    have hlookup : s.networkState.sessions.lookup c = some session :=
      (AList.perm_lookup perm).symm.trans hsession
    have hlive := (table.live c).mp (by simp [hlookup])
    rw [(FifoInv.of_reach hr.reach).incoming_eq]
    refine Lifecycle.phase_ne_fresh_append _ ?_
    rw [hown, (table.own c session hlookup).1]
    exact fun hfresh => by cases hlive.symm.trans hfresh

/-- Only a match-flow pass writes the game state. -/
theorem System.Steps.gameState_kept (h : System.Steps platform s a s' es)
    (ha : ∀ order clock, a ≠ .checkMatchFlow order clock) : s'.gameState = s.gameState := by
  cases h with
  | checkMatchFlow => exact absurd rfl (ha _ _)
  | handleNetwork => rfl
  | handleHttp => rfl
  | createSnapshots => rfl
  | _ => rfl

theorem soloAnnounced_runs :
    ((server Unit soloPlatform).exec (fun _ _ _ => True) Action.soloAnnounced).isSome = true := by
  decide +kernel

/-- The state and the trace of a run that announces the start of the match. -/
def soloAnnouncedResult : System Unit × List (Event Unit) :=
  ((server Unit soloPlatform).exec (fun _ _ _ => True) Action.soloAnnounced).get
    soloAnnounced_runs

theorem soloAnnounced_reach :
    (server Unit soloPlatform).Reach soloAnnouncedResult.1 soloAnnouncedResult.2 :=
  TraceMachine.run_get soloAnnounced_runs

theorem soloAnnounced_few : FewConnects soloAnnouncedResult.2 := by
  have hone : connectCount (incomingLog soloAnnouncedResult.2) = 1 := by decide +kernel
  simp [FewConnects, hone]

theorem duoStarted_runs :
    ((server Bool duoPlatform).exec (fun _ _ _ => True) Action.duoStarted).isSome = true := by
  decide +kernel

/-- The state and the trace of a run in which two clients are sent the start of the match. -/
def duoStartedResult : System Bool × List (Event Bool) :=
  ((server Bool duoPlatform).exec (fun _ _ _ => True) Action.duoStarted).get duoStarted_runs

theorem duoStarted_reach :
    (server Bool duoPlatform).Reach duoStartedResult.1 duoStartedResult.2 :=
  TraceMachine.run_get duoStarted_runs

theorem duoStarted_few : FewConnects duoStartedResult.2 := by
  have htwo : connectCount (incomingLog duoStartedResult.2) = 2 := by decide +kernel
  simp [FewConnects, htwo]

/-- The client of the run is ready. -/
theorem soloAnnounced_ready :
    ∃ x, soloAnnouncedResult.1.networkState.sessions.lookup 1 = some x ∧
      x.isReadyForMatch = true := by
  have hready : ((soloAnnouncedResult.1.networkState.sessions.lookup 1).map
      (·.isReadyForMatch)).getD false = true := by
    decide +kernel
  cases hx : soloAnnouncedResult.1.networkState.sessions.lookup 1 with
  | none => simp [hx] at hready
  | some x => exact ⟨x, rfl, by simpa [hx] using hready⟩

end RcnetServer
