/-
  RcnetServer.Properties.MatchAgreement

  The clients agree on the start of the match.

  One pass announces the start, to all sessions at once, and latches it: the tick
  it wrote into the game state stays, and no later pass announces another.  So all
  MATCH_START packets a run puts on the wire, to whatever clients, name the same
  ticks, and these are the ones the server acts on.
-/

import RcnetServer.Properties.WireContents
import RcnetServer.System.MatchPhases

namespace RcnetServer

/-- A MATCH_START is read back as it was written. -/
theorem serializeMatchStart_injective {p q : ServerMatchStartPacketReliable}
    (hp : p.type = .serverMatchStartPacketReliable)
    (hq : q.type = .serverMatchStartPacketReliable)
    (h : serializeServerMatchStartPacketReliable p = serializeServerMatchStartPacketReliable q) :
    p = q := by
  have heq : ServerReliablePacket.matchStart p = .matchStart q :=
    ServerReliablePacket.eq_of_serialize hp trivial hq trivial rfl (congrArg some h.symm)
  exact ServerReliablePacket.matchStart.inj heq

variable {Peer : Type}

/-- The MATCH_START messages of a pass announce the tick of the pass, the engine's
    countdown, and the tick the pass leaves in the game state. -/
theorem ServerSimulation.mem_checkMatchFlow_start {engine : Engine} {config : ServerConfig}
    {clock : Nat → UInt64} {networkState : NetworkState Peer} {currentTick : UInt64}
    {gameState : GameState} {m : SimulationToNetworkOUTMessage}
    (hm : m ∈ (checkMatchFlow engine config clock networkState currentTick gameState).2)
    (htype : m.type = .serverMatchStartPacketReliable) :
    gameState.matchStartSent = false ∧
    (checkMatchFlow engine config clock networkState currentTick gameState).1.matchStartSent =
      true ∧
    (checkMatchFlow engine config clock networkState currentTick gameState).1.matchStartTick =
      currentTick + (engine.durationMsToTicks 3000).toUInt64 ∧
    ∃ serverTimeNs, m.serializedPacket = serializeServerMatchStartPacketReliable
      { type := .serverMatchStartPacketReliable
        serverTick := currentTick
        matchStartTick := currentTick + (engine.durationMsToTicks 3000).toUInt64
        countdownTicks := engine.durationMsToTicks 3000
        serverTimeNs := serverTimeNs } := by
  by_cases hsize : UnorderedMap.size networkState.sessions < config.maxClientsConnected
  · rw [checkMatchFlow_of_lt hsize] at hm
    cases hm
  · rw [checkMatchFlow_of_le (by omega)] at hm ⊢
    simp only [startMatch_matchStartSent, startMatch_matchStartTick]
    rcases List.mem_append.mp hm with hm | hm
    · rcases List.mem_append.mp hm with hm | hm
      · obtain ⟨_, _, _, _, rfl⟩ := mem_sendMatchInit hm
        cases htype
      · obtain ⟨_, _, _, rfl⟩ := mem_sendWorldStaticStateInit hm
        cases htype
    · unfold sendMatchStart at hm ⊢
      split at hm
      · rename_i hcond
        rw [if_pos hcond]
        simp only [Bool.and_eq_true, Bool.not_eq_true'] at hcond
        obtain ⟨i, hi, rfl⟩ := List.mem_mapIdx.mp hm
        exact ⟨hcond.1, rfl, rfl, _, rfl⟩
      · cases hm

variable [DecidableEq Peer] {platform : Platform} {s s' : System Peer} {a : Action Peer}
  {tr es : List (Event Peer)}

/-- A MATCH_START message with the ticks of an announcement made in `serverTick`. -/
def SimulationToNetworkOUTMessage.AnnouncesStart (m : SimulationToNetworkOUTMessage)
    (engine : Engine) (serverTick : UInt64) : Prop :=
  ∃ serverTimeNs, m.serializedPacket = serializeServerMatchStartPacketReliable
    { type := .serverMatchStartPacketReliable
      serverTick := serverTick
      matchStartTick := serverTick + (engine.durationMsToTicks 3000).toUInt64
      countdownTicks := engine.durationMsToTicks 3000
      serverTimeNs := serverTimeNs }

/-- The start has been announced in `serverTick`, and every message says so. -/
structure Announced (platform : Platform) (s : System Peer) (tr : List (Event Peer))
    (serverTick : UInt64) : Prop where
  sent : s.gameState.matchStartSent = true
  tick : s.gameState.matchStartTick =
    serverTick + (platform.engine.durationMsToTicks 3000).toUInt64
  messages : ∀ m ∈ producedLog tr, m.type = .serverMatchStartPacketReliable →
    m.AnnouncesStart platform.engine serverTick

/-- The start has not been announced, or once. -/
def AnnouncedOnce (platform : Platform) (s : System Peer) (tr : List (Event Peer)) : Prop :=
  (∀ m ∈ producedLog tr, m.type ≠ .serverMatchStartPacketReliable) ∨
    ∃ serverTick, Announced platform s tr serverTick

theorem AnnouncedOnce.step (inv : AnnouncedOnce platform s tr)
    (h : System.Steps platform s a s' es) : AnnouncedOnce platform s' (tr ++ es) := by
  by_cases hstart : ∃ m ∈ producedLog es, m.type = .serverMatchStartPacketReliable
  · -- the announcing pass: nothing has been announced before
    obtain ⟨m, hm, htype⟩ := hstart
    obtain ⟨order, clock, m₀, serial, rfl, perm, hm₀, rfl⟩ :=
      h.matchPhase_produced hm (by rw [htype]; rfl)
    obtain ⟨hunsent, hsent, htick, _⟩ := ServerSimulation.mem_checkMatchFlow_start hm₀ htype
    have hbefore : ∀ m ∈ producedLog tr, m.type ≠ .serverMatchStartPacketReliable := by
      rcases inv with hnone | ⟨serverTick, hannounced⟩
      · exact hnone
      · exact absurd (hunsent.symm.trans hannounced.sent) (by simp)
    cases h with
    | checkMatchFlow =>
        refine Or.inr ⟨s.simulation.currentTick, hsent, htick, ?_⟩
        intro m' hm' htype'
        rw [producedLog_append] at hm'
        rcases List.mem_append.mp hm' with hm' | hm'
        · exact absurd htype' (hbefore m' hm')
        · rw [producedLog_singleton] at hm'
          obtain ⟨m₁, hm₁, _, rfl⟩ := System.mem_stamp hm'
          exact (ServerSimulation.mem_checkMatchFlow_start hm₁ htype').2.2.2
  · push Not at hstart
    rcases inv with hnone | ⟨serverTick, hsent, htick, hmessages⟩
    · refine Or.inl ?_
      intro m hm
      rw [producedLog_append] at hm
      exact (List.mem_append.mp hm).elim (hnone m) (hstart m)
    · -- the latch and the announced tick stay
      have hkept : s'.gameState.matchStartSent = true ∧
          s'.gameState.matchStartTick = s.gameState.matchStartTick := by
        by_cases hflow : ∀ order clock, a ≠ .checkMatchFlow order clock
        · rw [h.gameState_kept hflow]
          exact ⟨hsent, rfl⟩
        · push Not at hflow
          obtain ⟨order, clock, rfl⟩ := hflow
          cases h with
          | checkMatchFlow => exact ServerSimulation.checkMatchFlow_of_sent hsent
      refine Or.inr ⟨serverTick, hkept.1, hkept.2.trans htick, ?_⟩
      intro m hm htype
      rw [producedLog_append] at hm
      rcases List.mem_append.mp hm with hm | hm
      · exact hmessages m hm htype
      · exact absurd htype (hstart m hm)

theorem announcedOnce_of_reach (hr : (server Peer platform).Reach s tr) :
    AnnouncedOnce platform s tr :=
  TraceMachine.Run.invariant (P := AnnouncedOnce platform) (Or.inl (by simp))
    (fun _ _ _ _ _ _ inv _ hs => inv.step (System.step_cases hs)) hr

/-- The MATCH_START packets a run puts on the wire all name one announcing tick, the
    countdown of the engine after it, and the start tick of the game state. -/
theorem match_start_agreed (hr : (server Peer platform).Reach s tr) :
    ∃ serverTick : UInt64, ∀ e ∈ tr, ∀ p channel packet, .peerSend p channel packet ∈ e.calls →
      ∀ start : ServerMatchStartPacketReliable, start.type = .serverMatchStartPacketReliable →
      serializeServerMatchStartPacketReliable start = packet.data →
      start.serverTick = serverTick ∧
      start.countdownTicks = platform.engine.durationMsToTicks 3000 ∧
      start.matchStartTick = serverTick + start.countdownTicks.toUInt64 ∧
      s.gameState.matchStartSent = true ∧
      s.gameState.matchStartTick = start.matchStartTick := by
  have hsender : ∀ e ∈ tr, ∀ p channel packet, .peerSend p channel packet ∈ e.calls →
      ∀ start : ServerMatchStartPacketReliable, start.type = .serverMatchStartPacketReliable →
      serializeServerMatchStartPacketReliable start = packet.data →
      ∃ m ∈ producedLog tr, m.type = .serverMatchStartPacketReliable ∧
        m.serializedPacket = serializeServerMatchStartPacketReliable start := by
    intro e he p channel packet hsend start hown hstart
    rcases peerSend_cases hr he hsend with
      ⟨m, hm, hreliable, _, _, hdata⟩ | ⟨_, _, snapshot, _, hbytes⟩
    · -- the bytes determine the packet, hence its kind
      obtain ⟨q, hqown, hqfits, hqtype, hqbytes⟩ := (carries_of_produced hr hm).packet hreliable
      have hq : q = .matchStart start :=
        ServerReliablePacket.eq_of_serialize hqown hqfits hown trivial (hdata ▸ hqbytes)
          (congrArg some hstart)
      subst hq
      exact ⟨m, hm, hqtype.symm, hdata.symm.trans hstart.symm⟩
    · have hlength := congrArg List.length (hstart.trans hbytes.symm)
      rw [length_serializeMatchStart, length_serializeSnapshotFull] at hlength
      cases hlength
  rcases announcedOnce_of_reach hr with hnone | ⟨serverTick, hsent, htick, hmessages⟩
  · refine ⟨0, ?_⟩
    intro e he p channel packet hsend start hown hstart
    obtain ⟨m, hm, htype, _⟩ := hsender e he p channel packet hsend start hown hstart
    exact absurd htype (hnone m hm)
  · refine ⟨serverTick, ?_⟩
    intro e he p channel packet hsend start hown hstart
    obtain ⟨m, hm, htype, hbytes⟩ := hsender e he p channel packet hsend start hown hstart
    obtain ⟨serverTimeNs, hannounced⟩ := hmessages m hm htype
    obtain rfl := serializeMatchStart_injective hown rfl (hbytes.symm.trans hannounced)
    exact ⟨rfl, rfl, rfl, hsent, htick⟩

/-- The call hands a packet with the bytes `data` for slot `p` to ENet. -/
def ENetCall.sends (p : Peer) (data : List UInt8) : ENetCall Peer → Bool
  | .peerSend q _ packet => q = p && packet.data = data
  | _ => false

/-- In the run with two clients the START of the match is announced in tick 4 for tick 7, and
    each client is sent one that says so. -/
theorem duoStarted_agreed :
    duoStartedResult.1.gameState.matchStartTick = 7 ∧
      ∀ p : Bool, ∃ e ∈ duoStartedResult.2, ∃ channel packet,
        ∃ start : ServerMatchStartPacketReliable, .peerSend p channel packet ∈ e.calls ∧
        serializeServerMatchStartPacketReliable start = packet.data ∧
        start.serverTick = 4 ∧ start.matchStartTick = 7 := by
  let start : ServerMatchStartPacketReliable :=
    { type := .serverMatchStartPacketReliable, serverTick := 4, matchStartTick := 7,
      countdownTicks := 3, serverTimeNs := 0 }
  have hsent : ∀ p : Bool, ∃ e ∈ duoStartedResult.2, ∃ channel packet,
      .peerSend p channel packet ∈ e.calls ∧
      serializeServerMatchStartPacketReliable start = packet.data := by
    have hany : ∀ p, (duoStartedResult.2.any fun e => e.calls.any
        (·.sends p (serializeServerMatchStartPacketReliable start))) = true := by
      decide +kernel
    intro p
    obtain ⟨e, he, hcalls⟩ := List.any_eq_true.mp (hany p)
    obtain ⟨call, hcall, hsends⟩ := List.any_eq_true.mp hcalls
    cases call with
    | peerSend q channel packet =>
        simp only [ENetCall.sends, Bool.and_eq_true, decide_eq_true_eq] at hsends
        obtain ⟨rfl, hdata⟩ := hsends
        exact ⟨e, he, channel, packet, hcall, hdata.symm⟩
    | _ => cases hsends
  obtain ⟨serverTick, hagreed⟩ := match_start_agreed duoStarted_reach
  -- the packet of the first client already fixes the tick of the game state
  obtain ⟨e, he, channel, packet, hcall, hdata⟩ := hsent false
  obtain ⟨_, _, _, _, htick⟩ := hagreed e he false channel packet hcall start rfl hdata
  refine ⟨htick, fun p => ?_⟩
  obtain ⟨e, he, channel, packet, hcall, hdata⟩ := hsent p
  exact ⟨e, he, channel, packet, start, hcall, hdata, rfl, rfl⟩

end RcnetServer
