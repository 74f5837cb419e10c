/-
  RcnetServer.Properties.Mirror

  The session table mirrors the connection table.

  Both are views of the same message log, the connection table of the whole and
  the session table of the handled prefix.  Replaying what is pending on the keys
  of the one gives the keys of the other, and a prefix of the log never has more
  live connections than the host has slots.
-/

import RcnetServer.System.Sessions
import Mathlib.Data.Fintype.Card

namespace RcnetServer

variable {Peer : Type} [DecidableEq Peer] {platform : Platform} {s : System Peer}
  {tr : List (Event Peer)}

-- ============================================================================
-- The messages of one connection
-- ============================================================================

theorem NetworkINToSimulationMessage.eq_connect {m : NetworkINToSimulationMessage}
    (h : m.kind = .opens) : m = .clientEventConnect m.connectionId := by
  cases m <;> first | rfl | cases h

theorem NetworkINToSimulationMessage.eq_disconnect {m : NetworkINToSimulationMessage}
    (h : m.kind = .closes) : m = .clientEventDisconnect m.connectionId := by
  cases m <;> first | rfl | cases h

/-- CONNECT, then packets, then at most one DISCONNECT. -/
def ConnectionShape (c : ConnectionId) (messages : List NetworkINToSimulationMessage) : Prop :=
  messages = [] ∨ ∃ packets, (∀ m ∈ packets, m.kind = .uses) ∧
    (messages = .clientEventConnect c :: packets ∨
      messages = .clientEventConnect c :: packets ++ [.clientEventDisconnect c])

theorem connectionShape_of_wellFormed {log : List NetworkINToSimulationMessage}
    (hwf : WellFormedLog log) (c : ConnectionId) :
    ConnectionShape c (log.filter fun m => m.connectionId = c) := by
  have hkey : ∀ m, m ∈ (log.filter fun m => m.connectionId = c) → m.connectionId = c := by
    intro m hm
    simpa using (List.mem_filter.mp hm).2
  rcases Lifecycle.entries_of_ne_broken (hwf c) with
    ⟨_, hnil⟩ | ⟨o, us, _, heq, ho, hus⟩ | ⟨o, us, d, _, heq, ho, hus, hd⟩
  · exact Or.inl hnil
  · refine Or.inr ⟨us, hus, Or.inl ?_⟩
    have hoc := hkey o (by rw [heq]; simp)
    rw [heq, NetworkINToSimulationMessage.eq_connect ho, hoc]
  · refine Or.inr ⟨us, hus, Or.inr ?_⟩
    have hoc := hkey o (by rw [heq]; simp)
    have hdc := hkey d (by rw [heq]; simp)
    rw [heq, NetworkINToSimulationMessage.eq_connect ho, hoc,
      NetworkINToSimulationMessage.eq_disconnect hd, hdc]

-- ============================================================================
-- Slots
-- ============================================================================

omit [DecidableEq Peer] in
/-- Live connections sit in different slots. -/
theorem TableInv.card_live_le [Fintype Peer] {peers : ENetPeers Peer}
    {networkState : NetworkState Peer} {log : List NetworkINToSimulationMessage}
    (inv : TableInv peers networkState log) {live : Finset ConnectionId}
    (hlive : ∀ c ∈ live, connectionPhase c log = .live) : live.card ≤ Fintype.card Peer := by
  have hslot : ∀ c : live, ∃ p, networkState.connectionIdToEnetPeer.lookup c.1 = some (some p) :=
    fun c => inv.table_of_live (hlive c.1 c.2)
  choose slotOf hslotOf using hslot
  rw [← Fintype.card_coe live]
  refine Fintype.card_le_of_injective slotOf ?_
  intro c c' heq
  have h := ((inv.bound _ _).mp (hslotOf c)).2
  rw [heq, ((inv.bound _ _).mp (hslotOf c')).2] at h
  exact Subtype.ext (dataOfConnectionId_inj h).symm

theorem System.Steps.incomingLog_cases {s' : System Peer} {a : Action Peer}
    {es : List (Event Peer)} (h : System.Steps platform s a s' es) :
    incomingLog es = [] ∨ ∃ m, incomingLog es = [m] := by
  cases h with
  | connect => exact Or.inr ⟨_, rfl⟩
  | disconnect => exact Or.inr ⟨_, rfl⟩
  | receive => exact Or.inr ⟨_, rfl⟩
  | _ => exact Or.inl rfl

/-- At no point of the log were there more live connections than slots. -/
theorem card_live_prefix_le [Fintype Peer] (hr : (server Peer platform).Reach s tr)
    (few : FewConnects tr) {log : List NetworkINToSimulationMessage}
    (hbefore : log <+: incomingLog tr) {live : Finset ConnectionId}
    (hlive : ∀ c ∈ live, connectionPhase c log = .live) : live.card ≤ Fintype.card Peer := by
  refine TraceMachine.Run.invariant_of_prefix (B := FewConnects)
    (P := fun _ tr => ∀ log, log <+: incomingLog tr → ∀ live : Finset ConnectionId,
      (∀ c ∈ live, connectionPhase c log = .live) → live.card ≤ Fintype.card Peer)
    (fun _ _ h => h.of_append) ?_ ?_ hr few log hbefore live hlive
  · intro log hbefore live hlive
    have inv : TableInv (System.init platform : System Peer).peers _ [] := TableInv.init platform
    exact inv.card_live_le (List.prefix_nil.mp hbefore ▸ hlive)
  · intro s tr a s' es hr ih _ hs few log hbefore live hlive
    rw [incomingLog_append] at hbefore
    rcases (System.step_cases hs).incomingLog_cases with hes | ⟨m, hes⟩
    · rw [hes, List.append_nil] at hbefore
      exact ih log hbefore live hlive
    · rw [hes] at hbefore
      rcases List.prefix_concat_iff.mp hbefore with rfl | hbefore
      · -- the log as it is now: the table of the new state bounds it
        have inv := TableInv.of_reach (hr.reach.next hs) few
        rw [incomingLog_append, hes] at inv
        exact inv.card_live_le hlive
      · exact ih log hbefore live hlive

-- ============================================================================
-- The mirror
-- ============================================================================

omit [DecidableEq Peer] in
/-- A packet does not change which connections are live. -/
theorem live_append_uses {log : List NetworkINToSimulationMessage}
    {m : NetworkINToSimulationMessage} (hkind : m.kind = .uses) (hwf : WellFormedLog (log ++ [m]))
    (c : ConnectionId) :
    connectionPhase c (log ++ [m]) = .live ↔ connectionPhase c log = .live := by
  by_cases hc : m.connectionId = c
  · subst hc
    have hlive : connectionPhase m.connectionId log = .live :=
      Lifecycle.live_of_next (hwf m.connectionId) (by simp [hkind])
    rw [connectionPhase_append_self log rfl, hlive, hkind]
    simp [Lifecycle.next]
  · rw [connectionPhase_append_of_ne log hc]

/-- A connection of the table is live in the pushed log. -/
theorem table_iff_live_pushed (hr : (server Peer platform).Reach s tr) (few : FewConnects tr)
    (c : ConnectionId) :
    (s.networkState.connectionIdToEnetPeer.lookup c).isSome = true ↔
      connectionPhase c (pushedLog tr) = .live := by
  have inv := TableInv.of_reach hr few
  have hincoming := (FifoInv.of_reach hr).incoming
  have hkind := pushing_kind hr
  have hwf := inv.wellFormed
  rw [inv.live c]
  rw [hincoming] at hwf ⊢
  cases hnetwork : s.network with
  | pushing m =>
      rw [hnetwork] at hwf hkind
      exact live_append_uses (hkind m (by simp)) hwf c
  | _ => simp

theorem sessions_mirror_table (hr : (server Peer platform).Reach s tr) (few : FewConnects tr) :
    Lifecycle.replay NetworkINToSimulationMessage.connectionId NetworkINToSimulationMessage.kind
        s.networkState.sessions.keys.toFinset s.pendingNetwork =
      s.networkState.connectionIdToEnetPeer.keys.toFinset := by
  have hsessions := SessionInv.of_reach hr few
  have hfifo := FifoInv.of_reach hr
  have hwf : WellFormedLog (handledLog tr ++ s.pendingNetwork) := by
    have h := (TableInv.of_reach hr few).wellFormed
    rw [hfifo.incoming, hfifo.pushed] at h
    exact Lifecycle.WellFormed.of_append h
  have hkeys : ∀ c, c ∈ s.networkState.sessions.keys.toFinset ↔
      connectionPhase c (handledLog tr) = .live := by
    intro c
    rw [List.mem_toFinset, ← AList.mem_keys, ← AList.lookup_isSome]
    exact hsessions.live c
  ext c
  rw [Lifecycle.mem_replay hkeys hwf, ← hfifo.pushed, List.mem_toFinset, ← AList.mem_keys,
    ← AList.lookup_isSome]
  exact (table_iff_live_pushed hr few c).symm

/-- The next message of the batch finds its session, unless it is a CONNECT. -/
theorem session_found (hr : (server Peer platform).Reach s tr) (few : FewConnects tr)
    {m : NetworkINToSimulationMessage} {rest : List NetworkINToSimulationMessage}
    (next : s.simulation.networkMessages = m :: rest) (hm : m.kind ≠ .opens) :
    (s.networkState.sessions.lookup m.connectionId).isSome = true := by
  have hwf := (TableInv.of_reach hr few).wellFormed
  rw [(FifoInv.of_reach hr).incoming_eq, System.pendingNetwork, next] at hwf
  refine ((SessionInv.of_reach hr few).live m.connectionId).mpr ?_
  exact Lifecycle.live_of_next (by simpa using hwf m.connectionId) hm

theorem sessions_size_le [Fintype Peer] (hr : (server Peer platform).Reach s tr)
    (few : FewConnects tr) :
    UnorderedMap.size s.networkState.sessions ≤ Fintype.card Peer := by
  have hbefore : handledLog tr <+: incomingLog tr := by
    rw [(FifoInv.of_reach hr).incoming_eq]
    exact List.prefix_append _ _
  have hcard : s.networkState.sessions.keys.toFinset.card ≤ Fintype.card Peer := by
    refine card_live_prefix_le hr few hbefore ?_
    intro c hc
    rw [List.mem_toFinset, ← AList.mem_keys, ← AList.lookup_isSome] at hc
    exact ((SessionInv.of_reach hr few).live c).mp hc
  rw [UnorderedMap.size_eq_keys_length,
    ← List.toFinset_card_of_nodup s.networkState.sessions.keys_nodup]
  exact hcard

/-- The session table mirrors the connection table, with no leak and no gap. -/
theorem sessions_mirror_connection_table [Fintype Peer]
    (hr : (server Peer platform).Reach s tr) (few : FewConnects tr) :
    (∀ c, ConnectionShape c ((pushedLog tr).filter fun m => m.connectionId = c)) ∧
    Lifecycle.replay NetworkINToSimulationMessage.connectionId NetworkINToSimulationMessage.kind
        s.networkState.sessions.keys.toFinset s.pendingNetwork =
      s.networkState.connectionIdToEnetPeer.keys.toFinset ∧
    (∀ m rest, s.simulation.networkMessages = m :: rest → m.kind ≠ .opens →
      (s.networkState.sessions.lookup m.connectionId).isSome = true) ∧
    UnorderedMap.size s.networkState.sessions ≤ Fintype.card Peer := by
  have hwf : WellFormedLog (pushedLog tr) := by
    have h := (TableInv.of_reach hr few).wellFormed
    rw [(FifoInv.of_reach hr).incoming] at h
    exact Lifecycle.WellFormed.of_append h
  exact ⟨connectionShape_of_wellFormed hwf, sessions_mirror_table hr few,
    fun _ _ next hm => session_found hr few next hm, sessions_size_le hr few⟩

/-- One client connects, is handled, says hello and leaves while its hello waits. -/
def mirrorRun : List (Action Unit) :=
  [.soloConnect, .beginTick 1, .drainHttp, .handleNetwork signingOracle] ++
    Action.soloHello 7 ++ [.soloDisconnect]

theorem mirrorRun_runs :
    ((server Unit soloPlatform).exec (fun _ _ _ => True) mirrorRun).isSome = true := by
  decide +kernel

/-- The state and the trace of the run. -/
def mirrorRunResult : System Unit × List (Event Unit) :=
  ((server Unit soloPlatform).exec (fun _ _ _ => True) mirrorRun).get mirrorRun_runs

theorem mirrorRun_mirrors :
    Lifecycle.replay NetworkINToSimulationMessage.connectionId NetworkINToSimulationMessage.kind
        mirrorRunResult.1.networkState.sessions.keys.toFinset mirrorRunResult.1.pendingNetwork =
      mirrorRunResult.1.networkState.connectionIdToEnetPeer.keys.toFinset ∧
    mirrorRunResult.1.networkState.sessions.keys = [1] ∧
    mirrorRunResult.1.networkState.connectionIdToEnetPeer.keys = [] := by
  have hr : (server Unit soloPlatform).Reach mirrorRunResult.1 mirrorRunResult.2 :=
    TraceMachine.run_get mirrorRun_runs
  have few : FewConnects mirrorRunResult.2 := by
    unfold FewConnects
    decide +kernel
  refine ⟨(sessions_mirror_connection_table hr few).2.1, ?_, ?_⟩
  · decide +kernel
  · decide +kernel

end RcnetServer
