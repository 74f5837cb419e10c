/-
  RcnetServer.Properties.MatchPhaseOrder

  The match phases take place once, in order, for everyone present.

  `matchFlow` is the match flow by itself: one pass a tick, each over sessions of its
  own.  A pass performs a phase by latching its flag; it then makes exactly one message
  for every session of the table.  The messages are addressed by the id in the session,
  which is the key it is stored under.  The server runs `matchFlow` on the sessions it
  has at each tick.
-/

import RcnetServer.System.MatchPhases

namespace RcnetServer

variable {Peer : Type}

-- ============================================================================
-- The match flow by itself
-- ============================================================================

/-- What one pass finds: the sessions, in the order they are iterated, the tick and the
    clock. -/
structure MatchPass (Peer : Type) where
  networkState : NetworkState Peer
  currentTick : UInt64
  clock : Nat → UInt64

/-- Every session carries the id it is stored under. -/
def MatchPass.SessionsOwned (pass : MatchPass Peer) : Prop :=
  ∀ c session, pass.networkState.sessions.lookup c = some session → session.connectionId = c

/-- The game state from tick to tick, whatever the sessions are at each of them; the
    messages made are the trace. -/
def matchFlow (Peer : Type) (engine : Engine) (config : ServerConfig) :
    TraceMachine GameState (MatchPass Peer) SimulationToNetworkOUTMessage where
  start := {}
  step gameState pass :=
    some (ServerSimulation.checkMatchFlow engine config pass.clock pass.networkState
      pass.currentTick gameState)

/-- A phase is left out, or it is performed: its flag is latched, and there is exactly one
    message of the phase for every session present and none for another id. -/
def PhasePerformed (before after : GameState) (sessions : Sessions)
    (out : List SimulationToNetworkOUTMessage) (type : SimulationToNetworkOUTMessageType) : Prop :=
  (after.hasSent type = before.hasSent type ∧ addressees type out = []) ∨
  (before.hasSent type = false ∧ after.hasSent type = true ∧
    (addressees type out).Perm sessions.keys)

/-- What one tick does: each phase is performed or left out, and the match is started at
    its tick or later. -/
structure TickInOrder (before after : GameState) (sessions : Sessions) (currentTick : UInt64)
    (out : List SimulationToNetworkOUTMessage) : Prop where
  performed : ∀ type : SimulationToNetworkOUTMessageType, type.isMatchPhase = true →
    PhasePerformed before after sessions out type
  start : before.matchStarted = false → after.matchStarted = true →
    after.matchStartTick ≤ currentTick

/-- No flag of the match goes back to false. -/
structure FlagsKept (before after : GameState) : Prop where
  sent : ∀ type, before.hasSent type = true → after.hasSent type = true
  started : before.matchStarted = true → after.matchStarted = true

/-- What holds after any number of ticks: each connection has been told each phase at most
    once, in order, and the flags imply each other. -/
structure PhasesInOrder (gameState : GameState) (messages : List SimulationToNetworkOUTMessage) :
    Prop where
  once : ∀ c, (phaseTypes c messages).Sublist matchPhases
  started : gameState.matchStarted = true → gameState.matchStartSent = true
  startSent : gameState.matchStartSent = true →
    gameState.matchInitSent = true ∧ gameState.worldStaticStateInitSent = true

theorem FlagsKept.refl (gameState : GameState) : FlagsKept gameState gameState :=
  ⟨fun _ => id, id⟩

theorem FlagsKept.trans {g₁ g₂ g₃ : GameState} (h : FlagsKept g₁ g₂) (h' : FlagsKept g₂ g₃) :
    FlagsKept g₁ g₃ :=
  ⟨fun type hsent => h'.sent type (h.sent type hsent),
    fun hstarted => h'.started (h.started hstarted)⟩

namespace MatchPass

variable {engine : Engine} {config : ServerConfig} {before after gameState : GameState}
  {pass : MatchPass Peer} {out messages : List SimulationToNetworkOUTMessage}

theorem flagsKept (hs : (matchFlow Peer engine config).step before pass = some (after, out)) :
    FlagsKept before after := by
  obtain ⟨rfl, rfl⟩ := Prod.mk.inj (Option.some.inj hs)
  exact ⟨ServerSimulation.checkMatchFlow_hasSent_mono,
    ServerSimulation.checkMatchFlow_matchStarted_mono⟩

theorem phasesOrdered
    (hs : (matchFlow Peer engine config).step before pass = some (after, out))
    (ordered : before.PhasesOrdered) : after.PhasesOrdered := by
  obtain ⟨rfl, rfl⟩ := Prod.mk.inj (Option.some.inj hs)
  exact ServerSimulation.checkMatchFlow_phasesOrdered ordered

/-- A pass tells a connection the phases it performs, in order. -/
theorem phaseTypes_sublist
    (hs : (matchFlow Peer engine config).step before pass = some (after, out))
    (own : pass.SessionsOwned) (c : ConnectionId) :
    (phaseTypes c out).Sublist (before.newPhases after) := by
  obtain ⟨rfl, rfl⟩ := Prod.mk.inj (Option.some.inj hs)
  exact ServerSimulation.checkMatchFlow_phaseTypes engine config pass.clock pass.networkState
    pass.currentTick before own c

theorem tickInOrder
    (hs : (matchFlow Peer engine config).step before pass = some (after, out))
    (own : pass.SessionsOwned) :
    TickInOrder before after pass.networkState.sessions pass.currentTick out := by
  obtain ⟨rfl, rfl⟩ := Prod.mk.inj (Option.some.inj hs)
  refine ⟨?_, ?_⟩
  · intro type htype
    rcases ServerSimulation.checkMatchFlow_performs engine config pass.clock pass.networkState
      pass.currentTick before own htype with hleft | ⟨hbefore, hafter, hkeys⟩
    · exact Or.inl hleft
    · exact Or.inr ⟨hbefore, hafter, hkeys ▸ List.Perm.refl _⟩
  · intro hbefore hafter
    rcases ServerSimulation.checkMatchFlow_starts hafter with hstarted | htick
    · exact absurd (hbefore.symm.trans hstarted) (by simp)
    · exact htick

/-- Along a path the flags are kept. -/
theorem flagsKept_of_path (hp : (matchFlow Peer engine config).Path before out after) :
    FlagsKept before after := by
  induction hp with
  | refl => exact FlagsKept.refl _
  | step _ hs ih => exact ih.trans (flagsKept hs)

theorem phasesOrdered_of_run (hr : (matchFlow Peer engine config).Reach gameState messages) :
    gameState.PhasesOrdered :=
  TraceMachine.Run.invariant (P := fun gameState _ => GameState.PhasesOrdered gameState)
    ⟨rfl, fun h => h, fun h => h⟩ (fun _ _ _ _ _ _ ordered _ hs => phasesOrdered hs ordered) hr

/-- What a connection has been told are phases that have been performed, each once and
    in order. -/
theorem phaseTypes_of_run (hr : (matchFlow Peer engine config).Run
      (fun _ _ pass => pass.SessionsOwned) gameState messages) (c : ConnectionId) :
    (phaseTypes c messages).Sublist (matchPhases.filter gameState.hasSent) := by
  refine TraceMachine.Run.invariant
    (P := fun gameState messages => (phaseTypes c messages).Sublist
      (matchPhases.filter (GameState.hasSent gameState))) (by simp [phaseTypes_nil]) ?_ hr
  intro before messages pass after out hr ih own hs
  have ordered := phasesOrdered_of_run hr.reach
  rw [phaseTypes_append,
    ordered.filter_hasSent (phasesOrdered hs ordered) (flagsKept hs).sent]
  exact ih.append (phaseTypes_sublist hs own c)

theorem phasesInOrder_of_run (hr : (matchFlow Peer engine config).Run
      (fun _ _ pass => pass.SessionsOwned) gameState messages) :
    PhasesInOrder gameState messages where
  once := fun c => (phaseTypes_of_run hr c).trans List.filter_sublist
  started := (phasesOrdered_of_run hr.reach).started
  startSent := by
    intro hstart
    have ordered := phasesOrdered_of_run hr.reach
    have hinit := ordered.start hstart
    exact ⟨hinit, ordered.world.trans hinit⟩

end MatchPass

-- ============================================================================
-- The match flow of the server
-- ============================================================================

variable [DecidableEq Peer] {platform : Platform} {s s' : System Peer} {a : Action Peer}
  {tr es : List (Event Peer)}

/-- A step is a pass over the sessions of the server, or it leaves the match alone. -/
theorem System.Steps.matchPass (h : System.Steps platform s a s' es) (own : s.SessionsOwned) :
    (s'.gameState = s.gameState ∧ ∀ m ∈ producedLog es, m.type.isMatchPhase = false) ∨
    ∃ (pass : MatchPass Peer) (out : List SimulationToNetworkOUTMessage), pass.SessionsOwned ∧
      pass.networkState.sessions.entries.Perm s.networkState.sessions.entries ∧
      pass.currentTick = s.simulation.currentTick ∧
      (matchFlow Peer platform.engine platform.config).step s.gameState pass =
        some (s'.gameState, out) ∧
      producedLog es = System.stamp s.producedCount out := by
  by_cases ha : ∀ order clock, a ≠ .checkMatchFlow order clock
  · refine Or.inl ⟨h.gameState_kept ha, ?_⟩
    intro m hm
    by_contra hphase
    obtain ⟨order, clock, _, _, hcheck, _⟩ := h.matchPhase_produced hm (by simpa using hphase)
    exact ha order clock hcheck
  · push Not at ha
    obtain ⟨order, clock, rfl⟩ := ha
    cases h with
    | checkMatchFlow _ _ _ _ perm =>
        refine Or.inr ⟨⟨{ s.networkState with sessions := order }, s.simulation.currentTick, clock⟩,
          _, ?_, perm, rfl, rfl, producedLog_singleton _⟩
        intro c session hsession
        exact (own c session ((AList.perm_lookup perm).symm.trans hsession)).1

/-- The server runs the match flow: what it has told each connection is what the passes
    over its sessions tell it. -/
theorem matchFlow_of_reach (hr : (server Peer platform).Reach s tr) :
    ∃ messages, (matchFlow Peer platform.engine platform.config).Run
        (fun _ _ pass => pass.SessionsOwned) s.gameState messages ∧
      ∀ c, phaseTypes c (producedLog tr) = phaseTypes c messages := by
  refine TraceMachine.Run.invariant (P := fun s tr => ∃ messages,
      (matchFlow Peer platform.engine platform.config).Run
        (fun _ _ pass => pass.SessionsOwned) (System.gameState s) messages ∧
      ∀ c, phaseTypes c (producedLog tr) = phaseTypes c messages)
    ⟨[], .start, fun _ => rfl⟩ ?_ hr
  rintro s tr a s' es hr ⟨messages, hrun, hmessages⟩ _ hs
  rcases (System.step_cases hs).matchPass (sessionsOwned_of_reach hr.reach) with
    ⟨hstate, hnone⟩ | ⟨pass, out, own, _, _, hpass, hout⟩
  · refine ⟨messages, hstate ▸ hrun, ?_⟩
    intro c
    rw [producedLog_append, phaseTypes_append, phaseTypes_eq_nil hnone, List.append_nil]
    exact hmessages c
  · refine ⟨messages ++ out, .step hrun own hpass, ?_⟩
    intro c
    rw [producedLog_append, phaseTypes_append, phaseTypes_append, hout, phaseTypes_stamp,
      hmessages c]

theorem System.Steps.tickInOrder (h : System.Steps platform s a s' es) (own : s.SessionsOwned) :
    TickInOrder s.gameState s'.gameState s.networkState.sessions s.simulation.currentTick
      (producedLog es) := by
  rcases h.matchPass own with ⟨hstate, hnone⟩ | ⟨pass, out, hown, perm, htick, hpass, hout⟩
  · rw [hstate]
    refine ⟨?_, ?_⟩
    · intro type htype
      refine Or.inl ⟨rfl, addressees_eq_nil ?_⟩
      intro m hm heq
      have hnot := hnone m hm
      rw [heq, htype] at hnot
      cases hnot
    · intro hbefore hafter
      exact absurd (hbefore.symm.trans hafter) (by simp)
  · obtain ⟨hperformed, hstart⟩ := MatchPass.tickInOrder hpass hown
    refine ⟨?_, by rwa [htick] at hstart⟩
    intro type htype
    rw [hout, PhasePerformed, addressees_stamp]
    exact (hperformed type htype).imp_right fun ⟨hbefore, hafter, hall⟩ =>
      ⟨hbefore, hafter, hall.trans (perm.map _)⟩

theorem System.Steps.flagsKept (h : System.Steps platform s a s' es) :
    FlagsKept s.gameState s'.gameState := by
  by_cases ha : ∀ order clock, a ≠ .checkMatchFlow order clock
  · rw [h.gameState_kept ha]
    exact FlagsKept.refl _
  · push Not at ha
    obtain ⟨order, clock, rfl⟩ := ha
    cases h with
    | checkMatchFlow =>
        exact ⟨ServerSimulation.checkMatchFlow_hasSent_mono,
          ServerSimulation.checkMatchFlow_matchStarted_mono⟩

/-- Along a path the flags are kept. -/
theorem flagsKept_of_path (hp : (server Peer platform).Path s es s') :
    FlagsKept s.gameState s'.gameState := by
  induction hp with
  | refl => exact FlagsKept.refl _
  | step _ hs ih => exact ih.trans (System.step_cases hs).flagsKept

/-- Whatever the sessions are at each tick, and in every run of the server: every
    connection is enqueued each phase at most once, in order; a tick that performs a phase
    makes one message of it for every session present; the flags imply each other, and none
    goes back; and the match is started only at its tick or later. -/
theorem match_phases_once_in_order (Peer : Type) [DecidableEq Peer] (platform : Platform) :
    (∀ gameState messages, (matchFlow Peer platform.engine platform.config).Run
        (fun _ _ pass => pass.SessionsOwned) gameState messages →
      PhasesInOrder gameState messages ∧
      (∀ (pass : MatchPass Peer) after out, pass.SessionsOwned →
        (matchFlow Peer platform.engine platform.config).step gameState pass = some (after, out) →
        TickInOrder gameState after pass.networkState.sessions pass.currentTick out) ∧
      ∀ out after, (matchFlow Peer platform.engine platform.config).Path gameState out after →
        FlagsKept gameState after) ∧
    ∀ (s : System Peer) tr, (server Peer platform).Reach s tr →
      (producedLog tr = outgoingLog tr ++ s.simulation.outbox ∧
        PhasesInOrder s.gameState (outgoingLog tr)) ∧
      (∀ a s' es, (server Peer platform).step s a = some (s', es) →
        TickInOrder s.gameState s'.gameState s.networkState.sessions s.simulation.currentTick
          (producedLog es)) ∧
      ∀ es s', (server Peer platform).Path s es s' → FlagsKept s.gameState s'.gameState := by
  refine ⟨?_, ?_⟩
  · intro gameState messages hr
    exact ⟨MatchPass.phasesInOrder_of_run hr, fun _ _ _ own hs => MatchPass.tickInOrder hs own,
      fun _ _ => MatchPass.flagsKept_of_path⟩
  · intro s tr hr
    have hqueue := producedLog_eq hr
    obtain ⟨messages, hrun, hmessages⟩ := matchFlow_of_reach hr
    obtain ⟨honce, hstarted, hsent⟩ := MatchPass.phasesInOrder_of_run hrun
    refine ⟨⟨hqueue, ?_, hstarted, hsent⟩, ?_, fun _ _ => flagsKept_of_path⟩
    · intro c
      have hmade := honce c
      rw [← hmessages, hqueue, phaseTypes_append] at hmade
      exact (List.sublist_append_left _ _).trans hmade
    · intro a s' es hs
      exact (System.step_cases hs).tickInOrder (sessionsOwned_of_reach hr)

/-- The client of the solo deployment has been enqueued all three phases by then. -/
theorem soloAnnounced_in_order :
    phaseTypes 1 (outgoingLog soloAnnouncedResult.2) = matchPhases ∧
      soloAnnouncedResult.1.gameState.matchInitSent = true := by
  have hr : (server Unit soloPlatform).Reach soloAnnouncedResult.1 soloAnnouncedResult.2 :=
    TraceMachine.run_get soloAnnounced_runs
  obtain ⟨⟨_, honce, _, hflags⟩, _⟩ := (match_phases_once_in_order Unit soloPlatform).2 _ _ hr
  refine ⟨(honce 1).eq_of_length ?_, (hflags ?_).1⟩
  · decide +kernel
  · decide +kernel

end RcnetServer
