/-
  RcnetServer.Properties.MatchStart

  The announced start of the match.

  A match-flow pass does nothing while fewer than the required number of
  sessions are there, the start of the match included.  The match starts in the
  first pass with enough sessions at the announced tick or later.
-/

import RcnetServer.Lib.Precedence
import RcnetServer.System.MatchPhases

namespace RcnetServer

variable {Peer : Type}

/-- The ticks are strictly increasing: a new tick is later than every tick whose
    match flow has been checked. -/
def increasingTicks (tr : List (Event Peer)) : Action Peer → Bool
  | .beginTick t => tr.all fun e =>
      match e with
      | .matchFlowChecked t' _ _ _ => t' < t
      | _ => true
  | _ => true

/-- After every pass for a tick `t` at or after the announced one, the match has
    started. -/
def AnnouncedStartHonoured (tr : List (Event Peer)) : Prop :=
  ∀ t sessions gameState out, Event.matchFlowChecked t sessions gameState out ∈ tr →
    gameState.matchStartSent = true → gameState.matchStartTick ≤ t → gameState.matchStarted = true

theorem increasingTicks_lt {tr : List (Event Peer)} {t t' : UInt64}
    (h : increasingTicks tr (.beginTick t) = true) {sessions : Sessions} {gameState : GameState}
    {out : List SimulationToNetworkOUTMessage}
    (he : Event.matchFlowChecked t' sessions gameState out ∈ tr) : t' < t :=
  of_decide_eq_true (List.all_eq_true.mp h _ he)

/-- Some pass since MATCH_START was sent, for a tick at or after `startTick`, found
    enough sessions. -/
def EnoughSessionsSince (platform : Platform) (startTick : UInt64) (tr : List (Event Peer)) :
    Prop :=
  ∃ t sessions gameState out, Event.matchFlowChecked t sessions gameState out ∈ tr ∧
    platform.config.maxClientsConnected ≤ UnorderedMap.size sessions ∧
    gameState.matchStartSent = true ∧ startTick ≤ t

theorem EnoughSessionsSince.append {platform : Platform} {startTick : UInt64}
    {tr : List (Event Peer)} (h : EnoughSessionsSince platform startTick tr)
    (es : List (Event Peer)) : EnoughSessionsSince platform startTick (tr ++ es) := by
  obtain ⟨t, sessions, gameState, out, he, henough, hsent, ht⟩ := h
  exact ⟨t, sessions, gameState, out, List.mem_append_left _ he, henough, hsent, ht⟩

/-- One more pass. -/
theorem enoughSessionsSince_append_pass {platform : Platform} {startTick t : UInt64}
    {tr : List (Event Peer)} {sessions : Sessions} {gameState : GameState}
    {out : List SimulationToNetworkOUTMessage} :
    EnoughSessionsSince platform startTick
        (tr ++ [.matchFlowChecked t sessions gameState out]) ↔
      EnoughSessionsSince platform startTick tr ∨
        (platform.config.maxClientsConnected ≤ UnorderedMap.size sessions ∧
          gameState.matchStartSent = true ∧ startTick ≤ t) := by
  constructor
  · rintro ⟨t', sessions', gameState', out', he, hrest⟩
    rcases List.mem_append.mp he with he | he
    · exact Or.inl ⟨t', sessions', gameState', out', he, hrest⟩
    · obtain ⟨rfl, rfl, rfl, rfl⟩ : _ ∧ _ ∧ _ ∧ _ := by simpa using List.mem_singleton.mp he
      exact Or.inr hrest
  · rintro (hsince | hpass)
    · exact hsince.append _
    · exact ⟨t, sessions, gameState, out,
        List.mem_append_right _ (List.mem_singleton.mpr rfl), hpass⟩

variable [DecidableEq Peer] {platform : Platform} {s s' : System Peer} {a : Action Peer}
  {tr es : List (Event Peer)}

/-- The announced tick over a run. -/
structure AnnouncedInv (platform : Platform) (s : System Peer) (tr : List (Event Peer)) : Prop where
  /-- Clients were told the tick that is in force. -/
  announced : ∀ m ∈ producedLog tr, m.type = .serverMatchStartPacketReliable →
    s.gameState.matchStartSent = true ∧
    ∃ packet, m.serializedPacket = serializeServerMatchStartPacketReliable packet ∧
      packet.matchStartTick = s.gameState.matchStartTick
  /-- MATCH_START stays sent. -/
  sent : ∀ t sessions gameState out, Event.matchFlowChecked t sessions gameState out ∈ tr →
    gameState.matchStartSent = true → s.gameState.matchStartSent = true
  started : s.gameState.matchStarted = true ↔ s.gameState.matchStartSent = true ∧
    EnoughSessionsSince platform s.gameState.matchStartTick tr

namespace AnnouncedInv

omit [DecidableEq Peer] in
theorem init (platform : Platform) :
    AnnouncedInv platform (System.init platform : System Peer) [] where
  announced := by simp
  sent := by simp
  started := by simp [System.init]

/-- Only a match-flow pass shows a `matchFlowChecked`. -/
theorem matchFlowChecked_not_mem (h : System.Steps platform s a s' es)
    (ha : ∀ order clock, a ≠ .checkMatchFlow order clock) {t : UInt64} {sessions : Sessions}
    {gameState : GameState} {out : List SimulationToNetworkOUTMessage} :
    Event.matchFlowChecked t sessions gameState out ∉ es := by
  cases h with
  | checkMatchFlow => exact absurd rfl (ha _ _)
  | _ => simp

/-- Steps other than a match-flow pass. -/
theorem keep (inv : AnnouncedInv platform s tr) (h : System.Steps platform s a s' es)
    (ha : ∀ order clock, a ≠ .checkMatchFlow order clock) :
    AnnouncedInv platform s' (tr ++ es) := by
  have hgame := h.gameState_kept ha
  have hold : ∀ {t sessions gameState out},
      Event.matchFlowChecked t sessions gameState out ∈ tr ++ es →
      Event.matchFlowChecked t sessions gameState out ∈ tr := fun he =>
    (List.mem_append.mp he).resolve_right (matchFlowChecked_not_mem h ha)
  refine ⟨?_, ?_, ?_⟩
  · intro m hm htype
    rw [producedLog_append] at hm
    rw [hgame]
    rcases List.mem_append.mp hm with hm | hm
    · exact inv.announced m hm htype
    · obtain ⟨order, clock, _, _, hcheck, _⟩ := h.matchPhase_produced hm (by rw [htype]; rfl)
      exact absurd hcheck (ha order clock)
  · intro t sessions gameState out he hsent
    rw [hgame]
    exact inv.sent t sessions gameState out (hold he) hsent
  · rw [hgame, inv.started]
    refine and_congr_right fun _ => ⟨fun h => h.append es, ?_⟩
    rintro ⟨t, sessions, gameState, out, he, hrest⟩
    exact ⟨t, sessions, gameState, out, hold he, hrest⟩

omit [DecidableEq Peer] in
/-- What a pass leaves accounts for the passes before it and for itself. -/
theorem started_pass (inv : AnnouncedInv platform s tr) {order : Sessions} {clock : Nat → UInt64}
    {r : GameState × List SimulationToNetworkOUTMessage}
    (hr : ServerSimulation.checkMatchFlow platform.engine platform.config clock
      { s.networkState with sessions := order } s.simulation.currentTick s.gameState = r)
    (hsize : UnorderedMap.size order = UnorderedMap.size s.networkState.sessions)
    (out : List SimulationToNetworkOUTMessage) :
    r.1.matchStarted = true ↔ r.1.matchStartSent = true ∧
      EnoughSessionsSince platform r.1.matchStartTick
        (tr ++ [.matchFlowChecked s.simulation.currentTick s.networkState.sessions r.1 out]) := by
  have hkeep : s.gameState.matchStartSent = true → r.1.matchStartSent = true ∧
      r.1.matchStartTick = s.gameState.matchStartTick :=
    fun h => hr ▸ ServerSimulation.checkMatchFlow_of_sent h
  -- an earlier pass counts exactly if it has started the match
  have hearlier : s.gameState.matchStarted = true ↔
      r.1.matchStartSent = true ∧ EnoughSessionsSince platform r.1.matchStartTick tr := by
    constructor
    · intro hstarted
      obtain ⟨hsent, hsince⟩ := inv.started.mp hstarted
      exact ⟨(hkeep hsent).1, (hkeep hsent).2 ▸ hsince⟩
    · rintro ⟨_, t, sessions, gameState, out, he, henough, hsent, ht⟩
      have hbefore := inv.sent t sessions gameState out he hsent
      rw [(hkeep hbefore).2] at ht
      exact inv.started.mpr ⟨hbefore, t, sessions, gameState, out, he, henough, hsent, ht⟩
  rw [enoughSessionsSince_append_pass, and_or_left, ← hearlier, ← hsize]
  by_cases hlt : UnorderedMap.size order < platform.config.maxClientsConnected
  · have hle : ¬ platform.config.maxClientsConnected ≤ UnorderedMap.size order := by omega
    have hsame : r.1 = s.gameState := by
      rw [← hr, ServerSimulation.checkMatchFlow_of_lt hlt]
    simp [hsame, hle]
  · have hle : platform.config.maxClientsConnected ≤ UnorderedMap.size order := by omega
    have hiff : r.1.matchStarted = true ↔ s.gameState.matchStarted = true ∨
        (r.1.matchStartSent = true ∧ r.1.matchStartTick ≤ s.simulation.currentTick) :=
      hr ▸ ServerSimulation.checkMatchFlow_matchStarted_iff hle
    rw [hiff]
    simp [hle]

theorem step (inv : AnnouncedInv platform s tr) (h : System.Steps platform s a s' es) :
    AnnouncedInv platform s' (tr ++ es) := by
  by_cases ha : ∀ order clock, a ≠ .checkMatchFlow order clock
  · exact inv.keep h ha
  · push Not at ha
    obtain ⟨order, clock, rfl⟩ := ha
    cases h with
    | checkMatchFlow phase pushed networkDone httpDone perm =>
        generalize hr : ServerSimulation.checkMatchFlow platform.engine platform.config clock
          { s.networkState with sessions := order } s.simulation.currentTick s.gameState = r
        have hkeep : s.gameState.matchStartSent = true → r.1.matchStartSent = true ∧
            r.1.matchStartTick = s.gameState.matchStartTick :=
          fun h => hr ▸ ServerSimulation.checkMatchFlow_of_sent h
        refine ⟨?_, ?_, inv.started_pass hr (UnorderedMap.size_of_perm perm) _⟩
        · intro m hm htype
          rw [producedLog_append] at hm
          simp only [System.produce_gameState]
          rcases List.mem_append.mp hm with hm | hm
          · obtain ⟨hsent, packet, hserialized, htick⟩ := inv.announced m hm htype
            exact ⟨(hkeep hsent).1, packet, hserialized, htick.trans (hkeep hsent).2.symm⟩
          · rw [producedLog_singleton] at hm
            obtain ⟨m₀, hm₀, serial, rfl⟩ := System.mem_stamp hm
            have hannounces := ServerSimulation.checkMatchFlow_announces (m := m₀) (hr ▸ hm₀) htype
            rw [hr] at hannounces
            exact hannounces
        · intro t sessions gameState out he hsent
          simp only [System.produce_gameState]
          rcases List.mem_append.mp he with he | he
          · exact (hkeep (inv.sent t sessions gameState out he hsent)).1
          · obtain ⟨_, _, rfl, _⟩ : _ ∧ _ ∧ _ ∧ _ := by simpa using List.mem_singleton.mp he
            exact hsent

theorem of_reach (hr : (server Peer platform).Reach s tr) : AnnouncedInv platform s tr :=
  TraceMachine.Run.invariant (P := AnnouncedInv platform) (AnnouncedInv.init platform)
    (fun _ _ _ _ _ _ inv _ hs => inv.step (System.step_cases hs)) hr

end AnnouncedInv

/-- After every pass the match is started exactly if MATCH_START has been sent and
    some pass since then, for a tick at or after the announced one, found enough
    sessions. -/
def StartedWithEnoughSessions (platform : Platform) : List (Event Peer) → Prop :=
  EachAfter fun pre e => ∀ t sessions gameState out,
    e = .matchFlowChecked t sessions gameState out →
    (gameState.matchStarted = true ↔ gameState.matchStartSent = true ∧
      EnoughSessionsSince platform gameState.matchStartTick (pre ++ [e]))

theorem startedWithEnoughSessions_of_reach (hr : (server Peer platform).Reach s tr) :
    StartedWithEnoughSessions platform tr := by
  refine TraceMachine.Run.invariant
    (P := fun (_ : System Peer) (tr : List (Event Peer)) => StartedWithEnoughSessions platform tr)
    EachAfter.nil ?_ hr
  intro s tr a s' es hr ih _ hs
  have h := System.step_cases hs
  have inv := AnnouncedInv.of_reach (hr.reach.next hs)
  by_cases ha : ∀ order clock, a ≠ .checkMatchFlow order clock
  · refine EachAfter.append ih ?_
    rintro pre e post rfl t sessions gameState out rfl
    exact absurd (List.mem_append_right pre List.mem_cons_self)
      (AnnouncedInv.matchFlowChecked_not_mem h ha)
  · push Not at ha
    obtain ⟨order, clock, rfl⟩ := ha
    cases h with
    | checkMatchFlow =>
        refine EachAfter.append_singleton ih ?_
        rintro t sessions gameState out he
        obtain ⟨_, _, rfl, _⟩ := Event.matchFlowChecked.inj he
        exact inv.started

/-- With strictly increasing ticks, a started match has reached the announced tick. -/
theorem matchStartTick_le_currentTick
    (hr : (server Peer platform).Run (fun _ tr a => increasingTicks tr a = true) s tr)
    (hstarted : s.gameState.matchStarted = true) :
    s.gameState.matchStartTick ≤ s.simulation.currentTick := by
  refine TraceMachine.Run.invariant
    (P := fun (s : System Peer) (_ : List (Event Peer)) => s.gameState.matchStarted = true →
      s.gameState.matchStartTick ≤ s.simulation.currentTick) (by simp [server, System.init]) ?_ hr
    hstarted
  intro s tr a s' es hr ih hok hs hstarted
  have inv := AnnouncedInv.of_reach hr.reach
  cases System.step_cases hs with
  | beginTick =>
      obtain ⟨_, t, sessions, gameState, out, he, _, _, ht⟩ := inv.started.mp hstarted
      exact UInt64.le_of_lt (UInt64.lt_of_le_of_lt ht (increasingTicks_lt hok he))
  | checkMatchFlow =>
      simp only [System.produce_gameState] at hstarted ⊢
      rcases ServerSimulation.checkMatchFlow_starts hstarted with hbefore | htick
      · have hsent := (inv.started.mp hbefore).1
        rw [(ServerSimulation.checkMatchFlow_of_sent hsent).2]
        exact ih hbefore
      · exact htick
  | handleNetwork => exact ih hstarted
  | handleHttp => exact ih hstarted
  | createSnapshots => exact ih hstarted
  | _ => exact ih hstarted

/-- A pass leaves the match started only at the announced tick or later. -/
theorem not_started_early
    (hr : (server Peer platform).Run (fun _ tr a => increasingTicks tr a = true) s tr) {t : UInt64}
    {sessions : Sessions} {gameState : GameState} {out : List SimulationToNetworkOUTMessage}
    (he : Event.matchFlowChecked t sessions gameState out ∈ tr)
    (hstarted : gameState.matchStarted = true) : gameState.matchStartTick ≤ t := by
  refine TraceMachine.Run.invariant
    (P := fun (_ : System Peer) (tr : List (Event Peer)) => ∀ t sessions gameState out,
      Event.matchFlowChecked t sessions gameState out ∈ tr → gameState.matchStarted = true →
      gameState.matchStartTick ≤ t) (by simp) ?_ hr t sessions gameState out he hstarted
  intro s tr a s' es hr ih hok hs t sessions gameState out he hstarted
  rcases List.mem_append.mp he with he | he
  · exact ih t sessions gameState out he hstarted
  · have hle := matchStartTick_le_currentTick (.step hr hok hs)
    cases System.step_cases hs with
    | checkMatchFlow =>
        obtain ⟨rfl, rfl, rfl, rfl⟩ : _ ∧ _ ∧ _ ∧ _ := by simpa using List.mem_singleton.mp he
        exact hle hstarted
    | _ => simp at he

/-- With strictly increasing ticks: after a pass the match is started exactly if
    some pass since MATCH_START, for a tick at or after the announced one, found
    enough sessions; no pass starts it before that tick; and every MATCH_START
    message told the tick that is in force. -/
theorem announced_start_with_enough_sessions
    (hr : (server Peer platform).Run (fun _ tr a => increasingTicks tr a = true) s tr) :
    StartedWithEnoughSessions platform tr ∧
    (∀ t sessions gameState out, Event.matchFlowChecked t sessions gameState out ∈ tr →
      gameState.matchStarted = true → gameState.matchStartTick ≤ t) ∧
    (∀ m ∈ producedLog tr, m.type = .serverMatchStartPacketReliable →
      s.gameState.matchStartSent = true ∧
      ∃ packet, m.serializedPacket = serializeServerMatchStartPacketReliable packet ∧
        packet.matchStartTick = s.gameState.matchStartTick) :=
  ⟨startedWithEnoughSessions_of_reach hr.reach,
    fun _ _ _ _ he hstarted => not_started_early hr he hstarted,
    (AnnouncedInv.of_reach hr.reach).announced⟩

theorem soloAnnounced_increasing :
    ((server Unit soloPlatform).exec (fun _ tr a => increasingTicks tr a = true)
      (Action.soloAnnounced ++ Action.soloTick 7 0 ++
        [.checkMatchFlow (Action.soloSessions Action.soloAnnounced) fun _ => 0])).isSome =
      true := by
  decide +kernel

/-- The state and the trace of a run that stays complete until the announced tick. -/
def soloStartedResult : System Unit × List (Event Unit) :=
  ((server Unit soloPlatform).exec (fun _ tr a => increasingTicks tr a = true)
    (Action.soloAnnounced ++ Action.soloTick 7 0 ++
      [.checkMatchFlow (Action.soloSessions Action.soloAnnounced) fun _ => 0])).get
    soloAnnounced_increasing

/-- The match of the run starts in tick 7, as announced. -/
theorem soloStarted_as_announced :
    ∃ sessions gameState out,
      Event.matchFlowChecked 7 sessions gameState out ∈ soloStartedResult.2 ∧
      gameState.matchStartTick = 7 ∧ gameState.matchStarted = true := by
  have hr : (server Unit soloPlatform).Run (fun _ tr a => increasingTicks tr a = true)
      soloStartedResult.1 soloStartedResult.2 :=
    TraceMachine.run_get soloAnnounced_increasing
  have hevent : soloStartedResult.2.any (fun e =>
      match e with
      | .matchFlowChecked t sessions gameState _ =>
          t = 7 && 1 ≤ UnorderedMap.size sessions && gameState.matchStartSent &&
            gameState.matchStartTick = 7
      | _ => false) = true := by
    decide +kernel
  obtain ⟨e, he, hcond⟩ := List.any_eq_true.mp hevent
  cases e with
  | matchFlowChecked t sessions gameState out =>
      simp only [Bool.and_eq_true, decide_eq_true_eq] at hcond
      obtain ⟨⟨⟨rfl, henough⟩, hsent⟩, htick⟩ := hcond
      obtain ⟨pre, post, htr⟩ := List.append_of_mem he
      have hiff := (announced_start_with_enough_sessions hr).1 pre _ post htr 7 sessions gameState
        out rfl
      refine ⟨sessions, gameState, out, he, htick, hiff.mpr ⟨hsent, ?_⟩⟩
      exact enoughSessionsSince_append_pass.mpr (Or.inr ⟨henough, hsent, by simp [htick]⟩)
  | _ => cases hcond

/-- The client leaves during the countdown; tick 7, the announced one, follows. -/
def leftDuringCountdownRun : List (Action Unit) :=
  Action.soloAnnounced ++ [.soloDisconnect] ++ Action.soloTick 7 1 ++
    [.checkMatchFlow ∅ fun _ => 0]

theorem leftDuringCountdownRun_runs :
    ((server Unit soloPlatform).exec (fun _ tr a => increasingTicks tr a = true)
      leftDuringCountdownRun).isSome = true := by
  decide +kernel

/-- The state and the trace of the run. -/
def leftDuringCountdownResult : System Unit × List (Event Unit) :=
  ((server Unit soloPlatform).exec (fun _ tr a => increasingTicks tr a = true)
    leftDuringCountdownRun).get leftDuringCountdownRun_runs

/-- In tick 7 of the run the match does not start, though it was announced. -/
theorem leftDuringCountdown_not_honoured :
    (server Unit soloPlatform).Run (fun _ tr a => increasingTicks tr a = true)
      leftDuringCountdownResult.1 leftDuringCountdownResult.2 ∧
      ¬ AnnouncedStartHonoured leftDuringCountdownResult.2 := by
  refine ⟨TraceMachine.run_get leftDuringCountdownRun_runs, ?_⟩
  intro hall
  have hevent : leftDuringCountdownResult.2.any (fun e =>
      match e with
      | .matchFlowChecked t _ gameState _ =>
          gameState.matchStartSent && gameState.matchStartTick ≤ t && !gameState.matchStarted
      | _ => false) = true := by
    decide +kernel
  obtain ⟨e, he, hcond⟩ := List.any_eq_true.mp hevent
  cases e with
  | matchFlowChecked t sessions gameState out =>
      simp only [Bool.and_eq_true, decide_eq_true_eq] at hcond
      have hstarted := hall t sessions gameState out he hcond.1.1 hcond.1.2
      simp [hstarted] at hcond
  | _ => cases hcond

end RcnetServer
