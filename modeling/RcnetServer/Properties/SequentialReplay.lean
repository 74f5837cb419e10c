/-
  RcnetServer.Properties.SequentialReplay

  At rest the sessions are those of a sequential server.

  The network thread, the simulation thread and the HTTP thread share the sessions
  through queues.  When every queue has run empty nothing of that shows: the session
  of each connection is what one gets by recording the messages let in for it, one
  after the other in their order of arrival, and the one verdict on its first auth
  packet.  Only the answers of the outside (whether a hello could be attested, what
  the backend said) are not determined by what came in.
-/

import RcnetServer.Properties.Quiescence
import RcnetServer.Properties.RequestResponse
import RcnetServer.Properties.SessionHistory

namespace RcnetServer

-- ============================================================================
-- Recording messages in order
-- ============================================================================

/-- Record the messages of `c` among `log`, each with whether it was answered with
    SUCCESS. -/
def recordedHistory (c : ConnectionId) (log : List (NetworkINToSimulationMessage × Bool)) :
    Option ClientHistory :=
  log.foldl (fun h entry => if entry.1.connectionId = c then entry.1.record entry.2 h else h) none

/-- A history without its verdicts. -/
def ClientHistory.withoutVerdicts (h : ClientHistory) : ClientHistory :=
  { h with verdicts := [] }

/-- Messages are recorded apart from the verdicts. -/
theorem record_withoutVerdicts (m : NetworkINToSimulationMessage) (accepted : Bool)
    (h : Option ClientHistory) :
    (m.record accepted h).map ClientHistory.withoutVerdicts =
      m.record accepted (h.map ClientHistory.withoutVerdicts) := by
  cases m with
  | clientEventConnect c => rfl
  | clientEventDisconnect c => rfl
  | _ => cases h <;> rfl

variable {Peer : Type}

/-- The message a step handled, and whether it was answered with SUCCESS. -/
@[simp] def Event.outcome : Event Peer → Option (NetworkINToSimulationMessage × Bool)
  | .networkHandled m out _ => some (m, startsEncryption out)
  | _ => none

/-- The messages handled, with their outcomes. -/
def outcomeLog (tr : List (Event Peer)) : List (NetworkINToSimulationMessage × Bool) :=
  tr.filterMap Event.outcome

theorem outcomeLog_map_fst (tr : List (Event Peer)) :
    (outcomeLog tr).map Prod.fst = handledLog tr := by
  rw [outcomeLog, handledLog, List.map_filterMap]
  refine congrArg (List.filterMap · tr) (funext fun e => ?_)
  cases e <;> rfl

/-- Up to the verdicts a history records the messages handled. -/
theorem historyOf_withoutVerdicts (c : ConnectionId) (tr : List (Event Peer)) :
    (historyOf c tr).map ClientHistory.withoutVerdicts = recordedHistory c (outcomeLog tr) := by
  induction tr using List.reverseRecOn with
  | nil => rfl
  | append_singleton tr e ih =>
      rw [historyOf_append, outcomeLog, List.filterMap_append, recordedHistory,
        List.foldl_append]
      rw [recordedHistory, outcomeLog] at ih
      rw [← ih]
      show (e.record c (historyOf c tr)).map ClientHistory.withoutVerdicts = _
      cases e with
      | networkHandled m out http =>
          by_cases hc : m.connectionId = c
          · simp [Event.record, hc, record_withoutVerdicts]
          · simp [Event.record, hc]
      | replyHandled reply session out =>
          by_cases hc : reply.connectionId = c
          · simp only [Event.record, hc, if_true, Option.map_map]
            rfl
          · simp only [Event.record, hc, if_false]
            rfl
      | _ => rfl

variable [DecidableEq Peer] {platform : Platform} {s s' : System Peer} {a : Action Peer}
  {tr es : List (Event Peer)}

-- ============================================================================
-- The verdict
-- ============================================================================

/-- A connection has a verdict only if it has asked, and no more than one. -/
structure ClientHistory.OneVerdict (h : ClientHistory) : Prop where
  asked : h.authPackets = [] → h.verdicts = []
  once : h.verdicts.length ≤ 1

/-- A client whose verdict is awaited has asked and has none. -/
theorem ClientHistory.of_waitingAuth {h : ClientHistory} (hstatus : h.authStatus = .waitingAuth) :
    h.verdicts = [] ∧ h.authPackets ≠ [] := by
  unfold ClientHistory.authStatus at hstatus
  cases hlast : h.verdicts.getLast? with
  | some verdict =>
      rw [hlast] at hstatus
      cases hvalid : verdict.isValid <;> simp [hvalid] at hstatus
  | none =>
      rw [hlast] at hstatus
      refine ⟨List.getLast?_eq_none_iff.mp hlast, fun hempty => ?_⟩
      simp [hempty] at hstatus

/-- The status of a session is that of its history. -/
theorem authStatus_of_history (hr : (server Peer platform).Reach s tr) {c : ConnectionId}
    {x : ClientSession} {h : ClientHistory} (hx : s.networkState.sessions.lookup c = some x)
    (hh : historyOf c tr = some h) : x.authStatus = h.authStatus := by
  have hsession := session_eq_history hr c
  rw [hx, hh] at hsession
  exact congrArg ClientSession.authStatus (Option.some.inj hsession)

/-- A message keeps the rule; a CONNECT begins it. -/
theorem oneVerdict_record {m : NetworkINToSimulationMessage} {accepted : Bool}
    {history? : Option ClientHistory} (ih : ∀ h, history? = some h → h.OneVerdict)
    {h : ClientHistory} (hh : m.record accepted history? = some h) : h.OneVerdict := by
  cases m with
  | clientEventConnect c =>
      obtain rfl := Option.some.inj hh
      exact ⟨fun _ => rfl, Nat.zero_le _⟩
  | clientEventDisconnect c => cases hh
  | clientSecureSessionHelloPacketReliable c hello =>
      obtain ⟨h', h'eq, rfl⟩ := Option.map_eq_some_iff.mp hh
      exact ⟨(ih h' h'eq).asked, (ih h' h'eq).once⟩
  | clientAuthPacketReliable c packet =>
      obtain ⟨h', h'eq, rfl⟩ := Option.map_eq_some_iff.mp hh
      refine ⟨fun hempty => ?_, (ih h' h'eq).once⟩
      exact absurd hempty (List.append_ne_nil_of_right_ne_nil _ (List.cons_ne_nil _ _))
  | clientInputPacketUnreliable c packet =>
      obtain ⟨h', h'eq, rfl⟩ := Option.map_eq_some_iff.mp hh
      exact ⟨(ih h' h'eq).asked, (ih h' h'eq).once⟩
  | clientReadyForMatchPacketReliable c =>
      obtain ⟨h', h'eq, rfl⟩ := Option.map_eq_some_iff.mp hh
      exact ⟨(ih h' h'eq).asked, (ih h' h'eq).once⟩

/-- The verdicts of a connection over a run. -/
theorem oneVerdict_of_reach (hr : (server Peer platform).Reach s tr) (few : FewConnects tr)
    (c : ConnectionId) {h : ClientHistory} (hh : historyOf c tr = some h) : h.OneVerdict := by
  refine TraceMachine.Run.invariant_of_prefix
    (P := fun (_ : System Peer) (tr : List (Event Peer)) =>
      ∀ h, historyOf c tr = some h → h.OneVerdict)
    (B := FewConnects) (fun _ _ h => h.of_append) (fun h hh => by cases hh) ?_ hr few h hh
  intro s tr a s' es hr ih _ hs few h hh
  rw [historyOf_append] at hh
  have hsteps := System.step_cases hs
  by_cases hnetwork : ∃ oracle, a = .handleNetwork oracle
  · obtain ⟨oracle, rfl⟩ := hnetwork
    cases hsteps with
    | @handleNetwork _ m rest next phase pushed =>
        simp only [List.foldl_cons, List.foldl_nil, Event.record] at hh
        split at hh
        · exact oneVerdict_record ih hh
        · exact ih h hh
  · by_cases hhttp : a = .handleHttp
    · subst hhttp
      cases hsteps with
      | @handleHttp reply rest networkDone next phase pushed =>
          simp only [List.foldl_cons, List.foldl_nil, Event.record] at hh
          split at hh
          · rename_i hc
            subst hc
            -- the session waits for this very reply
            obtain ⟨h', h'eq, rfl⟩ := Option.map_eq_some_iff.mp hh
            have hsession := session_eq_history hr.reach reply.connectionId
            rw [h'eq] at hsession
            obtain ⟨x, hx, -⟩ := Option.map_eq_some_iff.mp hsession
            have hmem : reply.connectionId ∈ s.authPipeline := by
              simp [System.authPipeline, next]
            have hstatus :=
              ((AuthInv.of_reach hr.reach few.of_append).waiting _ x hx).mpr hmem
            rw [authStatus_of_history hr.reach hx h'eq] at hstatus
            obtain ⟨hnone, hasked⟩ := ClientHistory.of_waitingAuth hstatus
            refine ⟨fun hempty => absurd hempty hasked, ?_⟩
            simp [ClientHistory.withVerdict, hnone]
          · exact ih h hh
    · rw [(hsteps.network_history c (fun oracle ha => hnetwork ⟨oracle, ha⟩) hhttp).2] at hh
      exact ih h hh

-- ============================================================================
-- At rest
-- ============================================================================

/-- A server at rest is the one that has recorded what came in, message after
    message, with for each connection that has asked the one verdict on it. -/
theorem sessions_at_rest (hr : (server Peer platform).Reach s tr) (few : FewConnects tr)
    (hrest : s.AtRest) :
    ∃ answers : List Bool, answers.length = (incomingLog tr).length ∧
      ∀ c, ∃ verdicts : List AuthTokenVerificationHTTPResponse,
        (s.networkState.sessions.lookup c).map ClientSession.simulationPart =
          (recordedHistory c ((incomingLog tr).zip answers)).map (fun h =>
            { h with verdicts := verdicts }.session
              (ServerCryptoKx.computeSessionKeys platform.kx platform.cryptoKxState) c) ∧
        ∀ h, recordedHistory c ((incomingLog tr).zip answers) = some h →
          verdicts.length = if h.authPackets = [] then 0 else 1 := by
  have hsettled := hrest.settled hr few
  have hlog : (incomingLog tr).zip ((outcomeLog tr).map Prod.snd) = outcomeLog tr := by
    rw [← hsettled.handled, ← outcomeLog_map_fst]
    exact (List.zip_of_prod rfl rfl).symm
  refine ⟨(outcomeLog tr).map Prod.snd, ?_, fun c => ?_⟩
  · rw [← hsettled.handled, ← outcomeLog_map_fst, List.length_map, List.length_map]
  rw [hlog, ← historyOf_withoutVerdicts, session_eq_history hr c]
  cases hh : historyOf c tr with
  | none => exact ⟨[], rfl, fun h hnone => by cases hnone⟩
  | some h =>
      refine ⟨h.verdicts, rfl, ?_⟩
      rintro _ ⟨⟩
      have hone := oneVerdict_of_reach hr few c hh
      show h.verdicts.length = if h.authPackets = [] then 0 else 1
      split
      · rename_i hempty
        rw [hone.asked hempty]
        rfl
      · rename_i hasked
        -- a session without a verdict would wait for one
        have hne : h.verdicts ≠ [] := by
          intro hnone
          have hsession := session_eq_history hr c
          rw [hh] at hsession
          obtain ⟨x, hx, -⟩ := Option.map_eq_some_iff.mp hsession
          refine hsettled.decided c x hx ?_
          rw [authStatus_of_history hr hx hh, ClientHistory.authStatus, hnone]
          simp [hasked]
        have hpos := List.length_pos_of_ne_nil hne
        have hle := hone.once
        omega

/-- The run that announces a start, brought to rest, has one session, recorded from
    what came in. -/
theorem soloAnnounced_at_rest :
    ∃ (s' : System Unit) (tr' : List (Event Unit)) (answers : List Bool),
      (server Unit soloPlatform).Reach s' tr' ∧ s'.AtRest ∧
      incomingLog tr' = incomingLog soloAnnouncedResult.2 ∧
      answers.length = (incomingLog soloAnnouncedResult.2).length ∧
      ∃ verdicts : List AuthTokenVerificationHTTPResponse,
        (s'.networkState.sessions.lookup 1).map ClientSession.simulationPart =
          (recordedHistory 1 ((incomingLog soloAnnouncedResult.2).zip answers)).map (fun h =>
            { h with verdicts := verdicts }.session
              (ServerCryptoKx.computeSessionKeys soloPlatform.kx soloPlatform.cryptoKxState)
                1) := by
  have hsettles : (server Unit soloPlatform).Settles (System.Unhindered (.unhelpful Unit))
      soloAnnouncedResult.1 System.AtRest := settles_atRest _ _
  obtain ⟨es, s', hp, hrest⟩ := hsettles
  have hlog : incomingLog (soloAnnouncedResult.2 ++ es) = incomingLog soloAnnouncedResult.2 := by
    rw [incomingLog_append, unhindered_silent hp, List.append_nil]
  have hr := soloAnnounced_reach.path hp.path
  have few := soloAnnounced_few.of_unhindered hp
  obtain ⟨answers, hlength, hsessions⟩ := sessions_at_rest hr few hrest
  obtain ⟨verdicts, hsession, -⟩ := hsessions 1
  rw [hlog] at hlength hsession
  exact ⟨s', _, answers, hr, hrest, hlog, hlength, verdicts, hsession⟩

end RcnetServer
