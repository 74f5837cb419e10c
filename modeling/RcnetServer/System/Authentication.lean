/-
  RcnetServer.System.Authentication

  Authentication requests over whole runs.

  A request made for a connection stays in the pipeline, as itself or as the
  backend's reply to it, until the reply is applied: nothing is lost, doubled or
  overtaken on the way (`PipelineInv`).  A session waits for its verdict exactly
  while its connection is in the pipeline, and makes one request in its life
  (`AuthInv`).
-/

import RcnetServer.System.Sessions

namespace RcnetServer

variable {Peer : Type}

-- ============================================================================
-- The logs of a trace
-- ============================================================================

namespace Event

/-- The connections for which this step made a request. -/
@[simp] def requests : Event Peer → List ConnectionId
  | .networkHandled _ _ http => http.map (·.connectionId)
  | _ => []

/-- The connection whose request was pushed in this step. -/
@[simp] def pushedRequest : Event Peer → List ConnectionId
  | .httpPushed m => [m.connectionId]
  | _ => []

/-- The connection to which a reply was applied in this step. -/
@[simp] def reply : Event Peer → List ConnectionId
  | .replyHandled r _ _ => [r.connectionId]
  | _ => []

end Event

/-- The connections for which a request was made, in order. -/
def requestLog (tr : List (Event Peer)) : List ConnectionId :=
  tr.flatMap Event.requests

/-- The connections whose `AUTH_VALIDATE_TOKEN_REQUEST` was pushed, in order. -/
def pushedRequestLog (tr : List (Event Peer)) : List ConnectionId :=
  tr.flatMap Event.pushedRequest

/-- The connections to which a reply was applied, in order. -/
def replyLog (tr : List (Event Peer)) : List ConnectionId :=
  tr.flatMap Event.reply

section Append

variable (tr es : List (Event Peer)) (e : Event Peer)

@[simp] theorem requestLog_nil : requestLog ([] : List (Event Peer)) = [] := rfl
@[simp] theorem pushedRequestLog_nil : pushedRequestLog ([] : List (Event Peer)) = [] := rfl
@[simp] theorem replyLog_nil : replyLog ([] : List (Event Peer)) = [] := rfl

@[simp] theorem requestLog_append : requestLog (tr ++ es) = requestLog tr ++ requestLog es :=
  List.flatMap_append

@[simp] theorem pushedRequestLog_append :
    pushedRequestLog (tr ++ es) = pushedRequestLog tr ++ pushedRequestLog es :=
  List.flatMap_append

@[simp] theorem replyLog_append : replyLog (tr ++ es) = replyLog tr ++ replyLog es :=
  List.flatMap_append

@[simp] theorem requestLog_cons : requestLog (e :: es) = e.requests ++ requestLog es := rfl

@[simp] theorem pushedRequestLog_cons :
    pushedRequestLog (e :: es) = e.pushedRequest ++ pushedRequestLog es := rfl

@[simp] theorem replyLog_cons : replyLog (e :: es) = e.reply ++ replyLog es := rfl

end Append

-- ============================================================================
-- The pipeline
-- ============================================================================

/-- The connections whose request or reply is on its way, the oldest first: the
    simulation's batch, the HTTP-to-simulation queue, the worker's batch, the
    simulation-to-HTTP queue, the request being pushed. -/
def System.authPipeline (s : System Peer) : List ConnectionId :=
  s.simulation.httpMessages.map (·.connectionId) ++ s.httpToSim.map (·.connectionId) ++
    s.httpBatch.map (·.connectionId) ++ s.simToHttp.q.map (·.connectionId) ++
    s.simulation.httpOutbox.map (·.connectionId)

variable [DecidableEq Peer]

/-- Requests are conserved, and answered in the order they are made. -/
structure PipelineInv (s : System Peer) (tr : List (Event Peer)) : Prop where
  conserved : requestLog tr = replyLog tr ++ s.authPipeline
  pushed : requestLog tr = pushedRequestLog tr ++ s.simulation.httpOutbox.map (·.connectionId)
  /-- Replies are drained and applied within one dispatch. -/
  batchDone : s.simulation.phase ≠ .dispatch → s.simulation.httpMessages = []

namespace PipelineInv

omit [DecidableEq Peer] in
theorem init (platform : Platform) : PipelineInv (System.init platform : System Peer) [] where
  conserved := rfl
  pushed := rfl
  batchDone := fun _ => rfl

theorem step {platform : Platform} {s s' : System Peer} {a : Action Peer}
    {tr es : List (Event Peer)} (inv : PipelineInv s tr) (h : System.Steps platform s a s' es) :
    PipelineInv s' (tr ++ es) := by
  obtain ⟨hconserved, hpushed, hdone⟩ := inv
  simp only [System.authPipeline] at hconserved
  cases h with
  | connect =>
      refine ⟨?_, by simpa [System.connected] using hpushed, hdone⟩
      simpa [System.authPipeline, System.connected] using hconserved
  | disconnect =>
      refine ⟨?_, by simpa [System.disconnected] using hpushed, hdone⟩
      simpa [System.authPipeline, System.disconnected] using hconserved
  | beginTick phase =>
      have hempty := hdone (by simp [phase])
      refine ⟨?_, by simpa using hpushed, fun _ => hempty⟩
      simpa [System.authPipeline] using hconserved
  | drainHttp phase =>
      -- the batch was empty, so overwriting it loses no reply
      have hempty := hdone (by simp [phase])
      refine ⟨?_, by simpa using hpushed, by simp⟩
      simpa [System.authPipeline, hempty] using hconserved
  | handleNetwork next phase pushed =>
      have houtbox : s.simulation.httpOutbox = [] := by
        simp only [System.simulationHasPushed, Bool.and_eq_true, List.isEmpty_iff] at pushed
        exact pushed.2
      refine ⟨?_, ?_, by simp [phase]⟩
      · simp [System.authPipeline, hconserved, houtbox]
      · simpa [houtbox] using hpushed
  | handleHttp networkDone next phase pushed =>
      refine ⟨?_, by simpa using hpushed, by simp [phase]⟩
      simpa [System.authPipeline, next] using hconserved
  | checkMatchFlow _ _ _ httpDone =>
      refine ⟨?_, by simpa using hpushed, by simp [httpDone]⟩
      simpa [System.authPipeline] using hconserved
  | createSnapshots phase =>
      have hempty := hdone (by simp [phase])
      refine ⟨?_, by simpa using hpushed, by simp [hempty]⟩
      simpa [System.authPipeline] using hconserved
  | simulationPushHttp next =>
      refine ⟨?_, by simpa [next] using hpushed, hdone⟩
      simpa [System.authPipeline, next] using hconserved
  | httpDrain done =>
      refine ⟨?_, by simpa using hpushed, hdone⟩
      simpa [System.authPipeline, done] using hconserved
  | httpReply next =>
      refine ⟨?_, by simpa using hpushed, hdone⟩
      simpa [System.authPipeline, next] using hconserved
  | _ =>
      refine ⟨?_, by simpa using hpushed, hdone⟩
      simpa [System.authPipeline] using hconserved

theorem of_reach {platform : Platform} {s : System Peer} {tr : List (Event Peer)}
    (hr : (server Peer platform).Reach s tr) : PipelineInv s tr :=
  TraceMachine.Run.invariant (P := PipelineInv) (PipelineInv.init platform)
    (fun _ _ _ _ _ _ inv _ hs => inv.step (System.step_cases hs)) hr

omit [DecidableEq Peer] in
/-- Without a new request or reply the pipeline holds the same connections. -/
theorem authPipeline_eq {s s' : System Peer} {tr es : List (Event Peer)}
    (inv : PipelineInv s tr) (inv' : PipelineInv s' (tr ++ es)) (hrequest : requestLog es = [])
    (hreply : replyLog es = []) : s'.authPipeline = s.authPipeline := by
  have h := inv'.conserved
  rw [requestLog_append, replyLog_append, hrequest, hreply, List.append_nil, List.append_nil,
    inv.conserved] at h
  exact (List.append_cancel_left h).symm

end PipelineInv

-- ============================================================================
-- What a network message does to the authentication of its session
-- ============================================================================

omit [DecidableEq Peer] in
/-- A message asks the backend at most once, for a session that has not asked
    before; any other message keeps the status and the account. -/
theorem ServerSimulation.clientStep_auth (kx : KxServerSessionKeys) (oracle : HelloOracle)
    (networkState : NetworkState Peer) (m : NetworkINToSimulationMessage)
    (session? : Option ClientSession) :
    ((clientStep kx oracle networkState m session?).2.2 = [] ∧
      ∀ y, (clientStep kx oracle networkState m session?).1 = some y →
        (m.kind = .opens ∧ y.authStatus = .none) ∨
        (m.kind = .uses ∧ ∃ x, session? = some x ∧ y.authStatus = x.authStatus ∧
          y.accountIdDatabase = x.accountIdDatabase ∧
          y.accountUsernameDatabase = x.accountUsernameDatabase)) ∨
    (∃ x token, session? = some x ∧ m.kind = .uses ∧ x.authStatus = .none ∧
      (clientStep kx oracle networkState m session?).2.2 =
        [{ connectionId := m.connectionId, authToken := token }] ∧
      (clientStep kx oracle networkState m session?).1 =
        some { x with authStatus := .waitingAuth }) := by
  cases m with
  | clientEventConnect c =>
      refine Or.inl ⟨rfl, fun y hy => Or.inl ⟨rfl, ?_⟩⟩
      obtain rfl := Option.some.inj hy
      rfl
  | clientEventDisconnect c => cases session? <;> exact Or.inl ⟨rfl, fun y hy => by cases hy⟩
  | clientSecureSessionHelloPacketReliable c packet =>
      cases session? with
      | none => exact Or.inl ⟨rfl, fun y hy => by cases hy⟩
      | some x =>
          obtain ⟨pk, rx, tx, e, hsession⟩ :=
            answerSecureSessionHello_session kx oracle networkState x packet
          refine Or.inl ⟨rfl, fun y hy => Or.inr ⟨rfl, x, rfl, ?_⟩⟩
          simp only [clientStep, hsession, Option.some.injEq] at hy
          rw [← hy]
          exact ⟨rfl, rfl, rfl⟩
  | clientAuthPacketReliable c packet =>
      cases session? with
      | none => exact Or.inl ⟨rfl, fun y hy => by cases hy⟩
      | some x =>
          by_cases hstatus : x.authStatus = .none
          · refine Or.inr ⟨x, packet.authToken, rfl, rfl, hstatus, ?_, ?_⟩ <;>
              simp [clientStep, hstatus, NetworkINToSimulationMessage.connectionId]
          · refine Or.inl ⟨by simp [clientStep, hstatus], fun y hy => Or.inr ⟨rfl, x, rfl, ?_⟩⟩
            simp only [clientStep, if_neg hstatus, Option.some.injEq] at hy
            rw [← hy]
            exact ⟨rfl, rfl, rfl⟩
  | clientInputPacketUnreliable c packet =>
      cases session? with
      | none => exact Or.inl ⟨rfl, fun y hy => by cases hy⟩
      | some x =>
          obtain ⟨pending, _, hsession⟩ := x.receiveInput_eq packet
          refine Or.inl ⟨rfl, fun y hy => Or.inr ⟨rfl, x, rfl, ?_⟩⟩
          simp only [clientStep, hsession, Option.some.injEq] at hy
          rw [← hy]
          exact ⟨rfl, rfl, rfl⟩
  | clientReadyForMatchPacketReliable c =>
      cases session? with
      | none => exact Or.inl ⟨rfl, fun y hy => by cases hy⟩
      | some x =>
          refine Or.inl ⟨rfl, fun y hy => Or.inr ⟨rfl, x, rfl, ?_⟩⟩
          obtain rfl := Option.some.inj hy
          exact ⟨rfl, rfl, rfl⟩

/-- A reply always settles the status. -/
theorem ClientSession.applyAuthResponse_settled (session : ClientSession)
    (response : AuthTokenVerificationHTTPResponse) :
    (session.applyAuthResponse response).authStatus ≠ .none ∧
      (session.applyAuthResponse response).authStatus ≠ .waitingAuth := by
  obtain ⟨status, _, _, _, hstatus, h⟩ := session.applyAuthResponse_eq response
  rw [h]
  rcases hstatus with rfl | rfl <;> exact ⟨by simp, by simp⟩

/-- Outside the dispatchers no request is made and no reply applied. -/
theorem System.Steps.requestLog_eq_nil {platform : Platform} {s s' : System Peer}
    {a : Action Peer} {es : List (Event Peer)} (h : System.Steps platform s a s' es)
    (hnetwork : ∀ oracle, a ≠ .handleNetwork oracle) (hhttp : a ≠ .handleHttp) :
    requestLog es = [] ∧ replyLog es = [] := by
  cases h with
  | handleNetwork => exact absurd rfl (hnetwork _)
  | handleHttp => exact absurd rfl hhttp
  | _ => exact ⟨rfl, rfl⟩

-- ============================================================================
-- Sessions and the pipeline
-- ============================================================================

/-- Each session against the requests made for its connection. -/
structure AuthInv (s : System Peer) (tr : List (Event Peer)) : Prop where
  once : (requestLog tr).Nodup
  named : ∀ c ∈ requestLog tr, connectionPhase c (handledLog tr) ≠ .fresh
  asked : ∀ c session, s.networkState.sessions.lookup c = some session →
    (session.authStatus = .none ↔ c ∉ requestLog tr)
  waiting : ∀ c session, s.networkState.sessions.lookup c = some session →
    (session.authStatus = .waitingAuth ↔ c ∈ s.authPipeline)

namespace AuthInv

omit [DecidableEq Peer] in
theorem init (platform : Platform) : AuthInv (System.init platform : System Peer) [] where
  once := List.nodup_nil
  named := by simp
  asked := by simp [System.init]
  waiting := by simp [System.init]

omit [DecidableEq Peer] in
/-- The pipeline holds connections for which a request was made. -/
theorem mem_requestLog {s : System Peer} {tr : List (Event Peer)} (pipeline : PipelineInv s tr)
    {c : ConnectionId} (hc : c ∈ s.authPipeline) : c ∈ requestLog tr := by
  rw [pipeline.conserved]
  exact List.mem_append_right _ hc

/-- Steps outside the dispatchers. -/
theorem keep {platform : Platform} {s s' : System Peer} {a : Action Peer}
    {tr es : List (Event Peer)} (inv : AuthInv s tr) (pipeline : PipelineInv s tr)
    (pipeline' : PipelineInv s' (tr ++ es)) (h : System.Steps platform s a s' es)
    (hnetwork : ∀ oracle, a ≠ .handleNetwork oracle) (hhttp : a ≠ .handleHttp) :
    AuthInv s' (tr ++ es) := by
  obtain ⟨hrequest, hreply⟩ := h.requestLog_eq_nil hnetwork hhttp
  have hpipeline := pipeline.authPipeline_eq pipeline' hrequest hreply
  have hlog : requestLog (tr ++ es) = requestLog tr := by
    rw [requestLog_append, hrequest, List.append_nil]
  refine ⟨?_, ?_, ?_, ?_⟩
  · rw [hlog]
    exact inv.once
  · intro c hc
    rw [hlog] at hc
    rw [handledLog_append]
    exact Lifecycle.phase_ne_fresh_append _ (inv.named c hc)
  · intro c y hy
    obtain ⟨x, _, _, _, hx, _, rfl⟩ := h.session_kept hnetwork hhttp hy
    rw [hlog]
    exact inv.asked c x hx
  · intro c y hy
    obtain ⟨x, _, _, _, hx, _, rfl⟩ := h.session_kept hnetwork hhttp hy
    rw [hpipeline]
    exact inv.waiting c x hx

/-- A network message is handled. -/
theorem network {platform : Platform} {s s' : System Peer} {oracle : HelloOracle}
    {tr es : List (Event Peer)} (inv : AuthInv s tr) (pipeline : PipelineInv s tr)
    (pipeline' : PipelineInv s' (tr ++ es)) (table : SessionInv s tr)
    (h : System.Steps platform s (.handleNetwork oracle) s' es)
    (hwf : WellFormedLog (handledLog (tr ++ es))) : AuthInv s' (tr ++ es) := by
  cases h with
  | @handleNetwork _ m rest next phase pushed =>
      have hlookup := (ServerSimulation.processNetworkIncoming_client platform.kx oracle
        s.networkState m).1
      have hout := (ServerSimulation.processNetworkIncoming_client platform.kx oracle
        s.networkState m).2
      simp only [handledLog_append, handledLog_cons, handledLog_nil, Event.handledMessage,
        Option.toList_some, List.append_nil] at hwf
      have hother : ∀ c, c ≠ m.connectionId → ∀ y,
          (ServerSimulation.processNetworkIncoming platform.kx oracle s.networkState
            m).1.sessions.lookup c = some y → s.networkState.sessions.lookup c = some y := by
        intro c hc y hy
        rwa [hlookup c, if_neg hc] at hy
      rcases ServerSimulation.clientStep_auth platform.kx oracle s.networkState m
          (s.networkState.sessions.lookup m.connectionId) with
        ⟨hhttp, hsession⟩ | ⟨x, token, hx, _, hstatus, hhttp, hsession⟩
      · -- no request is made
        rw [hout] at pipeline' ⊢
        simp only [hhttp] at pipeline' ⊢
        have hpipeline := pipeline.authPipeline_eq pipeline' rfl rfl
        have hlog : ∀ out : List SimulationToNetworkOUTMessage,
            requestLog (tr ++ [(.networkHandled m out [] : Event Peer)]) = requestLog tr := by
          simp
        refine ⟨by rw [hlog]; exact inv.once, ?_, ?_, ?_⟩
        · intro c hc
          rw [hlog] at hc
          rw [handledLog_append]
          exact Lifecycle.phase_ne_fresh_append _ (inv.named c hc)
        all_goals
          intro c y hy
          simp only [System.produce_networkState] at hy
          by_cases hc : c = m.connectionId
        · subst hc
          rw [hlookup, if_pos rfl] at hy
          rw [hlog]
          rcases hsession y hy with ⟨hkind, hy⟩ | ⟨_, x, hx, hy, _, _⟩
          · -- a connection that is being opened has asked for nothing
            have hfresh := Lifecycle.fresh_of_next (hwf m.connectionId) hkind
            simp only [hy, true_iff]
            exact fun hc => inv.named _ hc hfresh
          · rw [hy]
            exact inv.asked _ x hx
        · rw [hlog]
          exact inv.asked c y (hother c hc y hy)
        · subst hc
          rw [hlookup, if_pos rfl] at hy
          rw [hpipeline]
          rcases hsession y hy with ⟨hkind, hy⟩ | ⟨_, x, hx, hy, _, _⟩
          · have hfresh := Lifecycle.fresh_of_next (hwf m.connectionId) hkind
            rw [hy]
            refine ⟨(by simp), fun hc => ?_⟩
            exact absurd hfresh (inv.named _ (mem_requestLog pipeline hc))
          · rw [hy]
            exact inv.waiting _ x hx
        · rw [hpipeline]
          exact inv.waiting c y (hother c hc y hy)
      · -- the first auth message: its connection enters the pipeline
        have hnew := (inv.asked _ x hx).mp hstatus
        rw [hout] at pipeline' ⊢
        simp only [hhttp] at pipeline' ⊢
        have hlog : ∀ out : List SimulationToNetworkOUTMessage,
            requestLog (tr ++ [(.networkHandled m out
              [{ connectionId := m.connectionId, authToken := token }] : Event Peer)]) =
            requestLog tr ++ [m.connectionId] := by
          simp
        have hpipeline := pipeline'.conserved
        simp only [hlog, pipeline.conserved, replyLog_append, replyLog_cons, replyLog_nil,
          Event.reply, List.append_nil, List.append_assoc, List.append_cancel_left_eq] at hpipeline
        have hlive : connectionPhase m.connectionId (handledLog tr) = .live :=
          (table.live _).mp (by simp [hx])
        refine ⟨?_, ?_, ?_, ?_⟩
        · rw [hlog]
          exact List.nodup_append.mpr ⟨inv.once, List.nodup_singleton _, by
            rintro a ha b hb rfl
            exact hnew (List.mem_singleton.mp hb ▸ ha)⟩
        · intro c hc
          rw [handledLog_append]
          apply Lifecycle.phase_ne_fresh_append
          rw [hlog] at hc
          rcases List.mem_append.mp hc with hc | hc
          · exact inv.named c hc
          · rw [List.mem_singleton.mp hc]
            simp [hlive]
        all_goals
          intro c y hy
          simp only [System.produce_networkState] at hy
          by_cases hc : c = m.connectionId
        · subst hc
          rw [hlookup, if_pos rfl, hsession] at hy
          obtain rfl := Option.some.inj hy
          simp
        · rw [hlog]
          simp only [List.mem_append, List.mem_singleton, hc, or_false]
          exact inv.asked c y (hother c hc y hy)
        · subst hc
          rw [hlookup, if_pos rfl, hsession] at hy
          obtain rfl := Option.some.inj hy
          simp [← hpipeline]
        · rw [← hpipeline]
          simp only [List.mem_append, List.mem_singleton, hc, or_false]
          exact inv.waiting c y (hother c hc y hy)

/-- A backend reply is applied. -/
theorem http {platform : Platform} {s s' : System Peer} {tr es : List (Event Peer)}
    (inv : AuthInv s tr) (pipeline : PipelineInv s tr) (pipeline' : PipelineInv s' (tr ++ es))
    (h : System.Steps platform s .handleHttp s' es) : AuthInv s' (tr ++ es) := by
  cases h with
  | @handleHttp reply rest networkDone next phase pushed =>
      have hpipeline := pipeline'.conserved
      simp only [requestLog_append, requestLog_cons, requestLog_nil, Event.requests,
        List.append_nil, pipeline.conserved, replyLog_append, replyLog_cons, replyLog_nil,
        Event.reply, List.append_assoc, List.append_cancel_left_eq] at hpipeline
      have hnodup : s.authPipeline.Nodup := by
        have h := inv.once
        rw [pipeline.conserved] at h
        exact (List.nodup_append.mp h).2.1
      -- the reply was the only entry of its connection
      have hgone := hnodup
      rw [hpipeline, List.singleton_append, List.nodup_cons] at hgone
      refine ⟨by simpa using inv.once, ?_, ?_, ?_⟩
      · intro c hc
        simpa using inv.named c (by simpa using hc)
      all_goals
        intro c y hy
        simp only [System.produce_networkState,
          ServerSimulation.lookup_handleAuthValidateTokenResponseMessage] at hy
        by_cases hc : c = reply.connectionId
      · subst hc
        rw [if_pos rfl] at hy
        obtain ⟨x, hx, rfl⟩ := Option.map_eq_some_iff.mp hy
        have hasked : reply.connectionId ∈ requestLog tr :=
          mem_requestLog pipeline (by simp [hpipeline])
        simp [(x.applyAuthResponse_settled _).1, hasked]
      · rw [if_neg hc] at hy
        simpa using inv.asked c y hy
      · subst hc
        rw [if_pos rfl] at hy
        obtain ⟨x, hx, rfl⟩ := Option.map_eq_some_iff.mp hy
        simp [(x.applyAuthResponse_settled _).2, hgone.1]
      · rw [if_neg hc] at hy
        have h := inv.waiting c y hy
        rw [hpipeline, List.singleton_append, List.mem_cons] at h
        rw [h]
        simp [hc]

theorem step {platform : Platform} {s s' : System Peer} {a : Action Peer}
    {tr es : List (Event Peer)} (inv : AuthInv s tr) (pipeline : PipelineInv s tr)
    (pipeline' : PipelineInv s' (tr ++ es)) (table : SessionInv s tr)
    (h : System.Steps platform s a s' es) (hwf : WellFormedLog (handledLog (tr ++ es))) :
    AuthInv s' (tr ++ es) := by
  by_cases hnetwork : ∀ oracle, a ≠ .handleNetwork oracle
  · by_cases hhttp : a = .handleHttp
    · subst hhttp
      exact inv.http pipeline pipeline' h
    · exact inv.keep pipeline pipeline' h hnetwork hhttp
  · push Not at hnetwork
    obtain ⟨oracle, rfl⟩ := hnetwork
    exact inv.network pipeline pipeline' table h hwf

theorem of_reach {platform : Platform} {s : System Peer} {tr : List (Event Peer)}
    (hr : (server Peer platform).Reach s tr) (few : FewConnects tr) : AuthInv s tr :=
  TraceMachine.Run.invariant_of_prefix (P := AuthInv) (B := FewConnects)
    (fun _ _ h => h.of_append) (AuthInv.init platform)
    (fun _ _ _ _ _ hr inv _ hs few =>
      inv.step (PipelineInv.of_reach hr.reach) (PipelineInv.of_reach (hr.reach.next hs))
        (SessionInv.of_reach hr.reach few.of_append) (System.step_cases hs)
        (handledLog_wellFormed (hr.reach.next hs) few))
    hr few

omit [DecidableEq Peer] in
/-- The reply at the head of the batch finds its session waiting. -/
theorem reply_waiting {s : System Peer} {tr : List (Event Peer)} (inv : AuthInv s tr)
    {reply : HttpToSimulationMessage} {rest : List HttpToSimulationMessage}
    (next : s.simulation.httpMessages = reply :: rest) {x : ClientSession}
    (hx : s.networkState.sessions.lookup reply.connectionId = some x) :
    x.authStatus = .waitingAuth := by
  rw [inv.waiting _ x hx]
  simp [System.authPipeline, next]

/-- A step keeps the verdict of a session and the account it came with. -/
theorem verdict_kept {platform : Platform} {s s' : System Peer} {a : Action Peer}
    {tr es : List (Event Peer)} (inv : AuthInv s tr) (table : SessionInv s tr)
    (h : System.Steps platform s a s' es) (hwf : WellFormedLog (handledLog (tr ++ es)))
    {c : ConnectionId} {x y : ClientSession} (hx : s.networkState.sessions.lookup c = some x)
    (hy : s'.networkState.sessions.lookup c = some y)
    (hverdict : x.authStatus = .valid ∨ x.authStatus = .invalid) :
    y.authStatus = x.authStatus ∧ y.accountIdDatabase = x.accountIdDatabase ∧
      y.accountUsernameDatabase = x.accountUsernameDatabase := by
  have hchange := h.session c
  rw [hy] at hchange
  cases hchange with
  | same kept =>
      obtain rfl := Option.some.inj (kept.trans hx)
      exact ⟨rfl, rfl, rfl⟩
  | @handled oracle m rest _ own next left =>
      rw [hx] at left
      rcases ServerSimulation.clientStep_auth platform.kx oracle s.networkState m (some x) with
        ⟨_, hsession⟩ | ⟨_, _, hx', _, hstatus, _, _⟩
      · rcases hsession y left with ⟨hkind, _⟩ | ⟨_, _, hx', hsame⟩
        · exact absurd hkind (table.not_opens h hwf next (own ▸ hx))
        · obtain rfl := Option.some.inj hx'
          exact hsame
      · obtain rfl := Option.some.inj hx'
        simp [hstatus] at hverdict
  | @replied reply rest _ own next found =>
      have hwaiting := inv.reply_waiting next (own ▸ hx)
      simp [hwaiting] at hverdict
  | @encrypted _ _ _ _ _ _ _ _ found =>
      obtain rfl := Option.some.inj (found.symm.trans hx)
      exact ⟨rfl, rfl, rfl⟩
  | @snapshot _ _ found =>
      obtain rfl := Option.some.inj (found.symm.trans hx)
      exact ⟨rfl, rfl, rfl⟩

end AuthInv

end RcnetServer
