/-
  RcnetServer.Properties.TokenOrigin

  A verdict is about the session's own token.

  Between the session that asks and the verdict that is applied to it lie two queues
  and a thread that knows the connection id only.  Replies are made in the order of
  the requests, one for each, and applied in that order (`replies_match_requests`,
  `replies_conserved`), so the reply applied to a session stands at the place of a
  request of its connection, of which there is only one: the one with the token of
  its first auth packet.
-/

import RcnetServer.Properties.SequentialReplay

namespace RcnetServer

variable {Peer : Type}

-- ============================================================================
-- Replies
-- ============================================================================

/-- The reply the HTTP thread pushed in a step. -/
@[simp] def Event.replyMade : Event Peer → Option HttpToSimulationMessage
  | .replyPushed reply => some reply
  | _ => none

/-- The reply the simulation took up in a step. -/
@[simp] def Event.replyApplied : Event Peer → Option HttpToSimulationMessage
  | .replyHandled reply _ _ => some reply
  | _ => none

/-- The replies of the HTTP thread, in order. -/
def repliesMade (tr : List (Event Peer)) : List HttpToSimulationMessage :=
  tr.filterMap Event.replyMade

/-- The replies the simulation has taken up, in order. -/
def repliesApplied (tr : List (Event Peer)) : List HttpToSimulationMessage :=
  tr.filterMap Event.replyApplied

section Append

variable (tr es : List (Event Peer)) (e : Event Peer)

@[simp] theorem repliesMade_nil : repliesMade ([] : List (Event Peer)) = [] := rfl
@[simp] theorem repliesApplied_nil : repliesApplied ([] : List (Event Peer)) = [] := rfl

@[simp] theorem repliesMade_append : repliesMade (tr ++ es) = repliesMade tr ++ repliesMade es :=
  List.filterMap_append

@[simp] theorem repliesApplied_append :
    repliesApplied (tr ++ es) = repliesApplied tr ++ repliesApplied es :=
  List.filterMap_append

@[simp] theorem repliesMade_cons :
    repliesMade (e :: es) = e.replyMade.toList ++ repliesMade es := by
  cases e <;> rfl

@[simp] theorem repliesApplied_cons :
    repliesApplied (e :: es) = e.replyApplied.toList ++ repliesApplied es := by
  cases e <;> rfl

end Append

/-- A verdict in a history has come with a reply for its connection. -/
theorem verdict_of_reply {c : ConnectionId} {tr : List (Event Peer)} {h : ClientHistory}
    (hh : historyOf c tr = some h) :
    ∀ verdict ∈ h.verdicts, { connectionId := c, authTokenVerificationResponse := verdict } ∈
      repliesApplied tr := by
  induction tr using List.reverseRecOn generalizing h with
  | nil => cases hh
  | append_singleton tr e ih =>
      intro verdict hmem
      rw [historyOf_append] at hh
      simp only [List.foldl_cons, List.foldl_nil] at hh
      rw [repliesApplied_append, List.mem_append]
      cases e with
      | networkHandled m out http =>
          simp only [Event.record] at hh
          split at hh
          · cases m with
            | clientEventConnect c' =>
                obtain rfl := Option.some.inj hh
                cases hmem
            | clientEventDisconnect c' => cases hh
            | _ =>
                obtain ⟨h', h'eq, rfl⟩ := Option.map_eq_some_iff.mp hh
                exact Or.inl (ih h'eq verdict hmem)
          · exact Or.inl (ih hh verdict hmem)
      | replyHandled reply session out =>
          simp only [Event.record] at hh
          split at hh
          · rename_i hc
            obtain ⟨h', h'eq, rfl⟩ := Option.map_eq_some_iff.mp hh
            rcases List.mem_append.mp hmem with hold | hnew
            · exact Or.inl (ih h'eq verdict hold)
            · obtain rfl := List.mem_singleton.mp hnew
              subst hc
              exact Or.inr (List.mem_singleton_self reply)
          · exact Or.inl (ih hh verdict hmem)
      | _ => exact Or.inl (ih hh verdict hmem)

variable [DecidableEq Peer] {platform : Platform} {s s' : System Peer} {a : Action Peer}
  {tr es : List (Event Peer)}

/-- The replies made are those taken up, and then those on their way. -/
theorem replies_conserved (hr : (server Peer platform).Reach s tr) :
    repliesMade tr = repliesApplied tr ++ (s.simulation.httpMessages ++ s.httpToSim) := by
  refine TraceMachine.Run.invariant
    (P := fun (s : System Peer) (tr : List (Event Peer)) =>
      repliesMade tr = repliesApplied tr ++ (s.simulation.httpMessages ++ s.httpToSim))
    rfl ?_ hr
  intro s tr a s' es hreach ih _ hs
  rw [repliesMade_append, repliesApplied_append, ih]
  cases System.step_cases hs with
  | connect => simp [System.connected]
  | disconnect => simp [System.disconnected]
  | drainHttp phase =>
      have hempty := (PipelineInv.of_reach hreach.reach).batchDone (by simp [phase])
      simp [hempty]
  | handleHttp _ next => simp [next]
  | _ => simp

/-- The requests made are those replied to, one reply for each and in order, and then
    those on their way. -/
theorem replies_match_requests (hr : (server Peer platform).Reach s tr) :
    ∃ replied, authRequestLog tr = replied ++ s.openRequests ∧
      List.Forall₂ (fun request reply => reply.connectionId = request.connectionId) replied
        (repliesMade tr) := by
  refine TraceMachine.Run.invariant
    (P := fun (s : System Peer) (tr : List (Event Peer)) =>
      ∃ replied, authRequestLog tr = replied ++ s.openRequests ∧
        List.Forall₂ (fun request reply => reply.connectionId = request.connectionId) replied
          (repliesMade tr)) ⟨[], rfl, .nil⟩ ?_ hr
  rintro s tr a s' es _ ⟨replied, hrequests, hreplies⟩ _ hs
  rw [authRequestLog_append, repliesMade_append]
  cases System.step_cases hs with
  | handleNetwork next phase pushed =>
      have hempty : s.simulation.httpOutbox = [] := by
        simp only [System.simulationHasPushed, Bool.and_eq_true, List.isEmpty_iff] at pushed
        exact pushed.2
      refine ⟨replied, ?_, by simpa using hreplies⟩
      rw [hrequests]
      simp [System.openRequests, hempty]
  | httpReply next =>
      refine ⟨replied ++ [_], ?_, List.rel_append hreplies (.cons rfl .nil)⟩
      rw [hrequests]
      simp [System.openRequests, next]
  | connect =>
      exact ⟨replied, by simpa [System.openRequests, System.connected] using hrequests,
        by simpa using hreplies⟩
  | disconnect =>
      exact ⟨replied, by simpa [System.openRequests, System.disconnected] using hrequests,
        by simpa using hreplies⟩
  | simulationPushHttp next =>
      exact ⟨replied, by simpa [System.openRequests, next, StoppableQueue.push] using hrequests,
        by simpa using hreplies⟩
  | httpDrain done =>
      exact ⟨replied, by simpa [System.openRequests, done] using hrequests,
        by simpa using hreplies⟩
  | _ =>
      exact ⟨replied, by simpa [System.openRequests] using hrequests,
        by simpa using hreplies⟩

-- ============================================================================
-- The session's own token
-- ============================================================================

/-- A session with a verdict has it from the backend's reply to the request that
    carried the token of its own first auth packet: request and reply stand at the
    same place in their logs, and the account is the one of that reply. -/
theorem verdict_on_own_token (hr : (server Peer platform).Reach s tr) (few : FewConnects tr)
    {c : ConnectionId} {x : ClientSession} (hx : s.networkState.sessions.lookup c = some x)
    (hstatus : x.authStatus = .valid ∨ x.authStatus = .invalid) :
    ∃ (i : Nat) (packet : ClientAuthPacketReliable) (verdict : AuthTokenVerificationHTTPResponse),
      (authPacketsOf c (handledLog tr)).head? = some packet ∧
      (authRequestLog tr)[i]? = some (tokenRequest c packet) ∧
      (repliesMade tr)[i]? =
        some { connectionId := c, authTokenVerificationResponse := verdict } ∧
      x.authStatus = (if verdict.isValid then .valid else .invalid) ∧
      x.authErrorMessage = (if verdict.isValid then "" else verdict.errorMessage) ∧
      (x.accountIdDatabase, x.accountUsernameDatabase) =
        (if verdict.isValid then (verdict.accountIdDatabase, verdict.accountUsernameDatabase)
         else (0, "")) := by
  -- the session is that of a history with one verdict
  have hsession := session_eq_history hr c
  rw [hx] at hsession
  obtain ⟨h, hh, heq⟩ := Option.map_eq_some_iff.mp hsession.symm
  have hone := (oneVerdict_of_reach hr few c hh).once
  have hxstatus := authStatus_of_history hr hx hh
  obtain ⟨verdict, hverdicts⟩ : ∃ verdict, h.verdicts = [verdict] := by
    cases hlist : h.verdicts with
    | nil =>
        rw [hxstatus, ClientHistory.authStatus, hlist] at hstatus
        by_cases hempty : h.authPackets.isEmpty <;> simp [hempty] at hstatus
    | cons verdict rest =>
        rw [hlist, List.length_cons] at hone
        exact ⟨verdict, by rw [List.length_eq_zero_iff.mp (by omega : rest.length = 0)]⟩
  -- it came with a reply, at the place of a request of the connection
  have happlied := verdict_of_reply hh verdict (by simp [hverdicts])
  have hmade : { connectionId := c, authTokenVerificationResponse := verdict } ∈
      repliesMade tr := by
    rw [replies_conserved hr]
    exact List.mem_append_left _ happlied
  obtain ⟨i, hi, hreply⟩ := List.getElem_of_mem hmade
  obtain ⟨replied, hrequests, hmatch⟩ := replies_match_requests hr
  have hlength := hmatch.length_eq
  have hi' : i < replied.length := by omega
  have hrequest : (authRequestLog tr)[i]? = some replied[i] := by
    rw [hrequests, List.getElem?_append_left hi']
    exact List.getElem?_eq_getElem hi'
  have hid : replied[i].connectionId = c := by
    have hrel := (List.forall₂_iff_get.mp hmatch).2 i hi' hi
    simp only [List.get_eq_getElem, hreply] at hrel
    exact hrel.symm
  -- the connection has only one request
  have hmem : replied[i] ∈ requestsOf c (authRequestLog tr) :=
    List.mem_filter.mpr ⟨List.mem_of_getElem? hrequest, by simpa using hid⟩
  rw [requests_eq_first hr few c] at hmem
  obtain ⟨packet, hpacket, htoken⟩ := Option.map_eq_some_iff.mp (Option.mem_toList.mp hmem)
  refine ⟨i, packet, verdict, hpacket, ?_, ?_, ?_, ?_, ?_⟩
  · rw [hrequest, htoken]
  · rw [List.getElem?_eq_getElem hi, hreply]
  · rw [hxstatus, ClientHistory.authStatus, hverdicts]
    rfl
  · have hmessage : x.authErrorMessage = h.authErrorMessage :=
      congrArg ClientSession.authErrorMessage heq.symm
    rw [hmessage, ClientHistory.authErrorMessage, hverdicts]
    rfl
  · have haccount : (x.accountIdDatabase, x.accountUsernameDatabase) = h.account :=
      congrArg (fun y : ClientSession => (y.accountIdDatabase, y.accountUsernameDatabase)) heq.symm
    rw [haccount, ClientHistory.account, hverdicts]
    cases hvalid : verdict.isValid <;> simp [hvalid]

/-- The two clients of a run, with their tokens and accounts. -/
def duoClients : List (ConnectionId × List UInt8 × UInt64) :=
  [(1, [65], 11), (2, [66], 22)]

/-- In the run with two clients each has the account that the reply to its own token
    names. -/
theorem duoStarted_own_tokens :
    duoStartedResult.1.networkState.sessions.keys.length = duoClients.length ∧
      ∀ client ∈ duoClients, ∃ (i : Nat) (verdict : AuthTokenVerificationHTTPResponse),
        (authRequestLog duoStartedResult.2)[i]? =
          some { connectionId := client.1, authToken := client.2.1 } ∧
        (repliesMade duoStartedResult.2)[i]? =
          some { connectionId := client.1, authTokenVerificationResponse := verdict } ∧
        verdict.isValid = true ∧ verdict.accountIdDatabase = client.2.2 := by
  have hsessions : ∀ client ∈ duoClients,
      (duoStartedResult.1.networkState.sessions.lookup client.1).map
        (fun x => (x.authStatus, x.accountIdDatabase)) = some (.valid, client.2.2) := by
    decide +kernel
  have htokens : ∀ client ∈ duoClients,
      (authPacketsOf client.1 (handledLog duoStartedResult.2)).head?.map (·.authToken) =
        some client.2.1 := by
    decide +kernel
  refine ⟨by decide +kernel, fun client hclient => ?_⟩
  obtain ⟨x, hx, hsession⟩ := Option.map_eq_some_iff.mp (hsessions client hclient)
  obtain ⟨hstatus, haccount⟩ := Prod.mk.inj hsession
  obtain ⟨i, packet, verdict, hpacket, hrequest, hreply, hverdict, -, hgranted⟩ :=
    verdict_on_own_token duoStarted_reach duoStarted_few hx (Or.inl hstatus)
  have htoken : packet.authToken = client.2.1 := by simpa [hpacket] using htokens client hclient
  have hvalid : verdict.isValid = true := by
    rw [hstatus] at hverdict
    by_contra hinvalid
    simp [hinvalid] at hverdict
  rw [if_pos hvalid] at hgranted
  refine ⟨i, verdict, ?_, hreply, hvalid, (Prod.mk.inj hgranted).1.symm.trans haccount⟩
  rw [hrequest, tokenRequest, htoken]

end RcnetServer
