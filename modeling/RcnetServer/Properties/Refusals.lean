/-
  RcnetServer.Properties.Refusals

  A refusal by the backend is final.

  From the moment the HTTP thread has pushed the refusal of a client, the client stays
  refused for as long as it is connected (`System.Refused.step`): the refusal waits for
  its tick, and what it leaves in the session is never overwritten.  Nothing but the
  backend refuses a client (`System.Steps.refused_before`), and a refused client is not
  ready (`System.Refused.not_ready`).
-/

import RcnetServer.Properties.ClientProtocol
import RcnetServer.Properties.EncryptionFlags

namespace RcnetServer

variable {Peer : Type}

/-- The backend has refused `c`: its session says so, or the refusal waits to be applied. -/
def System.Refused (s : System Peer) (c : ConnectionId) : Prop :=
  (∃ x, s.networkState.sessions.lookup c = some x ∧ x.authStatus = .invalid) ∨
    ∃ reply ∈ s.simulation.httpMessages ++ s.httpToSim, reply.connectionId = c ∧
      reply.authTokenVerificationResponse.isValid = false

variable [DecidableEq Peer] {platform : Platform} {s s' : System Peer} {a : Action Peer}
  {tr es : List (Event Peer)} {c : ConnectionId}

-- ============================================================================
-- Where refusals come from
-- ============================================================================

/-- A reply that waits has waited before, or has just been pushed. -/
theorem System.Steps.reply_before (h : System.Steps platform s a s' es)
    {reply : HttpToSimulationMessage}
    (hreply : reply ∈ s'.simulation.httpMessages ++ s'.httpToSim) :
    reply ∈ s.simulation.httpMessages ++ s.httpToSim ∨
      a = .httpReply reply.authTokenVerificationResponse := by
  cases h with
  | drainHttp =>
      refine Or.inl ?_
      simpa using Or.inr hreply
  | handleHttp networkDone next =>
      refine Or.inl ?_
      simp only [System.produce_httpMessages, System.produce_httpToSim, next, List.mem_append,
        List.mem_cons] at hreply ⊢
      tauto
  | httpReply next =>
      rw [← List.append_assoc, List.mem_append] at hreply
      rcases hreply with hold | hnew
      · exact Or.inl hold
      · rw [List.mem_singleton.mp hnew]
        exact Or.inr rfl
  | _ => exact Or.inl hreply

/-- Only the backend refuses a client. -/
theorem System.Steps.refused_before (h : System.Steps platform s a s' es)
    (hvalid : ∀ response, a = .httpReply response → response.isValid = true)
    (hrefused : s'.Refused c) : s.Refused c := by
  rcases hrefused with ⟨y, hy, hstatus⟩ | ⟨reply, hreply, own, hinvalid⟩
  · have hchange := h.session c
    rw [hy] at hchange
    cases hchange with
    | same kept => exact Or.inl ⟨y, kept.symm, hstatus⟩
    | @handled oracle m rest _ own next left =>
        rcases ServerSimulation.clientStep_auth platform.kx oracle s.networkState m
          (s.networkState.sessions.lookup c) with ⟨-, hkept⟩ | ⟨x, _, -, -, -, -, hasked⟩
        · rcases hkept y left with ⟨-, hnone⟩ | ⟨-, x, hx, hsame, -⟩
          · rw [hnone] at hstatus
            cases hstatus
          · exact Or.inl ⟨x, hx, hsame.symm.trans hstatus⟩
        · obtain rfl := Option.some.inj (hasked.symm.trans left)
          cases hstatus
    | @replied reply rest x own next found =>
        refine Or.inr ⟨reply, by simp [next], own, ?_⟩
        by_contra hgranted
        rw [Bool.not_eq_false] at hgranted
        simp [ClientSession.applyAuthResponse, hgranted] at hstatus
    | encrypted _ _ _ _ found => exact Or.inl ⟨_, found, hstatus⟩
    | snapshot found => exact Or.inl ⟨_, found, hstatus⟩
  · rcases h.reply_before hreply with hold | hnew
    · exact Or.inr ⟨reply, hold, own, hinvalid⟩
    · rw [hvalid _ hnew] at hinvalid
      cases hinvalid

-- ============================================================================
-- Where they stay
-- ============================================================================

/-- A connection of the table that the simulation has heard of has its session. -/
theorem session_of_named (hr : (server Peer platform).Reach s tr) (few : FewConnects tr)
    (htable : (s.networkState.connectionIdToEnetPeer.lookup c).isSome = true)
    (hnamed : connectionPhase c (handledLog tr) ≠ .fresh) :
    ∃ x, s.networkState.sessions.lookup c = some x := by
  have hlive := ((TableInv.of_reach hr few).live c).mp htable
  rw [(FifoInv.of_reach hr).incoming_eq] at hlive
  exact Option.isSome_iff_exists.mp
    (((SessionInv.of_reach hr few).live c).mpr (Lifecycle.live_of_named hlive hnamed))

/-- While its client is connected a session only moves forward. -/
theorem session_before (hr : (server Peer platform).Reach s tr)
    (hp : (server Peer platform).Path s es s') (few : FewConnects (tr ++ es))
    (htable : (s'.networkState.connectionIdToEnetPeer.lookup c).isSome = true) {x : ClientSession}
    (hx : s.networkState.sessions.lookup c = some x) :
    ∃ y, s'.networkState.sessions.lookup c = some y ∧
      ∃ accepted accepted', (x.progress accepted).Before (y.progress accepted') := by
  have hlive := ((SessionInv.of_reach hr few.of_append).live c).mp (by simp [hx])
  have hnamed : connectionPhase c (handledLog (tr ++ es)) ≠ .fresh := by
    rw [handledLog_append]
    exact Lifecycle.phase_ne_fresh_append _ (by simp [hlive])
  obtain ⟨y, hy⟩ := session_of_named (hr.path hp) few htable hnamed
  have hbefore := clientLife_before hr hp few c
  rw [clientLife_of_session hx, clientLife_of_session hy] at hbefore
  exact ⟨y, hy, _, _, hbefore⟩

/-- A refused client has a session, and no other verdict in it. -/
theorem System.Refused.session (hrefused : s.Refused c)
    (hr : (server Peer platform).Reach s tr) (few : FewConnects tr)
    (htable : (s.networkState.connectionIdToEnetPeer.lookup c).isSome = true) :
    ∃ x, s.networkState.sessions.lookup c = some x ∧
      (x.authStatus = .invalid ∨ x.authStatus = .waitingAuth) := by
  rcases hrefused with ⟨x, hx, hstatus⟩ | ⟨reply, hreply, rfl, -⟩
  · exact ⟨x, hx, Or.inl hstatus⟩
  · have hpipeline : reply.connectionId ∈ s.authPipeline := by
      have hmem := List.mem_map_of_mem (f := (·.connectionId)) hreply
      rw [List.map_append] at hmem
      simp only [System.authPipeline, List.append_assoc]
      rw [← List.append_assoc]
      exact List.mem_append_left _ hmem
    have inv := AuthInv.of_reach hr few
    have hnamed := inv.named _ (AuthInv.mem_requestLog (PipelineInv.of_reach hr) hpipeline)
    obtain ⟨x, hx⟩ := session_of_named hr few htable hnamed
    exact ⟨x, hx, Or.inr ((inv.waiting _ x hx).mpr hpipeline)⟩

/-- A refused client stays refused for as long as it is connected. -/
theorem System.Refused.step (hrefused : s.Refused c) (hr : (server Peer platform).Reach s tr)
    (hs : (server Peer platform).step s a = some (s', es)) (few : FewConnects (tr ++ es))
    (htable : (s'.networkState.connectionIdToEnetPeer.lookup c).isSome = true) :
    s'.Refused c := by
  have hwaits := hrefused
  rcases hrefused with ⟨x, hx, hstatus⟩ | ⟨reply, hreply, own, hinvalid⟩
  · -- the session keeps its verdict
    have hp : (server Peer platform).Path s es s' := .step .refl hs
    obtain ⟨y, hy, _, _, hbefore⟩ := session_before hr hp few htable hx
    have hsettled : x.authStatus.isSettled = true := by rw [hstatus]; rfl
    exact Or.inl ⟨y, hy, (hbefore.verdict hsettled).1.trans hstatus⟩
  · have h := System.step_cases hs
    cases h with
    | drainHttp phase =>
        -- the batch was empty, so the refusal comes from the queue
        rw [(PipelineInv.of_reach hr).batchDone (by simp [phase]), List.nil_append] at hreply
        exact Or.inr ⟨reply, by simpa using hreply, own, hinvalid⟩
    | @handleHttp reply' rest networkDone next =>
        rw [next, List.cons_append] at hreply
        rcases List.mem_cons.mp hreply with rfl | hlater
        · obtain ⟨x, hx, -⟩ := hwaits.session hr few.of_append htable
          refine Or.inl ⟨x.applyAuthResponse reply.authTokenVerificationResponse, ?_, ?_⟩
          · rw [System.produce_networkState,
              ServerSimulation.lookup_handleAuthValidateTokenResponseMessage, if_pos own.symm, own,
              hx]
            rfl
          · simp [ClientSession.applyAuthResponse, hinvalid]
        · exact Or.inr ⟨reply, by simpa using hlater, own, hinvalid⟩
    | httpReply =>
        refine Or.inr ⟨reply, ?_, own, hinvalid⟩
        rw [← List.append_assoc]
        exact List.mem_append_left _ hreply
    | _ => exact Or.inr ⟨reply, hreply, own, hinvalid⟩

-- ============================================================================
-- What they mean
-- ============================================================================

/-- A refused client is not ready. -/
theorem System.Refused.not_ready (hrefused : s.Refused c)
    (hr : (server Peer platform).Reach s tr) (few : FewConnects tr)
    (htable : (s.networkState.connectionIdToEnetPeer.lookup c).isSome = true) :
    ∃ x, s.networkState.sessions.lookup c = some x ∧ x.isReadyForMatch = false := by
  obtain ⟨x, hx, hstatus⟩ := hrefused.session hr few htable
  refine ⟨x, hx, Bool.eq_false_iff.mpr fun hready => ?_⟩
  have hvalid := ((GateInv.of_reach hr few).gated c x hx).valid (Or.inl hready)
  rcases hstatus with h | h <;> cases h.symm.trans hvalid

/-- A client that is not encrypted has not been refused. -/
theorem System.not_refused_of_plain (hr : (server Peer platform).Reach s tr)
    (few : FewConnects tr)
    (htable : (s.networkState.connectionIdToEnetPeer.lookup c).isSome = true)
    (hplain : s.networkState.connectionIdToEncryptionEnabled.lookup c = some false) :
    ¬ s.Refused c := by
  intro hrefused
  obtain ⟨x, hx, hstatus⟩ := hrefused.session hr few htable
  have hflag := (EncryptionInv.of_reach hr few).agree c false x hplain hx
  have hasked : x.authStatus ≠ .none := by rcases hstatus with h | h <;> simp [h]
  -- who has asked to be authenticated is encrypted
  have hencrypted := ((GateInv.of_reach hr few).gated c x hx).encrypted hasked
  cases hflag.trans hencrypted

end RcnetServer
