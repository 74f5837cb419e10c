/-
  RcnetServer.Properties.OneAuthentication

  A connection is authenticated at most once, and the verdict is final.
-/

import RcnetServer.System.Authentication

namespace RcnetServer

variable {Peer : Type} [DecidableEq Peer] {platform : Platform} {s s' : System Peer}
  {tr es : List (Event Peer)}

/-- Every reply that found a session found it waiting. -/
theorem replyHandled_waiting (hr : (server Peer platform).Reach s tr) (few : FewConnects tr)
    {reply : HttpToSimulationMessage} {session : ClientSession}
    {out : List SimulationToNetworkOUTMessage}
    (h : Event.replyHandled reply (some session) out ∈ tr) :
    session.authStatus = .waitingAuth := by
  refine TraceMachine.Run.invariant_of_prefix
    (P := fun (_ : System Peer) (tr : List (Event Peer)) => ∀ reply session out,
      Event.replyHandled reply (some session) out ∈ tr → session.authStatus = .waitingAuth)
    (B := FewConnects)
    (fun _ _ h => h.of_append) (by simp) ?_ hr few reply session out h
  intro s tr a s' es hr ih _ hs few reply session out h
  rcases List.mem_append.mp h with h | h
  · exact ih reply session out h
  · cases System.step_cases hs with
    | handleHttp _ next =>
        have h := List.mem_singleton.mp h
        simp only [Event.replyHandled.injEq] at h
        obtain ⟨rfl, hsession, _⟩ := h
        exact (AuthInv.of_reach hr.reach few.of_append).reply_waiting next hsession.symm
    | _ => simp at h

/-- A session that is there before and after a step of a path was there all along. -/
theorem session_between {s₁ s₂ : System Peer} {es' : List (Event Peer)}
    (hr : (server Peer platform).Reach s tr) (hr₁ : (server Peer platform).Reach s₁ (tr ++ es))
    (hr₂ : (server Peer platform).Reach s₂ (tr ++ es ++ es')) (few : FewConnects (tr ++ es ++ es'))
    {c : ConnectionId} (hs : (s.networkState.sessions.lookup c).isSome = true)
    (hs₂ : (s₂.networkState.sessions.lookup c).isSome = true) :
    (s₁.networkState.sessions.lookup c).isSome = true := by
  have hlive := ((SessionInv.of_reach hr few.of_append.of_append).live c).mp hs
  have hlive₂ := ((SessionInv.of_reach hr₂ few).live c).mp hs₂
  rw [handledLog_append] at hlive₂
  refine ((SessionInv.of_reach hr₁ few.of_append).live c).mpr (Lifecycle.live_of_named hlive₂ ?_)
  rw [handledLog_append]
  exact Lifecycle.phase_ne_fresh_append _ (by simp [hlive])

/-- A verdict and its account stay for the life of the session. -/
theorem verdict_final (hr : (server Peer platform).Reach s tr)
    (hp : (server Peer platform).Path s es s') (few : FewConnects (tr ++ es)) {c : ConnectionId}
    {x y : ClientSession} (hx : s.networkState.sessions.lookup c = some x)
    (hverdict : x.authStatus = .valid ∨ x.authStatus = .invalid)
    (hy : s'.networkState.sessions.lookup c = some y) :
    y.authStatus = x.authStatus ∧ y.accountIdDatabase = x.accountIdDatabase ∧
      y.accountUsernameDatabase = x.accountUsernameDatabase := by
  induction hp generalizing y with
  | refl =>
      obtain rfl := Option.some.inj (hx.symm.trans hy)
      exact ⟨rfl, rfl, rfl⟩
  | @step s₁ s₂ es es' a hp hs ih =>
      rw [← List.append_assoc] at few
      have hr₁ := hr.path hp
      have hr₂ := hr₁.next hs
      have hsome : (s₁.networkState.sessions.lookup c).isSome = true :=
        session_between hr hr₁ hr₂ few (by simp [hx]) (by simp [hy])
      obtain ⟨z, hz⟩ := Option.isSome_iff_exists.mp hsome
      obtain ⟨hstatus, hid, hname⟩ := ih few.of_append hz
      obtain ⟨hstatus', hid', hname'⟩ :=
        (AuthInv.of_reach hr₁ few.of_append).verdict_kept
          (SessionInv.of_reach hr₁ few.of_append) (System.step_cases hs)
          (handledLog_wellFormed hr₂ few) hz hy (hstatus ▸ hverdict)
      exact ⟨hstatus'.trans hstatus, hid'.trans hid, hname'.trans hname⟩

/-- At most one request is pushed for a connection; its session waits exactly
    while that request or its reply is in the pipeline; a reply finds its session
    waiting; and a verdict is never changed. -/
theorem one_authentication_per_connection (hr : (server Peer platform).Reach s tr)
    (few : FewConnects tr) :
    (∀ c, (pushedRequestLog tr).count c ≤ 1) ∧
    (∀ c session, s.networkState.sessions.lookup c = some session →
      (session.authStatus = .waitingAuth ↔ s.authPipeline.count c = 1) ∧
      (session.authStatus ≠ .waitingAuth ↔ c ∉ s.authPipeline)) ∧
    (∀ reply session out, Event.replyHandled reply (some session) out ∈ tr →
      session.authStatus = .waitingAuth) ∧
    (∀ c x y s' es, (server Peer platform).Path s es s' → FewConnects (tr ++ es) →
      s.networkState.sessions.lookup c = some x →
      (x.authStatus = .valid ∨ x.authStatus = .invalid) →
      s'.networkState.sessions.lookup c = some y →
      y.authStatus = x.authStatus ∧ y.accountIdDatabase = x.accountIdDatabase ∧
        y.accountUsernameDatabase = x.accountUsernameDatabase) := by
  have pipeline := PipelineInv.of_reach hr
  have auth := AuthInv.of_reach hr few
  refine ⟨?_, ?_, fun _ _ _ h => replyHandled_waiting hr few h, ?_⟩
  · have honce := auth.once
    rw [pipeline.pushed] at honce
    exact List.nodup_iff_count_le_one.mp (List.nodup_append.mp honce).1
  · intro c session hsession
    have honce := auth.once
    rw [pipeline.conserved] at honce
    have hcount := List.nodup_iff_count_le_one.mp (List.nodup_append.mp honce).2.1 c
    have hmem : c ∈ s.authPipeline ↔ s.authPipeline.count c = 1 := by
      rw [← List.count_pos_iff]
      omega
    have hwaiting := auth.waiting c session hsession
    exact ⟨hwaiting.trans hmem, not_congr hwaiting⟩
  · intro c x y s' es hp few' hx hverdict hy
    exact verdict_final hr hp few' hx hverdict hy

theorem soloAuthenticated_runs :
    ((server Unit soloPlatform).exec (fun _ _ _ => True) Action.soloAuthenticated).isSome =
      true := by
  decide +kernel

/-- The state and the trace of a run that ends with an authenticated client. -/
def soloAuthenticatedResult : System Unit × List (Event Unit) :=
  ((server Unit soloPlatform).exec (fun _ _ _ => True) Action.soloAuthenticated).get
    soloAuthenticated_runs

/-- The client of the run asked once, and a further step leaves it authenticated. -/
theorem soloAuthenticated_final :
    ∃ x y, soloAuthenticatedResult.1.networkState.sessions.lookup 1 = some x ∧
      x.authStatus = .valid ∧
      (soloAuthenticatedResult.1.step soloPlatform .stopHttp).bind
        (·.1.networkState.sessions.lookup 1) = some y ∧
      y.authStatus = .valid ∧ (pushedRequestLog soloAuthenticatedResult.2).count 1 ≤ 1 := by
  have hr : (server Unit soloPlatform).Reach soloAuthenticatedResult.1
      soloAuthenticatedResult.2 :=
    TraceMachine.run_get soloAuthenticated_runs
  have few : FewConnects soloAuthenticatedResult.2 := by
    unfold FewConnects
    decide +kernel
  have hvalid : (soloAuthenticatedResult.1.networkState.sessions.lookup 1).map (·.authStatus) =
      some .valid := by
    decide +kernel
  obtain ⟨x, hx, hstatus⟩ := Option.map_eq_some_iff.mp hvalid
  have hp := TraceMachine.Path.step (M := server Unit soloPlatform) (a := .stopHttp)
    (TraceMachine.Path.refl (s := soloAuthenticatedResult.1)) rfl
  obtain ⟨hpushed, _, _, hfinal⟩ := one_authentication_per_connection hr few
  have hsame := hfinal 1 x x _ _ hp (by simpa using few) hx (Or.inl hstatus) hx
  exact ⟨x, x, hx, hstatus, hx, hsame.1.trans hstatus, hpushed 1⟩

end RcnetServer
