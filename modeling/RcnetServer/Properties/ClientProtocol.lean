/-
  RcnetServer.Properties.ClientProtocol

  The server implements the client protocol, for all its clients at once.

  `clientLife` reads the protocol state of a connection off the session table and
  the logs.  Every step of the server advances at most the connection it is about
  (`System.subject`), and by one step of the protocol: the server refines the
  interleaving of one copy of `ClientLife.Step` for each connection id.  What the
  protocol keeps and never withdraws then holds of the sessions.
-/

import RcnetServer.Lib.Refinement
import RcnetServer.Protocol.ClientLife
import RcnetServer.System.Gating
import RcnetServer.System.MatchPhases

namespace RcnetServer

-- ============================================================================
-- The protocol state of a connection
-- ============================================================================

/-- The progress a session records, for a client whose hello has been `accepted`. -/
def ClientSession.progress (session : ClientSession) (accepted : Bool) : ClientProgress where
  accepted := accepted
  established := session.isSecureSessionEstablished
  encrypted := session.isPacketEncryptionEnabled
  authStatus := session.authStatus
  account := (session.accountIdDatabase, session.accountUsernameDatabase)
  ready := session.isReadyForMatch

/-- Whether one of `out` is the SUCCESS response to a hello of `c`. -/
def acceptsHello (c : ConnectionId) (out : List SimulationToNetworkOUTMessage) : Bool :=
  out.any fun m => m.connectionId = c && m.enableEncryptionAfterAck

@[simp] theorem acceptsHello_nil (c : ConnectionId) : acceptsHello c [] = false := rfl

@[simp] theorem acceptsHello_append (c : ConnectionId)
    (out out' : List SimulationToNetworkOUTMessage) :
    acceptsHello c (out ++ out') = (acceptsHello c out || acceptsHello c out') :=
  List.any_append

theorem acceptsHello_eq_true {c : ConnectionId} {out : List SimulationToNetworkOUTMessage} :
    acceptsHello c out = true ↔
      ∃ m ∈ out, m.connectionId = c ∧ m.enableEncryptionAfterAck = true := by
  simp [acceptsHello]

@[simp] theorem acceptsHello_stamp (c : ConnectionId) (start : Nat)
    (out : List SimulationToNetworkOUTMessage) :
    acceptsHello c (System.stamp start out) = acceptsHello c out := by
  rw [Bool.eq_iff_iff, acceptsHello_eq_true, acceptsHello_eq_true]
  refine ⟨?_, ?_⟩
  · rintro ⟨_, hm, h⟩
    obtain ⟨m₀, hm₀, serial, rfl⟩ := System.mem_stamp hm
    exact ⟨m₀, hm₀, h⟩
  · rintro ⟨m₀, hm₀, h⟩
    obtain ⟨serial, hm⟩ := System.mem_stamp_of_mem start hm₀
    exact ⟨_, hm, h⟩

variable {Peer : Type}

/-- The protocol state of connection `c` after a run. -/
def clientLife (s : System Peer) (tr : List (Event Peer)) (c : ConnectionId) : ClientLife :=
  match s.networkState.sessions.lookup c with
  | some session => .live (session.progress (acceptsHello c (producedLog tr)))
  | none => if connectionPhase c (handledLog tr) = .fresh then .fresh else .closed

theorem clientLife_of_session {s : System Peer} {tr : List (Event Peer)} {c : ConnectionId}
    {session : ClientSession} (h : s.networkState.sessions.lookup c = some session) :
    clientLife s tr c = .live (session.progress (acceptsHello c (producedLog tr))) := by
  simp [clientLife, h]

theorem clientLife_of_closed {s : System Peer} {tr : List (Event Peer)} {c : ConnectionId}
    (h : s.networkState.sessions.lookup c = none)
    (hnamed : connectionPhase c (handledLog tr) ≠ .fresh) : clientLife s tr c = .closed := by
  simp [clientLife, h, hnamed]

/-- The connection a step is about: the one whose message, reply or ACK it handles. -/
def System.subject (s : System Peer) : Action Peer → ConnectionId
  | .handleNetwork _ => (s.simulation.networkMessages.head?.map (·.connectionId)).getD 0
  | .handleHttp => (s.simulation.httpMessages.head?.map (·.connectionId)).getD 0
  | .acknowledge i =>
      ((s.inFlight[i]?.bind (·.packet.userData)).map (·.connectionId)).getD 0
  | _ => 0

-- ============================================================================
-- One message
-- ============================================================================

/-- An admitted packet takes its client one step further, or none. -/
theorem ServerSimulation.clientStep_protocol {kx : KxServerSessionKeys} {oracle : HelloOracle}
    {networkState : NetworkState Peer} {m : NetworkINToSimulationMessage} {x : ClientSession}
    (hkind : m.kind = .uses) (hadmits : x.Admits m) (accepted : Bool) :
    ∃ y, (clientStep kx oracle networkState m (some x)).1 = some y ∧
      Relation.ReflGen ClientLife.Step (.live (x.progress accepted))
        (.live (y.progress (accepted || acceptsHello m.connectionId
          (clientStep kx oracle networkState m (some x)).2.1))) := by
  cases m with
  | clientEventConnect c => cases hkind
  | clientEventDisconnect c => cases hkind
  | clientSecureSessionHelloPacketReliable c packet =>
      refine ⟨_, rfl, ?_⟩
      simp only [clientStep, acceptsHello, List.any_cons, List.any_nil, Bool.or_false,
        SecureSessionAnswer.outMessage, NetworkINToSimulationMessage.connectionId, decide_true,
        Bool.true_and]
      rcases answerSecureSessionHello_cases kx oracle networkState x packet with
        ⟨_, h⟩ | ⟨rx, tx, _, _, h⟩ | ⟨rx, tx, _, _, h⟩
      · rw [h, Bool.or_false]
        exact .refl
      · rw [h, Bool.or_false]
        exact .single (.attestationFailed _)
      · rw [h, Bool.or_true]
        exact .single (.helloAccepted _)
  | clientAuthPacketReliable c packet =>
      by_cases hstatus : x.authStatus = .none
      · refine ⟨{ x with authStatus := .waitingAuth }, by simp only [clientStep, if_pos hstatus],
          ?_⟩
        simp only [clientStep, if_pos hstatus, acceptsHello_nil, Bool.or_false]
        exact .single (.authRequested _ hadmits hstatus)
      · refine ⟨x, by simp only [clientStep, if_neg hstatus], ?_⟩
        simp only [clientStep, if_neg hstatus, acceptsHello_nil, Bool.or_false]
        exact .refl
  | clientInputPacketUnreliable c packet =>
      refine ⟨_, rfl, ?_⟩
      obtain ⟨pending, _, hsession⟩ := x.receiveInput_eq packet
      simp only [clientStep, acceptsHello_nil, Bool.or_false, hsession]
      exact .refl
  | clientReadyForMatchPacketReliable c =>
      refine ⟨_, rfl, ?_⟩
      simp only [clientStep, acceptsHello_nil, Bool.or_false]
      exact .single (.ready _ hadmits)

/-- A reply gives the verdict to a client that waits for it. -/
theorem ClientSession.applyAuthResponse_protocol {x : ClientSession}
    (hwaiting : x.authStatus = .waitingAuth) (response : AuthTokenVerificationHTTPResponse)
    (accepted : Bool) :
    ClientLife.Step (.live (x.progress accepted))
      (.live ((x.applyAuthResponse response).progress accepted)) := by
  cases h : response.isValid with
  | true =>
      simp only [applyAuthResponse, h, if_true]
      exact .granted _ _ hwaiting
  | false =>
      simp only [applyAuthResponse, h, Bool.false_eq_true, if_false]
      exact .refused _ hwaiting

-- ============================================================================
-- One step of the server
-- ============================================================================

variable [DecidableEq Peer] {platform : Platform} {s s' : System Peer} {a : Action Peer}
  {tr es : List (Event Peer)} {c : ConnectionId}

omit [DecidableEq Peer] in
/-- The protocol state of a connection changes only with its session and with a
    message of its own that is handled. -/
theorem clientLife_append (haccepts : acceptsHello c (producedLog es) = false)
    (hhandled : ∀ m ∈ handledLog es, m.connectionId ≠ c)
    (hsession : ∀ accepted, (s'.networkState.sessions.lookup c).map (·.progress accepted) =
      (s.networkState.sessions.lookup c).map (·.progress accepted)) :
    clientLife s' (tr ++ es) c = clientLife s tr c := by
  have hphase : connectionPhase c (handledLog tr ++ handledLog es) =
      connectionPhase c (handledLog tr) := Lifecycle.phase_append_of_not_named _ hhandled
  have hprogress := hsession (acceptsHello c (producedLog tr))
  simp only [clientLife, producedLog_append, acceptsHello_append, haccepts, Bool.or_false,
    handledLog_append, hphase]
  cases hs : s.networkState.sessions.lookup c with
  | none =>
      rw [hs, Option.map_none, Option.map_eq_none_iff] at hprogress
      rw [hprogress]
  | some x =>
      rw [hs, Option.map_some] at hprogress
      obtain ⟨y, hy, hxy⟩ := Option.map_eq_some_iff.mp hprogress
      simp only [hy, hxy]

/-- Only the handling of a message of `c` can accept a hello of `c`. -/
theorem System.Steps.not_acceptsHello (h : System.Steps platform s a s' es)
    (hhandled : ∀ m ∈ handledLog es, m.connectionId ≠ c) :
    acceptsHello c (producedLog es) = false := by
  rw [← Bool.not_eq_true, acceptsHello_eq_true]
  rintro ⟨m, hm, hc, henable⟩
  obtain ⟨hello, _, _, _, hes, _⟩ := h.enabling_produced hm henable
  subst hes
  exact hhandled (.clientSecureSessionHelloPacketReliable m.connectionId hello)
    (by simp) hc

/-- A connection the step is not about stays where it is. -/
theorem System.Steps.clientLife_other (h : System.Steps platform s a s' es)
    (hc : c ≠ s.subject a) : clientLife s' (tr ++ es) c = clientLife s tr c := by
  have hhandled : ∀ m ∈ handledLog es, m.connectionId ≠ c := by
    cases h with
    | handleNetwork next =>
        simpa [System.subject, next] using Ne.symm hc
    | _ => simp
  refine clientLife_append (h.not_acceptsHello hhandled) hhandled ?_
  intro accepted
  have hchange := h.session c
  generalize s'.networkState.sessions.lookup c = session? at hchange
  cases hchange with
  | same kept => rw [kept]
  | handled own next => exact absurd own (by simpa [System.subject, next] using Ne.symm hc)
  | replied own next => exact absurd own (by simpa [System.subject, next] using Ne.symm hc)
  | encrypted inFlight userData _ own =>
      exact absurd own (by simpa [System.subject, inFlight, userData] using Ne.symm hc)
  | snapshot found => rw [found]; rfl

/-- A connection nothing has been handled for is fresh, and no hello of it accepted. -/
theorem clientLife_fresh (hr : (server Peer platform).Reach s tr) (few : FewConnects tr)
    (hfresh : connectionPhase c (handledLog tr) = .fresh) :
    clientLife s tr c = .fresh ∧ acceptsHello c (producedLog tr) = false := by
  have hnone : s.networkState.sessions.lookup c = none := by
    rw [← Option.not_isSome_iff_eq_none, (SessionInv.of_reach hr few).live, hfresh]
    simp
  refine ⟨by simp [clientLife, hnone, hfresh], ?_⟩
  rw [← Bool.not_eq_true, acceptsHello_eq_true]
  rintro ⟨m, hm, hc, henable⟩
  obtain ⟨hello, haccepted⟩ := helloAccepted_of_produced hr hm henable
  exact Lifecycle.phase_eq_fresh_iff.mp hfresh _ (mem_handledLog.mpr ⟨_, _, haccepted.handled⟩) hc

/-- Handling a message takes its client one step of the protocol, or none. -/
theorem clientLife_handled {oracle : HelloOracle} {m : NetworkINToSimulationMessage}
    {rest : List NetworkINToSimulationMessage} (hr : (server Peer platform).Reach s tr)
    (hr' : (server Peer platform).Reach s' (tr ++ es)) (few : FewConnects (tr ++ es))
    (h : System.Steps platform s (.handleNetwork oracle) s' es)
    (next : s.simulation.networkMessages = m :: rest) :
    Relation.ReflGen ClientLife.Step (clientLife s tr m.connectionId)
      (clientLife s' (tr ++ es) m.connectionId) := by
  have table := SessionInv.of_reach hr few.of_append
  have hwf := handledLog_wellFormed hr' few m.connectionId
  rw [handledLog_append, h.handledLog_eq next] at hwf
  obtain ⟨hlookup, hout⟩ := ServerSimulation.processNetworkIncoming_client platform.kx oracle
    s.networkState m
  have hadmitted := (GateInv.of_reach hr few.of_append).admitted m
    (System.mem_undelivered_of_next next)
  have hnamed : connectionPhase m.connectionId (handledLog (tr ++ es)) ≠ .fresh := by
    rw [handledLog_append, h.handledLog_eq next, connectionPhase_append_self _ rfl]
    exact Lifecycle.next_ne_fresh _ _
  cases h with
  | @handleNetwork _ m' rest' next' =>
      obtain ⟨rfl, rfl⟩ := List.cons.inj (next.symm.trans next')
      have hafter := hlookup m.connectionId
      rw [if_pos rfl] at hafter
      cases hkind : m.kind with
      | opens =>
          have hfresh := Lifecycle.fresh_of_next hwf hkind
          obtain ⟨hlife, haccepts⟩ := clientLife_fresh hr few.of_append hfresh
          cases m with
          | clientEventConnect c =>
              rw [hlife, clientLife_of_session hafter, producedLog_append, acceptsHello_append,
                haccepts]
              exact .single .connect
          | _ => cases hkind
      | uses =>
          have hlive := Lifecycle.live_of_next hwf (by simp [hkind])
          obtain ⟨x, hx⟩ := Option.isSome_iff_exists.mp ((table.live _).mpr hlive)
          rw [hx] at hafter hout
          obtain ⟨y, hy, hstep⟩ := @ServerSimulation.clientStep_protocol Peer platform.kx oracle
            s.networkState m x hkind (hadmitted.admits hx)
            (acceptsHello m.connectionId (producedLog tr))
          rw [hy] at hafter
          rw [clientLife_of_session hx, clientLife_of_session hafter, hout]
          simpa using hstep
      | closes =>
          have hlive := Lifecycle.live_of_next hwf (by simp [hkind])
          obtain ⟨x, hx⟩ := Option.isSome_iff_exists.mp ((table.live _).mpr hlive)
          rw [hx] at hafter
          cases m with
          | clientEventDisconnect c =>
              rw [clientLife_of_session hx, clientLife_of_closed hafter hnamed]
              exact .single (.disconnect _)
          | _ => cases hkind

/-- The connection a step is about takes one step of the protocol, or none. -/
theorem System.Steps.clientLife_subject (hr : (server Peer platform).Reach s tr)
    (hr' : (server Peer platform).Reach s' (tr ++ es)) (few : FewConnects (tr ++ es))
    (h : System.Steps platform s a s' es) :
    Relation.ReflGen ClientLife.Step (clientLife s tr c) (clientLife s' (tr ++ es) c) := by
  by_cases hhandled : ∀ m ∈ handledLog es, m.connectionId ≠ c
  · have haccepts := h.not_acceptsHello hhandled
    have hsame := @clientLife_append Peer s s' tr es c haccepts hhandled
    have hchange := h.session c
    generalize hafter : s'.networkState.sessions.lookup c = session? at hchange
    cases hchange with
    | same kept => rw [hsame fun _ => by rw [hafter, kept]]
    | handled own next =>
        refine absurd own (hhandled _ ?_)
        rw [h.handledLog_eq next]
        exact List.mem_singleton_self _
    | @replied reply rest x own next found =>
        have hwaiting := (AuthInv.of_reach hr few.of_append).reply_waiting next (own ▸ found)
        rw [clientLife_of_session found, clientLife_of_session hafter, producedLog_append,
          acceptsHello_append, haccepts, Bool.or_false]
        exact .single (x.applyAuthResponse_protocol hwaiting _ _)
    | @encrypted i owned context x inFlight userData enable own found =>
        have hmem := List.mem_of_getElem? inFlight
        obtain ⟨hid, _, henable⟩ :=
          (ContextInv.of_reach hr few.of_append).context owned hmem context userData
        have houtgoing := OutgoingInv.of_reach hr
        have hanswered : acceptsHello c (producedLog tr) = true :=
          acceptsHello_eq_true.mpr ⟨owned.message,
            houtgoing.produced_of_reliableLog (houtgoing.inFlight owned hmem), hid ▸ own,
            henable enable⟩
        rw [clientLife_of_session found, clientLife_of_session hafter, producedLog_append,
          acceptsHello_append, haccepts, Bool.or_false]
        exact .single (.acknowledged _ hanswered)
    | @snapshot _ x found => rw [hsame fun _ => by rw [hafter, found]; rfl]
  · -- a message of `c` is handled
    push Not at hhandled
    obtain ⟨m, hm, rfl⟩ := hhandled
    cases h with
    | handleNetwork next phase pushed =>
        obtain rfl := List.mem_singleton.mp hm
        exact clientLife_handled hr hr' few (.handleNetwork next phase pushed) next
    | _ => simp at hm

-- ============================================================================
-- The refinement
-- ============================================================================

/-- A step of the server advances at most one of the copies of the client protocol. -/
theorem clientLife_refines (platform : Platform) :
    (server Peer platform).Refines FewConnects clientLife (Interleave ClientLife.Step) where
  prefixes := fun _ _ h => h.of_append
  step := by
    intro s tr a s' es hr few hs
    have hsteps := System.step_cases hs
    exact Interleave.of_subject (hsteps.clientLife_subject hr (hr.next hs) few)
      fun c hc => hsteps.clientLife_other hc

/-- Every connection of a reachable state has its stages in order. -/
theorem clientLife_ordered (hr : (server Peer platform).Reach s tr) (few : FewConnects tr)
    (c : ConnectionId) : (clientLife s tr c).Ordered :=
  (clientLife_refines platform).invariant (I := fun life => ∀ c, (life c).Ordered)
    (fun _ => trivial)
    (fun _ _ hf h => Interleave.invariant (fun _ _ hx hstep => hx.step hstep) h hf) hr few c

/-- On a path no connection goes back. -/
theorem clientLife_before (hr : (server Peer platform).Reach s tr)
    (hp : (server Peer platform).Path s es s') (few : FewConnects (tr ++ es)) (c : ConnectionId) :
    (clientLife s tr c).Before (clientLife s' (tr ++ es) c) := by
  refine (clientLife_refines platform).monotone (I := fun _ => True)
    (r := fun f g => ∀ c, (f c).Before (g c)) trivial (fun _ _ _ _ => trivial)
    (fun f c => .refl (f c)) (fun _ _ _ h h' c => (h c).trans (h' c)) ?_ hr hp few c
  intro f g _ h c
  rcases (Relation.reflGen_iff _ _ _).mp (h.project c) with hsame | hstep
  · rw [hsame]
    exact .refl (f c)
  · exact hstep.before

/-- A session holds an account only while its verdict is VALID; a client that is
    ready stays ready, authenticated as the same account and encrypted for as long
    as it has a session. -/
theorem ready_client_keeps_its_grants (hr : (server Peer platform).Reach s tr)
    (hp : (server Peer platform).Path s es s') (few : FewConnects (tr ++ es)) {x : ClientSession}
    (hx : s.networkState.sessions.lookup c = some x) :
    (x.authStatus ≠ .valid → x.accountIdDatabase = 0 ∧ x.accountUsernameDatabase = "") ∧
    (x.isReadyForMatch = true → ∀ y, s'.networkState.sessions.lookup c = some y →
      y.isReadyForMatch = true ∧ y.isPacketEncryptionEnabled = true ∧ y.authStatus = .valid ∧
        y.accountIdDatabase = x.accountIdDatabase ∧
        y.accountUsernameDatabase = x.accountUsernameDatabase) := by
  have hordered := clientLife_ordered hr few.of_append c
  rw [clientLife_of_session hx] at hordered
  refine ⟨fun hstatus => Prod.mk.inj (hordered.identity hstatus), ?_⟩
  intro hready y hy
  have hbefore := clientLife_before hr hp few c
  rw [clientLife_of_session hx, clientLife_of_session hy] at hbefore
  have hvalid : x.authStatus = .valid := hordered.readiness hready
  have hencrypted := hordered.authentication
    (show (x.progress _).authStatus ≠ .none by simp [ClientSession.progress, hvalid])
  obtain ⟨hstatus, haccount⟩ := hbefore.verdict
    (show (x.progress _).authStatus.isSettled = true by
      simp [ClientSession.progress, hvalid, AuthStatus.isSettled])
  obtain ⟨hid, hname⟩ := Prod.mk.inj haccount
  exact ⟨hbefore.ready hready, hbefore.encrypted hencrypted, hstatus.trans hvalid, hid, hname⟩

/-- The ready client of the solo run keeps its grants when the worker is stopped. -/
theorem soloAnnounced_keeps_grants :
    ∃ x y, soloAnnouncedResult.1.networkState.sessions.lookup 1 = some x ∧
      x.isReadyForMatch = true ∧
      (soloAnnouncedResult.1.step soloPlatform .stopHttp).bind
        (·.1.networkState.sessions.lookup 1) = some y ∧
      y.isReadyForMatch = true ∧ y.authStatus = .valid := by
  obtain ⟨x, hx, hready⟩ := soloAnnounced_ready
  have hp := TraceMachine.Path.step (M := server Unit soloPlatform) (a := .stopHttp)
    (TraceMachine.Path.refl (s := soloAnnouncedResult.1)) rfl
  obtain ⟨hready', _, hvalid, _⟩ :=
    (ready_client_keeps_its_grants soloAnnounced_reach hp (by simpa using soloAnnounced_few)
      hx).2 hready x hx
  exact ⟨x, x, hx, hready, hx, hready', hvalid⟩

end RcnetServer
