/-
  RcnetServer.Properties.BoundIdentity

  An authenticated identity against the keys its AUTH packet came in under.

  The packet that leads to a verdict is the first one admitted for its
  connection: packets are handled in the order they are admitted, and only the
  first one handled makes a request (`requestTokens_eq`).  A later hello is not
  checked against it, so it may replace the key material; as long as none does,
  the key material of the session stays what it was at the admission.
-/

import RcnetServer.System.Authentication
import RcnetServer.System.KeyMaterial

namespace RcnetServer

variable {Peer : Type}

-- ============================================================================
-- The packet that leads to a verdict
-- ============================================================================

/-- The packet of an auth message. -/
def NetworkINToSimulationMessage.authPacket :
    NetworkINToSimulationMessage → Option ClientAuthPacketReliable
  | .clientAuthPacketReliable _ packet => some packet
  | _ => none

/-- The auth packets of `c` in a message log. -/
def authPackets (c : ConnectionId) (log : List NetworkINToSimulationMessage) :
    List ClientAuthPacketReliable :=
  (log.filter fun m => m.connectionId = c).filterMap NetworkINToSimulationMessage.authPacket

namespace Event

/-- The tokens this step asks the backend to validate for `c`. -/
def requestTokens (c : ConnectionId) : Event Peer → List (List UInt8)
  | .networkHandled _ _ http => (http.filter fun m => m.connectionId = c).map (·.authToken)
  | _ => []

/-- The auth packet of `c` admitted in this step, with the session that admitted
    it. -/
def authAdmission (c : ConnectionId) :
    Event Peer → Option (ClientAuthPacketReliable × ClientSession)
  | .incoming m session? =>
      if m.connectionId = c then
        m.authPacket.bind fun packet => session?.map fun session => (packet, session)
      else none
  | _ => none

end Event

/-- The tokens the backend was asked to validate for `c`. -/
def requestTokens (c : ConnectionId) (tr : List (Event Peer)) : List (List UInt8) :=
  tr.flatMap (Event.requestTokens c)

/-- The auth packets admitted for `c`, each with the session at that moment. -/
def authAdmissions (c : ConnectionId) (tr : List (Event Peer)) :
    List (ClientAuthPacketReliable × ClientSession) :=
  tr.filterMap (Event.authAdmission c)

section Append

variable (c : ConnectionId) (tr es : List (Event Peer))

theorem authPackets_append (log log' : List NetworkINToSimulationMessage) :
    authPackets c (log ++ log') = authPackets c log ++ authPackets c log' := by
  rw [authPackets, List.filter_append, List.filterMap_append]
  rfl

theorem authPackets_singleton (m : NetworkINToSimulationMessage) :
    authPackets c [m] = if m.connectionId = c then m.authPacket.toList else [] := by
  by_cases hc : m.connectionId = c
  · cases hpacket : m.authPacket <;> simp [authPackets, hc, hpacket]
  · simp [authPackets, hc]

theorem requestTokens_append :
    requestTokens c (tr ++ es) = requestTokens c tr ++ requestTokens c es :=
  List.flatMap_append

theorem authAdmissions_append :
    authAdmissions c (tr ++ es) = authAdmissions c tr ++ authAdmissions c es :=
  List.filterMap_append

theorem authAdmissions_nil : authAdmissions c ([] : List (Event Peer)) = [] := rfl

theorem authAdmissions_cons (e : Event Peer) :
    authAdmissions c (e :: es) = (e.authAdmission c).toList ++ authAdmissions c es := by
  cases h : e.authAdmission c <;> simp [authAdmissions, h]

end Append

/-- The admission shown by an event is the packet of its message, provided an auth
    message shows its session. -/
theorem authAdmission_incoming (c : ConnectionId) {m : NetworkINToSimulationMessage}
    {session? : Option ClientSession}
    (h : ∀ packet, m.authPacket = some packet → session?.isSome = true) :
    ((Event.incoming m session? : Event Peer).authAdmission c).toList.map Prod.fst =
      authPackets c [m] := by
  rw [authPackets_singleton]
  by_cases hc : m.connectionId = c
  · cases hpacket : m.authPacket with
    | none => simp [Event.authAdmission, hpacket]
    | some packet =>
        obtain ⟨x, hx⟩ := Option.isSome_iff_exists.mp (h packet hpacket)
        simp [Event.authAdmission, hpacket, hc, hx]
  · simp [Event.authAdmission, hc]

/-- No token was sent for `c` exactly when no request was made for it. -/
theorem requestTokens_eq_nil_iff {c : ConnectionId} {tr : List (Event Peer)} :
    requestTokens c tr = [] ↔ c ∉ requestLog tr := by
  induction tr with
  | nil => simp [requestTokens]
  | cons e tr ih =>
      have hsplit := requestTokens_append c [e] tr
      rw [List.singleton_append] at hsplit
      rw [hsplit, List.append_eq_nil_iff, ih, requestLog_cons, List.mem_append, not_or]
      refine and_congr_left fun _ => ?_
      cases e with
      | networkHandled m out http => simp [requestTokens, Event.requestTokens]
      | _ => simp [requestTokens, Event.requestTokens]

/-- What a message asks of the backend. -/
theorem ServerSimulation.clientStep_requests (kx : KxServerSessionKeys) (oracle : HelloOracle)
    (networkState : NetworkState Peer) (m : NetworkINToSimulationMessage)
    (session? : Option ClientSession) :
    (clientStep kx oracle networkState m session?).2.2 =
      match m.authPacket with
      | some packet =>
          if session?.any (·.authStatus = .none) then
            [{ connectionId := m.connectionId, authToken := packet.authToken }]
          else []
      | none => [] := by
  cases m with
  | clientAuthPacketReliable c packet =>
      cases session? with
      | none => rfl
      | some x =>
          by_cases hstatus : x.authStatus = .none <;>
            simp [clientStep, NetworkINToSimulationMessage.authPacket,
              NetworkINToSimulationMessage.connectionId, hstatus]
  | _ => cases session? <;> rfl

theorem NetworkINToSimulationMessage.kind_of_authPacket {m : NetworkINToSimulationMessage}
    {packet : ClientAuthPacketReliable} (h : m.authPacket = some packet) : m.kind = .uses := by
  cases m <;> first | rfl | cases h

variable [DecidableEq Peer] {platform : Platform} {s s' : System Peer} {a : Action Peer}
  {tr es : List (Event Peer)}

/-- The backend is asked about the token of the first auth packet handled. -/
theorem requestTokens_eq (hr : (server Peer platform).Reach s tr) (few : FewConnects tr)
    (c : ConnectionId) :
    requestTokens c tr = ((authPackets c (handledLog tr)).head?.map (·.authToken)).toList := by
  refine TraceMachine.Run.invariant_of_prefix
    (P := fun (_ : System Peer) (tr : List (Event Peer)) => ∀ c, requestTokens c tr =
      ((authPackets c (handledLog tr)).head?.map (·.authToken)).toList) (B := FewConnects)
    (fun _ _ h => h.of_append) (fun _ => rfl) ?_ hr few c
  intro s tr a s' es hr ih _ hs few c
  have hwf := handledLog_wellFormed (hr.reach.next hs) few
  have hnil : c ∉ requestLog tr ↔ authPackets c (handledLog tr) = [] := by
    rw [← requestTokens_eq_nil_iff, ih c]
    cases authPackets c (handledLog tr) <;> simp
  rw [requestTokens_append, handledLog_append, authPackets_append, ih]
  cases System.step_cases hs with
  | @handleNetwork oracle m rest next phase pushed =>
      have hhttp := congrArg Prod.snd (ServerSimulation.processNetworkIncoming_client
        platform.kx oracle s.networkState m).2
      rw [ServerSimulation.clientStep_requests] at hhttp
      rw [hhttp]
      simp only [handledLog_cons, handledLog_nil, Event.handledMessage, Option.toList_some,
        List.append_nil, authPackets_singleton]
      by_cases hc : m.connectionId = c
      · cases hpacket : m.authPacket with
        | none => simp [requestTokens, Event.requestTokens]
        | some packet =>
            subst hc
            have hkind := NetworkINToSimulationMessage.kind_of_authPacket hpacket
            simp only [handledLog_append, handledLog_cons, handledLog_nil, Event.handledMessage,
              Option.toList_some, List.append_nil] at hwf
            have hlive := Lifecycle.live_of_next (hwf m.connectionId) (by simp [hkind])
            obtain ⟨x, hx⟩ := Option.isSome_iff_exists.mp
              (((SessionInv.of_reach hr.reach few.of_append).live _).mpr hlive)
            have hasked := (AuthInv.of_reach hr.reach few.of_append).asked _ x hx
            rw [hnil] at hasked
            by_cases hstatus : x.authStatus = .none
            · simp [requestTokens, Event.requestTokens, hx, hstatus, hasked.mp hstatus]
            · -- a second packet changes neither side
              obtain ⟨first, others, hfirst⟩ := List.exists_cons_of_ne_nil (mt hasked.mpr hstatus)
              simp [requestTokens, Event.requestTokens, hx, hstatus, hfirst]
      · cases hpacket : m.authPacket with
        | none => simp [requestTokens, Event.requestTokens, hc]
        | some packet => split <;> simp [requestTokens, Event.requestTokens, hc]
  | _ => simp [requestTokens, Event.requestTokens, authPackets]

/-- The admissions are the auth packets among the incoming messages. -/
theorem authAdmissions_packets (hr : (server Peer platform).Reach s tr) (c : ConnectionId) :
    (authAdmissions c tr).map Prod.fst = authPackets c (incomingLog tr) := by
  refine TraceMachine.Run.invariant
    (P := fun (_ : System Peer) (tr : List (Event Peer)) =>
      (authAdmissions c tr).map Prod.fst = authPackets c (incomingLog tr)) rfl ?_ hr
  intro s tr a s' es _ ih _ hs
  rw [authAdmissions_append, incomingLog_append, authPackets_append, List.map_append, ih]
  refine congrArg _ ?_
  cases System.step_cases hs with
  | @receive event m idle pushed =>
      rw [authAdmissions_cons, incomingLog_cons]
      refine (congrArg _ (List.append_nil _)).trans (authAdmission_incoming c ?_)
      have hguarded := (ServerNetworkIncoming.eventHandleReceive_push pushed).2.2
      intro packet hpacket
      cases m with
      | clientAuthPacketReliable c' packet =>
          obtain ⟨x, hx, _⟩ :=
            ServerNetworkIncoming.isConnectionAllowedForAuthChannel_iff.mp hguarded
          exact Option.isSome_iff_exists.mpr ⟨x, hx⟩
      | _ => cases hpacket
  | connect =>
      rw [authAdmissions_cons, incomingLog_cons]
      exact (congrArg _ (List.append_nil _)).trans
        (authAdmission_incoming c fun _ hpacket => by cases hpacket)
  | disconnect =>
      rw [authAdmissions_cons, incomingLog_cons]
      exact (congrArg _ (List.append_nil _)).trans
        (authAdmission_incoming c fun _ hpacket => by cases hpacket)
  | _ => rfl

/-- The first packet admitted for `c` is the first one handled. -/
theorem head_authAdmissions (hr : (server Peer platform).Reach s tr) {c : ConnectionId}
    (h : authPackets c (handledLog tr) ≠ []) :
    ∃ packet x₀ rest, authAdmissions c tr = (packet, x₀) :: rest ∧
      (authPackets c (handledLog tr)).head? = some packet := by
  have hpackets := authAdmissions_packets hr c
  rw [(FifoInv.of_reach hr).incoming_eq, authPackets_append] at hpackets
  obtain ⟨first, others, hfirst⟩ := List.exists_cons_of_ne_nil h
  rw [hfirst, List.cons_append] at hpackets
  cases hadmissions : authAdmissions c tr with
  | nil => simp [hadmissions] at hpackets
  | cons admission rest =>
      rw [hadmissions, List.map_cons, List.cons.injEq] at hpackets
      exact ⟨admission.1, admission.2, rest, rfl, by rw [hfirst, List.head?_cons, hpackets.1]⟩

-- ============================================================================
-- When a hello leaves an identity alone
-- ============================================================================

/-- A hello, if one is handled next, leaves the key material of a connection with
    an admitted auth packet as it is: it carries the same public key, and if keys
    can be derived, they are the same and signing succeeds. -/
def System.helloKeepsIdentity (platform : Platform) (s : System Peer) (tr : List (Event Peer)) :
    Action Peer → Bool
  | .handleNetwork oracle =>
      match s.simulation.networkMessages with
      | .clientSecureSessionHelloPacketReliable c hello :: _ =>
          match s.networkState.sessions.lookup c with
          | none => true
          | some session =>
              (authAdmissions c tr).isEmpty || session.authStatus = .invalid ||
                (hello.clientPublicKey = session.clientPublicKey &&
                  match ServerCryptoKx.computeSessionKeys platform.kx
                      s.networkState.cryptoKxState hello.clientPublicKey with
                  | none => true
                  | some (rx, tx) =>
                      rx = session.serverRxKey && tx = session.serverTxKey &&
                        (ServerSimulation.attestSecureSession oracle s.networkState hello).2)
      | _ => true
  | _ => true

/-- Such a step keeps the key material of an admitted connection. -/
theorem keyMaterial_kept (h : System.Steps platform s a s' es) (table : SessionInv s tr)
    (hwf : WellFormedLog (handledLog (tr ++ es)))
    (hok : s.helloKeepsIdentity platform tr a = true) {c : ConnectionId} {x y : ClientSession}
    (hx : s.networkState.sessions.lookup c = some x)
    (hy : s'.networkState.sessions.lookup c = some y) (hadmitted : authAdmissions c tr ≠ [])
    (hstatus : x.authStatus ≠ .invalid) : y.keyMaterial = x.keyMaterial := by
  rcases h.keyMaterial table hwf hx hy with hsame | ⟨oracle, hello, rest, rfl, next, rfl⟩
  · exact hsame
  · simp only [System.helloKeepsIdentity, next, hx, Bool.or_eq_true, List.isEmpty_iff,
      hadmitted, decide_eq_true_eq, hstatus, false_or, Bool.and_eq_true] at hok
    obtain ⟨hpk, hkeys⟩ := hok
    rcases ServerSimulation.answerSecureSessionHello_cases platform.kx oracle s.networkState x
        hello with ⟨_, hanswer⟩ | ⟨rx, tx, hkx, hsign, _⟩ | ⟨rx, tx, hkx, hsign, hanswer⟩
    · rw [hanswer, ClientSession.keyMaterial, hpk]
      rfl
    · simp [hkx, hsign] at hkeys
    · simp only [hkx, hsign, Bool.and_eq_true, decide_eq_true_eq] at hkeys
      rw [hanswer, ClientSession.keyMaterial, hpk, hkeys.1.1, hkeys.1.2]
      rfl

/-- The key material of a session that may become valid is that of the first
    admission of its connection. -/
structure IdentityInv (s : System Peer) (tr : List (Event Peer)) : Prop where
  named : ∀ c, authAdmissions c tr ≠ [] → connectionPhase c (handledLog tr) ≠ .fresh
  bound : ∀ c x packet x₀ rest, s.networkState.sessions.lookup c = some x →
    x.authStatus ≠ .invalid → authAdmissions c tr = (packet, x₀) :: rest →
    x.keyMaterial = x₀.keyMaterial

namespace IdentityInv

omit [DecidableEq Peer] in
theorem init (platform : Platform) : IdentityInv (System.init platform : System Peer) [] where
  named := by simp [authAdmissions]
  bound := by simp [System.init]

/-- An admission shows the session as the step leaves it. -/
theorem admitted_session (h : System.Steps platform s a s' es) {c : ConnectionId}
    {packet : ClientAuthPacketReliable} {x₀ : ClientSession}
    {rest : List (ClientAuthPacketReliable × ClientSession)}
    (hes : authAdmissions c es = (packet, x₀) :: rest) :
    s'.networkState.sessions.lookup c = some x₀ ∧ s'.networkState = s.networkState := by
  cases h with
  | @receive event m idle pushed =>
      rw [authAdmissions_cons, authAdmissions_nil, List.append_nil] at hes
      have hshown := Option.mem_toList.mp (hes ▸ List.mem_cons_self)
      simp only [Event.authAdmission, Option.ite_none_right_eq_some,
        Option.bind_eq_some_iff, Option.map_eq_some_iff, Prod.mk.injEq] at hshown
      obtain ⟨rfl, _, _, x, hx, _, rfl⟩ := hshown
      exact ⟨hx, rfl⟩
  | connect =>
      simp [authAdmissions_cons, authAdmissions_nil, Event.authAdmission,
        NetworkINToSimulationMessage.authPacket] at hes
  | disconnect =>
      simp [authAdmissions_cons, authAdmissions_nil, Event.authAdmission,
        NetworkINToSimulationMessage.authPacket] at hes
  | _ => cases hes

theorem step (hr : (server Peer platform).Reach s tr)
    (hr' : (server Peer platform).Reach s' (tr ++ es)) (inv : IdentityInv s tr)
    (h : System.Steps platform s a s' es) (few : FewConnects (tr ++ es))
    (hok : s.helloKeepsIdentity platform tr a = true) : IdentityInv s' (tr ++ es) := by
  have table := SessionInv.of_reach hr few.of_append
  have hwf := handledLog_wellFormed hr' few
  refine ⟨?_, ?_⟩
  · intro c hadmitted
    rw [handledLog_append]
    cases hbefore : authAdmissions c tr with
    | cons admission rest =>
        exact Lifecycle.phase_ne_fresh_append _ (inv.named c (by simp [hbefore]))
    | nil =>
        rw [authAdmissions_append, hbefore, List.nil_append] at hadmitted
        obtain ⟨⟨packet, x₀⟩, rest, hes⟩ := List.exists_cons_of_ne_nil hadmitted
        obtain ⟨hx₀, hstate⟩ := admitted_session h hes
        rw [hstate] at hx₀
        have hlive := (table.live c).mp (by simp [hx₀])
        exact Lifecycle.phase_ne_fresh_append _ (by simp [hlive])
  · intro c y packet x₀ rest hy hstatus hadmitted
    rw [authAdmissions_append] at hadmitted
    cases hbefore : authAdmissions c tr with
    | cons admission rest' =>
        rw [hbefore, List.cons_append, List.cons.injEq] at hadmitted
        obtain ⟨x, hx⟩ := h.session_before hwf (inv.named c (by simp [hbefore])) hy
        have hx_status : x.authStatus ≠ .invalid := by
          intro hinvalid
          have hkept := (AuthInv.of_reach hr few.of_append).verdict_kept table h hwf hx hy
            (Or.inr hinvalid)
          exact hstatus (hkept.1.trans hinvalid)
        rw [keyMaterial_kept h table hwf hok hx hy (by simp [hbefore]) hx_status]
        exact inv.bound c x packet x₀ rest' hx hx_status (hadmitted.1 ▸ hbefore)
    | nil =>
        rw [hbefore, List.nil_append] at hadmitted
        obtain ⟨hx₀, _⟩ := admitted_session h hadmitted
        rw [Option.some.inj (hy.symm.trans hx₀)]

theorem of_run (hr : (server Peer platform).Run
      (fun s tr a => s.helloKeepsIdentity platform tr a = true) s tr) (few : FewConnects tr) :
    IdentityInv s tr :=
  TraceMachine.Run.invariant_of_prefix (P := IdentityInv) (B := FewConnects)
    (fun _ _ h => h.of_append) (IdentityInv.init platform)
    (fun _ _ _ _ _ hr inv hok hs few =>
      inv.step hr.reach (hr.reach.next hs) (System.step_cases hs) few hok)
    hr few

end IdentityInv

/-- A valid session has the key material with which the auth packet that led to its
    verdict was admitted. -/
def IdentityBound (s : System Peer) (tr : List (Event Peer)) : Prop :=
  ∀ c session, s.networkState.sessions.lookup c = some session → session.authStatus = .valid →
    ∃ packet admitted rest, authAdmissions c tr = (packet, admitted) :: rest ∧
      requestTokens c tr = [packet.authToken] ∧ session.keyMaterial = admitted.keyMaterial

/-- While no hello changes the key material of a connection whose auth packet has
    been admitted, authenticated identities stay bound to their keys. -/
theorem identity_bound_to_keys (hr : (server Peer platform).Run
      (fun s tr a => s.helloKeepsIdentity platform tr a = true) s tr) (few : FewConnects tr) :
    IdentityBound s tr := by
  intro c session hsession hvalid
  have htokens := requestTokens_eq hr.reach few c
  have hasked : authPackets c (handledLog tr) ≠ [] := by
    have hasked := (AuthInv.of_reach hr.reach few).asked c session hsession
    rw [← requestTokens_eq_nil_iff, htokens] at hasked
    intro hnone
    simp [hnone, hvalid] at hasked
  obtain ⟨packet, x₀, rest, hadmitted, hhead⟩ := head_authAdmissions hr.reach hasked
  refine ⟨packet, x₀, rest, hadmitted, by simp [htokens, hhead], ?_⟩
  exact (IdentityInv.of_run hr few).bound c session packet x₀ rest hsession (by simp [hvalid])
    hadmitted

theorem soloAuthenticated_keeps_identity :
    ((server Unit soloPlatform).exec
      (fun s tr a => s.helloKeepsIdentity soloPlatform tr a = true)
      Action.soloAuthenticated).isSome = true := by
  decide +kernel

/-- The state and the trace of a run without a second hello. -/
def soloIdentityResult : System Unit × List (Event Unit) :=
  ((server Unit soloPlatform).exec (fun s tr a => s.helloKeepsIdentity soloPlatform tr a = true)
    Action.soloAuthenticated).get soloAuthenticated_keeps_identity

/-- The authenticated client of the run has the keys its auth packet came in under. -/
theorem soloIdentity_bound :
    (∃ session, soloIdentityResult.1.networkState.sessions.lookup 1 = some session ∧
      session.authStatus = .valid) ∧
    IdentityBound soloIdentityResult.1 soloIdentityResult.2 := by
  have hr : (server Unit soloPlatform).Run
      (fun s tr a => s.helloKeepsIdentity soloPlatform tr a = true)
      soloIdentityResult.1 soloIdentityResult.2 :=
    TraceMachine.run_get soloAuthenticated_keeps_identity
  have few : FewConnects soloIdentityResult.2 := by
    unfold FewConnects
    decide +kernel
  have hvalid : (soloIdentityResult.1.networkState.sessions.lookup 1).map (·.authStatus) =
      some .valid := by
    decide +kernel
  exact ⟨Option.map_eq_some_iff.mp hvalid, identity_bound_to_keys hr few⟩

/-- After its authentication the client says hello again, with another key. -/
def replacedKeysRun : List (Action Unit) :=
  Action.soloEndTick (Action.soloAuthenticated ++ Action.soloHello 9) 0 ++ Action.soloTick 4 1

theorem replacedKeysRun_runs :
    ((server Unit soloPlatform).exec (fun _ _ _ => True) replacedKeysRun).isSome = true := by
  decide +kernel

/-- The state and the trace of the run. -/
def replacedKeysRunResult : System Unit × List (Event Unit) :=
  ((server Unit soloPlatform).exec (fun _ _ _ => True) replacedKeysRun).get replacedKeysRun_runs

/-- The authenticated session of the run has other keys than at its admission. -/
theorem replacedKeysRun_identity_not_bound :
    (server Unit soloPlatform).Reach replacedKeysRunResult.1 replacedKeysRunResult.2 ∧
      FewConnects replacedKeysRunResult.2 ∧
      ¬ IdentityBound replacedKeysRunResult.1 replacedKeysRunResult.2 := by
  refine ⟨TraceMachine.run_get replacedKeysRun_runs, ?_, ?_⟩
  · unfold FewConnects
    decide +kernel
  · intro hbound
    have hsession : (replacedKeysRunResult.1.networkState.sessions.lookup 1).any
        (fun session => session.authStatus = .valid &&
          (authAdmissions 1 replacedKeysRunResult.2).all fun admission =>
            session.keyMaterial ≠ admission.2.keyMaterial) = true := by
      decide +kernel
    obtain ⟨session, hlookup, hsession⟩ := (Option.any_eq_true _ _).mp hsession
    obtain ⟨hvalid, hdiffers⟩ := (Bool.and_eq_true _ _).mp hsession
    obtain ⟨packet, admitted, rest, hadmissions, _, hsame⟩ :=
      hbound 1 session hlookup (of_decide_eq_true hvalid)
    rw [hadmissions] at hdiffers
    exact of_decide_eq_true (List.all_eq_true.mp hdiffers _ List.mem_cons_self) hsame

end RcnetServer
