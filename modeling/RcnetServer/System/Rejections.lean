/-
  RcnetServer.System.Rejections

  The responses that turn a client away.

  `serverWithRejections` is the server with a history variable: the connections
  whose rejection a pass has handled, and the peers whose disconnect has been
  scheduled.  The facts it is used with hold however often connection ids have
  been given out: a rejection names a connection that is not 0 and asks for its
  disconnect (`rejection_of_produced`), and the slot of a connection in the table
  carries its id (`SlotInv`).
-/

import RcnetServer.System.Authentication
import RcnetServer.System.KeyMaterial
import RcnetServer.System.MatchPhases

namespace RcnetServer

/-- A hello response whose status byte on the wire is not SUCCESS, or an auth response
    whose status byte says that the token is invalid. -/
def SimulationToNetworkOUTMessage.rejects (m : SimulationToNetworkOUTMessage) : Bool :=
  match m.type with
  | .serverSecureSessionHelloResponsePacketReliable => !m.isHelloSuccess
  | .serverAuthResponsePacketReliable =>
      m.serializedPacket[1]? = some ServerAuthResponseStatus.invalidAuthToken.toByte
  | _ => false

variable {Peer : Type} [DecidableEq Peer]

-- ============================================================================
-- The past of a run
-- ============================================================================

/-- The calls into ENet that a step shows. -/
@[simp] def Event.calls : Event Peer → List (ENetCall Peer)
  | .reliableHandled _ calls => calls
  | .snapshotHandled _ calls => calls
  | .acknowledged _ calls => calls
  | _ => []

/-- The peers whose disconnect a step schedules. -/
def Event.disconnectedPeers : Event Peer → List Peer
  | .peerDisconnected peer => peer.toList
  | e => e.calls.filterMap ENetCall.disconnectedPeer

/-- What is recorded of the rejections of a run. -/
structure RejectionHistory (Peer : Type) where
  /-- The connections whose rejection was handled while they were in the table, and
      that have been there since, with their peers. -/
  rejected : List (ConnectionId × Peer) := []
  /-- The peers whose disconnect has been scheduled since they connected. -/
  leaving : List Peer := []

/-- The connection of a rejection that a pass handles in state `s`, with its peer. -/
def System.rejectedBy (s : System Peer) : Event Peer → Option (ConnectionId × Peer)
  | .reliableHandled m _ =>
      if m.rejects then
        (ServerNetworkOutgoing.findPeerByConnectionId s.networkState m.connectionId).map fun p =>
          (m.connectionId, p)
      else none
  | _ => none

/-- What a step from `s` to `s'` adds and takes away. -/
def RejectionHistory.update (h : RejectionHistory Peer) (s s' : System Peer)
    (es : List (Event Peer)) : RejectionHistory Peer where
  rejected := (h.rejected ++ es.filterMap s.rejectedBy).filter fun r =>
    s'.networkState.connectionIdToEnetPeer.lookup r.1 = some (some r.2)
  leaving := (h.leaving.filter fun p => (s.peers p).connected || !(s'.peers p).connected) ++
    es.flatMap Event.disconnectedPeers

def RejectionHistory.record (platform : Platform) (h : RejectionHistory Peer) (s : System Peer)
    (a : Action Peer) : RejectionHistory Peer :=
  match s.step platform a with
  | none => h
  | some (s', es) => h.update s s' es

/-- The server with the past of its rejections. -/
def serverWithRejections (Peer : Type) [DecidableEq Peer] (platform : Platform) :
    TraceMachine (System Peer × RejectionHistory Peer) (Action Peer) (Event Peer) :=
  (server Peer platform).withHistory {} (RejectionHistory.record platform)

theorem serverWithRejections_step {platform : Platform} {s s' : System Peer}
    {h h' : RejectionHistory Peer} {a : Action Peer} {es : List (Event Peer)}
    (hs : (serverWithRejections Peer platform).step (s, h) a = some ((s', h'), es)) :
    s.step platform a = some (s', es) ∧ h' = h.update s s' es := by
  obtain ⟨hstep, hrecord⟩ := TraceMachine.withHistory_step hs
  refine ⟨hstep, ?_⟩
  have hstep' : s.step platform a = some (s', es) := hstep
  rw [hrecord, RejectionHistory.record, hstep']

section Update

variable {s s' : System Peer} {h : RejectionHistory Peer} {es : List (Event Peer)}
  {c : ConnectionId} {p : Peer}

theorem RejectionHistory.mem_rejected_update (hmem : (c, p) ∈ (h.update s s' es).rejected) :
    s'.networkState.connectionIdToEnetPeer.lookup c = some (some p) ∧
      ((c, p) ∈ h.rejected ∨ ∃ e ∈ es, s.rejectedBy e = some (c, p)) := by
  obtain ⟨hmem, htable⟩ := List.mem_filter.mp hmem
  refine ⟨of_decide_eq_true htable, ?_⟩
  rcases List.mem_append.mp hmem with hold | hnew
  · exact Or.inl hold
  · exact Or.inr (List.mem_filterMap.mp hnew)

/-- A peer that was connected before the step is not connecting. -/
theorem RejectionHistory.mem_leaving_update (hmem : p ∈ h.leaving)
    (hused : (s.peers p).connected = true) : p ∈ (h.update s s' es).leaving :=
  List.mem_append_left _ (List.mem_filter.mpr ⟨hmem, by simp [hused]⟩)

theorem RejectionHistory.mem_leaving_update_of_call {e : Event Peer} (he : e ∈ es)
    (hcall : .peerDisconnectLater p ∈ e.calls) : p ∈ (h.update s s' es).leaving := by
  refine List.mem_append_right _ (List.mem_flatMap.mpr ⟨e, he, ?_⟩)
  cases e with
  | reliableHandled => exact List.mem_filterMap.mpr ⟨_, hcall, rfl⟩
  | snapshotHandled => exact List.mem_filterMap.mpr ⟨_, hcall, rfl⟩
  | acknowledged => exact List.mem_filterMap.mpr ⟨_, hcall, rfl⟩
  | _ => cases hcall

end Update

-- ============================================================================
-- Rejections ask for a disconnect
-- ============================================================================

section Produced

variable {platform : Platform} {s s' : System Peer} {tr es : List (Event Peer)} {a : Action Peer}
  {m : SimulationToNetworkOUTMessage}

omit [DecidableEq Peer] in
theorem type_of_rejects (h : m.rejects = true) :
    m.type = .serverSecureSessionHelloResponsePacketReliable ∨
      m.type = .serverAuthResponsePacketReliable := by
  unfold SimulationToNetworkOUTMessage.rejects at h
  split at h
  · exact Or.inl ‹_›
  · exact Or.inr ‹_›
  · cases h

omit [DecidableEq Peer] in
/-- The answer to a hello asks for a disconnect if it is a rejection. -/
theorem ServerSimulation.clientStep_rejects {kx : KxServerSessionKeys} {oracle : HelloOracle}
    {networkState : NetworkState Peer} {msg : NetworkINToSimulationMessage}
    {session? : Option ClientSession}
    (hm : m ∈ (clientStep kx oracle networkState msg session?).2.1) (h : m.rejects = true) :
    m.disconnectAfterAck = true ∧ m.connectionId = msg.connectionId ∧ msg.kind = .uses := by
  obtain ⟨hello, x, rfl, rfl, hanswer⟩ := clientStep_out kx oracle networkState hm
  refine ⟨?_, rfl, rfl⟩
  -- a hello response rejects when its status is not SUCCESS
  have hstatus : (!m.isHelloSuccess) = true := by
    rw [hanswer] at h ⊢
    exact h
  rw [hanswer, isHelloSuccess_outMessage] at hstatus
  rw [hanswer]
  exact hstatus

omit [DecidableEq Peer] in
/-- So does the answer to a reply of the backend. -/
theorem ServerSimulation.reply_rejects {networkState : NetworkState Peer}
    {reply : HttpToSimulationMessage}
    (hm : m ∈ (handleAuthValidateTokenResponseMessage networkState reply).2)
    (h : m.rejects = true) :
    m.disconnectAfterAck = true ∧ m.connectionId = reply.connectionId := by
  unfold handleAuthValidateTokenResponseMessage at hm
  split at hm
  · cases hm
  · obtain rfl := List.mem_singleton.mp hm
    refine ⟨?_, rfl⟩
    cases hvalid : reply.authTokenVerificationResponse.isValid with
    | true =>
        simp [SimulationToNetworkOUTMessage.rejects, hvalid,
          serializeServerAuthResponsePacketReliable, ByteWriter.writeU8,
          ServerAuthResponseStatus.toByte] at h
    | false => rfl

/-- The connections that packets came from and that requests were made for are not 0. -/
structure NonzeroInv (tr : List (Event Peer)) : Prop where
  packets : ∀ m ∈ incomingLog tr, m.kind = .uses → m.connectionId ≠ 0
  requests : ∀ c ∈ requestLog tr, c ≠ 0

/-- The message that is handled next has come in. -/
theorem mem_incomingLog_of_next (hr : (server Peer platform).Reach s tr)
    {msg : NetworkINToSimulationMessage} {rest : List NetworkINToSimulationMessage}
    (next : s.simulation.networkMessages = msg :: rest) : msg ∈ incomingLog tr := by
  rw [(FifoInv.of_reach hr).incoming_eq]
  simp [System.pendingNetwork, next]

theorem NonzeroInv.of_reach (hr : (server Peer platform).Reach s tr) : NonzeroInv tr := by
  refine TraceMachine.Run.invariant (P := fun _ tr => NonzeroInv tr) ⟨by simp, by simp⟩ ?_ hr
  intro s tr a s' es hr inv _ hs
  refine ⟨?_, ?_⟩
  · intro m hm hkind
    rw [incomingLog_append] at hm
    rcases List.mem_append.mp hm with hm | hm
    · exact inv.packets m hm hkind
    · cases System.step_cases hs with
      | receive _ pushed =>
          obtain rfl : m = _ := by simpa using hm
          exact (ServerNetworkIncoming.eventHandleReceive_push pushed).1
      | connect =>
          obtain rfl : m = _ := by simpa using hm
          cases hkind
      | disconnect =>
          obtain rfl : m = _ := by simpa using hm
          cases hkind
      | _ => simp at hm
  · intro c hc
    rw [requestLog_append] at hc
    rcases List.mem_append.mp hc with hc | hc
    · exact inv.requests c hc
    · cases System.step_cases hs with
      | @handleNetwork oracle msg rest next =>
          simp only [requestLog_cons, requestLog_nil, Event.requests, List.append_nil] at hc
          rw [(ServerSimulation.processNetworkIncoming_client platform.kx oracle s.networkState
            msg).2] at hc
          rcases ServerSimulation.clientStep_auth platform.kx oracle s.networkState msg
              (s.networkState.sessions.lookup msg.connectionId) with
            ⟨hnone, _⟩ | ⟨_, _, _, hkind, _, hrequest, _⟩
          · rw [hnone] at hc
            cases hc
          · rw [hrequest] at hc
            obtain rfl := List.mem_singleton.mp hc
            exact inv.packets msg (mem_incomingLog_of_next hr.reach next) hkind
      | _ => simp at hc

/-- A rejection asks for the disconnect of a connection that is not 0. -/
theorem rejection_of_produced (hr : (server Peer platform).Reach s tr) (hm : m ∈ producedLog tr)
    (h : m.rejects = true) : m.disconnectAfterAck = true ∧ m.connectionId ≠ 0 := by
  refine TraceMachine.Run.invariant (P := fun _ tr => ∀ m ∈ producedLog tr, m.rejects = true →
    m.disconnectAfterAck = true ∧ m.connectionId ≠ 0) (by simp) ?_ hr m hm h
  intro s tr a s' es hr ih _ hs m hm h
  rw [producedLog_append] at hm
  rcases List.mem_append.mp hm with hm | hm
  · exact ih m hm h
  · cases (System.step_cases hs).produces hm with
    | @client _ msg _ _ _ next made =>
        obtain ⟨hdisconnect, hconnection, hkind⟩ := ServerSimulation.clientStep_rejects made h
        refine ⟨hdisconnect, ?_⟩
        have hnonzero := (NonzeroInv.of_reach hr.reach).packets msg
          (mem_incomingLog_of_next hr.reach next) hkind
        exact fun hzero => hnonzero (hconnection.symm.trans hzero)
    | @reply reply _ _ _ next made =>
        obtain ⟨hdisconnect, hconnection⟩ := ServerSimulation.reply_rejects made h
        refine ⟨hdisconnect, ?_⟩
        have hrequest : reply.connectionId ∈ requestLog tr := by
          rw [(PipelineInv.of_reach hr.reach).conserved]
          simp [System.authPipeline, next]
        have hnonzero := (NonzeroInv.of_reach hr.reach).requests _ hrequest
        exact fun hzero => hnonzero (hconnection.symm.trans hzero)
    | matchFlow _ made =>
        have htype := type_of_rejects h
        obtain ⟨_, _, _, _, htypes⟩ := ServerSimulation.mem_checkMatchFlow made
        rcases htypes with ⟨h, _⟩ | ⟨h, _⟩ | ⟨h, _⟩ <;> simp [h] at htype
    | snapshot _ made =>
        obtain ⟨_, _, _, rfl⟩ := ServerSimulation.mem_createFullSnapshots made
        cases h

/-- A message on its way has been made. -/
theorem produced_of_outgoing (hr : (server Peer platform).Reach s tr)
    (hm : m ∈ s.outgoingMessages) : m ∈ producedLog tr := by
  refine TraceMachine.Run.invariant
    (P := fun s tr => ∀ m ∈ s.outgoingMessages, m ∈ producedLog tr) ?_ ?_ hr m hm
  · simp [System.outgoingMessages, server, System.init]
  · intro s tr a s' es _ ih _ hs m hm
    rw [producedLog_append]
    rcases (System.step_cases hs).mem_outgoingMessages hm with hm | hm
    · exact List.mem_append_left _ (ih m hm)
    · exact List.mem_append_right _ hm

end Produced

-- ============================================================================
-- Slots
-- ============================================================================

/-- The slot of a connection in the table carries its id, and a free slot none. -/
structure SlotInv (s : System Peer) : Prop where
  carried : ∀ c p, c ≠ 0 → s.networkState.connectionIdToEnetPeer.lookup c = some (some p) →
    (s.peers p).data = dataOfConnectionId c
  free : ∀ p, (s.peers p).connected = false → (s.peers p).data = 0

namespace SlotInv

variable {platform : Platform} {s s' : System Peer} {tr es : List (Event Peer)} {a : Action Peer}
  {c : ConnectionId} {p : Peer}

omit [DecidableEq Peer] in
/-- A connection of the table has a connected peer. -/
theorem used (inv : SlotInv s) (hc : c ≠ 0)
    (h : s.networkState.connectionIdToEnetPeer.lookup c = some (some p)) :
    (s.peers p).connected = true := by
  by_contra hfree
  have hnull := inv.free p (by simpa using hfree)
  rw [inv.carried c p hc h] at hnull
  exact hc (dataOfConnectionId_eq_zero.mp hnull)

omit [DecidableEq Peer] in
theorem bound (inv : SlotInv s) (hc : c ≠ 0)
    (h : s.networkState.connectionIdToEnetPeer.lookup c = some (some p)) :
    BoundPeer s.networkState s.peers p c :=
  ⟨hc, tryGetConnectionIdFromPeer_of_data (inv.carried c p hc h) hc, h⟩

omit [DecidableEq Peer] in
/-- A step that touches neither the slots nor the table. -/
theorem keep (inv : SlotInv s) (hpeers : s'.peers = s.peers)
    (htable : s'.networkState.connectionIdToEnetPeer = s.networkState.connectionIdToEnetPeer) :
    SlotInv s' where
  carried := by
    rw [hpeers, htable]
    exact inv.carried
  free := by
    rw [hpeers]
    exact inv.free

theorem connected (inv : SlotInv s) (free : (s.peers p).connected = false) :
    SlotInv (s.connected p) where
  carried := by
    intro c q hc hq
    simp only [System.connected, UnorderedMap.lookup_insert] at hq ⊢
    split at hq
    · rename_i hnext
      obtain rfl := Option.some.inj (Option.some.inj hq)
      rw [ENetPeers.set_self, hnext]
    · have hne : q ≠ p := by
        rintro rfl
        rw [inv.used hc hq] at free
        cases free
      rw [ENetPeers.set_of_ne _ _ hne]
      exact inv.carried c q hc hq
  free := by
    intro q hq
    by_cases hqp : q = p
    · subst hqp
      simp [System.connected] at hq
    · simp only [System.connected, ENetPeers.set_of_ne _ _ hqp] at hq ⊢
      exact inv.free q hq

theorem disconnected (inv : SlotInv s) :
    SlotInv (s.disconnected p (s.peers p).data.toUInt32) where
  carried := by
    intro c q hc hq
    simp only [System.disconnected, UnorderedMap.lookup_erase] at hq ⊢
    split at hq
    · cases hq
    · rename_i hne
      have hqp : q ≠ p := by
        rintro rfl
        refine hne ?_
        rw [inv.carried c q hc hq, dataOfConnectionId_toUInt32]
      rw [ENetPeers.set_of_ne _ _ hqp]
      exact inv.carried c q hc hq
  free := by
    intro q hq
    by_cases hqp : q = p
    · subst hqp
      simp [System.disconnected]
    · simp only [System.disconnected, ENetPeers.set_of_ne _ _ hqp] at hq ⊢
      exact inv.free q hq

/-- A slot without an id is freed. -/
theorem disconnectedUnknown (inv : SlotInv s) (null : (s.peers p).data = 0) :
    SlotInv { s with peers := s.peers.set p { data := 0, connected := false } } where
  carried := by
    intro c q hc hq
    have hqp : q ≠ p := by
      rintro rfl
      rw [inv.carried c q hc hq] at null
      exact hc (dataOfConnectionId_eq_zero.mp null)
    simp only [ENetPeers.set_of_ne _ _ hqp]
    exact inv.carried c q hc hq
  free := by
    intro q hq
    by_cases hqp : q = p
    · subst hqp
      simp
    · simp only [ENetPeers.set_of_ne _ _ hqp] at hq ⊢
      exact inv.free q hq

theorem step (inv : SlotInv s) (h : System.Steps platform s a s' es) : SlotInv s' := by
  cases h with
  | connect _ free => exact inv.connected free
  | disconnectUnknown _ _ null => exact inv.disconnectedUnknown null
  | disconnect => exact inv.disconnected
  | acknowledge =>
      refine inv.keep rfl ?_
      simp only
      split <;> rfl
  | _ => exact inv.keep rfl rfl

theorem of_reach (hr : (server Peer platform).Reach s tr) : SlotInv s :=
  TraceMachine.Run.invariant (P := fun s _ => SlotInv s)
    ⟨by simp [server, System.init], by simp [server, System.init]⟩
    (fun _ _ _ _ _ _ inv _ hs => inv.step (System.step_cases hs)) hr

end SlotInv

-- ============================================================================
-- Packets of ENet
-- ============================================================================

/-- A packet that ENet owns stays, unless it is acknowledged or dropped. -/
theorem System.Steps.inFlight_kept {platform : Platform} {s s' : System Peer}
    {es : List (Event Peer)} {a : Action Peer} (h : System.Steps platform s a s' es)
    {owned : OwnedPacket Peer} (howned : owned ∈ s.inFlight) :
    owned ∈ s'.inFlight ∨
      ∃ i, (a = .acknowledge i ∨ a = .release i) ∧ s.inFlight[i]? = some owned := by
  have herase : ∀ i, owned ∈ s.inFlight.eraseIdx i ∨ s.inFlight[i]? = some owned := by
    intro i
    obtain ⟨j, hj, hget⟩ := List.mem_iff_getElem.mp howned
    by_cases hij : j = i
    · exact Or.inr (by rw [← hij, List.getElem?_eq_getElem hj, hget])
    · exact Or.inl (List.mem_eraseIdx_iff_getElem.mpr ⟨j, hj, hij, hget⟩)
  cases h with
  | @acknowledgeIgnored i =>
      exact (herase i).imp_right fun hi => ⟨i, Or.inl rfl, hi⟩
  | @acknowledge i =>
      exact (herase i).imp_right fun hi => ⟨i, Or.inl rfl, hi⟩
  | @release i =>
      exact (herase i).imp_right fun hi => ⟨i, Or.inr rfl, hi⟩
  | sendReliable => exact Or.inl (List.mem_append_left _ howned)
  | _ => exact Or.inl howned

end RcnetServer
