/-
  RcnetServer.Properties.RejectedClients

  A rejected client is on its way out.

  A rejection asks ENet to disconnect its peer once the packet is acknowledged.
  Every exit of `ServerNetworkOutgoing_SendPacket` that gives the packet up keeps
  the intention and disconnects the peer later, except the first one: where ENet
  does not create the packet, the routine returns without a disconnect.  From then on
  the packet carries the intention, for as long as ENet keeps it.
-/

import RcnetServer.System.Rejections

namespace RcnetServer

variable {Peer : Type} [DecidableEq Peer]

/-- Each connection whose rejection was handled, and that has been in the table since, has
    its disconnect scheduled, or ENet owns a packet that will disconnect it. -/
def RejectedLeaving (s : System Peer) (h : RejectionHistory Peer) : Prop :=
  ∀ c p, (c, p) ∈ h.rejected →
    p ∈ h.leaving ∨ ∃ owned ∈ s.inFlight, DisconnectingPacket p c owned.packet

/-- Each send has handed its packet and context to ENet or released them. -/
def SendsSettled (tr : List (Event Peer)) : Prop :=
  ∀ e ∈ tr, CallsSettled e.calls

/-- ENet creates the packet of a rejection, if its connection is in the table. -/
def System.createsRejection (s : System Peer) : Action Peer → Bool
  | .sendReliable outcome =>
      match s.network.reliableMessages with
      | [] => true
      | m :: _ => !m.rejects || outcome.packetCreated ||
          (ServerNetworkOutgoing.findPeerByConnectionId s.networkState m.connectionId).isNone
  | _ => true

/-- ENet does not free a packet that will disconnect its peer before it is acknowledged,
    unless its connection has left the table or the disconnect has been scheduled. -/
def System.keepsDisconnecting (s : System Peer) (h : RejectionHistory Peer) :
    Action Peer → Bool
  | .release i =>
      match (s.inFlight[i]?).bind fun owned => owned.packet.userData with
      | none => true
      | some context =>
          -- a client that leaves by itself has its packets freed before the event is served
          !context.disconnectAfterAck ||
            decide (s.networkState.connectionIdToEnetPeer.lookup context.connectionId ≠
              some context.peer) ||
            context.peer.any fun p => p ∈ h.leaving
  | _ => true

-- ============================================================================
-- One step
-- ============================================================================

section Step

variable {platform : Platform} {s s' : System Peer} {h : RejectionHistory Peer} {a : Action Peer}
  {tr es : List (Event Peer)} {c : ConnectionId} {p : Peer}

/-- A packet that was to disconnect its peer is still there, or the disconnect has been
    scheduled. -/
theorem disconnecting_kept (slots : SlotInv s) (hs : s.step platform a = some (s', es))
    (hkeeps : s.keepsDisconnecting h a = true) (hc : c ≠ 0)
    (htable : s.networkState.connectionIdToEnetPeer.lookup c = some (some p))
    {owned : OwnedPacket Peer} (howned : owned ∈ s.inFlight)
    (hpacket : DisconnectingPacket p c owned.packet) :
    p ∈ (h.update s s' es).leaving ∨ owned ∈ s'.inFlight := by
  rcases (System.step_cases hs).inFlight_kept howned with hkept | ⟨i, rfl | rfl, hi⟩
  · exact Or.inr hkept
  · -- acknowledged, while its connection is in the table
    refine Or.inl ?_
    have hcalls := ServerNetworkOutgoing.onReliablePacketAcknowledgedRunActions_disconnects
      (slots.bound hc htable) hpacket
    change s.acknowledge i = some (s', es) at hs
    unfold System.acknowledge at hs
    split at hs
    · rename_i owned' _ hi'
      obtain rfl := Option.some.inj (hi.symm.trans hi')
      obtain ⟨_, rfl⟩ := Prod.mk.inj (Option.some.inj hs)
      refine RejectionHistory.mem_leaving_update_of_call (List.mem_singleton.mpr rfl) ?_
      rw [Event.calls, if_pos hpacket.registered, hcalls]
      exact List.mem_singleton.mpr rfl
    · cases hs
  · -- freed, so its peer is leaving
    refine Or.inl (RejectionHistory.mem_leaving_update ?_ (slots.used hc htable))
    obtain ⟨context, huser, hpeer, rfl, hdisconnect⟩ := hpacket.context
    simpa [System.keepsDisconnecting, hi, huser, hpeer, hdisconnect, htable] using hkeeps

/-- A rejection that is handled while its connection is in the table schedules the
    disconnect, or leaves it to the packet. -/
theorem disconnecting_sent (slots : SlotInv s) (hs : s.step platform a = some (s', es))
    (hmade : ∀ m ∈ s.outgoingMessages, m.rejects = true →
      m.disconnectAfterAck = true ∧ m.connectionId ≠ 0)
    (hcreates : s.createsRejection a = true) {e : Event Peer} (he : e ∈ es)
    (hrejected : s.rejectedBy e = some (c, p)) :
    c ≠ 0 ∧ (p ∈ (h.update s s' es).leaving ∨
      ∃ owned ∈ s'.inFlight, DisconnectingPacket p c owned.packet) := by
  cases e with
  | reliableHandled m calls =>
      simp only [System.rejectedBy] at hrejected
      split at hrejected
      · rename_i hrejects
        obtain ⟨q, hq, hpair⟩ := Option.map_eq_some_iff.mp hrejected
        obtain ⟨rfl, rfl⟩ := Prod.mk.inj hpair
        cases System.step_cases hs with
        | @sendReliable outcome prepared m' rest outgoing next =>
            obtain ⟨rfl, rfl⟩ := Event.reliableHandled.inj (List.mem_singleton.mp he)
            have hmem : m ∈ s.outgoingMessages := by
              simp [System.outgoingMessages, outgoing, next]
            obtain ⟨hdisconnect, hc⟩ := hmade m hmem hrejects
            have hcreated : outcome.packetCreated = true := by
              simpa [System.createsRejection, outgoing, next, hrejects, hq] using hcreates
            refine ⟨hc, ?_⟩
            rcases ServerNetworkOutgoing.handleReliableMessage_disconnects hq
                (type_of_rejects hrejects) hdisconnect hcreated with
              hlater | ⟨id, packet, channel, hid, hsend, hpacket⟩
            · exact Or.inl (RejectionHistory.mem_leaving_update_of_call
                (List.mem_singleton.mpr rfl) hlater)
            · -- the slot carries the id of the connection
              have hbound := slots.bound hc (ContextInv.findPeerByConnectionId_eq_some hq)
              rw [hbound.data] at hid
              obtain rfl := Option.some.inj hid
              refine Or.inr ⟨⟨m, packet⟩, List.mem_append_right _ ?_, hpacket⟩
              exact List.mem_filterMap.mpr ⟨_, hsend, rfl⟩
        | _ => simp at he
      · cases hrejected
  | _ => cases hrejected

end Step

-- ============================================================================
-- Whole runs
-- ============================================================================

/-- The rejected connections over a run. -/
structure RejectionInv (s : System Peer) (h : RejectionHistory Peer) : Prop where
  table : ∀ c p, (c, p) ∈ h.rejected →
    c ≠ 0 ∧ s.networkState.connectionIdToEnetPeer.lookup c = some (some p)
  leaving : RejectedLeaving s h

namespace RejectionInv

variable {platform : Platform} {s s' : System Peer} {h : RejectionHistory Peer} {a : Action Peer}
  {tr es : List (Event Peer)}

theorem step (inv : RejectionInv s h) (hr : (server Peer platform).Reach s tr)
    (hs : s.step platform a = some (s', es)) (hcreates : s.createsRejection a = true)
    (hkeeps : s.keepsDisconnecting h a = true) : RejectionInv s' (h.update s s' es) := by
  have slots := SlotInv.of_reach hr
  have hmade : ∀ m ∈ s.outgoingMessages, m.rejects = true →
      m.disconnectAfterAck = true ∧ m.connectionId ≠ 0 := fun m hm =>
    rejection_of_produced hr (produced_of_outgoing hr hm)
  have hboth : ∀ c p, (c, p) ∈ (h.update s s' es).rejected →
      c ≠ 0 ∧ (p ∈ (h.update s s' es).leaving ∨
        ∃ owned ∈ s'.inFlight, DisconnectingPacket p c owned.packet) := by
    intro c p hmem
    rcases (RejectionHistory.mem_rejected_update hmem).2 with hold | ⟨e, he, hrejected⟩
    · obtain ⟨hc, htable⟩ := inv.table c p hold
      refine ⟨hc, ?_⟩
      rcases inv.leaving c p hold with hleaving | ⟨owned, howned, hpacket⟩
      · exact Or.inl (RejectionHistory.mem_leaving_update hleaving (slots.used hc htable))
      · exact (disconnecting_kept slots hs hkeeps hc htable howned hpacket).imp_right
          fun hkept => ⟨owned, hkept, hpacket⟩
    · exact disconnecting_sent slots hs hmade hcreates he hrejected
  refine ⟨?_, fun c p hmem => (hboth c p hmem).2⟩
  intro c p hmem
  exact ⟨(hboth c p hmem).1, (RejectionHistory.mem_rejected_update hmem).1⟩

theorem of_run (hr : (serverWithRejections Peer platform).Run
      (fun s _ a => s.1.createsRejection a = true ∧ s.1.keepsDisconnecting s.2 a = true)
      (s, h) tr) :
    RejectionInv s h := by
  refine TraceMachine.Run.invariant (M := serverWithRejections Peer platform)
    (P := fun s _ => RejectionInv s.1 s.2) ⟨?_, ?_⟩ ?_ hr
  · simp [serverWithRejections, TraceMachine.withHistory]
  · simp [serverWithRejections, TraceMachine.withHistory, RejectedLeaving]
  · rintro ⟨s, h⟩ tr a ⟨s', h'⟩ es hr inv ⟨hcreates, hkeeps⟩ hs
    obtain ⟨hstep, rfl⟩ := serverWithRejections_step hs
    exact inv.step hr.reach.of_withHistory hstep hcreates hkeeps

end RejectionInv

section Runs

variable {platform : Platform} {s : System Peer} {h : RejectionHistory Peer}
  {tr : List (Event Peer)}

/-- Whatever ENet and the allocator answer, no packet and no context is leaked or freed
    twice. -/
theorem sendsSettled_of_reach (hr : (server Peer platform).Reach s tr) : SendsSettled tr := by
  refine TraceMachine.Run.invariant (P := fun _ tr => SendsSettled tr) (by simp [SendsSettled])
    ?_ hr
  intro s tr a s' es _ ih _ hs e he
  rcases List.mem_append.mp he with he | he
  · exact ih e he
  cases e with
  | reliableHandled =>
      cases System.step_cases hs with
      | sendReliable =>
          obtain ⟨_, rfl⟩ := Event.reliableHandled.inj (List.mem_singleton.mp he)
          exact ServerNetworkOutgoing.callsSettled_handleReliableMessage _
      | _ => simp at he
  | snapshotHandled =>
      cases System.step_cases hs with
      | skipSnapshot =>
          obtain ⟨_, rfl⟩ := Event.snapshotHandled.inj (List.mem_singleton.mp he)
          exact ServerNetworkOutgoing.callsSettled_nil
      | sendSnapshot =>
          obtain ⟨_, rfl⟩ := Event.snapshotHandled.inj (List.mem_singleton.mp he)
          exact ServerNetworkOutgoing.callsSettled_sendPacket _
      | _ => simp at he
  | acknowledged =>
      cases System.step_cases hs with
      | acknowledgeIgnored =>
          obtain ⟨_, rfl⟩ := Event.acknowledged.inj (List.mem_singleton.mp he)
          exact ServerNetworkOutgoing.callsSettled_nil
      | acknowledge =>
          obtain ⟨_, rfl⟩ := Event.acknowledged.inj (List.mem_singleton.mp he)
          exact ServerNetworkOutgoing.callsSettled_disconnectLaterIf
      | _ => simp at he
  | _ => exact ServerNetworkOutgoing.callsSettled_nil

/-- As long as ENet creates the packets of the rejections and keeps them until they are
    acknowledged, every rejected client is on its way out; packets and contexts are settled
    in any case. -/
theorem rejected_clients_leave (hr : (serverWithRejections Peer platform).Run
      (fun s _ a => s.1.createsRejection a = true ∧ s.1.keepsDisconnecting s.2 a = true)
      (s, h) tr) :
    RejectedLeaving s h ∧ SendsSettled tr :=
  ⟨(RejectionInv.of_run hr).leaving, sendsSettled_of_reach hr.reach.of_withHistory⟩

end Runs

/-- A hello during which signing fails. -/
def failingOracle : HelloOracle where
  nowUnixSeconds := 0
  sign := fun _ _ => { code := -1, signature := Vector.replicate 64 0, signatureLength := 0 }

/-- The slot connects and says hello, the response is a rejection, and a pass handles it. -/
def Action.soloRejected (outcome : SendOutcome) : List (Action Unit) :=
  [Action.soloConnect] ++ Action.soloHello 7 ++ Action.soloTick 1 1 ++
    [.handleNetwork failingOracle, .simulationPush, .beginOutgoing, .sendReliable outcome,
      .endOutgoing]

/-- The rejection is handed to ENet and acknowledged. -/
def rejectedRun : List (Action Unit) := Action.soloRejected {} ++ [.acknowledge 0]

theorem rejectedRun_runs :
    ((serverWithRejections Unit soloPlatform).exec
      (fun s _ a => s.1.createsRejection a = true ∧ s.1.keepsDisconnecting s.2 a = true)
      rejectedRun).isSome = true := by
  decide +kernel

/-- The state with its past, and the trace of the run. -/
def rejectedResult : (System Unit × RejectionHistory Unit) × List (Event Unit) :=
  ((serverWithRejections Unit soloPlatform).exec
    (fun s _ a => s.1.createsRejection a = true ∧ s.1.keepsDisconnecting s.2 a = true)
    rejectedRun).get rejectedRun_runs

/-- The rejected client is still in the table, and leaving. -/
theorem rejectedClient_leaves :
    (1, ()) ∈ rejectedResult.1.2.rejected ∧
      RejectedLeaving rejectedResult.1.1 rejectedResult.1.2 ∧ SendsSettled rejectedResult.2 := by
  have hr : (serverWithRejections Unit soloPlatform).Run
      (fun s _ a => s.1.createsRejection a = true ∧ s.1.keepsDisconnecting s.2 a = true)
      (rejectedResult.1.1, rejectedResult.1.2) rejectedResult.2 := by
    rw [Prod.mk.eta]
    exact TraceMachine.run_get rejectedRun_runs
  exact ⟨by decide +kernel, rejected_clients_leave hr⟩

/-- ENet does not create the packet of the rejection. -/
def stayingRun : List (Action Unit) := Action.soloRejected { packetCreated := false }

theorem stayingRun_runs :
    ((serverWithRejections Unit soloPlatform).exec (fun _ _ _ => True) stayingRun).isSome =
      true := by
  decide +kernel

/-- The state with its past, and the trace of the run. -/
def stayingResult : (System Unit × RejectionHistory Unit) × List (Event Unit) :=
  ((serverWithRejections Unit soloPlatform).exec (fun _ _ _ => True) stayingRun).get
    stayingRun_runs

/-- The rejected client stays: it is in the table, no disconnect has been scheduled, and
    ENet owns no packet. -/
theorem stayingClient_not_leaving :
    (serverWithRejections Unit soloPlatform).Reach (stayingResult.1.1, stayingResult.1.2)
        stayingResult.2 ∧
      ¬ RejectedLeaving stayingResult.1.1 stayingResult.1.2 := by
  refine ⟨?_, ?_⟩
  · rw [Prod.mk.eta]
    exact TraceMachine.run_get stayingRun_runs
  · intro hall
    have hmem : (1, ()) ∈ stayingResult.1.2.rejected := by decide +kernel
    have hnone : stayingResult.1.2.leaving = [] := by decide +kernel
    have hempty : stayingResult.1.1.inFlight.length = 0 := by decide +kernel
    rcases hall 1 () hmem with hleaving | ⟨owned, howned, _⟩
    · rw [hnone] at hleaving
      cases hleaving
    · rw [List.eq_nil_of_length_eq_zero hempty] at howned
      cases howned

end RcnetServer
