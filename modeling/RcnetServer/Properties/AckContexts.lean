/-
  RcnetServer.Properties.AckContexts

  No ACK context is leaked or freed twice.

  A context is allocated by the sender and attached to a packet, on which the sender then
  registers the free callback; the callback deletes it when the packet is freed: by the
  sender itself if ENet does not take it, else by ENet, after the ACK or when it drops
  the packet.  `serverWithContexts` is the server with the contexts allocated and deleted
  so far, each named by the message of its packet.  At every moment those allocated are
  those deleted and those of the packets in flight, and none of them occurs twice.
-/

import Mathlib.Data.List.Perm.Basic
import RcnetServer.Properties.ReliableStream

namespace RcnetServer

variable {Peer : Type}

-- ============================================================================
-- Where contexts come from and where they go
-- ============================================================================

/-- The message asks for an action after the ACK of its packet. -/
def SimulationToNetworkOUTMessage.acts (m : SimulationToNetworkOUTMessage) : Bool :=
  m.disconnectAfterAck || m.enableEncryptionAfterAck

/-- The contexts deleted when a packet is freed, by `enet_packet_destroy` or by ENet
    itself: those that its free callback deletes, if one is registered. -/
def ENetPacket.free (packet : ENetPacket Peer) : List (ReliableAckActionContext Peer) :=
  if packet.freeCallback then
    (ServerNetworkOutgoing.onReliablePacketFreedDestroyAckContext (some packet)).2
  else []

/-- The packet a call destroys. -/
def ENetCall.destroyedPacket : ENetCall Peer → Option (ENetPacket Peer)
  | .packetDestroy packet => some packet
  | _ => none

/-- The contexts allocated in a step. -/
def Event.newContexts : Event Peer → List Nat
  | .reliableHandled m calls => List.replicate (calls.countP ENetCall.isNewContext) m.serial
  | .snapshotHandled m calls => List.replicate (calls.countP ENetCall.isNewContext) m.serial
  | _ => []

/-- The packets that the sender destroys in a step, with their messages. -/
def Event.destroyedPackets : Event Peer → List (OwnedPacket Peer)
  | .reliableHandled m calls => (calls.filterMap ENetCall.destroyedPacket).map (⟨m, ·⟩)
  | .snapshotHandled m calls => (calls.filterMap ENetCall.destroyedPacket).map (⟨m, ·⟩)
  | _ => []

namespace OwnedPacket

/-- The context attached to a packet. -/
def contexts (owned : OwnedPacket Peer) : List Nat :=
  owned.packet.userData.toList.map fun _ => owned.message.serial

/-- The contexts deleted when the packet is freed. -/
def deleted (owned : OwnedPacket Peer) : List Nat :=
  owned.packet.free.map fun _ => owned.message.serial

end OwnedPacket

/-- The contexts of the packets in flight. -/
def System.contextsInFlight (s : System Peer) : List Nat :=
  s.inFlight.flatMap OwnedPacket.contexts

/-- The packets freed in a step: an acknowledged or dropped one by ENet, the others by the
    sender. -/
def System.freedPackets (s : System Peer) (a : Action Peer) (es : List (Event Peer)) :
    List (OwnedPacket Peer) :=
  match a with
  | .acknowledge i => s.inFlight[i]?.toList
  | .release i => s.inFlight[i]?.toList
  | _ => es.flatMap Event.destroyedPackets

/-- What is recorded of the contexts of a run. -/
structure ContextHistory where
  allocated : List Nat := []
  deleted : List Nat := []

variable [DecidableEq Peer] {platform : Platform} {s s' : System Peer} {a : Action Peer}
  {h : ContextHistory} {tr es : List (Event Peer)}

/-- What a step from `s` adds. -/
def ContextHistory.record (platform : Platform) (h : ContextHistory) (s : System Peer)
    (a : Action Peer) : ContextHistory :=
  match s.step platform a with
  | none => h
  | some (_, es) =>
      { allocated := h.allocated ++ es.flatMap Event.newContexts
        deleted := h.deleted ++ (s.freedPackets a es).flatMap OwnedPacket.deleted }

/-- The server with the past of its contexts. -/
def serverWithContexts (Peer : Type) [DecidableEq Peer] (platform : Platform) :
    TraceMachine (System Peer × ContextHistory) (Action Peer) (Event Peer) :=
  (server Peer platform).withHistory {} (ContextHistory.record platform)

section Calls

omit [DecidableEq Peer]

/-- Where the callbacks are registered as they should be, freeing a packet deletes the
    context it has. -/
theorem OwnedPacket.deleted_eq {owned : OwnedPacket Peer}
    (callbacks : owned.packet.CallbacksMatch) : owned.deleted = owned.contexts := by
  rw [deleted, contexts, ENetPacket.free, callbacks.free]
  cases hcontext : owned.packet.userData with
  | none => rfl
  | some context =>
      simp [ServerNetworkOutgoing.onReliablePacketFreedDestroyAckContext, hcontext]

/-- The contexts of packets made for one message. -/
theorem flatMap_contexts (m : SimulationToNetworkOUTMessage) (packets : List (ENetPacket Peer)) :
    (packets.map fun packet => (⟨m, packet⟩ : OwnedPacket Peer)).flatMap OwnedPacket.contexts =
      List.replicate (packets.countP (·.userData.isSome)) m.serial := by
  induction packets with
  | nil => rfl
  | cons packet packets ih =>
      rw [List.map_cons, List.flatMap_cons, ih, List.countP_cons]
      cases hcontext : packet.userData with
      | none => simp [OwnedPacket.contexts, hcontext]
      | some context => simp [OwnedPacket.contexts, hcontext, List.replicate_succ]

/-- A settled packet is sent or destroyed. -/
theorem countP_settled (p : ENetPacket Peer → Bool) (calls : List (ENetCall Peer)) :
    (calls.filterMap ENetCall.settledPacket).countP p =
      (calls.filterMap ENetCall.destroyedPacket).countP p +
        (calls.filterMap ENetCall.sentPacket).countP p := by
  induction calls with
  | nil => rfl
  | cons call calls ih =>
      cases call with
      | peerSend q channel packet =>
          simp only [ENetCall.settledPacket, ENetCall.sentPacket, ENetCall.destroyedPacket,
            List.filterMap_cons, List.countP_cons] at ih ⊢
          omega
      | packetDestroy packet =>
          simp only [ENetCall.settledPacket, ENetCall.sentPacket, ENetCall.destroyedPacket,
            List.filterMap_cons, List.countP_cons] at ih ⊢
          omega
      | _ => exact ih

/-- The packets of the messages ENet takes are those it is handed. -/
theorem acceptedPackets_eq (m : SimulationToNetworkOUTMessage)
    (calls : List (ENetCall Peer)) :
    System.acceptedPackets m calls = (calls.filterMap ENetCall.sentPacket).map (⟨m, ·⟩) := by
  induction calls with
  | nil => rfl
  | cons call calls ih =>
      cases call with
      | peerSend p channel packet => exact congrArg (⟨m, packet⟩ :: ·) ih
      | _ => exact ih

theorem destroyedPacket_subset_settledPacket (calls : List (ENetCall Peer)) :
    calls.filterMap ENetCall.destroyedPacket ⊆ calls.filterMap ENetCall.settledPacket := by
  intro packet hpacket
  obtain ⟨call, hcall, hdestroyed⟩ := List.mem_filterMap.mp hpacket
  cases call with
  | packetDestroy => exact List.mem_filterMap.mpr ⟨_, hcall, hdestroyed⟩
  | _ => cases hdestroyed

/-- The calls made for one message allocate what they destroy and what they hand over. -/
theorem contexts_of_calls (m : SimulationToNetworkOUTMessage) {calls : List (ENetCall Peer)}
    (hcalls : CallsSettled calls) :
    List.replicate (calls.countP ENetCall.isNewContext) m.serial =
      ((calls.filterMap ENetCall.destroyedPacket).map
        fun packet => (⟨m, packet⟩ : OwnedPacket Peer)).flatMap OwnedPacket.deleted ++
      (System.acceptedPackets m calls).flatMap OwnedPacket.contexts := by
  have hdeleted : ((calls.filterMap ENetCall.destroyedPacket).map
      fun packet => (⟨m, packet⟩ : OwnedPacket Peer)).flatMap OwnedPacket.deleted =
        ((calls.filterMap ENetCall.destroyedPacket).map
          fun packet => (⟨m, packet⟩ : OwnedPacket Peer)).flatMap OwnedPacket.contexts := by
    refine List.flatMap_congr fun owned howned => ?_
    obtain ⟨packet, hpacket, rfl⟩ := List.mem_map.mp howned
    exact OwnedPacket.deleted_eq
      (hcalls.callbacks packet (destroyedPacket_subset_settledPacket calls hpacket))
  rw [hdeleted, acceptedPackets_eq, flatMap_contexts, flatMap_contexts, ← hcalls.contexts,
    countP_settled, List.replicate_add]

/-- At most one context is allocated for a message. -/
theorem CallsSettled.newContexts_le {calls : List (ENetCall Peer)} (hcalls : CallsSettled calls) :
    calls.countP ENetCall.isNewContext ≤ 1 := by
  rw [← hcalls.contexts]
  exact List.countP_le_length.trans (hcalls.packets.trans_le hcalls.single)

end Calls

-- ============================================================================
-- A packet has a context exactly if its message acts
-- ============================================================================

section Sends

variable {networkState : NetworkState Peer} {peers : ENetPeers Peer} {p q : Peer}
  {channel ch : NetworkChannel} {bytes : List UInt8} {outcome : SendOutcome}
  {disconnectAfterAck enableEncryptionAfterAck requireValidatedSession : Bool}
  {packet : ENetPacket Peer}

omit [DecidableEq Peer] in
/-- A reliable packet that is sent carries a context exactly if an action was asked
    for. -/
theorem userData_sendPacket
    (h : .peerSend q ch packet ∈ (ServerNetworkOutgoing.sendPacket networkState peers (some p)
      channel bytes enetPacketFlagReliable disconnectAfterAck enableEncryptionAfterAck
      requireValidatedSession outcome).calls) :
    packet.userData.isSome = (disconnectAfterAck || enableEncryptionAfterAck) := by
  have hreliable : enetPacketFlagReliable &&& enetPacketFlagReliable ≠ 0 := by decide
  simp only [ServerNetworkOutgoing.sendPacket, hreliable, ne_eq, not_false_eq_true, decide_true,
    Bool.and_true] at h
  split at h
  · simp at h
  · split at h
    · simp at h
    · split at h
      · rename_i hacts
        cases hid : tryGetConnectionIdFromPeer peers (some p) with
        | none =>
            rw [hid] at h
            exact absurd h (ServerNetworkOutgoing.peerSend_not_mem_giveUpPacket (by simp))
        | some c =>
            simp only [hid] at h
            split at h
            · exact absurd h (ServerNetworkOutgoing.peerSend_not_mem_giveUpPacket (by simp))
            · obtain ⟨_, rfl⟩ :=
                ServerNetworkOutgoing.peerSend_mem_submitPacket (by simp) h
              rw [hacts]
              rfl
      · rename_i hacts
        obtain ⟨_, rfl⟩ := ServerNetworkOutgoing.peerSend_mem_submitPacket (by simp) h
        simpa using hacts

end Sends

/-- What the flags of the messages of a run say: only a hello response switches
    encryption on, and no message of the match disconnects. -/
structure SimulationToNetworkOUTMessage.FlagsOfType (m : SimulationToNetworkOUTMessage) :
    Prop where
  encryption : m.type ≠ .serverSecureSessionHelloResponsePacketReliable →
    m.enableEncryptionAfterAck = false
  disconnect : m.type.isMatchPhase = true → m.disconnectAfterAck = false

omit [DecidableEq Peer] in
/-- The packet of such a message has a context exactly if the message acts. -/
theorem userData_handleReliableMessage {networkState : NetworkState Peer}
    {peers : ENetPeers Peer} {m : SimulationToNetworkOUTMessage} {outcome : SendOutcome} {q : Peer}
    {ch : NetworkChannel} {packet : ENetPacket Peer} (flags : m.FlagsOfType)
    (h : .peerSend q ch packet ∈
      (ServerNetworkOutgoing.handleReliableMessage networkState peers m outcome).calls) :
    packet.userData.isSome = m.acts := by
  unfold ServerNetworkOutgoing.handleReliableMessage at h
  obtain ⟨hencryption, hdisconnect⟩ := flags
  rw [SimulationToNetworkOUTMessage.acts]
  split at h
  · simp at h
  · cases htype : m.type <;> rw [htype] at h hencryption hdisconnect
    case serverSecureSessionHelloResponsePacketReliable => exact userData_sendPacket h
    case serverAuthResponsePacketReliable =>
      rw [hencryption (by simp)]
      exact userData_sendPacket h
    case serverSnapshotFullPacketUnreliable => cases h
    case serverClockSyncPacketUnreliable => cases h
    all_goals
      rw [hencryption (by simp), hdisconnect rfl]
      exact userData_sendPacket h

/-- Every message made has the flags of its type. -/
theorem flagsOfType_of_produced (hr : (server Peer platform).Reach s tr) :
    ∀ m ∈ producedLog tr, m.FlagsOfType := by
  refine TraceMachine.Run.invariant
    (P := fun (_ : System Peer) (tr : List (Event Peer)) => ∀ m ∈ producedLog tr, m.FlagsOfType)
    (by simp) ?_ hr
  intro s tr a s' es _ ih _ hs m hm
  rw [producedLog_append] at hm
  rcases List.mem_append.mp hm with hm | hm
  · exact ih m hm
  · cases (System.step_cases hs).produces hm with
    | client next made =>
        have htype := ServerSimulation.clientStep_type made
        exact ⟨fun h => absurd htype h, fun h => by simp [htype,
          SimulationToNetworkOUTMessageType.isMatchPhase] at h⟩
    | reply _ made =>
        have htype := ServerSimulation.reply_type made
        have henable := ServerSimulation.reply_not_enable made
        exact ⟨fun _ => henable, fun h => by simp [htype,
          SimulationToNetworkOUTMessageType.isMatchPhase] at h⟩
    | matchFlow _ made =>
        obtain ⟨_, hdisconnect, henable, _⟩ := ServerSimulation.mem_checkMatchFlow made
        exact ⟨fun _ => henable, fun _ => hdisconnect⟩
    | snapshot _ made =>
        obtain ⟨_, _, _, rfl⟩ := ServerSimulation.mem_createFullSnapshots made
        exact ⟨fun _ => rfl, fun _ => rfl⟩

-- ============================================================================
-- Each message has its own number
-- ============================================================================

/-- What holds of the contexts at every moment. -/
structure ContextsInv (s : System Peer) (h : ContextHistory) (tr : List (Event Peer)) : Prop where
  allocated : h.allocated.Sublist ((reliableLog tr).map (·.serial))
  settled : h.allocated.Perm (h.deleted ++ s.contextsInFlight)
  callbacks : ∀ owned ∈ s.inFlight, owned.packet.CallbacksMatch
  acts : ∀ owned ∈ s.inFlight, owned.packet.userData.isSome = owned.message.acts

/-- A step that allocates for a message it handles, and whose account is even. -/
theorem ContextsInv.step (inv : ContextsInv s h tr) (hs : s.step platform a = some (s', es))
    (hallocated : (es.flatMap Event.newContexts).Sublist ((reliableLog es).map (·.serial)))
    (heven : (es.flatMap Event.newContexts ++ s.contextsInFlight).Perm
      ((s.freedPackets a es).flatMap OwnedPacket.deleted ++ s'.contextsInFlight))
    (hpackets : ∀ owned ∈ s'.inFlight, owned ∈ s.inFlight ∨
      owned.packet.CallbacksMatch ∧ owned.packet.userData.isSome = owned.message.acts) :
    ContextsInv s' (h.record platform s a) (tr ++ es) := by
  rw [ContextHistory.record, hs]
  refine ⟨?_, ?_, ?_, ?_⟩
  · rw [reliableLog_append, List.map_append]
    exact inv.allocated.append hallocated
  · refine (inv.settled.append_right _).trans ?_
    rw [List.append_assoc, List.append_assoc]
    exact (List.perm_append_comm.trans heven).append_left _
  · exact fun owned howned => (hpackets owned howned).elim (inv.callbacks owned) (·.1)
  · exact fun owned howned => (hpackets owned howned).elim (inv.acts owned) (·.2)

/-- A step that neither sends nor settles a packet. -/
theorem ContextsInv.keep (inv : ContextsInv s h tr) (hs : s.step platform a = some (s', es))
    (hallocated : es.flatMap Event.newContexts = [])
    (hfreed : (s.freedPackets a es).flatMap OwnedPacket.deleted = [])
    (hflight : s'.inFlight = s.inFlight) : ContextsInv s' (h.record platform s a) (tr ++ es) := by
  refine inv.step hs (by simp [hallocated]) ?_ fun owned howned => Or.inl (hflight ▸ howned)
  rw [hallocated, hfreed, System.contextsInFlight, System.contextsInFlight, hflight]

/-- ENet frees a packet in flight. -/
theorem ContextsInv.freed (inv : ContextsInv s h tr) (hs : s.step platform a = some (s', es))
    {i : Nat} {owned : OwnedPacket Peer} (inFlight : s.inFlight[i]? = some owned)
    (hallocated : es.flatMap Event.newContexts = [])
    (hfreed : s.freedPackets a es = [owned])
    (hflight : s'.inFlight = s.inFlight.eraseIdx i) :
    ContextsInv s' (h.record platform s a) (tr ++ es) := by
  refine inv.step hs (by simp [hallocated]) ?_ ?_
  · have hcallbacks := inv.callbacks owned (List.mem_of_getElem? inFlight)
    obtain ⟨hi, rfl⟩ := List.getElem?_eq_some_iff.mp inFlight
    have hperm := (List.getElem_cons_eraseIdx_perm hi).flatMap_right OwnedPacket.contexts
    rw [hallocated, hfreed, System.contextsInFlight, System.contextsInFlight, hflight,
      List.flatMap_singleton, OwnedPacket.deleted_eq hcallbacks]
    exact hperm.symm
  · rw [hflight]
    exact fun owned howned => Or.inl (List.mem_of_mem_eraseIdx howned)

/-- The message that is sent next has been made. -/
theorem mem_producedLog_of_next (hr : (server Peer platform).Reach s tr)
    {prepared : ServerNetworkOutgoingPreparedMessages} {m : SimulationToNetworkOUTMessage}
    {rest : List SimulationToNetworkOUTMessage} (outgoing : s.network = .outgoing prepared)
    (next : prepared.reliableMessages = m :: rest) : m ∈ producedLog tr := by
  have hmem : m ∈ onlyReliable (producedLog tr) := by
    rw [(OutgoingInv.of_reach hr).fifo, outgoing]
    simp [next]
  exact (List.mem_filter.mp hmem).1

omit [DecidableEq Peer] in
/-- A snapshot has no context. -/
theorem contexts_sendSnapshot (networkState : NetworkState Peer) (peers : ENetPeers Peer)
    (m : SimulationToNetworkOUTMessage) (p : Peer) (bytes : List UInt8) (outcome : SendOutcome) :
    (ServerNetworkOutgoing.sendSnapshotFullPacketUnreliable networkState peers (some p) bytes
        outcome).calls.countP ENetCall.isNewContext = 0 ∧
      (((ServerNetworkOutgoing.sendSnapshotFullPacketUnreliable networkState peers (some p) bytes
        outcome).calls.filterMap ENetCall.destroyedPacket).map
          fun packet => (⟨m, packet⟩ : OwnedPacket Peer)).flatMap OwnedPacket.deleted = [] := by
  have hnone : (ServerNetworkOutgoing.sendSnapshotFullPacketUnreliable networkState peers (some p)
      bytes outcome).calls.countP ENetCall.isNewContext = 0 := by
    simp only [ServerNetworkOutgoing.sendSnapshotFullPacketUnreliable,
      ServerNetworkOutgoing.sendPacket, ServerNetworkOutgoing.submitPacket,
      ServerNetworkOutgoing.giveUpPacket, Bool.or_self, Bool.false_and, Bool.false_eq_true,
      if_false, disconnectLaterIf]
    split
    · rfl
    · split
      · rfl
      · split <;> rfl
  have hcalls : CallsSettled
      (ServerNetworkOutgoing.sendSnapshotFullPacketUnreliable networkState peers (some p) bytes
        outcome).calls :=
    ServerNetworkOutgoing.callsSettled_sendPacket (some p)
  have heven := contexts_of_calls m hcalls
  rw [hnone, List.replicate_zero] at heven
  exact ⟨hnone, (List.append_eq_nil_iff.mp heven.symm).1⟩

theorem ContextsInv.of_reach (hr : (serverWithContexts Peer platform).Reach (s, h) tr) :
    (server Peer platform).Reach s tr ∧ ContextsInv s h tr := by
  refine TraceMachine.Reach.invariant_withHistory (P := ContextsInv)
    ⟨.slnil, by simp [server, System.init, System.contextsInFlight],
      by simp [server, System.init], by simp [server, System.init]⟩ ?_ hr
  intro s h tr a s' es hr inv hs
  have hstep : s.step platform a = some (s', es) := hs
  cases System.step_cases hs with
  | @sendReliable outcome prepared m rest outgoing next =>
      have hcalls : CallsSettled (ServerNetworkOutgoing.handleReliableMessage
          s.networkState s.peers m outcome).calls :=
        ServerNetworkOutgoing.callsSettled_handleReliableMessage m
      refine inv.step hstep ?_ ?_ ?_
      · -- at most one context for the message
        have hle := List.replicate_sublist_replicate m.serial |>.mpr hcalls.newContexts_le
        simpa [Event.newContexts, reliableLog, Event.reliable] using hle
      · simp only [List.flatMap_singleton, Event.newContexts, System.freedPackets,
          Event.destroyedPackets, System.contextsInFlight, List.flatMap_append]
        rw [contexts_of_calls m hcalls, List.append_assoc]
        exact List.perm_append_comm.append_left _
      · intro owned howned
        rcases List.mem_append.mp howned with hold | hnew
        · exact Or.inl hold
        · obtain ⟨rfl, p, channel, hsend⟩ := OutgoingInv.mem_acceptedPackets hnew
          have hsettled : owned.packet ∈
              (ServerNetworkOutgoing.handleReliableMessage s.networkState s.peers owned.message
                outcome).calls.filterMap ENetCall.settledPacket :=
            List.mem_filterMap.mpr ⟨_, hsend, rfl⟩
          have hflags := flagsOfType_of_produced hr _ (mem_producedLog_of_next hr outgoing next)
          exact Or.inr ⟨hcalls.callbacks _ hsettled, userData_handleReliableMessage hflags hsend⟩
  | @sendSnapshot outcome p m bytes prepared sending =>
      obtain ⟨hnone, hdeleted⟩ := contexts_sendSnapshot s.networkState s.peers m p bytes outcome
      refine inv.keep hstep ?_ ?_ rfl
      · simp [Event.newContexts, hnone]
      · simpa [System.freedPackets, Event.destroyedPackets] using hdeleted
  | acknowledgeIgnored idle inFlight =>
      exact inv.freed hstep inFlight rfl (by simp [System.freedPackets, inFlight]) rfl
  | acknowledge idle inFlight =>
      exact inv.freed hstep inFlight rfl (by simp [System.freedPackets, inFlight]) rfl
  | release idle inFlight =>
      exact inv.freed hstep inFlight rfl (by simp [System.freedPackets, inFlight]) rfl
  | _ => exact inv.keep hstep rfl rfl rfl

end RcnetServer
