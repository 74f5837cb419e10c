/-
  RcnetServer.System.Sending

  The way of an outgoing message over whole runs.

  Reliable messages keep their order from the moment the simulation thread makes
  them: those a pass has handled, those the pass still holds, the queue and the
  outbox are, in this order, the reliable messages produced (`OutgoingInv`).  A
  packet ENet owns carries a context for the connection of its message
  (`ContextInv`).
-/

import RcnetServer.Lib.BatchQueue
import RcnetServer.System.Sessions

namespace RcnetServer

variable {Peer : Type}

-- ============================================================================
-- The logs of a trace
-- ============================================================================

namespace Event

/-- The messages the simulation thread made in this step. -/
@[simp] def produced : Event Peer → List SimulationToNetworkOUTMessage
  | .networkHandled _ out _ => out
  | .replyHandled _ _ out => out
  | .matchFlowChecked _ _ _ out => out
  | .snapshotsCreated _ out => out
  | _ => []

/-- The message pushed to the outgoing queue in this step. -/
@[simp] def outgoing : Event Peer → List SimulationToNetworkOUTMessage
  | .outgoingPushed m => [m]
  | _ => []

/-- The reliable message an outgoing pass handled in this step. -/
@[simp] def reliable : Event Peer → List SimulationToNetworkOUTMessage
  | .reliableHandled m _ => [m]
  | _ => []

end Event

/-- The messages the simulation thread has made, in order. -/
def producedLog (tr : List (Event Peer)) : List SimulationToNetworkOUTMessage :=
  tr.flatMap Event.produced

/-- The messages pushed to the outgoing queue, in order. -/
def outgoingLog (tr : List (Event Peer)) : List SimulationToNetworkOUTMessage :=
  tr.flatMap Event.outgoing

/-- The reliable messages the outgoing passes have handled, in order. -/
def reliableLog (tr : List (Event Peer)) : List SimulationToNetworkOUTMessage :=
  tr.flatMap Event.reliable

/-- The reliable messages of a list. -/
def onlyReliable (messages : List SimulationToNetworkOUTMessage) :
    List SimulationToNetworkOUTMessage :=
  messages.filter fun m => m.type.isReliable

section Append

variable (tr es : List (Event Peer)) (e : Event Peer)

@[simp] theorem producedLog_nil : producedLog ([] : List (Event Peer)) = [] := rfl
@[simp] theorem outgoingLog_nil : outgoingLog ([] : List (Event Peer)) = [] := rfl
@[simp] theorem reliableLog_nil : reliableLog ([] : List (Event Peer)) = [] := rfl
@[simp] theorem onlyReliable_nil : onlyReliable [] = [] := rfl

@[simp] theorem producedLog_append : producedLog (tr ++ es) = producedLog tr ++ producedLog es :=
  List.flatMap_append

@[simp] theorem outgoingLog_append : outgoingLog (tr ++ es) = outgoingLog tr ++ outgoingLog es :=
  List.flatMap_append

@[simp] theorem reliableLog_append : reliableLog (tr ++ es) = reliableLog tr ++ reliableLog es :=
  List.flatMap_append

@[simp] theorem onlyReliable_append (messages messages' : List SimulationToNetworkOUTMessage) :
    onlyReliable (messages ++ messages') = onlyReliable messages ++ onlyReliable messages' :=
  List.filter_append _ _

@[simp] theorem producedLog_cons : producedLog (e :: es) = e.produced ++ producedLog es := rfl

/-- What one event shows. -/
theorem producedLog_singleton : producedLog [e] = e.produced := by simp

@[simp] theorem outgoingLog_cons : outgoingLog (e :: es) = e.outgoing ++ outgoingLog es := rfl

@[simp] theorem reliableLog_cons : reliableLog (e :: es) = e.reliable ++ reliableLog es := rfl

end Append

/-- Numbering changes the number only. -/
theorem System.mem_stamp {start : Nat} {out : List SimulationToNetworkOUTMessage}
    {m : SimulationToNetworkOUTMessage} (h : m ∈ System.stamp start out) :
    ∃ m₀ ∈ out, ∃ serial, m = { m₀ with serial := serial } := by
  obtain ⟨i, hi, rfl⟩ := List.mem_mapIdx.mp h
  exact ⟨out[i], List.getElem_mem hi, start + i, rfl⟩

/-- Every message made gets a number. -/
theorem System.mem_stamp_of_mem (start : Nat) {out : List SimulationToNetworkOUTMessage}
    {m₀ : SimulationToNetworkOUTMessage} (h : m₀ ∈ out) :
    ∃ serial, { m₀ with serial := serial } ∈ System.stamp start out := by
  obtain ⟨i, hi, rfl⟩ := List.mem_iff_getElem.mp h
  exact ⟨start + i, List.mem_mapIdx.mpr ⟨i, hi, rfl⟩⟩

theorem System.stamp_append (start : Nat) (out out' : List SimulationToNetworkOUTMessage) :
    System.stamp start (out ++ out') =
      System.stamp start out ++ System.stamp (start + out.length) out' := by
  simp only [System.stamp, List.mapIdx_append, Nat.add_assoc, Nat.add_comm out.length]

/-- A snapshot is made for a session of the table. -/
theorem ServerSimulation.mem_createFullSnapshots {clock : Nat → UInt64}
    {networkState : NetworkState Peer} {currentTick : UInt64}
    {m : SimulationToNetworkOUTMessage}
    (h : m ∈ createFullSnapshotsForAllSessionsAndEnqueueForNetworkOutgoing clock networkState
      currentTick) :
    ∃ serverTimeNs, ∃ session ∈ UnorderedMap.values networkState.sessions,
      m = createFullSnapshotAndEnqueue currentTick serverTimeNs session := by
  obtain ⟨i, hi, rfl⟩ := List.mem_mapIdx.mp h
  exact ⟨clock i, _, List.getElem_mem _, rfl⟩

/-- The reliable messages the current pass still holds. -/
@[simp] def NetworkThread.reliableMessages : NetworkThread Peer → List SimulationToNetworkOUTMessage
  | .outgoing prepared => prepared.reliableMessages
  | .sendingSnapshot _ _ _ prepared => prepared.reliableMessages
  | _ => []

-- ============================================================================
-- Splitting a batch
-- ============================================================================

/-- Splitting keeps the reliable messages in order. -/
theorem splitReliable_reliableMessages (messages : List SimulationToNetworkOUTMessage) :
    (ServerNetworkOutgoing.splitReliableAndCoalesceUnreliableMessages
      messages).reliableMessages = onlyReliable messages := by
  have hfold : ∀ prepared : ServerNetworkOutgoingPreparedMessages,
      (messages.foldl ServerNetworkOutgoingPreparedMessages.add prepared).reliableMessages =
        prepared.reliableMessages ++ onlyReliable messages := by
    induction messages with
    | nil => simp
    | cons m rest ih =>
        intro prepared
        rw [List.foldl_cons, ih]
        cases hm : m.type.isReliable with
        | true => simp [ServerNetworkOutgoingPreparedMessages.add, onlyReliable, hm]
        | false =>
            have hkeep : (prepared.add m).reliableMessages = prepared.reliableMessages := by
              simp only [ServerNetworkOutgoingPreparedMessages.add, hm, Bool.false_eq_true,
                if_false]
              split
              · rfl
              · split <;> rfl
            simp [hkeep, onlyReliable, hm]
  exact (hfold {}).trans (List.nil_append _)

/-- What a pass keeps of an unreliable family; nothing of a reliable type. -/
def ServerNetworkOutgoingPreparedMessages.kept (prepared : ServerNetworkOutgoingPreparedMessages) :
    SimulationToNetworkOUTMessageType → UnorderedMap ConnectionId SimulationToNetworkOUTMessage
  | .serverSnapshotFullPacketUnreliable => prepared.lastSnapshotFullUnreliablePerConnectionId
  | .serverClockSyncPacketUnreliable => prepared.lastClockSyncUnreliablePerConnectionId
  | _ => ∅

/-- The messages of a type for a connection. -/
def ofFamily (type : SimulationToNetworkOUTMessageType) (c : ConnectionId)
    (batch : List SimulationToNetworkOUTMessage) : List SimulationToNetworkOUTMessage :=
  batch.filter fun m => m.type = type && m.connectionId = c

namespace ServerNetworkOutgoing

/-- One message enters its family, under its connection. -/
theorem kept_add (prepared : ServerNetworkOutgoingPreparedMessages)
    (m : SimulationToNetworkOUTMessage) {type : SimulationToNetworkOUTMessageType}
    (htype : type.isReliable = false) :
    (prepared.add m).kept type =
      if m.type = type then (prepared.kept type).insert m.connectionId m
      else prepared.kept type := by
  cases type <;> cases htype
  -- the two families, against the seven types a message can have
  all_goals
    obtain ⟨mtype, _, _, _, _, _⟩ := m
    cases mtype <;> rfl

/-- What a pass keeps is the last message of the family and connection. -/
theorem lookup_kept_split (batch : List SimulationToNetworkOUTMessage)
    {type : SimulationToNetworkOUTMessageType} (htype : type.isReliable = false)
    (c : ConnectionId) :
    ((splitReliableAndCoalesceUnreliableMessages batch).kept type).lookup c =
      (ofFamily type c batch).getLast? := by
  have hfold : ∀ prepared : ServerNetworkOutgoingPreparedMessages,
      (batch.foldl ServerNetworkOutgoingPreparedMessages.add prepared).kept type =
        (batch.filter fun m => m.type = type).foldl
          (fun kept m => AList.insert m.connectionId m kept) (prepared.kept type) := by
    induction batch with
    | nil => intro prepared; rfl
    | cons m rest ih =>
        intro prepared
        rw [List.foldl_cons, ih, kept_add prepared m htype]
        by_cases hm : m.type = type
        · rw [if_pos hm, List.filter_cons_of_pos (by simpa using hm), List.foldl_cons]
        · rw [if_neg hm, List.filter_cons_of_neg (by simpa using hm)]
  have hempty : AList.lookup c (({} : ServerNetworkOutgoingPreparedMessages).kept type) = none := by
    cases type <;> rfl
  have hfamily : ((batch.filter fun m => m.type = type).filter fun m => m.connectionId = c) =
      ofFamily type c batch := by
    rw [List.filter_filter]
    exact List.filter_congr fun m _ => Bool.and_comm _ _
  show AList.lookup c ((batch.foldl ServerNetworkOutgoingPreparedMessages.add {}).kept type) = _
  rw [hfold, UnorderedMap.lookup_foldl_insert, hempty, hfamily, Option.or_none]

end ServerNetworkOutgoing

variable [DecidableEq Peer]

-- ============================================================================
-- Where messages are made
-- ============================================================================

/-- The messages a step can make: the answer to a network message or to a backend
    reply, a match phase, or a snapshot. -/
inductive System.Produces (platform : Platform) (s : System Peer) :
    Action Peer → SimulationToNetworkOUTMessage → Prop
  | client {oracle : HelloOracle} {msg : NetworkINToSimulationMessage}
      {rest : List NetworkINToSimulationMessage} {m : SimulationToNetworkOUTMessage} {serial : Nat}
      (next : s.simulation.networkMessages = msg :: rest)
      (made : m ∈ (ServerSimulation.clientStep platform.kx oracle s.networkState msg
        (s.networkState.sessions.lookup msg.connectionId)).2.1) :
      Produces platform s (.handleNetwork oracle) { m with serial := serial }
  | reply {reply : HttpToSimulationMessage} {rest : List HttpToSimulationMessage}
      {m : SimulationToNetworkOUTMessage} {serial : Nat}
      (next : s.simulation.httpMessages = reply :: rest)
      (made : m ∈
        (ServerSimulation.handleAuthValidateTokenResponseMessage s.networkState reply).2) :
      Produces platform s .handleHttp { m with serial := serial }
  | matchFlow {order : Sessions} {clock : Nat → UInt64} {m : SimulationToNetworkOUTMessage}
      {serial : Nat} (perm : order.entries.Perm s.networkState.sessions.entries)
      (made : m ∈ (ServerSimulation.checkMatchFlow platform.engine platform.config clock
        { s.networkState with sessions := order } s.simulation.currentTick s.gameState).2) :
      Produces platform s (.checkMatchFlow order clock) { m with serial := serial }
  | snapshot {order : Sessions} {clock : Nat → UInt64} {m : SimulationToNetworkOUTMessage}
      {serial : Nat} (perm : order.entries.Perm s.networkState.sessions.entries)
      (made : m ∈
        ServerSimulation.createFullSnapshotsForAllSessionsAndEnqueueForNetworkOutgoing clock
          { s.networkState with sessions := order } s.simulation.currentTick) :
      Produces platform s (.createSnapshots order clock) { m with serial := serial }

/-- Every message made in a step is one of these. -/
theorem System.Steps.produces {platform : Platform} {s s' : System Peer} {a : Action Peer}
    {es : List (Event Peer)} (h : System.Steps platform s a s' es)
    {m : SimulationToNetworkOUTMessage} (hm : m ∈ producedLog es) :
    System.Produces platform s a m := by
  cases h with
  | @handleNetwork oracle msg rest next =>
      rw [producedLog_singleton] at hm
      obtain ⟨m₀, hm₀, serial, rfl⟩ := System.mem_stamp hm
      rw [(ServerSimulation.processNetworkIncoming_client platform.kx oracle s.networkState
        msg).2] at hm₀
      exact .client next hm₀
  | handleHttp _ next =>
      rw [producedLog_singleton] at hm
      obtain ⟨m₀, hm₀, serial, rfl⟩ := System.mem_stamp hm
      exact .reply next hm₀
  | checkMatchFlow _ _ _ _ perm =>
      rw [producedLog_singleton] at hm
      obtain ⟨m₀, hm₀, serial, rfl⟩ := System.mem_stamp hm
      exact .matchFlow perm hm₀
  | createSnapshots _ _ perm made =>
      rw [producedLog_singleton] at hm
      obtain ⟨m₀, hm₀, serial, rfl⟩ := System.mem_stamp hm
      rcases made with rfl | rfl
      · cases hm₀
      · exact .snapshot perm hm₀
  | _ => cases hm

-- ============================================================================
-- Order
-- ============================================================================

/-- Reliable messages are handled in the order they are made. -/
structure OutgoingInv (s : System Peer) (tr : List (Event Peer)) : Prop where
  fifo : onlyReliable (producedLog tr) =
    reliableLog tr ++ s.network.reliableMessages ++
      onlyReliable (s.simToNet ++ s.simulation.outbox)
  inFlight : ∀ owned ∈ s.inFlight, owned.message ∈ reliableLog tr

namespace OutgoingInv

omit [DecidableEq Peer] in
theorem init (platform : Platform) : OutgoingInv (System.init platform : System Peer) [] where
  fifo := rfl
  inFlight := by simp [System.init]

omit [DecidableEq Peer] in
/-- A packet ENet accepted for `m` is a packet made for `m`. -/
theorem mem_acceptedPackets {m : SimulationToNetworkOUTMessage} {calls : List (ENetCall Peer)}
    {owned : OwnedPacket Peer} (h : owned ∈ System.acceptedPackets m calls) :
    owned.message = m ∧ ∃ p channel, .peerSend p channel owned.packet ∈ calls := by
  obtain ⟨call, hcall, howned⟩ := List.mem_filterMap.mp h
  cases call with
  | peerSend p channel packet =>
      obtain rfl := Option.some.inj howned
      exact ⟨rfl, p, channel, hcall⟩
  | _ => cases howned

theorem step {platform : Platform} {s s' : System Peer} {a : Action Peer}
    {tr es : List (Event Peer)} (inv : OutgoingInv s tr) (h : System.Steps platform s a s' es) :
    OutgoingInv s' (tr ++ es) := by
  obtain ⟨hfifo, hflight⟩ := inv
  have herase : ∀ i, ∀ owned ∈ s.inFlight.eraseIdx i, owned.message ∈ reliableLog tr :=
    fun i owned howned => hflight owned (List.mem_of_mem_eraseIdx howned)
  cases h with
  | receive idle => exact ⟨by simpa [idle] using hfifo, by simpa using hflight⟩
  | networkPush pushing => exact ⟨by simpa [pushing] using hfifo, by simpa using hflight⟩
  | acknowledgeIgnored => exact ⟨by simpa using hfifo, by simpa using herase _⟩
  | acknowledge => exact ⟨by simpa using hfifo, by simpa using herase _⟩
  | release => exact ⟨by simpa using hfifo, by simpa using herase _⟩
  | beginOutgoing idle =>
      refine ⟨?_, by simpa using hflight⟩
      simpa [idle, splitReliable_reliableMessages] using hfifo
  | sendReliable outgoing next =>
      refine ⟨by simpa [outgoing, next] using hfifo, ?_⟩
      intro owned howned
      simp only [reliableLog_append, reliableLog_cons, reliableLog_nil, Event.reliable,
        List.append_nil, List.mem_append, List.mem_singleton]
      rcases List.mem_append.mp howned with howned | howned
      · exact Or.inl (hflight owned howned)
      · exact Or.inr (mem_acceptedPackets howned).1
  | skipSnapshot outgoing reliableDone =>
      refine ⟨?_, by simpa using hflight⟩
      simpa [outgoing, System.withoutSnapshot] using hfifo
  | patchSnapshot outgoing =>
      refine ⟨?_, by simpa using hflight⟩
      simpa [outgoing, System.withoutSnapshot] using hfifo
  | sendSnapshot sending => exact ⟨by simpa [sending] using hfifo, by simpa using hflight⟩
  | endOutgoing outgoing reliableDone =>
      exact ⟨by simpa [outgoing, reliableDone] using hfifo, by simpa using hflight⟩
  | handleNetwork => exact ⟨by simp [hfifo], by simpa using hflight⟩
  | handleHttp => exact ⟨by simp [hfifo], by simpa using hflight⟩
  | checkMatchFlow => exact ⟨by simp [hfifo], by simpa using hflight⟩
  | createSnapshots => exact ⟨by simp [hfifo], by simpa using hflight⟩
  | simulationPush next => exact ⟨by simpa [next] using hfifo, by simpa using hflight⟩
  | connect =>
      refine ⟨by simpa [System.connected] using hfifo, ?_⟩
      simpa [System.connected] using hflight
  | disconnect =>
      refine ⟨by simpa [System.disconnected] using hfifo, ?_⟩
      simpa [System.disconnected] using hflight
  | _ => exact ⟨by simpa using hfifo, by simpa using hflight⟩

theorem of_reach {platform : Platform} {s : System Peer} {tr : List (Event Peer)}
    (hr : (server Peer platform).Reach s tr) : OutgoingInv s tr :=
  TraceMachine.Run.invariant (P := OutgoingInv) (OutgoingInv.init platform)
    (fun _ _ _ _ _ _ inv _ hs => inv.step (System.step_cases hs)) hr

omit [DecidableEq Peer] in
/-- Nothing is sent that was not made. -/
theorem produced_of_reliableLog {s : System Peer} {tr : List (Event Peer)}
    (inv : OutgoingInv s tr) {m : SimulationToNetworkOUTMessage} (hm : m ∈ reliableLog tr) :
    m ∈ producedLog tr := by
  have hmem : m ∈ onlyReliable (producedLog tr) := by
    rw [inv.fifo]
    simp [hm]
  exact (List.mem_filter.mp hmem).1

end OutgoingInv

/-- The simulation thread pushes what it makes, in the same order. -/
theorem producedLog_eq {platform : Platform} {s : System Peer} {tr : List (Event Peer)}
    (hr : (server Peer platform).Reach s tr) :
    producedLog tr = outgoingLog tr ++ s.simulation.outbox := by
  refine TraceMachine.Run.invariant
    (P := fun s tr => producedLog tr = outgoingLog tr ++ s.simulation.outbox) rfl ?_ hr
  intro s tr a s' es _ ih _ hs
  cases System.step_cases hs with
  | handleNetwork => simp [ih]
  | handleHttp => simp [ih]
  | checkMatchFlow => simp [ih]
  | createSnapshots => simp [ih]
  | simulationPush next => simp [ih, next]
  | connect => simpa [System.connected] using ih
  | disconnect => simpa [System.disconnected] using ih
  | _ => simpa using ih

-- ============================================================================
-- Contexts
-- ============================================================================

/-- Contexts and the snapshot being sent belong to the connection of their
    message. -/
structure ContextInv (s : System Peer) : Prop where
  context : ∀ owned ∈ s.inFlight, ∀ context, owned.packet.userData = some context →
    context.connectionId = owned.message.connectionId ∧
      (context.disconnectAfterAck = true → owned.message.disconnectAfterAck = true) ∧
      (context.enableEncryptionAfterAck = true → owned.message.enableEncryptionAfterAck = true)
  snapshotPeer : ∀ p m bytes prepared, s.network = .sendingSnapshot p m bytes prepared →
    s.networkState.connectionIdToEnetPeer.lookup m.connectionId = some (some p)

namespace ContextInv

omit [DecidableEq Peer] in
theorem init (platform : Platform) : ContextInv (System.init platform : System Peer) where
  context := by simp [System.init]
  snapshotPeer := by simp [System.init]

omit [DecidableEq Peer] in
theorem findPeerByConnectionId_eq_some {networkState : NetworkState Peer} {c : ConnectionId}
    {p : Peer} (h : ServerNetworkOutgoing.findPeerByConnectionId networkState c = some p) :
    networkState.connectionIdToEnetPeer.lookup c = some (some p) := by
  unfold ServerNetworkOutgoing.findPeerByConnectionId at h
  split at h
  · cases h
  · rename_i peer hpeer
    rw [hpeer, h]

omit [DecidableEq Peer] in
/-- The packets of a reliable message carry contexts for its connection. -/
theorem of_handleReliableMessage {s : System Peer} {log : List NetworkINToSimulationMessage}
    (table : TableInv s.peers s.networkState log) {m : SimulationToNetworkOUTMessage}
    {outcome : SendOutcome} {owned : OwnedPacket Peer}
    (howned : owned ∈ System.acceptedPackets m
      (ServerNetworkOutgoing.handleReliableMessage s.networkState s.peers m outcome).calls)
    {context : ReliableAckActionContext Peer} (hcontext : owned.packet.userData = some context) :
    context.connectionId = owned.message.connectionId ∧
      (context.disconnectAfterAck = true → owned.message.disconnectAfterAck = true) ∧
      (context.enableEncryptionAfterAck = true →
        owned.message.enableEncryptionAfterAck = true) := by
  obtain ⟨hmessage, p, channel, hsend⟩ := OutgoingInv.mem_acceptedPackets howned
  obtain ⟨hpeer, disc, enable, _, hsent, hdisc, henable⟩ :=
    ServerNetworkOutgoing.peerSend_mem_handleReliableMessage hsend
  obtain ⟨_, hid, hcdisc, hcenable⟩ := hsent.context context hcontext
  -- the slot the table gives for `m` carries the id of `m`
  obtain ⟨hc0, hdata⟩ := (table.bound _ p).mp (findPeerByConnectionId_eq_some hpeer)
  rw [tryGetConnectionIdFromPeer_of_data hdata hc0] at hid
  rw [hmessage]
  refine ⟨(Option.some.inj hid).symm, ?_, ?_⟩
  · intro h
    exact hdisc (hcdisc ▸ h)
  · intro h
    exact henable (hcenable ▸ h)

theorem step {platform : Platform} {s s' : System Peer} {a : Action Peer}
    {es : List (Event Peer)} {log : List NetworkINToSimulationMessage} (inv : ContextInv s)
    (table : TableInv s.peers s.networkState log) (h : System.Steps platform s a s' es) :
    ContextInv s' := by
  obtain ⟨hcontext, hsnapshot⟩ := inv
  have herase : ∀ i, ∀ owned ∈ s.inFlight.eraseIdx i, ∀ context,
      owned.packet.userData = some context →
        context.connectionId = owned.message.connectionId ∧
        (context.disconnectAfterAck = true → owned.message.disconnectAfterAck = true) ∧
        (context.enableEncryptionAfterAck = true →
          owned.message.enableEncryptionAfterAck = true) :=
    fun i owned howned => hcontext owned (List.mem_of_mem_eraseIdx howned)
  cases h with
  | connect idle => exact ⟨hcontext, by simp [System.connected, idle]⟩
  | disconnect idle => exact ⟨hcontext, by simp [System.disconnected, idle]⟩
  | disconnectUnknown idle => exact ⟨hcontext, by simp [idle]⟩
  | acknowledgeIgnored idle => exact ⟨herase _, by simp [idle]⟩
  | acknowledge idle => exact ⟨herase _, by simp [idle]⟩
  | release idle => exact ⟨herase _, by simp [idle]⟩
  | sendReliable =>
      refine ⟨?_, by simp⟩
      intro owned howned context huser
      rcases List.mem_append.mp howned with howned | howned
      · exact hcontext owned howned context huser
      · exact of_handleReliableMessage table howned huser
  | patchSnapshot _ _ _ peer =>
      refine ⟨hcontext, ?_⟩
      intro p m bytes prepared hnetwork
      simp only [NetworkThread.sendingSnapshot.injEq] at hnetwork
      obtain ⟨rfl, rfl, _, _⟩ := hnetwork
      exact findPeerByConnectionId_eq_some peer
  | handleNetwork => exact ⟨hcontext, hsnapshot⟩
  | handleHttp => exact ⟨hcontext, hsnapshot⟩
  | checkMatchFlow => exact ⟨hcontext, hsnapshot⟩
  | createSnapshots => exact ⟨hcontext, hsnapshot⟩
  | _ => first | exact ⟨hcontext, hsnapshot⟩ | exact ⟨hcontext, by simp⟩

theorem of_reach {platform : Platform} {s : System Peer} {tr : List (Event Peer)}
    (hr : (server Peer platform).Reach s tr) (few : FewConnects tr) : ContextInv s :=
  TraceMachine.Run.invariant_of_prefix (P := fun s _ => ContextInv s) (B := FewConnects)
    (fun _ _ h => h.of_append) (ContextInv.init platform)
    (fun _ _ _ _ _ hr inv _ hs few =>
      inv.step (TableInv.of_reach hr.reach few.of_append) (System.step_cases hs))
    hr few

end ContextInv

end RcnetServer
