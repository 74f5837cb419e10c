/-
  RcnetServer.Properties.GettingReady

  A client that the backend has not refused can get ready.

  However far the threads have got and whatever the other clients have done: a
  connected client that has not been refused, above all one that is not encrypted yet,
  can still get ready, with session keys derived from a key of its own.  Between the
  packets it sends for this the server comes to rest; a packet that passes its guard is
  handled by the next tick (`Online.packet_settles`), and what the server does while no
  packet waits takes nothing back from a session (`ClientSession.Kept`).

  ENet lets no packet through to or from a slot that it has been asked to disconnect
  (`Outside.obliging`, `System.WithClients`).  The way to readiness that is built here
  asks for no further disconnect (`System.Cooperates`), so the clients that may stay can
  do so to its end.
-/

import RcnetServer.Network.Parsers
import RcnetServer.Properties.Admission
import RcnetServer.Properties.Quiescence
import RcnetServer.Properties.Refusals
import RcnetServer.System.KeyMaterial
import RcnetServer.System.Rejections

namespace RcnetServer

variable {Peer : Type}

-- ============================================================================
-- The server and its clients
-- ============================================================================

/-- The slot that the packet which is sent next is for. -/
def System.nextSlot (s : System Peer) : Option Peer :=
  match s.network with
  | .outgoing prepared =>
      match prepared.reliableMessages with
      | [] => none
      | m :: _ => ServerNetworkOutgoing.findPeerByConnectionId s.networkState m.connectionId
  | .sendingSnapshot p _ _ _ => some p
  | _ => none

/-- There is memory, and ENet takes every packet but those for slots that are leaving;
    hellos are signed, and the backend knows every token. -/
def Outside.obliging (leaving : List Peer) : Outside Peer where
  Sends s outcome := outcome.packetCreated = true ∧ outcome.contextAllocated = true ∧
    (outcome.sendResult < 0 ↔ ∃ p ∈ leaving, s.nextSlot = some p)
  Signs _ oracle := oracle = signingOracle
  Replies _ response := response.isValid = true
  sends s := by
    by_cases h : ∃ p ∈ leaving, s.nextSlot = some p
    · exact ⟨{ sendResult := -1 }, rfl, rfl, by simpa using h⟩
    · exact ⟨{}, rfl, rfl, by simpa using h⟩
  signs _ := ⟨signingOracle, rfl⟩
  replies _ := ⟨{ isValid := true }, rfl⟩

/-- What the server does by itself, a packet of one of `clients`, or an ACK of one; of a slot
    that is leaving no packet is delivered. -/
inductive System.WithClients (leaving : List Peer) (clients : Peer → Prop) (s : System Peer) :
    Action Peer → Prop
  | byServer {a : Action Peer} (h : System.Unhindered (.obliging leaving) s a) :
      WithClients leaving clients s a
  | packet {p : Peer} (client : clients p) (stays : p ∉ leaving) (channelID : UInt8)
      (packet : List UInt8) : WithClients leaving clients s
        (.enetEvent { type := .receive, peer := some p, channelID, packet })
  | acknowledge {p : Peer} {i : Nat} {owned : OwnedPacket Peer}
      {context : ReliableAckActionContext Peer} (client : clients p)
      (inFlight : s.inFlight[i]? = some owned) (userData : owned.packet.userData = some context)
      (peer : context.peer = some p) : WithClients leaving clients s (.acknowledge i)

variable [DecidableEq Peer] {platform : Platform} {s s' : System Peer} {a : Action Peer}
  {tr es : List (Event Peer)} {leaving : List Peer} {clients : Peer → Prop} {c : ConnectionId}
  {p : Peer}

/-- The same, where the packets are let in and no ACK asks for a disconnect. -/
inductive System.Cooperates (leaving : List Peer) (clients : Peer → Prop) (s : System Peer) :
    Action Peer → Prop
  | byServer {a : Action Peer} (h : System.Unhindered (.obliging leaving) s a) :
      Cooperates leaving clients s a
  | packet {p : Peer} {channelID : UInt8} {packet : List UInt8}
      {m : NetworkINToSimulationMessage} (client : clients p) (stays : p ∉ leaving)
      (pushed : ServerNetworkIncoming.eventHandleReceive
        { type := .receive, peer := some p, channelID, packet } s.networkState s.peers =
          .push m) : Cooperates leaving clients s
        (.enetEvent { type := .receive, peer := some p, channelID, packet })
  | acknowledge {p : Peer} {i : Nat} {owned : OwnedPacket Peer}
      {context : ReliableAckActionContext Peer} (client : clients p)
      (inFlight : s.inFlight[i]? = some owned) (userData : owned.packet.userData = some context)
      (peer : context.peer = some p) (keeps : context.disconnectAfterAck = false) :
      Cooperates leaving clients s (.acknowledge i)

omit [DecidableEq Peer] in
/-- It matters only who is leaving. -/
theorem System.WithClients.mono {leaving' : List Peer}
    (hsame : ∀ q, q ∈ leaving' ↔ q ∈ leaving) (h : s.WithClients leaving clients a) :
    s.WithClients leaving' clients a := by
  cases h with
  | packet client stays => exact .packet client (mt (hsame _).mp stays) _ _
  | acknowledge client inFlight userData peer =>
      exact .acknowledge client inFlight userData peer
  | byServer h =>
      refine .byServer ⟨h.1, ?_⟩
      have hanswered := h.2
      simpa only [System.Answered, Outside.obliging, hsame] using hanswered

theorem System.Cooperates.withClients (h : s.Cooperates leaving clients a) :
    s.WithClients leaving clients a := by
  cases h with
  | byServer h => exact .byServer h
  | packet client stays => exact .packet client stays _ _
  | acknowledge client inFlight userData peer =>
      exact .acknowledge client inFlight userData peer

omit [DecidableEq Peer] in
/-- The server does not make ENet events happen. -/
theorem Action.OfServer.not_enetEvent {event : ENetEvent Peer} :
    ¬ (Action.enetEvent event).OfServer := by
  rintro (h | _ | _)
  rcases h with h | h | h <;> cases h

omit [DecidableEq Peer] in
theorem Action.OfServer.not_acknowledge {i : Nat} :
    ¬ (Action.acknowledge i : Action Peer).OfServer := by
  rintro (h | _ | _)
  rcases h with h | h | h <;> cases h

/-- Only the handlers of ENet events touch the connection table, and only they bring
    messages in. -/
theorem System.Steps.table_kept (h : System.Steps platform s a s' es)
    (ha : ∀ event, a ≠ .enetEvent event) :
    s'.networkState.connectionIdToEnetPeer = s.networkState.connectionIdToEnetPeer ∧
      incomingLog es = [] := by
  cases h with
  | eventDropped => exact absurd rfl (ha _)
  | protocolMismatch => exact absurd rfl (ha _)
  | connect => exact absurd rfl (ha _)
  | disconnectUnknown => exact absurd rfl (ha _)
  | disconnect => exact absurd rfl (ha _)
  | receive => exact absurd rfl (ha _)
  | @acknowledge _ _ context =>
      refine ⟨?_, rfl⟩
      cases context.enableEncryptionAfterAck <;> rfl
  | _ => exact ⟨rfl, rfl⟩

/-- The server and its clients keep the connection table, and nobody connects. -/
theorem table_kept_of_withClients (ha : s.WithClients leaving clients a)
    (hs : (server Peer platform).step s a = some (s', es)) :
    s'.networkState.connectionIdToEnetPeer = s.networkState.connectionIdToEnetPeer ∧
      connectCount (incomingLog es) = 0 := by
  cases ha with
  | byServer ha =>
      have hevent : ∀ event, a ≠ .enetEvent event :=
        fun _ hevent => Action.OfServer.not_enetEvent (hevent ▸ ha.1)
      obtain ⟨htable, hsilent⟩ := (System.step_cases hs).table_kept hevent
      exact ⟨htable, by rw [hsilent, connectCount_nil]⟩
  | @acknowledge _ i =>
      have h : System.Steps platform s (.acknowledge i) s' es := System.step_cases hs
      obtain ⟨htable, hsilent⟩ := h.table_kept (by simp)
      exact ⟨htable, by rw [hsilent, connectCount_nil]⟩
  | packet client stays channelID packet =>
      obtain ⟨_, hevent⟩ := System.enetEvent_cases hs
      cases hevent with
      | connect _ type => cases type
      | disconnectUnknown _ type => rcases type with type | type <;> cases type
      | disconnect _ type => rcases type with type | type <;> cases type
      | receive _ pushed =>
          have hkind := (ServerNetworkIncoming.eventHandleReceive_push pushed).2.2.kind
          exact ⟨rfl, by simp [connectCount_singleton, hkind]⟩
      | _ => exact ⟨rfl, rfl⟩

omit [DecidableEq Peer] in
/-- As long as nobody connects there are few connections. -/
theorem FewConnects.append (few : FewConnects tr) (hnone : connectCount (incomingLog es) = 0) :
    FewConnects (tr ++ es) := by
  simpa [FewConnects, hnone] using few

/-- Slot `p` is connected as `c` and not leaving, in a run with few connections, and its
    client is one of `clients`. -/
structure Online (platform : Platform) (leaving : List Peer) (clients : Peer → Prop)
    (c : ConnectionId) (p : Peer) (s : System Peer) (tr : List (Event Peer)) : Prop where
  reach : (server Peer platform).Reach s tr
  few : FewConnects tr
  table : s.networkState.connectionIdToEnetPeer.lookup c = some (some p)
  client : clients p
  stays : p ∉ leaving

namespace Online

/-- Nothing the server and a client do between them takes a connection away. -/
theorem step (online : Online platform leaving clients c p s tr)
    (ha : s.Cooperates leaving clients a)
    (hs : (server Peer platform).step s a = some (s', es)) :
    Online platform leaving clients c p s' (tr ++ es) := by
  obtain ⟨htable, hnone⟩ := table_kept_of_withClients ha.withClients hs
  exact ⟨online.reach.next hs, online.few.append hnone, htable ▸ online.table, online.client,
    online.stays⟩

/-- One stage after another, each from wherever the last one has ended. -/
theorem trans (online : Online platform leaving clients c p s tr) {D D' : System Peer → Prop}
    (h : (server Peer platform).Settles (System.Cooperates leaving clients) s D)
    (h' : ∀ s tr, Online platform leaving clients c p s tr → D s →
      (server Peer platform).Settles (System.Cooperates leaving clients) s D') :
    (server Peer platform).Settles (System.Cooperates leaving clients) s D' :=
  h.trans_keeping (fun _ _ _ _ _ online ha hs => online.step ha hs) online h'

theorem bound (online : Online platform leaving clients c p s tr) :
    BoundPeer s.networkState s.peers p c := by
  obtain ⟨hne, hdata⟩ := ((TableInv.of_reach online.reach online.few).bound c p).mp online.table
  exact ⟨hne, tryGetConnectionIdFromPeer_of_data hdata hne, online.table⟩

theorem peer (online : Online platform leaving clients c p s tr) :
    ServerNetworkOutgoing.findPeerByConnectionId s.networkState c = some p := by
  rw [ServerNetworkOutgoing.findPeerByConnectionId, online.table]

end Online

-- ============================================================================
-- Who stays
-- ============================================================================

section Stays

variable {networkState : NetworkState Peer} {peers : ENetPeers Peer} {q : Peer}
  {channel : NetworkChannel} {bytes : List UInt8} {flags : UInt32}
  {disconnectAfterAck enableEncryptionAfterAck requireValidatedSession : Bool}
  {outcome : SendOutcome} {call : ENetCall Peer}

omit [DecidableEq Peer] in
/-- A packet that is given up schedules a disconnect only if it was to do so. -/
theorem ServerNetworkOutgoing.disconnects_giveUpPacket {made : List (ENetCall Peer)}
    {packet : ENetPacket Peer} (hmade : ∀ call ∈ made, call.disconnectedPeer = none)
    (hcall : call ∈ (giveUpPacket made disconnectAfterAck p packet).calls)
    (hq : call.disconnectedPeer = some q) : disconnectAfterAck = true ∧ q = p := by
  simp only [giveUpPacket, List.mem_append, List.mem_singleton] at hcall
  rcases hcall with (hcall | hcall) | rfl
  · cases (hmade call hcall).symm.trans hq
  · cases disconnectAfterAck with
    | false => cases hcall
    | true =>
        obtain rfl := List.mem_singleton.mp hcall
        exact ⟨rfl, (Option.some.inj hq).symm⟩
  · cases hq

omit [DecidableEq Peer] in
/-- So does one that is handed to ENet, and then ENet has refused it. -/
theorem ServerNetworkOutgoing.disconnects_submitPacket {made : List (ENetCall Peer)}
    {packet : ENetPacket Peer} (hmade : ∀ call ∈ made, call.disconnectedPeer = none)
    (hcall : call ∈ (submitPacket made disconnectAfterAck p channel packet outcome).calls)
    (hq : call.disconnectedPeer = some q) :
    (disconnectAfterAck = true ∧ q = p) ∧ outcome.sendResult < 0 := by
  unfold submitPacket at hcall
  split at hcall
  · exact ⟨disconnects_giveUpPacket hmade hcall hq, ‹_›⟩
  · rcases List.mem_append.mp hcall with hcall | hcall
    · cases (hmade call hcall).symm.trans hq
    · obtain rfl := List.mem_singleton.mp hcall
      cases hq

omit [DecidableEq Peer] in
/-- A send schedules a disconnect only if it is asked for one, and the ACK cannot be
    waited for. -/
theorem ServerNetworkOutgoing.disconnects_sendPacket
    (hcall : call ∈ (sendPacket networkState peers (some p) channel bytes flags
      disconnectAfterAck enableEncryptionAfterAck requireValidatedSession outcome).calls)
    (hq : call.disconnectedPeer = some q) :
    disconnectAfterAck = true ∧ q = p ∧ (outcome.contextAllocated = false ∨
      outcome.sendResult < 0 ∨ tryGetConnectionIdFromPeer peers (some p) = none) := by
  have hpacket : ∀ call ∈ ([.packetCreate] : List (ENetCall Peer)),
      call.disconnectedPeer = none := by
    simp [ENetCall.disconnectedPeer]
  have hcontext : ∀ call ∈ ([.packetCreate, .newContext] : List (ENetCall Peer)),
      call.disconnectedPeer = none := by
    simp [ENetCall.disconnectedPeer]
  simp only [sendPacket] at hcall
  split at hcall
  · cases hcall
  · split at hcall
    · cases hcall
    · split at hcall
      · split at hcall
        · obtain ⟨hasked, rfl⟩ := disconnects_giveUpPacket hpacket hcall hq
          exact ⟨hasked, rfl, Or.inr (Or.inr ‹_›)⟩
        · split at hcall
          · rename_i hallocated
            obtain ⟨hasked, rfl⟩ := disconnects_giveUpPacket hpacket hcall hq
            exact ⟨hasked, rfl, Or.inl (by simpa using hallocated)⟩
          · obtain ⟨⟨hasked, rfl⟩, hrefused⟩ := disconnects_submitPacket hcontext hcall hq
            exact ⟨hasked, rfl, Or.inr (Or.inl hrefused)⟩
      · obtain ⟨⟨hasked, rfl⟩, hrefused⟩ := disconnects_submitPacket hpacket hcall hq
        exact ⟨hasked, rfl, Or.inr (Or.inl hrefused)⟩

omit [DecidableEq Peer] in
/-- So does the pass for a reliable message, and then for the slot of its connection. -/
theorem ServerNetworkOutgoing.disconnects_handleReliableMessage
    {m : SimulationToNetworkOUTMessage}
    (hcall : call ∈ (handleReliableMessage networkState peers m outcome).calls)
    (hq : call.disconnectedPeer = some q) :
    findPeerByConnectionId networkState m.connectionId = some q ∧
      (outcome.contextAllocated = false ∨ outcome.sendResult < 0 ∨
        tryGetConnectionIdFromPeer peers (some q) = none) := by
  unfold handleReliableMessage at hcall
  split at hcall
  · cases hcall
  · rename_i p hp
    split at hcall
    case h_6 => cases hcall
    all_goals
      obtain ⟨-, rfl, hwhy⟩ := disconnects_sendPacket hcall hq
      exact ⟨hp, hwhy⟩

end Stays

/-- Where the clients cooperate, no disconnect is scheduled but of slots that are leaving
    already, and no slot connects. -/
theorem System.Cooperates.nobody_leaves (ha : s.Cooperates leaving clients a)
    (hr : (server Peer platform).Reach s tr) (few : FewConnects tr)
    (hs : (server Peer platform).step s a = some (s', es)) :
    (∀ q ∈ es.flatMap Event.disconnectedPeers, q ∈ leaving) ∧ s'.peers = s.peers := by
  cases ha with
  | @packet p channelID packet m client stays pushed =>
      simp only [server, System.step, System.enetEvent, System.isPossibleEvent, pushed] at hs
      split at hs
      · cases hs
        exact ⟨by simp [Event.disconnectedPeers], rfl⟩
      · cases hs
  | @acknowledge p i owned context client inFlight userData peer keeps =>
      have h : System.Steps platform s (.acknowledge i) s' es := System.step_cases hs
      cases h with
      | acknowledgeIgnored => exact ⟨by simp [Event.disconnectedPeers], rfl⟩
      | acknowledge _ inFlight' userData' =>
          obtain rfl := Option.some.inj (inFlight.symm.trans inFlight')
          obtain rfl := Option.some.inj (userData.symm.trans userData')
          exact ⟨by simp [Event.disconnectedPeers, keeps, disconnectLaterIf], rfl⟩
  | byServer ha =>
      have h := System.step_cases hs
      cases h with
      | connect => exact absurd ha.1 Action.OfServer.not_enetEvent
      | disconnectUnknown => exact absurd ha.1 Action.OfServer.not_enetEvent
      | disconnect => exact absurd ha.1 Action.OfServer.not_enetEvent
      | protocolMismatch => exact absurd ha.1 Action.OfServer.not_enetEvent
      | acknowledge => exact absurd ha.1 Action.OfServer.not_acknowledge
      | @sendReliable outcome prepared m rest outgoing next =>
          refine ⟨fun q hq => ?_, rfl⟩
          obtain ⟨call, hcall, hq⟩ : ∃ call ∈ (ServerNetworkOutgoing.handleReliableMessage
              s.networkState s.peers m outcome).calls, call.disconnectedPeer = some q := by
            simpa [Event.disconnectedPeers] using hq
          obtain ⟨hslot, hwhy⟩ :=
            ServerNetworkOutgoing.disconnects_handleReliableMessage hcall hq
          obtain ⟨-, hallocated, hrefuses⟩ := ha.2
          rcases hwhy with hnone | hrefused | hunbound
          · cases hallocated.symm.trans hnone
          · -- ENet refuses only what is for a slot that is leaving
            obtain ⟨p, hp, hnext⟩ := hrefuses.mp hrefused
            simp only [System.nextSlot, outgoing, next, hslot] at hnext
            exact Option.some.inj hnext ▸ hp
          · -- a slot of the table carries its id
            obtain ⟨hne, hdata⟩ := ((TableInv.of_reach hr few).bound m.connectionId q).mp
              (ContextInv.findPeerByConnectionId_eq_some hslot)
            cases hunbound.symm.trans (tryGetConnectionIdFromPeer_of_data hdata hne)
      | @sendSnapshot outcome p m bytes prepared sending =>
          refine ⟨fun q hq => ?_, rfl⟩
          obtain ⟨call, hcall, hq⟩ : ∃ call ∈
              (ServerNetworkOutgoing.sendSnapshotFullPacketUnreliable s.networkState s.peers
                (some p) bytes outcome).calls, call.disconnectedPeer = some q := by
            simpa [Event.disconnectedPeers] using hq
          cases (ServerNetworkOutgoing.disconnects_sendPacket hcall hq).1
      | _ => exact ⟨by simp [Event.disconnectedPeers], rfl⟩

-- ============================================================================
-- While no packet waits
-- ============================================================================

/-- What a session keeps while nothing is handled for it but a valid reply. -/
structure ClientSession.Kept (x y : ClientSession) : Prop where
  connected : y.isTransportConnected = x.isTransportConnected
  established : y.isSecureSessionEstablished = x.isSecureSessionEstablished
  encrypted : y.isPacketEncryptionEnabled = x.isPacketEncryptionEnabled
  keys : y.keyMaterial = x.keyMaterial
  status : y.authStatus = x.authStatus ∨ y.authStatus = .valid

/-- No packet waits to be handled, and no refusal to be applied. -/
structure System.Undisturbed (s : System Peer) : Prop where
  undelivered : s.undelivered = []
  granted : ∀ reply ∈ s.simulation.httpMessages ++ s.httpToSim,
    reply.authTokenVerificationResponse.isValid = true

/-- The server, working by itself, stays undisturbed. -/
theorem System.Undisturbed.step (undisturbed : s.Undisturbed)
    (hr : (server Peer platform).Reach s tr) (ha : System.Unhindered (.obliging leaving) s a)
    (hs : (server Peer platform).step s a = some (s', es)) : s'.Undisturbed := by
  have h := System.step_cases hs
  refine ⟨List.eq_nil_iff_forall_not_mem.mpr fun m hm => ?_, ?_⟩
  · rcases mem_undelivered hr (hr.next hs) hm with hold | hnew
    · rw [undisturbed.undelivered] at hold
      cases hold
    · rw [server_silent h ha.1] at hnew
      cases hnew
  · intro reply hreply
    rcases h.reply_before hreply with hold | rfl
    · exact undisturbed.granted reply hold
    · exact ha.2

/-- And takes nothing back from a session. -/
theorem System.Undisturbed.session (undisturbed : s.Undisturbed)
    (ha : System.Unhindered (.obliging leaving) s a)
    (hs : (server Peer platform).step s a = some (s', es)) {x : ClientSession}
    (hx : s.networkState.sessions.lookup c = some x) :
    ∃ y, s'.networkState.sessions.lookup c = some y ∧ x.Kept y := by
  have hchange := (System.step_cases hs).session c
  generalize s'.networkState.sessions.lookup c = session? at hchange
  cases hchange with
  | same kept => exact ⟨x, kept.trans hx, rfl, rfl, rfl, rfl, Or.inl rfl⟩
  | handled _ next =>
      have hwaits := System.mem_undelivered_of_next next
      rw [undisturbed.undelivered] at hwaits
      cases hwaits
  | @replied reply rest _ _ next found =>
      obtain rfl := Option.some.inj (found.symm.trans hx)
      have hvalid := undisturbed.granted reply (by simp [next])
      simp only [ClientSession.applyAuthResponse, hvalid, if_true]
      exact ⟨_, rfl, rfl, rfl, rfl, rfl, Or.inr rfl⟩
  | encrypted => exact absurd ha.1 Action.OfServer.not_acknowledge
  | snapshot found =>
      obtain rfl := Option.some.inj (found.symm.trans hx)
      exact ⟨_, rfl, rfl, rfl, rfl, rfl, Or.inl rfl⟩

theorem ClientSession.Kept.trans {x y z : ClientSession} (h : x.Kept y) (h' : y.Kept z) :
    x.Kept z where
  connected := h'.connected.trans h.connected
  established := h'.established.trans h.established
  encrypted := h'.encrypted.trans h.encrypted
  keys := h'.keys.trans h.keys
  status := h'.status.elim (fun same => h.status.imp same.trans same.trans) Or.inr

/-- The server comes to rest, and what it keeps on the way still holds. -/
theorem Online.keeping_settles (online : Online platform leaving clients c p s tr)
    {I : System Peer → Prop}
    (keep : ∀ s tr a s' es, (server Peer platform).Reach s tr → I s →
      System.Unhindered (.obliging leaving) s a →
      (server Peer platform).step s a = some (s', es) → I s') (hs : I s) :
    (server Peer platform).Settles (System.Cooperates leaving clients) s
      fun s' => s'.AtRest ∧ I s' := by
  have hsettles : (server Peer platform).Settles (System.Unhindered (.obliging leaving)) s
      System.AtRest := settles_atRest (.obliging leaving) s
  obtain ⟨es, s₁, hp, hrest⟩ := hsettles
  have hkept := hp.invariant (P := fun s tr => (server Peer platform).Reach s tr ∧ I s)
    (fun _ _ _ _ _ h ha hs => ⟨h.1.next hs, keep _ _ _ _ _ h.1 h.2 ha hs⟩) ⟨online.reach, hs⟩
  exact ⟨es, s₁, hp.mono fun _ _ ha => .byServer ha, hrest, hkept.2⟩

/-- So a session keeps what it has. -/
theorem Online.rest_settles (online : Online platform leaving clients c p s tr)
    (undisturbed : s.Undisturbed) {x : ClientSession} (hx : s.networkState.sessions.lookup c = some x) :
    (server Peer platform).Settles (System.Cooperates leaving clients) s fun s' =>
      s'.AtRest ∧ s'.Undisturbed ∧
        ∃ y, s'.networkState.sessions.lookup c = some y ∧ x.Kept y := by
  refine online.keeping_settles ?_ ⟨undisturbed, x, hx, rfl, rfl, rfl, rfl, Or.inl rfl⟩
  rintro s tr a s' es hr ⟨undisturbed, y, hy, hxy⟩ ha hs
  obtain ⟨z, hz, hyz⟩ := undisturbed.session ha hs hy
  exact ⟨undisturbed.step hr ha hs, z, hz, hxy.trans hyz⟩

-- ============================================================================
-- One packet
-- ============================================================================

omit [DecidableEq Peer] in
/-- The server at rest, when a tick has handled `m` and not pushed anything yet. -/
def System.handling (platform : Platform) (s : System Peer) (m : NetworkINToSimulationMessage) :
    System Peer :=
  let result := ServerSimulation.processNetworkIncoming platform.kx signingOracle s.networkState m
  let handled : System Peer :=
    { s with
      networkState := result.1
      netToSim := []
      httpToSim := []
      network := .idle
      simulation :=
        { s.simulation with
          phase := .dispatch
          networkMessages := []
          httpMessages := []
          httpOutbox := result.2.2 } }
  handled.produce result.2.1

/-- A packet of the client that is admitted at rest is handled by the next tick. -/
theorem Online.packet_settles (online : Online platform leaving clients c p s tr) (rest : s.AtRest)
    {channelID : UInt8} {packet : List UInt8} {m : NetworkINToSimulationMessage}
    (admitted : ServerNetworkIncoming.Admitted
      { type := .receive, peer := some p, channelID, packet } s.networkState.sessions c m) :
    (server Peer platform).Settles (System.Cooperates leaving clients) s
      (· = s.handling platform m) := by
  obtain ⟨hne, hdata⟩ := ((TableInv.of_reach online.reach online.few).bound c p).mp online.table
  have hsent : ServerNetworkIncoming.SentBy
      { type := .receive, peer := some p, channelID, packet } s.networkState s.peers c :=
    ⟨p, rfl, by rw [hdata, dataOfConnectionId_toUInt32], hne, online.table⟩
  have hreceived := ServerNetworkIncoming.eventHandleReceive_eq_push_iff.mpr ⟨c, hsent, admitted⟩
  have hreceive : (server Peer platform).step s
      (.enetEvent { type := .receive, peer := some p, channelID, packet }) = some
        ({ s with network := .pushing m },
          [.incoming m (s.networkState.sessions.lookup m.connectionId)]) := by
    simp [server, System.step, System.enetEvent, System.isPossibleEvent, rest.network,
      hreceived]
  refine .of_step (.packet online.client online.stays hreceived) hreceive ?_
  have hpush : (server Peer platform).step { s with network := .pushing m } .networkPush = some
      ({ s with network := .idle, netToSim := [m] }, [.networkPushed m]) := by
    simp [server, System.step, System.networkPush, rest.netToSim]
  refine .of_step (.byServer ⟨.work (Or.inl .networkPush), trivial⟩) hpush ?_
  have hbegins : (server Peer platform).Settles (System.Unhindered (.obliging leaving)) _ _ :=
    tick_begins (s := { s with network := .idle, netToSim := [m] }) rest.tick (UInt64.le_refl _)
  refine (hbegins.mono fun _ _ ha => .byServer ha).trans ?_
  rintro _ rfl
  have hhandle : (server Peer platform).step
      (System.dispatching { s with network := .idle, netToSim := [m] } s.simulation.currentTick)
      (.handleNetwork signingOracle) = some
        (s.handling platform m,
          [.networkHandled m
            (System.stamp s.producedCount (ServerSimulation.processNetworkIncoming platform.kx
              signingOracle s.networkState m).2.1)
            (ServerSimulation.processNetworkIncoming platform.kx signingOracle s.networkState
              m).2.2]) := by
    simp [server, System.step, System.handleNetwork, System.simulationHasPushed, rest.tick.pushed,
      rest.httpToSim, System.handling, System.dispatching]
  exact .of_step (.byServer ⟨.work (Or.inr (Or.inl (.handleNetwork _))), rfl⟩) hhandle
    (.of_done rfl)

omit [DecidableEq Peer] in
theorem System.handling_undisturbed (m : NetworkINToSimulationMessage) :
    (s.handling platform m).Undisturbed where
  undelivered := rfl
  granted := by simp [System.handling]

omit [DecidableEq Peer] in
theorem System.lookup_handling (platform : Platform) {m : NetworkINToSimulationMessage}
    {x : ClientSession} (own : m.connectionId = c)
    (hx : s.networkState.sessions.lookup c = some x) :
    (s.handling platform m).networkState.sessions.lookup c =
      (ServerSimulation.clientStep platform.kx signingOracle s.networkState m (some x)).1 := by
  obtain ⟨hlookup, _⟩ := ServerSimulation.processNetworkIncoming_client platform.kx signingOracle
    s.networkState m
  rw [← hx, ← own]
  exact (hlookup m.connectionId).trans (if_pos rfl)

omit [DecidableEq Peer] in
/-- What the message makes is all there is to push. -/
theorem System.outbox_handling (platform : Platform) {m : NetworkINToSimulationMessage}
    (rest : s.AtRest) {x : ClientSession}
    (hx : s.networkState.sessions.lookup m.connectionId = some x) :
    (s.handling platform m).simulation.outbox = System.stamp s.producedCount
      (ServerSimulation.clientStep platform.kx signingOracle s.networkState m (some x)).2.1 := by
  obtain ⟨_, hout⟩ := ServerSimulation.processNetworkIncoming_client platform.kx signingOracle
    s.networkState m
  rw [← hx, ← hout]
  simp [System.handling, rest.tick.pushed]

-- ============================================================================
-- The response to a hello
-- ============================================================================

/-- The response `m` as ENet owns it, with the context and the callbacks for its ACK. -/
def ownedResponse (p : Peer) (m : SimulationToNetworkOUTMessage) : OwnedPacket Peer where
  message := m
  packet :=
    { data := m.serializedPacket
      flags := enetPacketFlagReliable
      userData := some
        { peer := some p
          connectionId := m.connectionId
          disconnectAfterAck := m.disconnectAfterAck
          enableEncryptionAfterAck := true }
      acknowledgeCallback := true
      freeCallback := true }

/-- ENet takes the response. -/
theorem Online.acceptedPackets_response {m : SimulationToNetworkOUTMessage}
    (online : Online platform leaving clients m.connectionId p s tr)
    (htype : m.type = .serverSecureSessionHelloResponsePacketReliable)
    (henable : m.enableEncryptionAfterAck = true) :
    System.acceptedPackets m
        (ServerNetworkOutgoing.handleReliableMessage s.networkState s.peers m {}).calls =
      [ownedResponse p m] := by
  have hpeer := online.peer
  simp [ServerNetworkOutgoing.handleReliableMessage, hpeer, htype, henable,
    ServerNetworkOutgoing.sendSecureSessionHelloResponsePacketReliable,
    ServerNetworkOutgoing.sendPacket, ServerNetworkOutgoing.isPeerAllowedToSendPacket,
    online.bound.data, enetPacketFlagReliable, ServerNetworkOutgoing.submitPacket,
    System.acceptedPackets, ownedResponse]

/-- Its ACK switches encryption on. -/
theorem Online.acknowledge_response {m : SimulationToNetworkOUTMessage}
    (online : Online platform leaving clients m.connectionId p s tr) :
    ServerNetworkOutgoing.onReliablePacketAcknowledgedRunActions s.networkState s.peers
        (ownedResponse p m).packet =
      (s.networkState.enableEncryption m.connectionId,
        disconnectLaterIf m.disconnectAfterAck p) := by
  have hbound := ServerNetworkOutgoing.isPeerStillBoundToConnectionId_iff.mpr online.bound
  simp [ServerNetworkOutgoing.onReliablePacketAcknowledgedRunActions, ownedResponse, hbound,
    ServerNetworkOutgoing.setPeerEncryptionEnabled_of_bound online.bound]

/-- The response is pushed, sent and acknowledged. -/
def System.responded (s : System Peer) (c : ConnectionId) : System Peer :=
  { s with
    networkState := s.networkState.enableEncryption c
    simulation := { s.simulation with outbox := [] } }

/-- A pass sends the response, and the client acknowledges it. -/
theorem Online.response_settles {m : SimulationToNetworkOUTMessage}
    (online : Online platform leaving clients m.connectionId p s tr)
    (htype : m.type = .serverSecureSessionHelloResponsePacketReliable)
    (henable : m.enableEncryptionAfterAck = true) (hkeeps : m.disconnectAfterAck = false)
    (idle : s.network = .idle)
    (queue : s.simToNet = []) (next : s.simulation.outbox = [m]) :
    (server Peer platform).Settles (System.Cooperates leaving clients) s
      (· = s.responded m.connectionId) := by
  have hpush : (server Peer platform).step s .simulationPush = some
      ({ s with simToNet := [m], simulation := { s.simulation with outbox := [] } },
        [.outgoingPushed m]) := by
    simp [server, System.step, System.simulationPush, next, queue]
  refine .of_step (.byServer ⟨.work (Or.inr (Or.inl .simulationPush)), trivial⟩) hpush ?_
  have hbegin : (server Peer platform).step
      { s with simToNet := [m], simulation := { s.simulation with outbox := [] } }
      .beginOutgoing = some
        ({ s with
            simToNet := []
            network := .outgoing { reliableMessages := [m] }
            simulation := { s.simulation with outbox := [] } }, []) := by
    simp [server, System.step, System.beginOutgoing, idle,
      ServerNetworkOutgoing.splitReliableAndCoalesceUnreliableMessages,
      ServerNetworkOutgoingPreparedMessages.add, htype,
      SimulationToNetworkOUTMessageType.isReliable]
  refine .of_step (.byServer ⟨.beginOutgoing, trivial⟩) hbegin ?_
  have hpeer := online.peer
  refine .of_step (.byServer ⟨.work (Or.inl (.sendReliable {})), rfl, rfl, ?_⟩) rfl ?_
  · simp [System.nextSlot, hpeer, online.stays]
  refine .of_step (.byServer ⟨.work (Or.inl .endOutgoing), trivial⟩) rfl ?_
  simp only [online.acceptedPackets_response htype henable]
  -- the response is the last packet in flight
  have hinFlight : (s.inFlight ++ [ownedResponse p m])[s.inFlight.length]? =
      some (ownedResponse p m) := by
    simp
  have hacknowledge : (server Peer platform).step
      { s with
        simToNet := []
        network := .idle
        simulation := { s.simulation with outbox := [] }
        inFlight := s.inFlight ++ [ownedResponse p m] }
      (.acknowledge s.inFlight.length) = some
        (s.responded m.connectionId,
          [.acknowledged m (disconnectLaterIf m.disconnectAfterAck p)]) := by
    have hmessage : (ownedResponse p m).message = m := rfl
    have hregistered : (ownedResponse p m).packet.acknowledgeCallback = true := rfl
    simp [server, System.step, System.acknowledge, online.acknowledge_response, hmessage,
      hregistered, idle, queue, List.eraseIdx_append_of_length_le, System.responded]
  exact .of_step (.acknowledge online.client hinFlight rfl rfl hkeeps) hacknowledge
    (.of_done rfl)

-- ============================================================================
-- The stages
-- ============================================================================

/-- The session of a client past a handshake that gave it the keys `rx` and `tx`. -/
structure ClientSession.Secured (rx tx : SessionKey) (x : ClientSession) : Prop where
  connected : x.isTransportConnected = true
  established : x.isSecureSessionEstablished = true
  encrypted : x.isPacketEncryptionEnabled = true
  rxKey : x.serverRxKey = rx
  txKey : x.serverTxKey = tx

theorem ClientSession.Secured.kept {rx tx : SessionKey} {x y : ClientSession}
    (h : x.Secured rx tx) (hkept : x.Kept y) : y.Secured rx tx where
  connected := hkept.connected.trans h.connected
  established := hkept.established.trans h.established
  encrypted := hkept.encrypted.trans h.encrypted
  rxKey := (congrArg (·.2.1) hkept.keys).trans h.rxKey
  txKey := (congrArg (·.2.2) hkept.keys).trans h.txKey

/-- Some packet decodes to a given hello. -/
theorem exists_hello_packet (hello : ClientSecureSessionHelloPacketReliable) :
    ∃ packet, deserializeClientSecureSessionHelloPacketReliable packet = some hello := by
  have hlength : (0 :: (BigEndian.bytes32 hello.networkProtocolVersion ++
      (hello.clientPublicKey.toList ++ hello.clientNonce.toList))).length < 2 ^ 64 := by
    simp
  have hdecode := (ReadProgram.run_ofBytes_eq_some_iff clientSecureSessionHelloProgram_within
    (by decide) hlength).mpr (clientSecureSessionHelloProgram_accepts_iff.mpr rfl)
  rw [← deserializeClientSecureSessionHelloPacketReliable_eq_run] at hdecode
  exact ⟨_, hdecode⟩

omit [DecidableEq Peer] in
/-- A hello whose key yields session keys is accepted when signing succeeds. -/
theorem answerSecureSessionHello_signed {networkState : NetworkState Peer} {x : ClientSession}
    {hello : ClientSecureSessionHelloPacketReliable} {rx tx : SessionKey}
    (hkeys : ServerCryptoKx.computeSessionKeys platform.kx networkState.cryptoKxState
      hello.clientPublicKey = some (rx, tx)) :
    ∃ response, ServerSimulation.answerSecureSessionHello platform.kx signingOracle networkState x
        hello =
      { session :=
          { x with
            clientPublicKey := hello.clientPublicKey
            serverRxKey := rx
            serverTxKey := tx
            isSecureSessionEstablished := true }
        response := response
        secureSessionAccepted := true } := by
  have hsigned : (ServerSimulation.attestSecureSession signingOracle networkState hello).2 =
      true := by
    simp [ServerSimulation.attestSecureSession, ServerCryptoSigning.signSecureSessionPayload,
      signingOracle]
  simp only [ServerSimulation.answerSecureSessionHello, hkeys, hsigned, if_true]
  exact ⟨_, rfl⟩

/-- The client says hello, and acknowledges the response. -/
theorem Online.handshake_settles (online : Online platform leaving clients c p s tr)
    (rest : s.AtRest) {x : ClientSession} (hx : s.networkState.sessions.lookup c = some x)
    (hello : ClientSecureSessionHelloPacketReliable)
    (hversion : hello.networkProtocolVersion = serverNetworkProtocolVersion)
    {rx tx : SessionKey} (hkeys : ServerCryptoKx.computeSessionKeys platform.kx
      platform.cryptoKxState hello.clientPublicKey = some (rx, tx)) :
    (server Peer platform).Settles (System.Cooperates leaving clients) s fun s' => s'.AtRest ∧
      ∃ y, s'.networkState.sessions.lookup c = some y ∧ y.Secured rx tx ∧
        (y.authStatus = x.authStatus ∨ y.authStatus = .valid) := by
  have hconnected := ((SessionInv.of_reach online.reach online.few).own c x hx).2
  obtain ⟨packet, hdecode⟩ := exists_hello_packet hello
  rw [← cryptoKxState_of_reach online.reach] at hkeys
  obtain ⟨response, hanswer⟩ := answerSecureSessionHello_signed (x := x) hkeys
  -- the hello is handled
  have hadmitted : ServerNetworkIncoming.Admitted
      { type := .receive, peer := some p, channelID := 0, packet } s.networkState.sessions c
      (.clientSecureSessionHelloPacketReliable c hello) := .hello rfl hdecode hversion
  refine online.trans (online.packet_settles rest hadmitted) ?_
  rintro _ tr₁ online₁ rfl
  have hhandled := System.lookup_handling platform (c := c)
    (m := .clientSecureSessionHelloPacketReliable c hello) rfl hx
  have hmade := System.outbox_handling platform
    (m := .clientSecureSessionHelloPacketReliable c hello) rest hx
  simp only [ServerSimulation.clientStep, hanswer] at hhandled hmade
  -- its response is acknowledged
  refine online₁.trans (online₁.response_settles rfl rfl rfl rfl rest.simToNet hmade) ?_
  rintro _ tr₂ online₂ rfl
  have hsession : (((s.handling platform (.clientSecureSessionHelloPacketReliable c
      hello)).responded c).networkState.sessions.lookup c) = some
        { x with
          clientPublicKey := hello.clientPublicKey
          serverRxKey := rx
          serverTxKey := tx
          isSecureSessionEstablished := true
          isPacketEncryptionEnabled := true } := by
    rw [System.responded, NetworkState.lookup_enableEncryption, if_pos rfl, hhandled]
    rfl
  obtain ⟨es, s', hp, hrest, _, y, hy, hkept⟩ :=
    online₂.rest_settles ⟨rfl, by simp [System.responded, System.handling]⟩ hsession
  have hsecured : y.Secured rx tx :=
    ⟨hkept.connected.trans hconnected, hkept.established, hkept.encrypted,
      congrArg (·.2.1) hkept.keys, congrArg (·.2.2) hkept.keys⟩
  exact ⟨es, s', hp, hrest, y, hy, hsecured, hkept.status⟩

/-- The client asks to be authenticated, and the backend knows its token. -/
theorem Online.authentication_settles (online : Online platform leaving clients c p s tr)
    (rest : s.AtRest) {x : ClientSession} (hx : s.networkState.sessions.lookup c = some x) {rx tx : SessionKey}
    (hsecured : x.Secured rx tx) (hstatus : x.authStatus = .none ∨ x.authStatus = .valid) :
    (server Peer platform).Settles (System.Cooperates leaving clients) s fun s' => s'.AtRest ∧
      ∃ y, s'.networkState.sessions.lookup c = some y ∧ y.Secured rx tx ∧
        y.authStatus = .valid := by
  have hallowed : ServerNetworkIncoming.isConnectionAllowedForAuthChannel
      s.networkState.sessions c = true := by
    refine ServerNetworkIncoming.isConnectionAllowedForAuthChannel_iff.mpr
      ⟨x, hx, hsecured.connected, hsecured.established, hsecured.encrypted, ?_⟩
    rcases hstatus with h | h <;> simp [h]
  have hdecode : deserializeClientAuthPacketReliable [1, 0, 0] = some { authToken := [] } := by
    decide
  have hadmitted : ServerNetworkIncoming.Admitted
      { type := .receive, peer := some p, channelID := 1, packet := [1, 0, 0] }
      s.networkState.sessions c (.clientAuthPacketReliable c { authToken := [] }) :=
    .auth rfl hallowed hdecode
  refine online.trans (online.packet_settles rest hadmitted) ?_
  rintro _ tr₁ online₁ rfl
  have hhandled : ∃ y, (s.handling platform (.clientAuthPacketReliable c
      { authToken := [] })).networkState.sessions.lookup c = some y ∧ y.Secured rx tx ∧
        (y.authStatus = .waitingAuth ∨ y.authStatus = .valid) := by
    rw [System.lookup_handling platform (c := c) rfl hx]
    rcases hstatus with h | h
    · simp only [ServerSimulation.clientStep, h, if_true]
      exact ⟨_, rfl, { hsecured with }, Or.inl rfl⟩
    · simp only [ServerSimulation.clientStep, h, reduceCtorEq, if_false]
      exact ⟨_, rfl, hsecured, Or.inr h⟩
  obtain ⟨y, hy, hsecured, hstatus⟩ := hhandled
  refine online₁.trans (online₁.rest_settles (System.handling_undisturbed _) hy) ?_
  rintro s₂ tr₂ online₂ ⟨hrest, _, z, hz, hkept⟩
  refine .of_done ⟨hrest, z, hz, hsecured.kept hkept, ?_⟩
  -- at rest nobody waits for a verdict any more
  have hdecided := (hrest.settled online₂.reach online₂.few).decided c z hz
  rcases hkept.status with hsame | hvalid
  · rcases hstatus with hwaiting | hvalid
    · exact absurd (hsame.trans hwaiting) hdecided
    · exact hsame.trans hvalid
  · exact hvalid

/-- The authenticated client declares itself ready. -/
theorem Online.ready_settles (online : Online platform leaving clients c p s tr) (rest : s.AtRest)
    {x : ClientSession} (hx : s.networkState.sessions.lookup c = some x) {rx tx : SessionKey}
    (hsecured : x.Secured rx tx) (hvalid : x.authStatus = .valid) :
    (server Peer platform).Settles (System.Cooperates leaving clients) s fun s' =>
      ∃ y, s'.networkState.sessions.lookup c = some y ∧ y.Secured rx tx ∧
        y.authStatus = .valid ∧ y.isReadyForMatch = true := by
  have hallowed := ServerNetworkIncoming.isConnectionAllowedForGameplayChannels_iff.mpr
    ⟨x, hx, hsecured.connected, hsecured.established, hsecured.encrypted, hvalid⟩
  have hdecode : deserializeClientReadyForMatchPacketReliable [2] = some {} := by decide
  have hadmitted : ServerNetworkIncoming.Admitted
      { type := .receive, peer := some p, channelID := 2, packet := [2] }
      s.networkState.sessions c (.clientReadyForMatchPacketReliable c) :=
    .ready rfl hallowed hdecode
  refine online.trans (online.packet_settles rest hadmitted) ?_
  rintro _ tr₁ online₁ rfl
  refine .of_done ⟨_, System.lookup_handling platform rfl hx, ?_⟩
  exact ⟨{ hsecured with }, hvalid, rfl⟩

-- ============================================================================
-- All of them
-- ============================================================================

/-- Neither the server nor a client refuses anybody while the backend knows every token. -/
theorem unrefused_kept (ha : s.Cooperates leaving clients a)
    (hs : (server Peer platform).step s a = some (s', es)) (hopen : ¬ s.Refused c) :
    ¬ s'.Refused c := by
  refine fun hrefused => hopen ((System.step_cases hs).refused_before ?_ hrefused)
  rintro response rfl
  cases ha with
  | byServer ha => exact ha.2

/-- A client that has not been refused is not refused while the server comes to rest. -/
theorem Online.unrefused_settles (online : Online platform leaving clients c p s tr)
    (hopen : ¬ s.Refused c) :
    (server Peer platform).Settles (System.Cooperates leaving clients) s fun s' => s'.AtRest ∧
      ∃ x, s'.networkState.sessions.lookup c = some x ∧
        (x.authStatus = .none ∨ x.authStatus = .valid) := by
  refine online.trans (online.keeping_settles (I := fun s => ¬ s.Refused c) ?_ hopen) ?_
  · intro s tr a s' es _ hopen ha hs
    have hallowed : s.Cooperates leaving clients a := .byServer ha
    exact unrefused_kept hallowed hs hopen
  rintro s₁ tr₁ online₁ ⟨hrest, hopen⟩
  -- the table and the sessions have the same keys
  have hsettled := hrest.settled online₁.reach online₁.few
  have hmirrored := hsettled.mirrored c
  rw [online₁.table] at hmirrored
  obtain ⟨x, hx⟩ := Option.isSome_iff_exists.mp hmirrored
  refine .of_done ⟨hrest, x, hx, ?_⟩
  cases hstatus : x.authStatus with
  | none => exact Or.inl rfl
  | valid => exact Or.inr rfl
  | waitingAuth => exact absurd hstatus (hsettled.decided c x hx)
  | invalid => exact absurd (Or.inl ⟨x, hx, hstatus⟩) hopen

/-- All stages together. -/
theorem Online.ready_of_unrefused (online : Online platform leaving clients c p s tr)
    (hopen : ¬ s.Refused c) {key : KxPublicKey} {rx tx : SessionKey} (hkeys : ServerCryptoKx.computeSessionKeys
      platform.kx platform.cryptoKxState key = some (rx, tx)) :
    (server Peer platform).Settles (System.Cooperates leaving clients) s fun s' =>
      ∃ x, s'.networkState.sessions.lookup c = some x ∧ x.Secured rx tx ∧
        x.authStatus = .valid ∧ x.isReadyForMatch = true := by
  refine online.trans (online.unrefused_settles hopen) ?_
  rintro s₁ tr₁ online₁ ⟨rest₁, x, hx, hstatus⟩
  have hhandshake := online₁.handshake_settles rest₁ hx
    { networkProtocolVersion := serverNetworkProtocolVersion
      clientPublicKey := key
      clientNonce := Vector.replicate 16 0 } rfl hkeys
  refine online₁.trans hhandshake ?_
  rintro s₂ tr₂ online₂ ⟨rest₂, y, hy, hsecured, hasked⟩
  have hstatus : y.authStatus = .none ∨ y.authStatus = .valid := by
    rcases hasked with hsame | hvalid
    · rwa [hsame]
    · exact Or.inr hvalid
  refine online₂.trans (online₂.authentication_settles rest₂ hy hsecured hstatus) ?_
  rintro s₃ tr₃ online₃ ⟨rest₃, z, hz, hsecured, hvalid⟩
  exact online₃.ready_settles rest₃ hz hsecured hvalid

/-- Who is leaving does not change while nobody else is asked to, and no slot connects. -/
theorem RejectionHistory.mem_leaving_update_iff {h : RejectionHistory Peer} {q : Peer}
    (hslots : s'.peers = s.peers)
    (hgone : ∀ q ∈ es.flatMap Event.disconnectedPeers, q ∈ h.leaving) :
    q ∈ (h.update s s' es).leaving ↔ q ∈ h.leaving := by
  have hkept : h.leaving.filter (fun p => (s.peers p).connected || !(s'.peers p).connected) =
      h.leaving := by
    rw [hslots]
    exact List.filter_eq_self.mpr fun p _ => by simp
  rw [RejectionHistory.update, hkept, List.mem_append]
  exact ⟨fun hq => hq.elim id (hgone q), Or.inl⟩

/-- The clients that are not leaving stay on the way, which is one of the server with the
    past of its rejections. -/
theorem settles_with_rejections {h : RejectionHistory Peer} {D : System Peer → Prop}
    (hr : (server Peer platform).Reach s tr) (few : FewConnects tr)
    (hsettles : (server Peer platform).Settles (System.Cooperates h.leaving clients) s D) :
    (serverWithRejections Peer platform).Settles
      (fun r a => r.1.WithClients r.2.leaving clients a) (s, h)
      fun r => D r.1 ∧ ∀ q, q ∈ r.2.leaving ↔ q ∈ h.leaving := by
  obtain ⟨es, s', hp, hD⟩ := hsettles
  -- along the way the clients that are leaving stay the same
  have hpast : ∃ h', (serverWithRejections Peer platform).PathBy
      (fun r a => r.1.WithClients r.2.leaving clients a) (s, h) es (s', h') ∧
      (server Peer platform).Reach s' (tr ++ es) ∧ FewConnects (tr ++ es) ∧
      ∀ q, q ∈ h'.leaving ↔ q ∈ h.leaving := by
    refine hp.withHistory (I := fun s (h' : RejectionHistory Peer) tr =>
      (server Peer platform).Reach s tr ∧ FewConnects tr ∧ ∀ q, q ∈ h'.leaving ↔ q ∈ h.leaving)
      ?_ ⟨hr, few, fun _ => Iff.rfl⟩
    rintro s h₁ tr a s' es ⟨hr, few, hsame⟩ ha hs
    obtain ⟨-, hnone⟩ := table_kept_of_withClients ha.withClients hs
    refine ⟨ha.withClients.mono hsame, hr.next hs, few.append hnone, fun q => ?_⟩
    have hstep : s.step platform a = some (s', es) := hs
    rw [RejectionHistory.record, hstep, ← hsame q]
    obtain ⟨hgone, hslots⟩ := ha.nobody_leaves hr few hs
    exact RejectionHistory.mem_leaving_update_iff hslots
      fun q hq => (hsame q).mpr (hgone q hq)
  obtain ⟨h', hp', -, -, hsame⟩ := hpast
  exact ⟨es, (s', h'), hp', hD, hsame⟩

/-- From every reachable state in which slot `p` is connected as `c`, not encrypted yet and
    not asked to disconnect, the server and its client can between them get the session of
    `c` ready, with the session keys that any key of the client's choice yields. -/
theorem unencrypted_client_can_get_ready {h : RejectionHistory Peer}
    (hr : (serverWithRejections Peer platform).Reach (s, h) tr) (few : FewConnects tr)
    (htable : s.networkState.connectionIdToEnetPeer.lookup c = some (some p))
    (hplain : s.networkState.connectionIdToEncryptionEnabled.lookup c = some false)
    (hstays : p ∉ h.leaving)
    {key : KxPublicKey} {rx tx : SessionKey} (hkeys : ServerCryptoKx.computeSessionKeys
      platform.kx platform.cryptoKxState key = some (rx, tx)) :
    (serverWithRejections Peer platform).Settles
      (fun r a => r.1.WithClients r.2.leaving (· = p) a) (s, h) fun r => p ∉ r.2.leaving ∧
        ∃ x, r.1.networkState.sessions.lookup c = some x ∧ x.Secured rx tx ∧
          x.authStatus = .valid ∧ x.isReadyForMatch = true := by
  have hr' : (server Peer platform).Reach s tr := hr.of_withHistory
  have hopen := System.not_refused_of_plain hr' few (by simp [htable]) hplain
  have online : Online platform h.leaving (· = p) c p s tr := ⟨hr', few, htable, rfl, hstays⟩
  obtain ⟨es, r, hp, hready, hsame⟩ :=
    settles_with_rejections hr' few (online.ready_of_unrefused hopen hkeys)
  exact ⟨es, r, hp, mt (hsame p).mp hstays, hready⟩

theorem soloConnected_runs :
    ((serverWithRejections Unit soloPlatform).exec (fun _ _ _ => True)
      [.soloConnect]).isSome = true := by
  decide +kernel

/-- The state, its past and the trace of a run in which the slot has only connected. -/
def soloConnectedResult : (System Unit × RejectionHistory Unit) × List (Event Unit) :=
  ((serverWithRejections Unit soloPlatform).exec (fun _ _ _ => True) [.soloConnect]).get
    soloConnected_runs

theorem soloConnected_reach :
    (serverWithRejections Unit soloPlatform).Reach soloConnectedResult.1
      soloConnectedResult.2 :=
  TraceMachine.run_get soloConnected_runs

theorem soloConnected_few : FewConnects soloConnectedResult.2 := by
  unfold FewConnects
  decide +kernel

/-- Its client can get ready, with its own key for both directions. -/
theorem soloConnected_can_get_ready :
    (serverWithRejections Unit soloPlatform).Settles
      (fun r a => r.1.WithClients r.2.leaving (· = ()) a) soloConnectedResult.1
      fun r => () ∉ r.2.leaving ∧
        ∃ x, r.1.networkState.sessions.lookup 1 = some x ∧
          x.Secured (Vector.replicate 32 7) (Vector.replicate 32 7) ∧ x.authStatus = .valid ∧
          x.isReadyForMatch = true := by
  have hkeys : ServerCryptoKx.computeSessionKeys soloPlatform.kx soloPlatform.cryptoKxState
      (Vector.replicate 32 7) = some (Vector.replicate 32 7, Vector.replicate 32 7) := rfl
  exact unencrypted_client_can_get_ready soloConnected_reach soloConnected_few
    (by decide +kernel) (by decide +kernel) (by decide +kernel) hkeys

end RcnetServer
