/-
  RcnetServer.System.Snapshots

  The way of a snapshot, from the simulation thread to ENet.

  A snapshot made for a session waits in the outbox and the queue; a pass keeps the
  last one of its batch for each connection, numbers it with an id of the session
  and sends it.  `serverWithSnapshots` is the server with a history variable that
  records what no thread keeps: the sessions an id has had, the ids allocated, the
  packets ENet accepted, and the batch of the pass.  `snapshot_cases` says once
  what a step does to all of this.
-/

import RcnetServer.Network.RoundTrip
import RcnetServer.System.MatchPhases

namespace RcnetServer

variable {Peer : Type} [DecidableEq Peer]

-- ============================================================================
-- The past of a run
-- ============================================================================

/-- A snapshot packet ENet accepted: the message it was made of, and which of the
    sessions of its connection id it was numbered for. -/
structure AcceptedSnapshot where
  message : SimulationToNetworkOUTMessage
  life : Nat
  bytes : List UInt8

/-- What is recorded of the snapshots of a run. -/
structure SnapshotHistory where
  /-- How many sessions each connection id has had. -/
  lives : ConnectionId → Nat := fun _ => 0
  /-- The snapshot ids allocated for the current session of each connection id. -/
  allocated : ConnectionId → List UInt32 := fun _ => []
  /-- Which session of its id the snapshot being sent was numbered for. -/
  sendingLife : Nat := 0
  accepted : List AcceptedSnapshot := []
  /-- The batch of the current pass, or of the last one. -/
  drained : List SimulationToNetworkOUTMessage := []
  /-- The snapshots that ENet has accepted in that pass. -/
  sentInPass : List SimulationToNetworkOUTMessage := []

namespace SnapshotHistory

/-- A session is opened for `c`. -/
def opened (h : SnapshotHistory) (c : ConnectionId) : SnapshotHistory :=
  { h with
    lives := Function.update h.lives c (h.lives c + 1)
    allocated := Function.update h.allocated c [] }

/-- A pass takes a batch. -/
def drain (h : SnapshotHistory) (batch : List SimulationToNetworkOUTMessage) : SnapshotHistory :=
  { h with drained := batch, sentInPass := [] }

/-- The session of `c` gives out `id`. -/
def numbered (h : SnapshotHistory) (c : ConnectionId) (id : UInt32) : SnapshotHistory :=
  { h with
    allocated := Function.update h.allocated c (h.allocated c ++ [id])
    sendingLife := h.lives c }

/-- ENet accepts `packets`. -/
def sent (h : SnapshotHistory) (packets : List (OwnedPacket Peer)) : SnapshotHistory :=
  { h with
    accepted := h.accepted ++ packets.map fun owned =>
      { message := owned.message, life := h.sendingLife, bytes := owned.packet.data }
    sentInPass := h.sentInPass ++ packets.map (·.message) }

end SnapshotHistory

/-- The connection and the id of the snapshot that is about to be sent. -/
def System.numberedSnapshot (s : System Peer) : Option (ConnectionId × UInt32) :=
  match s.network with
  | .sendingSnapshot _ m _ _ =>
      (s.networkState.sessions.lookup m.connectionId).map fun session =>
        (m.connectionId, session.serverLastSentSnapshotId)
  | _ => none

/-- What a step adds to the history. -/
def SnapshotHistory.record (h : SnapshotHistory) (s : System Peer) : Action Peer → SnapshotHistory
  | .handleNetwork _ =>
      match s.simulation.networkMessages with
      | .clientEventConnect c :: _ => h.opened c
      | _ => h
  | .beginOutgoing => h.drain s.simToNet
  | .patchSnapshot c =>
      match (s.patchSnapshot c).bind fun r => r.1.numberedSnapshot with
      | some (c', id) => h.numbered c' id
      | none => h
  | .sendSnapshot outcome =>
      match s.network with
      | .sendingSnapshot p m bytes _ =>
          h.sent (System.acceptedPackets m
            (ServerNetworkOutgoing.sendSnapshotFullPacketUnreliable s.networkState s.peers (some p)
              bytes outcome).calls)
      | _ => h
  | _ => h

/-- The server with the past of its snapshots. -/
def serverWithSnapshots (Peer : Type) [DecidableEq Peer] (platform : Platform) :
    TraceMachine (System Peer × SnapshotHistory) (Action Peer) (Event Peer) :=
  (server Peer platform).withHistory {} SnapshotHistory.record

-- ============================================================================
-- Where the snapshots are
-- ============================================================================

/-- The packet that is about to be sent, with its message. -/
@[simp] def NetworkThread.sendingPacket :
    NetworkThread Peer → Option (SimulationToNetworkOUTMessage × List UInt8)
  | .sendingSnapshot _ m bytes _ => some (m, bytes)
  | _ => none

/-- The snapshot for `c` that the pass still holds. -/
@[simp] def NetworkThread.heldSnapshot (c : ConnectionId) :
    NetworkThread Peer → Option SimulationToNetworkOUTMessage
  | .outgoing prepared => prepared.lastSnapshotFullUnreliablePerConnectionId.lookup c
  | .sendingSnapshot _ _ _ prepared => prepared.lastSnapshotFullUnreliablePerConnectionId.lookup c
  | _ => none

/-- The snapshots for `c` on their way to a pass. -/
def System.queuedSnapshots (s : System Peer) (c : ConnectionId) :
    List SimulationToNetworkOUTMessage :=
  ofFamily .serverSnapshotFullPacketUnreliable c (s.simToNet ++ s.simulation.outbox)

/-- The packet of a snapshot message, without its id. -/
def SimulationToNetworkOUTMessage.snapshotPacket (m : SimulationToNetworkOUTMessage) :
    Option ServerSnapshotFullPacketUnreliable :=
  deserializeServerSnapshotFullPacketUnreliable m.serializedPacket

/-- The packet that ENet accepted. -/
def AcceptedSnapshot.packet (r : AcceptedSnapshot) : Option ServerSnapshotFullPacketUnreliable :=
  deserializeServerSnapshotFullPacketUnreliable r.bytes

/-- The guard lets a snapshot to `p` through, and ENet creates and accepts its packet. -/
def ServerNetworkOutgoing.acceptsSnapshot (networkState : NetworkState Peer)
    (peers : ENetPeers Peer) (p : Peer) (outcome : SendOutcome) : Bool :=
  isPeerAllowedToSendPacket networkState peers (some p) true && outcome.packetCreated &&
    decide (0 ≤ outcome.sendResult)

omit [DecidableEq Peer] in
/-- The packets that a snapshot send leaves with ENet. -/
theorem acceptedPackets_sendSnapshot (networkState : NetworkState Peer) (peers : ENetPeers Peer)
    (m : SimulationToNetworkOUTMessage) (p : Peer) (bytes : List UInt8) (outcome : SendOutcome) :
    System.acceptedPackets m (ServerNetworkOutgoing.sendSnapshotFullPacketUnreliable networkState
        peers (some p) bytes outcome).calls =
      if ServerNetworkOutgoing.acceptsSnapshot networkState peers p outcome then
        [{ message := m, packet := { data := bytes, flags := 0 } }]
      else [] := by
  unfold ServerNetworkOutgoing.sendSnapshotFullPacketUnreliable ServerNetworkOutgoing.sendPacket
    ServerNetworkOutgoing.acceptsSnapshot
  cases ServerNetworkOutgoing.isPeerAllowedToSendPacket networkState peers (some p) true with
  | false => rfl
  | true =>
      cases outcome.packetCreated with
      | false => rfl
      | true =>
          by_cases hresult : outcome.sendResult < 0
          · have hneg : ¬ 0 ≤ outcome.sendResult := by omega
            simp [ServerNetworkOutgoing.submitPacket, hresult, hneg,
              ServerNetworkOutgoing.giveUpPacket, disconnectLaterIf, System.acceptedPackets]
          · have hpos : 0 ≤ outcome.sendResult := by omega
            simp [ServerNetworkOutgoing.submitPacket, hresult, hpos, System.acceptedPackets]

omit [DecidableEq Peer] in
/-- A patched snapshot is the packet of its message with the id the session gave out. -/
theorem patched_packet {networkState networkState' : NetworkState Peer}
    {m : SimulationToNetworkOUTMessage} {bytes : List UInt8} {session : ClientSession}
    (found : networkState.sessions.lookup m.connectionId = some session)
    (h : ServerNetworkOutgoing.patchSnapshotFullMessage networkState m =
      (networkState', some bytes)) :
    ∃ packet, m.snapshotPacket = some packet ∧
      deserializeServerSnapshotFullPacketUnreliable bytes =
        some { packet with snapshotId := session.serverNextSnapshotId } := by
  unfold ServerNetworkOutgoing.patchSnapshotFullMessage at h
  split at h
  · cases h
  · split at h
    · cases h
    · rename_i packet hpacket
      simp only [found] at h
      cases h
      have htype := type_of_deserializeServerSnapshotFullPacketUnreliable hpacket
      refine ⟨packet, hpacket, deserialize_serializeServerSnapshotFullPacketUnreliable ?_⟩
      exact htype

-- ============================================================================
-- What a step does to snapshots
-- ============================================================================

/-- The steps of the server, as far as snapshots are concerned. -/
inductive SnapshotSteps (s : System Peer) (h : SnapshotHistory) :
    Action Peer → System Peer → SnapshotHistory → Prop
  /-- Sessions keep their counters or go away, and no snapshot is added anywhere. -/
  | quiet {a : Action Peer} {s' : System Peer}
      (counters : ∀ c y, s'.networkState.sessions.lookup c = some y →
        ∃ x, s.networkState.sessions.lookup c = some x ∧
          y.serverNextSnapshotId = x.serverNextSnapshotId ∧
          y.serverLastSentSnapshotId = x.serverLastSentSnapshotId)
      (sending : s'.network.sendingPacket = s.network.sendingPacket)
      (held : ∀ c m, s'.network.heldSnapshot c = some m → s.network.heldSnapshot c = some m)
      (queued : ∀ c, s'.queuedSnapshots c = s.queuedSnapshots c) :
      SnapshotSteps s h a s' h
  /-- A CONNECT is handled. -/
  | opened {oracle : HelloOracle} {c : ConnectionId} {s' : System Peer}
      (sessions : ∀ c', s'.networkState.sessions.lookup c' =
        if c' = c then some (ClientSession.ofConnect c) else s.networkState.sessions.lookup c')
      (network : s'.network = s.network)
      (queued : ∀ c, s'.queuedSnapshots c = s.queuedSnapshots c) :
      SnapshotSteps s h (.handleNetwork oracle) s' (h.opened c)
  /-- A pass begins. -/
  | drained {s' : System Peer} (idle : s.network = .idle)
      (sessions : s'.networkState.sessions = s.networkState.sessions)
      (sending : s'.network.sendingPacket = none)
      (held : ∀ c, s'.network.heldSnapshot c =
        (ofFamily .serverSnapshotFullPacketUnreliable c s.simToNet).getLast?)
      (queued : ∀ c, s.queuedSnapshots c =
        ofFamily .serverSnapshotFullPacketUnreliable c s.simToNet ++ s'.queuedSnapshots c) :
      SnapshotSteps s h .beginOutgoing s' (h.drain s.simToNet)
  /-- The snapshot held for `c` is numbered. -/
  | numbered {c : ConnectionId} {s' : System Peer} {m : SimulationToNetworkOUTMessage}
      {x : ClientSession} {bytes : List UInt8} {packet : ServerSnapshotFullPacketUnreliable}
      (free : s.network.sendingPacket = none) (held : s.network.heldSnapshot c = some m)
      (found : s.networkState.sessions.lookup m.connectionId = some x)
      (sessions : ∀ c', s'.networkState.sessions.lookup c' =
        if c' = m.connectionId then some x.allocateSnapshotId
        else s.networkState.sessions.lookup c')
      (sending : s'.network.sendingPacket = some (m, bytes))
      (heldAfter : ∀ c', s'.network.heldSnapshot c' =
        if c' = c then none else s.network.heldSnapshot c')
      (queued : ∀ c, s'.queuedSnapshots c = s.queuedSnapshots c)
      (made : m.snapshotPacket = some packet)
      (patched : deserializeServerSnapshotFullPacketUnreliable bytes =
        some { packet with snapshotId := x.serverNextSnapshotId }) :
      SnapshotSteps s h (.patchSnapshot c) s'
        (h.numbered m.connectionId x.serverNextSnapshotId)
  /-- The numbered snapshot is sent, or given up. -/
  | sent {outcome : SendOutcome} {s' : System Peer} {p : Peer}
      {m : SimulationToNetworkOUTMessage} {bytes : List UInt8}
      {prepared : ServerNetworkOutgoingPreparedMessages}
      (sending : s.network = .sendingSnapshot p m bytes prepared)
      (sessions : s'.networkState.sessions = s.networkState.sessions)
      (network : s'.network = .outgoing prepared)
      (queued : ∀ c, s'.queuedSnapshots c = s.queuedSnapshots c) :
      SnapshotSteps s h (.sendSnapshot outcome) s'
        (h.sent (if ServerNetworkOutgoing.acceptsSnapshot s.networkState s.peers p outcome then
          [{ message := m, packet := { data := bytes, flags := 0 } : OwnedPacket Peer }] else []))
  /-- The snapshots of a tick are made. -/
  | made {order : Sessions} {clock : Nat → UInt64} {s' : System Peer}
      (perm : order.entries.Perm s.networkState.sessions.entries)
      (sessions : s'.networkState.sessions = s.networkState.sessions)
      (network : s'.network = s.network)
      (queued : ∀ c, s'.queuedSnapshots c = s.queuedSnapshots c ++
        ofFamily .serverSnapshotFullPacketUnreliable c (System.stamp s.producedCount
          (ServerSimulation.createFullSnapshotsForAllSessionsAndEnqueueForNetworkOutgoing clock
            { s.networkState with sessions := order } s.simulation.currentTick))) :
      SnapshotSteps s h (.createSnapshots order clock) s' h

section Quiet

variable {platform : Platform} {s s' : System Peer} {a : Action Peer} {es : List (Event Peer)}

omit [DecidableEq Peer] in
theorem ofFamily_append (type : SimulationToNetworkOUTMessageType) (c : ConnectionId)
    (batch batch' : List SimulationToNetworkOUTMessage) :
    ofFamily type c (batch ++ batch') = ofFamily type c batch ++ ofFamily type c batch' :=
  List.filter_append _ _

omit [DecidableEq Peer] in
/-- Messages of other types do not queue as snapshots. -/
theorem queuedSnapshots_produce {out : List SimulationToNetworkOUTMessage}
    (h : ∀ m ∈ out, m.type ≠ .serverSnapshotFullPacketUnreliable) (c : ConnectionId) :
    (s.produce out).queuedSnapshots c = s.queuedSnapshots c := by
  have hnone : ofFamily .serverSnapshotFullPacketUnreliable c
      (System.stamp s.producedCount out) = [] := by
    refine List.filter_eq_nil_iff.mpr ?_
    intro m hm
    obtain ⟨m₀, hm₀, serial, rfl⟩ := System.mem_stamp hm
    simp [h m₀ hm₀]
  unfold System.queuedSnapshots
  rw [System.produce_simToNet, System.produce_outbox, ← List.append_assoc, ofFamily_append, hnone,
    List.append_nil]

/-- Only a CONNECT and the numbering of a snapshot set the counters of a session. -/
theorem System.Steps.counters (h : System.Steps platform s a s' es)
    (hpatch : ∀ c, a ≠ .patchSnapshot c)
    (hopens : ∀ oracle m rest, a = .handleNetwork oracle →
      s.simulation.networkMessages = m :: rest → m.kind ≠ .opens)
    (c : ConnectionId) (y : ClientSession) (hy : s'.networkState.sessions.lookup c = some y) :
    ∃ x, s.networkState.sessions.lookup c = some x ∧
      y.serverNextSnapshotId = x.serverNextSnapshotId ∧
      y.serverLastSentSnapshotId = x.serverLastSentSnapshotId := by
  have hchange := h.session c
  rw [hy] at hchange
  cases hchange with
  | same kept => exact ⟨y, kept.symm, rfl, rfl⟩
  | handled own next left =>
      rcases ServerSimulation.clientStep_session _ _ _ left with
        ⟨hkind, _⟩ | ⟨_, x, hx, _, _, _, _, _, _, _, _, _, rfl⟩
      · exact absurd hkind (hopens _ _ _ rfl next)
      · exact ⟨x, hx, rfl, rfl⟩
  | @replied reply _ x _ _ found =>
      obtain ⟨_, _, _, _, _, hreply⟩ := x.applyAuthResponse_eq reply.authTokenVerificationResponse
      rw [hreply]
      exact ⟨x, found, rfl, rfl⟩
  | @encrypted _ _ _ x _ _ _ _ found => exact ⟨x, found, rfl, rfl⟩
  | snapshot => exact absurd rfl (hpatch _)

end Quiet

section Cases

variable {platform : Platform} {s s' : System Peer} {h h' : SnapshotHistory} {a : Action Peer}
  {es : List (Event Peer)}

omit [DecidableEq Peer] in
theorem numberedSnapshot_of {p : Peer} {m : SimulationToNetworkOUTMessage} {bytes : List UInt8}
    {prepared : ServerNetworkOutgoingPreparedMessages} {x : ClientSession}
    (hnetwork : s.network = .sendingSnapshot p m bytes prepared)
    (hx : s.networkState.sessions.lookup m.connectionId = some x) :
    s.numberedSnapshot = some (m.connectionId, x.serverLastSentSnapshotId) := by
  simp only [System.numberedSnapshot, hnetwork, hx, Option.map_some]

omit [DecidableEq Peer] in
theorem record_patchSnapshot {c : ConnectionId} (hpatch : s.patchSnapshot c = some (s', es)) :
    h.record s (.patchSnapshot c) =
      match s'.numberedSnapshot with
      | some (c', id) => h.numbered c' id
      | none => h := by
  simp only [SnapshotHistory.record, hpatch, Option.bind_some]

omit [DecidableEq Peer] in
/-- Handling a message that is no CONNECT leaves the history alone. -/
theorem record_handleNetwork_of_ne {oracle : HelloOracle} {m : NetworkINToSimulationMessage}
    {rest : List NetworkINToSimulationMessage} (next : s.simulation.networkMessages = m :: rest)
    (hkind : m.kind ≠ .opens) : h.record s (.handleNetwork oracle) = h := by
  simp only [SnapshotHistory.record, next]
  cases m with
  | clientEventConnect c => exact absurd rfl hkind
  | _ => rfl

/-- Every step of the server with its past is one of these. -/
theorem snapshot_cases
    (hs : (serverWithSnapshots Peer platform).step (s, h) a = some ((s', h'), es)) :
    SnapshotSteps s h a s' h' := by
  obtain ⟨hstep, rfl⟩ := TraceMachine.withHistory_step hs
  have hsteps := System.step_cases hstep
  have hcounters := hsteps.counters
  cases hsteps with
  | beginOutgoing idle =>
      refine .drained idle rfl rfl ?_ ?_
      · intro c
        have htype :
            SimulationToNetworkOUTMessageType.serverSnapshotFullPacketUnreliable.isReliable =
              false := rfl
        exact ServerNetworkOutgoing.lookup_kept_split s.simToNet htype c
      · intro c
        exact ofFamily_append _ _ _ _
  | @skipSnapshot c prepared m outgoing =>
      have hrecord : h.record s (.patchSnapshot c) = h := record_patchSnapshot hstep
      rw [hrecord]
      refine .quiet (fun c y hy => ⟨y, hy, rfl, rfl⟩) (by simp [outgoing]) ?_ fun _ => rfl
      intro c' m' hm'
      simp only [NetworkThread.heldSnapshot, System.withoutSnapshot, UnorderedMap.lookup_erase,
        outgoing] at hm' ⊢
      split at hm'
      · cases hm'
      · exact hm'
  | @patchSnapshot c prepared m p x bytes outgoing reliableDone next peer found patched =>
      have hsessions := NetworkState.lookup_setSession x.allocateSnapshotId found
      have hself := hsessions m.connectionId
      rw [if_pos rfl] at hself
      have hrecord : h.record s (.patchSnapshot c) =
          h.numbered m.connectionId x.serverNextSnapshotId := by
        rw [record_patchSnapshot hstep, numberedSnapshot_of rfl hself]
        rfl
      obtain ⟨packet, hmade, hbytes⟩ := patched_packet found patched
      rw [hrecord]
      refine .numbered (by simp [outgoing]) (by simpa [outgoing] using next) found hsessions rfl ?_
        (fun _ => rfl) hmade hbytes
      intro c'
      simp only [NetworkThread.heldSnapshot, System.withoutSnapshot, UnorderedMap.lookup_erase,
        outgoing]
  | @sendSnapshot outcome p m bytes prepared sending =>
      have hrecord : h.record s (.sendSnapshot outcome) =
          h.sent (if ServerNetworkOutgoing.acceptsSnapshot s.networkState s.peers p outcome then
            [{ message := m, packet := { data := bytes, flags := 0 } : OwnedPacket Peer }]
            else []) := by
        simp only [SnapshotHistory.record, sending, acceptedPackets_sendSnapshot]
      rw [hrecord]
      exact .sent sending rfl rfl fun _ => rfl
  | @handleNetwork oracle m rest next =>
      have hclient := ServerSimulation.processNetworkIncoming_client platform.kx oracle
        s.networkState m
      have hout : ∀ m' ∈ (ServerSimulation.processNetworkIncoming platform.kx oracle
          s.networkState m).2.1, m'.type ≠ .serverSnapshotFullPacketUnreliable := by
        intro m' hm'
        rw [hclient.2] at hm'
        rw [ServerSimulation.clientStep_type hm']
        simp
      by_cases hkind : m.kind = .opens
      · cases m with
        | clientEventConnect c =>
            have hrecord : h.record s (.handleNetwork oracle) = h.opened c := by
              simp only [SnapshotHistory.record, next]
            rw [hrecord]
            exact .opened hclient.1 rfl fun c => queuedSnapshots_produce hout c
        | _ => cases hkind
      · rw [record_handleNetwork_of_ne next hkind]
        refine .quiet (hcounters (by simp) ?_) rfl (fun _ _ => id)
          fun c => queuedSnapshots_produce hout c
        intro _ m' rest' _ next'
        obtain ⟨rfl, _⟩ := List.cons.inj (next.symm.trans next')
        exact hkind
  | handleHttp =>
      refine .quiet (hcounters (by simp) (by simp)) rfl (fun _ _ => id) fun c =>
        queuedSnapshots_produce ?_ c
      intro m' hm'
      rw [ServerSimulation.reply_type hm']
      simp
  | checkMatchFlow =>
      refine .quiet (hcounters (by simp) (by simp)) rfl (fun _ _ => id) fun c =>
        queuedSnapshots_produce ?_ c
      intro m' hm'
      obtain ⟨_, _, _, _, htype⟩ := ServerSimulation.mem_checkMatchFlow hm'
      rcases htype with ⟨htype, _⟩ | ⟨htype, _⟩ | ⟨htype, _⟩ <;> simp [htype]
  | createSnapshots _ _ perm made =>
      rcases made with rfl | rfl
      · exact .quiet (hcounters (by simp) (by simp)) rfl (fun _ _ => id)
          fun c => queuedSnapshots_produce (by simp) c
      · refine .made perm rfl rfl ?_
        intro c
        unfold System.queuedSnapshots
        rw [System.produce_simToNet, System.produce_outbox, ← List.append_assoc, ofFamily_append]
  | simulationPush next =>
      refine .quiet (hcounters (by simp) (by simp)) rfl (fun _ _ => id) ?_
      intro c
      simp [System.queuedSnapshots, next]
  | receive idle =>
      exact .quiet (hcounters (by simp) (by simp)) (by simp [idle]) (by simp) fun _ => rfl
  | networkPush =>
      exact .quiet (hcounters (by simp) (by simp)) (by simp [*]) (by simp) fun _ => rfl
  | sendReliable outgoing =>
      refine .quiet (hcounters (by simp) (by simp)) (by simp [outgoing]) ?_ fun _ => rfl
      intro c m' hm'
      rw [outgoing]
      exact hm'
  | endOutgoing outgoing =>
      exact .quiet (hcounters (by simp) (by simp)) (by simp [outgoing]) (by simp) fun _ => rfl
  | _ => exact .quiet (hcounters (by simp) (by simp)) rfl (fun _ _ => id) fun _ => rfl

end Cases

-- ============================================================================
-- Whose packets are whose
-- ============================================================================

namespace SnapshotHistory

variable (h : SnapshotHistory)

/-- The accepted packets of one session of `c`, in order. -/
def acceptedOf (c : ConnectionId) (life : Nat) : List AcceptedSnapshot :=
  h.accepted.filter fun r => r.message.connectionId = c && r.life = life

omit [DecidableEq Peer] in
theorem acceptedOf_sent (c : ConnectionId) (life : Nat) (packets : List (OwnedPacket Peer)) :
    (h.sent packets).acceptedOf c life = h.acceptedOf c life ++
      (packets.filter fun owned => owned.message.connectionId = c && h.sendingLife = life).map
        fun owned => { message := owned.message, life := h.sendingLife,
                       bytes := owned.packet.data } := by
  simp only [acceptedOf, sent, List.filter_append, List.filter_map, Function.comp_def]

end SnapshotHistory

/-- No packet belongs to a session that has not been opened yet. -/
structure LivesInv (s : System Peer) (h : SnapshotHistory) : Prop where
  accepted : ∀ r ∈ h.accepted, r.life ≤ h.lives r.message.connectionId
  sending : ∀ m bytes, s.network.sendingPacket = some (m, bytes) →
    h.sendingLife ≤ h.lives m.connectionId

namespace LivesInv

variable {platform : Platform} {s s' : System Peer} {h h' : SnapshotHistory} {a : Action Peer}
  {tr : List (Event Peer)}

/-- Opening a session only adds one. -/
theorem le_lives_opened {life : Nat} {c c' : ConnectionId} (hle : life ≤ h.lives c') :
    life ≤ (h.opened c).lives c' := by
  simp only [SnapshotHistory.opened, Function.update_apply]
  split
  · rename_i heq
    subst heq
    omega
  · exact hle

omit [DecidableEq Peer] in
theorem step (inv : LivesInv s h) (hs : SnapshotSteps s h a s' h') : LivesInv s' h' := by
  obtain ⟨haccepted, hsending⟩ := inv
  cases hs with
  | quiet _ sending =>
      refine ⟨haccepted, ?_⟩
      rw [sending]
      exact hsending
  | opened _ network =>
      refine ⟨fun r hr => le_lives_opened (haccepted r hr), ?_⟩
      rw [network]
      exact fun m bytes h => le_lives_opened (hsending m bytes h)
  | drained _ _ sending =>
      refine ⟨haccepted, ?_⟩
      rw [sending]
      simp
  | numbered _ _ _ _ sending =>
      refine ⟨haccepted, ?_⟩
      intro m' bytes' hm'
      rw [sending] at hm'
      obtain ⟨rfl, rfl⟩ := Prod.mk.inj (Option.some.inj hm')
      exact le_refl _
  | @sent _ _ p m bytes _ sending _ network =>
      rw [sending] at hsending
      refine ⟨?_, by rw [network]; simp⟩
      intro r hr
      rcases List.mem_append.mp hr with hr | hr
      · exact haccepted r hr
      · obtain ⟨owned, howned, rfl⟩ := List.mem_map.mp hr
        split at howned
        · obtain rfl := List.mem_singleton.mp howned
          exact hsending m bytes rfl
        · cases howned
  | made _ _ network =>
      refine ⟨haccepted, ?_⟩
      rw [network]
      exact hsending

theorem of_reach (hr : (serverWithSnapshots Peer platform).Reach (s, h) tr) : LivesInv s h :=
  TraceMachine.Run.invariant (M := serverWithSnapshots Peer platform)
    (P := fun s _ => LivesInv s.1 s.2)
    ⟨by simp [serverWithSnapshots, TraceMachine.withHistory],
      by simp [serverWithSnapshots, TraceMachine.withHistory, server, System.init]⟩
    (fun _ _ _ _ _ _ inv _ hs => inv.step (snapshot_cases hs)) hr

omit [DecidableEq Peer] in
/-- A session that is being opened has no packets. -/
theorem acceptedOf_opened (inv : LivesInv s h) (c : ConnectionId) :
    (h.opened c).acceptedOf c ((h.opened c).lives c) = [] := by
  refine List.filter_eq_nil_iff.mpr ?_
  intro r hr
  have hle := inv.accepted r hr
  simp only [SnapshotHistory.opened, Function.update_self, Bool.and_eq_true, decide_eq_true_eq,
    not_and]
  rintro rfl
  omega

end LivesInv

-- ============================================================================
-- The ids of a session
-- ============================================================================

/-- The first `n` snapshot ids of a session: 1, 2, ..., modulo 2^32. -/
def firstSnapshotIds (n : Nat) : List UInt32 :=
  (List.range n).map fun i => UInt32.ofNat (i + 1)

theorem firstSnapshotIds_succ (n : Nat) :
    firstSnapshotIds (n + 1) = firstSnapshotIds n ++ [UInt32.ofNat (n + 1)] := by
  simp [firstSnapshotIds, List.range_succ]

/-- An id up to the last one given out has been given out. -/
theorem mem_firstSnapshotIds {n : Nat} {id : UInt32} (hzero : id ≠ 0)
    (hle : id ≤ UInt32.ofNat n) : id ∈ firstSnapshotIds n := by
  have hle : id.toNat ≤ n := by
    have hmod := UInt32.le_iff_toNat_le.mp hle
    rw [UInt32.toNat_ofNat'] at hmod
    exact le_trans hmod (Nat.mod_le _ _)
  have hpos : 0 < id.toNat := by
    refine Nat.pos_of_ne_zero fun h => hzero ?_
    rw [← UInt32.toNat_inj, h]
    rfl
  refine List.mem_map.mpr ⟨id.toNat - 1, List.mem_range.mpr (by omega), ?_⟩
  rw [Nat.sub_add_cancel hpos, UInt32.ofNat_toNat]

/-- The counters of a session are as many ids on as have been allocated for it. -/
structure NumberingInv (s : System Peer) (h : SnapshotHistory) : Prop where
  allocated : ∀ c, h.allocated c = firstSnapshotIds (h.allocated c).length
  counters : ∀ c x, s.networkState.sessions.lookup c = some x →
    x.serverNextSnapshotId = UInt32.ofNat ((h.allocated c).length + 1) ∧
      x.serverLastSentSnapshotId = UInt32.ofNat (h.allocated c).length

namespace NumberingInv

variable {platform : Platform} {s s' : System Peer} {h h' : SnapshotHistory} {a : Action Peer}
  {tr : List (Event Peer)}

omit [DecidableEq Peer] in
/-- A step that changes one session and the ids allocated for it. -/
theorem update (inv : NumberingInv s h) {c : ConnectionId} {y : ClientSession}
    (hsessions : ∀ c', s'.networkState.sessions.lookup c' =
      if c' = c then some y else s.networkState.sessions.lookup c')
    (hothers : ∀ c', c' ≠ c → h'.allocated c' = h.allocated c')
    (hallocated : h'.allocated c = firstSnapshotIds (h'.allocated c).length)
    (hcounters : y.serverNextSnapshotId = UInt32.ofNat ((h'.allocated c).length + 1) ∧
      y.serverLastSentSnapshotId = UInt32.ofNat (h'.allocated c).length) :
    NumberingInv s' h' where
  allocated := by
    intro c'
    by_cases hc : c' = c
    · rw [hc]
      exact hallocated
    · rw [hothers c' hc]
      exact inv.allocated c'
  counters := by
    intro c' x hx
    rw [hsessions] at hx
    by_cases hc : c' = c
    · rw [if_pos hc] at hx
      obtain rfl := Option.some.inj hx
      rw [hc]
      exact hcounters
    · rw [if_neg hc] at hx
      rw [hothers c' hc]
      exact inv.counters c' x hx

omit [DecidableEq Peer] in
theorem step (inv : NumberingInv s h) (hs : SnapshotSteps s h a s' h') : NumberingInv s' h' := by
  cases hs with
  | quiet counters =>
      refine ⟨inv.allocated, ?_⟩
      intro c y hy
      obtain ⟨x, hx, hnext, hlast⟩ := counters c y hy
      rw [hnext, hlast]
      exact inv.counters c x hx
  | @opened _ c _ sessions =>
      have hself : (h.opened c).allocated c = [] := Function.update_self _ _ _
      refine inv.update sessions (fun c' hc => Function.update_of_ne hc _ _) ?_ ?_
      · rw [hself]
        rfl
      · rw [hself]
        exact ⟨rfl, rfl⟩
  | drained _ sessions => exact ⟨inv.allocated, by rw [sessions]; exact inv.counters⟩
  | @numbered c _ m x bytes packet free held found sessions =>
      have hnext := (inv.counters _ x found).1
      have hself : (h.numbered m.connectionId x.serverNextSnapshotId).allocated m.connectionId =
          h.allocated m.connectionId ++ [x.serverNextSnapshotId] := Function.update_self _ _ _
      refine inv.update sessions (fun c' hc => Function.update_of_ne hc _ _) ?_ ?_
      · rw [hself, List.length_append, List.length_singleton, firstSnapshotIds_succ,
          ← inv.allocated, hnext]
      · rw [hself, List.length_append, List.length_singleton, UInt32.ofNat_add _ 1, ← hnext]
        exact ⟨rfl, rfl⟩
  | sent _ sessions => exact ⟨inv.allocated, by rw [sessions]; exact inv.counters⟩
  | made _ sessions => exact ⟨inv.allocated, by rw [sessions]; exact inv.counters⟩

theorem of_reach (hr : (serverWithSnapshots Peer platform).Reach (s, h) tr) : NumberingInv s h :=
  TraceMachine.Run.invariant (M := serverWithSnapshots Peer platform)
    (P := fun s _ => NumberingInv s.1 s.2)
    ⟨fun _ => rfl, by simp [serverWithSnapshots, TraceMachine.withHistory, server, System.init]⟩
    (fun _ _ _ _ _ _ inv _ hs => inv.step (snapshot_cases hs)) hr

end NumberingInv

end RcnetServer
