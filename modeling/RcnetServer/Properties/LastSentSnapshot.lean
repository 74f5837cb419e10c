/-
  RcnetServer.Properties.LastSentSnapshot

  The recorded last-sent snapshot and the one really sent.

  The id of a snapshot is allocated and recorded in its session before the guard
  and before the send, whose result is not looked at.  So the record is right as
  long as every snapshot that has been numbered is accepted.
-/

import RcnetServer.System.Snapshots

namespace RcnetServer

variable {Peer : Type} [DecidableEq Peer]

/-- The id in the last of some packets; 0 if there is none. -/
def lastSnapshotId (records : List AcceptedSnapshot) : UInt32 :=
  match records.getLast? with
  | none => 0
  | some r => (r.packet.map (·.snapshotId)).getD 0

/-- The id in the last packet accepted for the current session of `c`. -/
def SnapshotHistory.lastAcceptedId (h : SnapshotHistory) (c : ConnectionId) : UInt32 :=
  lastSnapshotId (h.acceptedOf c (h.lives c))

/-- The network thread is not in an outgoing pass. -/
def NetworkThread.betweenPasses : NetworkThread Peer → Bool
  | .idle => true
  | .pushing _ => true
  | _ => false

/-- Every session has on record the id of the last snapshot that was really sent to
    it. -/
def SnapshotsRecorded (s : System Peer) (h : SnapshotHistory) : Prop :=
  ∀ c x, s.networkState.sessions.lookup c = some x →
    x.serverLastSentSnapshotId = h.lastAcceptedId c

/-- A snapshot that has been numbered is accepted, if the session it was numbered for
    is still there. -/
def System.acceptsNumbered (s : System Peer) (h : SnapshotHistory) : Action Peer → Bool
  | .sendSnapshot outcome =>
      match s.network with
      | .sendingSnapshot p m _ _ =>
          (s.networkState.sessions.lookup m.connectionId).isNone ||
            decide (h.sendingLife ≠ h.lives m.connectionId) ||
            ServerNetworkOutgoing.acceptsSnapshot s.networkState s.peers p outcome
      | _ => true
  | _ => true

-- ============================================================================
-- One step
-- ============================================================================

section LastAccepted

variable {h : SnapshotHistory} {c : ConnectionId} {owned : OwnedPacket Peer}

omit [DecidableEq Peer] in
/-- A packet of another session changes nothing. -/
theorem lastAcceptedId_sent_of_ne {packets : List (OwnedPacket Peer)}
    (hne : ∀ owned ∈ packets, owned.message.connectionId = c → h.sendingLife ≠ h.lives c) :
    (h.sent packets).lastAcceptedId c = h.lastAcceptedId c := by
  have hnone : (packets.filter fun owned =>
      owned.message.connectionId = c && h.sendingLife = h.lives c) = [] := by
    refine List.filter_eq_nil_iff.mpr ?_
    intro owned howned
    simpa using hne owned howned
  have hsame : (h.sent packets).acceptedOf c (h.lives c) = h.acceptedOf c (h.lives c) := by
    rw [h.acceptedOf_sent, hnone, List.map_nil, List.append_nil]
  show lastSnapshotId ((h.sent packets).acceptedOf c (h.lives c)) = _
  rw [hsame]
  rfl

omit [DecidableEq Peer] in
/-- The packet of the session becomes its last one. -/
theorem lastAcceptedId_sent (hown : owned.message.connectionId = c)
    (hlife : h.sendingLife = h.lives c) {packet : ServerSnapshotFullPacketUnreliable}
    (hpacket : deserializeServerSnapshotFullPacketUnreliable owned.packet.data = some packet) :
    (h.sent [owned]).lastAcceptedId c = packet.snapshotId := by
  have hlast : ((h.sent [owned]).acceptedOf c (h.lives c)).getLast? =
      some { message := owned.message, life := h.sendingLife, bytes := owned.packet.data } := by
    rw [h.acceptedOf_sent, List.filter_cons_of_pos (by simp [hown, hlife])]
    simp
  show lastSnapshotId ((h.sent [owned]).acceptedOf c (h.lives c)) = _
  simp [lastSnapshotId, hlast, AcceptedSnapshot.packet, hpacket]

end LastAccepted

-- ============================================================================
-- Whole runs
-- ============================================================================

/-- The record of each session over a run: it is right, except while the snapshot it
    names is being sent. -/
structure LastSentInv (s : System Peer) (h : SnapshotHistory) : Prop where
  recorded : ∀ c x, s.networkState.sessions.lookup c = some x →
    (∀ m bytes, s.network.sendingPacket = some (m, bytes) → m.connectionId = c →
      h.sendingLife ≠ h.lives c) →
    x.serverLastSentSnapshotId = h.lastAcceptedId c
  sending : ∀ m bytes x, s.network.sendingPacket = some (m, bytes) →
    h.sendingLife = h.lives m.connectionId →
    s.networkState.sessions.lookup m.connectionId = some x →
    ∃ packet, deserializeServerSnapshotFullPacketUnreliable bytes = some packet ∧
      packet.snapshotId = x.serverLastSentSnapshotId

namespace LastSentInv

variable {platform : Platform} {s s' : System Peer} {h h' : SnapshotHistory} {a : Action Peer}
  {tr : List (Event Peer)}

omit [DecidableEq Peer] in
theorem step (inv : LastSentInv s h) (lives : LivesInv s h) (hs : SnapshotSteps s h a s' h')
    (hok : s.acceptsNumbered h a = true) : LastSentInv s' h' := by
  obtain ⟨hrecorded, hsending⟩ := inv
  cases hs with
  | quiet counters sending =>
      refine ⟨?_, ?_⟩
      · intro c y hy hfree
        obtain ⟨x, hx, _, hsent⟩ := counters c y hy
        rw [sending] at hfree
        exact hsent.trans (hrecorded c x hx hfree)
      · intro m bytes y hm hlife hy
        obtain ⟨x, hx, _, hsent⟩ := counters _ y hy
        rw [sending] at hm
        rw [hsent]
        exact hsending m bytes x hm hlife hx
  | @opened _ c _ sessions network =>
      refine ⟨?_, ?_⟩
      · intro c' y hy hfree
        rw [sessions] at hy
        rw [network] at hfree
        by_cases hc : c' = c
        · -- a fresh session has sent nothing
          subst hc
          rw [if_pos rfl] at hy
          obtain rfl := Option.some.inj hy
          rw [SnapshotHistory.lastAcceptedId, lives.acceptedOf_opened]
          rfl
        · rw [if_neg hc] at hy
          have hlives : (h.opened c).lives c' = h.lives c' := Function.update_of_ne hc _ _
          rw [hlives] at hfree
          rw [hrecorded c' y hy hfree]
          show _ = lastSnapshotId ((h.opened c).acceptedOf c' ((h.opened c).lives c'))
          rw [hlives]
          rfl
      · intro m bytes y hm hlife hy
        rw [network] at hm
        by_cases hc : m.connectionId = c
        · -- the packet being sent is one of an earlier session
          have hle := lives.sending m bytes hm
          have hopened : (h.opened c).lives m.connectionId = h.lives m.connectionId + 1 := by
            rw [hc]
            exact Function.update_self _ _ _
          rw [hopened] at hlife
          have hsame : (h.opened c).sendingLife = h.sendingLife := rfl
          omega
        · rw [sessions, if_neg hc] at hy
          have hopened : (h.opened c).lives m.connectionId = h.lives m.connectionId :=
            Function.update_of_ne hc _ _
          rw [hopened] at hlife
          exact hsending m bytes y hm hlife hy
  | drained idle sessions sending =>
      refine ⟨?_, by rw [sending]; simp⟩
      intro c x hx _
      rw [sessions] at hx
      exact hrecorded c x hx (by simp [idle])
  | @numbered c _ m x bytes packet free held found sessions sending heldAfter queued made patched =>
      refine ⟨?_, ?_⟩
      · intro c' y hy hfree
        rw [sessions] at hy
        by_cases hc : c' = m.connectionId
        · exact absurd (by rw [hc]; rfl) (hfree m bytes sending hc.symm)
        · rw [if_neg hc] at hy
          exact hrecorded c' y hy (by rw [free]; simp)
      · intro m' bytes' y hm' _ hy
        rw [sending] at hm'
        obtain ⟨rfl, rfl⟩ := Prod.mk.inj (Option.some.inj hm')
        rw [sessions, if_pos rfl] at hy
        obtain rfl := Option.some.inj hy
        exact ⟨_, patched, rfl⟩
  | @sent outcome _ p m bytes _ sending sessions network =>
      refine ⟨?_, by rw [network]; simp⟩
      intro c x hx _
      rw [sessions] at hx
      by_cases hc : m.connectionId = c ∧ h.sendingLife = h.lives c
      · -- the snapshot this session has been numbered for
        obtain ⟨rfl, hlife⟩ := hc
        have haccepted : ServerNetworkOutgoing.acceptsSnapshot s.networkState s.peers p outcome =
            true := by
          simpa [System.acceptsNumbered, sending, hx, hlife] using hok
        obtain ⟨packet, hpacket, hid⟩ := hsending m bytes x (by simp [sending]) hlife hx
        have hown : ({ message := m, packet := { data := bytes, flags := 0 } } :
            OwnedPacket Peer).message.connectionId = m.connectionId := rfl
        rw [if_pos haccepted, lastAcceptedId_sent hown hlife hpacket, hid]
      · rw [lastAcceptedId_sent_of_ne]
        · refine hrecorded c x hx ?_
          intro m' bytes' hm' hc'
          simp only [sending, NetworkThread.sendingPacket, Option.some.injEq, Prod.mk.injEq] at hm'
          obtain ⟨rfl, rfl⟩ := hm'
          exact fun hlife => hc ⟨hc', hlife⟩
        · intro owned howned hown hlife
          split at howned
          · obtain rfl := List.mem_singleton.mp howned
            exact hc ⟨hown, hlife⟩
          · cases howned
  | made _ sessions network =>
      refine ⟨?_, ?_⟩
      · rw [sessions, network]
        exact hrecorded
      · rw [sessions, network]
        exact hsending

theorem of_run (hr : (serverWithSnapshots Peer platform).Run
      (fun s _ a => s.1.acceptsNumbered s.2 a = true) (s, h) tr) : LastSentInv s h :=
  TraceMachine.Run.invariant (M := serverWithSnapshots Peer platform)
    (P := fun s _ => LastSentInv s.1 s.2)
    ⟨by simp [serverWithSnapshots, TraceMachine.withHistory, server, System.init],
      by simp [serverWithSnapshots, TraceMachine.withHistory, server, System.init]⟩
    (fun _ _ _ _ _ hr inv hok hs =>
      inv.step (LivesInv.of_reach hr.reach) (snapshot_cases hs) hok) hr

end LastSentInv

/-- As long as every numbered snapshot is accepted, each session has the id of the last
    snapshot that was really sent to it on record between the passes. -/
theorem last_sent_is_last_accepted {platform : Platform} {s : System Peer} {h : SnapshotHistory}
    {tr : List (Event Peer)} (hr : (serverWithSnapshots Peer platform).Run
      (fun s _ a => s.1.acceptsNumbered s.2 a = true) (s, h) tr)
    (hbetween : s.network.betweenPasses = true) : SnapshotsRecorded s h := by
  intro c x hx
  refine (LastSentInv.of_run hr).recorded c x hx ?_
  intro m bytes hm
  cases hnetwork : s.network with
  | idle => simp [hnetwork] at hm
  | pushing => simp [hnetwork] at hm
  | outgoing => simp [hnetwork] at hm
  | sendingSnapshot => simp [hnetwork, NetworkThread.betweenPasses] at hbetween

/-- The client is authenticated, and the last of its snapshots is sent in the next pass. -/
def sentSnapshotRun : List (Action Unit) :=
  Action.soloEndTick Action.soloAuthenticated 0 ++
    [.beginOutgoing, .sendReliable {}, .sendReliable {}, .sendReliable {}, .patchSnapshot 1,
      .sendSnapshot {}, .endOutgoing]

theorem sentSnapshotRun_runs :
    ((serverWithSnapshots Unit soloPlatform).exec
      (fun s _ a => s.1.acceptsNumbered s.2 a = true) sentSnapshotRun).isSome = true := by
  decide +kernel

/-- The state with its past, and the trace of the run. -/
def sentSnapshotResult : (System Unit × SnapshotHistory) × List (Event Unit) :=
  ((serverWithSnapshots Unit soloPlatform).exec
    (fun s _ a => s.1.acceptsNumbered s.2 a = true) sentSnapshotRun).get sentSnapshotRun_runs

/-- The snapshot sent in the run has the id 1, which the session has on record. -/
theorem sentSnapshot_recorded :
    sentSnapshotResult.1.2.lastAcceptedId 1 = 1 ∧
      ∃ x, sentSnapshotResult.1.1.networkState.sessions.lookup 1 = some x ∧
        x.serverLastSentSnapshotId = 1 := by
  have hr : (serverWithSnapshots Unit soloPlatform).Run
      (fun s _ a => s.1.acceptsNumbered s.2 a = true)
      (sentSnapshotResult.1.1, sentSnapshotResult.1.2) sentSnapshotResult.2 := by
    rw [Prod.mk.eta]
    exact TraceMachine.run_get sentSnapshotRun_runs
  have hbetween : sentSnapshotResult.1.1.network.betweenPasses = true := by decide +kernel
  have hsession : (sentSnapshotResult.1.1.networkState.sessions.lookup 1).isSome = true := by
    decide +kernel
  have hid : sentSnapshotResult.1.2.lastAcceptedId 1 = 1 := by decide +kernel
  obtain ⟨x, hx⟩ := Option.isSome_iff_exists.mp hsession
  exact ⟨hid, x, hx, (last_sent_is_last_accepted hr hbetween 1 x hx).trans hid⟩

/-- A client that has not gone through the handshake: a pass takes place after its
    first tick. -/
def refusedSnapshotRun : List (Action Unit) :=
  Action.soloEndTick (Action.soloConnect :: Action.soloTick 1 1) 2 ++
    [.beginOutgoing, .sendReliable {}, .sendReliable {}, .patchSnapshot 1, .sendSnapshot {},
      .endOutgoing]

theorem refusedSnapshotRun_runs :
    ((serverWithSnapshots Unit soloPlatform).exec (fun _ _ _ => True) refusedSnapshotRun).isSome =
      true := by
  decide +kernel

/-- The state with its past, and the trace of the run. -/
def refusedSnapshotResult : (System Unit × SnapshotHistory) × List (Event Unit) :=
  ((serverWithSnapshots Unit soloPlatform).exec (fun _ _ _ => True) refusedSnapshotRun).get
    refusedSnapshotRun_runs

/-- The guard refuses the snapshot, so none was ever sent; the session has the id 1 on
    record. -/
theorem refusedSnapshot_not_recorded :
    (serverWithSnapshots Unit soloPlatform).Reach
        (refusedSnapshotResult.1.1, refusedSnapshotResult.1.2) refusedSnapshotResult.2 ∧
      refusedSnapshotResult.1.1.network.betweenPasses = true ∧
      ¬ SnapshotsRecorded refusedSnapshotResult.1.1 refusedSnapshotResult.1.2 := by
  refine ⟨?_, by decide +kernel, ?_⟩
  · rw [Prod.mk.eta]
    exact TraceMachine.run_get refusedSnapshotRun_runs
  intro hall
  have hrecord : (refusedSnapshotResult.1.1.networkState.sessions.lookup 1).map
      (·.serverLastSentSnapshotId) = some 1 := by
    decide +kernel
  have hnone : refusedSnapshotResult.1.2.lastAcceptedId 1 = 0 := by decide +kernel
  obtain ⟨x, hx, hid⟩ := Option.map_eq_some_iff.mp hrecord
  have hzero := (hall 1 x hx).trans hnone
  rw [hid] at hzero
  exact absurd hzero (by decide)

end RcnetServer
