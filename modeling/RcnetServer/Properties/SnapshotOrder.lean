/-
  RcnetServer.Properties.SnapshotOrder

  The order in which the snapshots of a client are handed to ENet.

  The tick of a snapshot is fixed when the simulation thread makes it, its id when
  the network thread sends it.  For the ticks, the snapshots of a connection are
  followed along the whole way from the outbox to ENet: a step only drops some of
  them, or adds one of the current tick at the end.  For the ids, what ENet has
  accepted of a session stays below the counter of the session.
-/

import RcnetServer.Properties.MatchStart
import RcnetServer.System.Snapshots

namespace RcnetServer

variable {Peer : Type} [DecidableEq Peer]

/-- `m` is a snapshot of an earlier tick than `m'`. -/
def SimulationToNetworkOUTMessage.MadeBefore (m m' : SimulationToNetworkOUTMessage) : Prop :=
  ∃ packet packet', m.snapshotPacket = some packet ∧ m'.snapshotPacket = some packet' ∧
    packet.serverTick < packet'.serverTick

/-- The packet of `r'` has a larger id and a later tick than that of `r`. -/
def AcceptedSnapshot.SentBefore (r r' : AcceptedSnapshot) : Prop :=
  ∃ packet packet', r.packet = some packet ∧ r'.packet = some packet' ∧
    packet.snapshotId < packet'.snapshotId ∧ packet.serverTick < packet'.serverTick

/-- `m` is the last snapshot of its connection in `batch`, and the one of the latest
    tick. -/
def SimulationToNetworkOUTMessage.NewestIn (m : SimulationToNetworkOUTMessage)
    (batch : List SimulationToNetworkOUTMessage) : Prop :=
  ∃ older, ofFamily .serverSnapshotFullPacketUnreliable m.connectionId batch = older ++ [m] ∧
    ∀ m' ∈ older, m'.MadeBefore m

/-- What has been handed to ENet, over the whole run and in the current pass. -/
structure SnapshotsInOrder (h : SnapshotHistory) : Prop where
  increasing : ∀ c life, (h.acceptedOf c life).Pairwise AcceptedSnapshot.SentBefore
  /-- No snapshot is sent twice, to whatever session. -/
  once : (h.accepted.map (·.message)).Nodup
  onePerPass : (h.sentInPass.map (·.connectionId)).Nodup
  newest : ∀ m ∈ h.sentInPass, m.NewestIn h.drained

/-- Fewer than 2^32 - 1 snapshot ids are allocated for a session. -/
def System.allocatesFew (s : System Peer) (h : SnapshotHistory) : Action Peer → Bool
  | .patchSnapshot c =>
      decide (((h.record s (.patchSnapshot c)).allocated c).length < 2 ^ 32 - 1)
  | _ => true

-- ============================================================================
-- What a pass sends
-- ============================================================================

/-- The last snapshot of `c` in a batch is one for `c`. -/
theorem connectionId_of_getLast? {c : ConnectionId} {m : SimulationToNetworkOUTMessage}
    {batch : List SimulationToNetworkOUTMessage}
    (h : (ofFamily .serverSnapshotFullPacketUnreliable c batch).getLast? = some m) :
    m.connectionId = c := by
  have hfamily := (List.mem_filter.mp (List.mem_of_getLast? h)).2
  simp only [Bool.and_eq_true, decide_eq_true_eq] at hfamily
  exact hfamily.2

/-- The snapshots of the current pass: those still held, the one being sent, and those
    sent, each the last one of its connection in the batch. -/
structure PassInv (s : System Peer) (h : SnapshotHistory) : Prop where
  held : ∀ c m, s.network.heldSnapshot c = some m →
    (ofFamily .serverSnapshotFullPacketUnreliable c h.drained).getLast? = some m ∧
      c ∉ h.sentInPass.map (·.connectionId)
  sending : ∀ m bytes, s.network.sendingPacket = some (m, bytes) →
    (ofFamily .serverSnapshotFullPacketUnreliable m.connectionId h.drained).getLast? = some m ∧
      s.network.heldSnapshot m.connectionId = none ∧
      m.connectionId ∉ h.sentInPass.map (·.connectionId)
  sent : ∀ m ∈ h.sentInPass,
    (ofFamily .serverSnapshotFullPacketUnreliable m.connectionId h.drained).getLast? = some m
  once : (h.sentInPass.map (·.connectionId)).Nodup

namespace PassInv

variable {platform : Platform} {s s' : System Peer} {h h' : SnapshotHistory} {a : Action Peer}
  {tr : List (Event Peer)}

omit [DecidableEq Peer] in
/-- A snapshot is held for its own connection. -/
theorem connectionId_of_held (inv : PassInv s h) {c : ConnectionId}
    {m : SimulationToNetworkOUTMessage} (hm : s.network.heldSnapshot c = some m) :
    m.connectionId = c :=
  connectionId_of_getLast? (inv.held c m hm).1

omit [DecidableEq Peer] in
theorem step (inv : PassInv s h) (hs : SnapshotSteps s h a s' h') : PassInv s' h' := by
  have hown := fun c m => inv.connectionId_of_held (c := c) (m := m)
  obtain ⟨hheld, hsending, hsent, honce⟩ := inv
  cases hs with
  | quiet _ sending held =>
      refine ⟨fun c m hm => hheld c m (held c m hm), ?_, hsent, honce⟩
      intro m bytes hm
      rw [sending] at hm
      obtain ⟨hlast, hnone, hnew⟩ := hsending m bytes hm
      refine ⟨hlast, Option.eq_none_iff_forall_ne_some.mpr ?_, hnew⟩
      intro m' hm'
      have hbefore := held _ _ hm'
      rw [hnone] at hbefore
      cases hbefore
  | opened _ network => exact ⟨by rwa [network], by rwa [network], hsent, honce⟩
  | drained _ _ sending held =>
      refine ⟨?_, by rw [sending]; simp, ?_, List.nodup_nil⟩
      · intro c m hm
        rw [held] at hm
        exact ⟨hm, List.not_mem_nil⟩
      · intro m hm
        cases hm
  | @numbered c _ m x bytes packet free held found _ sending heldAfter =>
      refine ⟨?_, ?_, hsent, honce⟩
      · intro c' m' hm'
        rw [heldAfter] at hm'
        split at hm'
        · cases hm'
        · exact hheld c' m' hm'
      · intro m' bytes' hm'
        rw [sending] at hm'
        obtain ⟨rfl, rfl⟩ := Prod.mk.inj (Option.some.inj hm')
        have hc := hown c m held
        obtain ⟨hlast, hnew⟩ := hheld c m held
        rw [hc]
        exact ⟨hlast, by rw [heldAfter, if_pos rfl], hnew⟩
  | @sent outcome _ p m bytes prepared sending _ network =>
      obtain ⟨hlast, hnone, hnew⟩ := hsending m bytes (by simp [sending])
      have hheldAfter : ∀ c, s'.network.heldSnapshot c = s.network.heldSnapshot c := by
        intro c
        simp [network, sending]
      refine ⟨?_, by rw [network]; simp, ?_, ?_⟩
      · intro c m' hm'
        rw [hheldAfter] at hm'
        obtain ⟨hlast', hnew'⟩ := hheld c m' hm'
        refine ⟨hlast', ?_⟩
        -- the snapshot of another connection
        have hne : c ≠ m.connectionId := by
          rintro rfl
          rw [hnone] at hm'
          cases hm'
        simp only [SnapshotHistory.sent, List.map_append, List.map_map, List.mem_append, not_or]
        refine ⟨hnew', ?_⟩
        split
        · simpa using hne
        · simp
      · intro m' hm'
        rcases List.mem_append.mp hm' with hm' | hm'
        · exact hsent m' hm'
        · split at hm'
          · obtain rfl := List.mem_singleton.mp hm'
            exact hlast
          · cases hm'
      · simp only [SnapshotHistory.sent]
        split
        · simpa [List.nodup_append] using ⟨honce, by simpa using hnew⟩
        · simpa using honce
  | made _ _ network => exact ⟨by rwa [network], by rwa [network], hsent, honce⟩

theorem of_reach (hr : (serverWithSnapshots Peer platform).Reach (s, h) tr) : PassInv s h :=
  TraceMachine.Run.invariant (M := serverWithSnapshots Peer platform)
    (P := fun s _ => PassInv s.1 s.2)
    ⟨by simp [serverWithSnapshots, TraceMachine.withHistory, server, System.init],
      by simp [serverWithSnapshots, TraceMachine.withHistory, server, System.init],
      by simp [serverWithSnapshots, TraceMachine.withHistory],
      by simp [serverWithSnapshots, TraceMachine.withHistory]⟩
    (fun _ _ _ _ _ _ inv _ hs => inv.step (snapshot_cases hs)) hr

end PassInv

-- ============================================================================
-- Ids
-- ============================================================================

/-- The packet that was made for `r`, with the id it was given. -/
def AcceptedSnapshot.Numbered (r : AcceptedSnapshot) (id : UInt32) : Prop :=
  ∃ packet, r.message.snapshotPacket = some packet ∧
    r.packet = some { packet with snapshotId := id }

/-- Ids over a run: what ENet has accepted of a session was numbered in order, and by
    the counter of the session. -/
structure IdsInv (s : System Peer) (h : SnapshotHistory) : Prop where
  accepted : ∀ r ∈ h.accepted, ∃ id, r.Numbered id ∧
    (r.life = h.lives r.message.connectionId →
      id.toNat ≤ (h.allocated r.message.connectionId).length)
  sending : ∀ m bytes, s.network.sendingPacket = some (m, bytes) →
    ∃ id, AcceptedSnapshot.Numbered ⟨m, h.sendingLife, bytes⟩ id ∧
      (h.sendingLife = h.lives m.connectionId →
        id.toNat ≤ (h.allocated m.connectionId).length) ∧
      ∀ r ∈ h.accepted, r.message.connectionId = m.connectionId → r.life = h.sendingLife →
        ∃ id', r.Numbered id' ∧ id' < id
  ordered : h.accepted.Pairwise fun r r' =>
    r.message.connectionId = r'.message.connectionId → r.life = r'.life →
      ∃ id id', r.Numbered id ∧ r'.Numbered id' ∧ id < id'

namespace IdsInv

variable {platform : Platform} {s s' : System Peer} {h h' : SnapshotHistory} {a : Action Peer}
  {tr : List (Event Peer)}

omit [DecidableEq Peer] in
theorem step (inv : IdsInv s h) (lives : LivesInv s h) (numbering : NumberingInv s h)
    (pass : PassInv s h) (hs : SnapshotSteps s h a s' h')
    (hfew : ∀ c, a = .patchSnapshot c → (h'.allocated c).length < 2 ^ 32 - 1) : IdsInv s' h' := by
  obtain ⟨haccepted, hsending, hordered⟩ := inv
  cases hs with
  | quiet _ sending => exact ⟨haccepted, by rwa [sending], hordered⟩
  | @opened _ c _ _ network =>
      -- a packet of the session that has just been opened: there is none
      have hkept : ∀ {life : Nat} {c' : ConnectionId} {n : Nat}, life ≤ h.lives c' →
          (life = h.lives c' → n ≤ (h.allocated c').length) →
          life = (h.opened c).lives c' → n ≤ ((h.opened c).allocated c').length := by
        intro life c' n hle hn hlife
        by_cases hc : c' = c
        · subst hc
          have hlives : (h.opened c').lives c' = h.lives c' + 1 := Function.update_self _ _ _
          omega
        · have hlives : (h.opened c).lives c' = h.lives c' := Function.update_of_ne hc _ _
          have hallocated : (h.opened c).allocated c' = h.allocated c' :=
            Function.update_of_ne hc _ _
          rw [hallocated]
          exact hn (hlife.trans hlives)
      refine ⟨?_, ?_, hordered⟩
      · intro r hr
        obtain ⟨id, hid, hle⟩ := haccepted r hr
        exact ⟨id, hid, hkept (lives.accepted r hr) hle⟩
      · intro m bytes hm
        rw [network] at hm
        obtain ⟨id, hid, hle, hlater⟩ := hsending m bytes hm
        exact ⟨id, hid, hkept (lives.sending m bytes hm) hle, hlater⟩
  | drained _ _ sending => exact ⟨haccepted, by rw [sending]; simp, hordered⟩
  | @numbered c _ m x bytes packet free held found _ sending heldAfter _ made patched =>
      have hc := pass.connectionId_of_held held
      have hself : (h.numbered m.connectionId x.serverNextSnapshotId).allocated m.connectionId =
          h.allocated m.connectionId ++ [x.serverNextSnapshotId] := Function.update_self _ _ _
      have hlength : (h.allocated m.connectionId).length + 1 < 2 ^ 32 - 1 := by
        have h := hfew c rfl
        rw [← hc, hself, List.length_append, List.length_singleton] at h
        exact h
      -- the counter has not wrapped
      have hid : x.serverNextSnapshotId.toNat = (h.allocated m.connectionId).length + 1 := by
        rw [(numbering.counters _ x found).1, UInt32.toNat_ofNat', Nat.mod_eq_of_lt]
        omega
      have hgrows : ∀ c', (h.allocated c').length ≤
          ((h.numbered m.connectionId x.serverNextSnapshotId).allocated c').length := by
        intro c'
        by_cases hc' : c' = m.connectionId
        · rw [hc', hself, List.length_append]
          omega
        · exact (congrArg List.length (Function.update_of_ne hc' _ _)).ge
      refine ⟨?_, ?_, hordered⟩
      · intro r hr
        obtain ⟨id, hnumbered, hle⟩ := haccepted r hr
        exact ⟨id, hnumbered, fun hlife => (hle hlife).trans (hgrows _)⟩
      · intro m' bytes' hm'
        rw [sending] at hm'
        obtain ⟨rfl, rfl⟩ := Prod.mk.inj (Option.some.inj hm')
        refine ⟨x.serverNextSnapshotId, ⟨packet, made, patched⟩, ?_, ?_⟩
        · intro _
          rw [hself, List.length_append, List.length_singleton, hid]
        · intro r hr hconnection hlife
          obtain ⟨id, hnumbered, hle⟩ := haccepted r hr
          have hbelow := hle (by rw [hconnection]; exact hlife)
          rw [hconnection] at hbelow
          refine ⟨id, hnumbered, UInt32.lt_iff_toNat_lt.mpr ?_⟩
          omega
  | @sent outcome _ p m bytes prepared sending _ network =>
      obtain ⟨id, hnumbered, hle, hlater⟩ := hsending m bytes (by simp [sending])
      refine ⟨?_, by rw [network]; simp, ?_⟩
      · intro r hr
        rcases List.mem_append.mp hr with hr | hr
        · exact haccepted r hr
        · obtain ⟨owned, howned, rfl⟩ := List.mem_map.mp hr
          split at howned
          · obtain rfl := List.mem_singleton.mp howned
            exact ⟨id, hnumbered, hle⟩
          · cases howned
      · refine List.pairwise_append.mpr ⟨hordered, ?_, ?_⟩
        · split <;> simp
        · intro r hr r' hr' hconnection hlife
          obtain ⟨owned, howned, rfl⟩ := List.mem_map.mp hr'
          split at howned
          · obtain rfl := List.mem_singleton.mp howned
            obtain ⟨id', hnumbered', hlt⟩ := hlater r hr hconnection hlife
            exact ⟨id', id, hnumbered', hnumbered, hlt⟩
          · cases howned
  | made _ _ network => exact ⟨haccepted, by rwa [network], hordered⟩

end IdsInv

-- ============================================================================
-- Ticks
-- ============================================================================

/-- The snapshots of `c`, from the one accepted first to the one made last. -/
def snapshotsOf (s : System Peer) (h : SnapshotHistory) (c : ConnectionId) :
    List SimulationToNetworkOUTMessage :=
  ((h.accepted.map (·.message)).filter fun m => m.connectionId = c) ++
    ((s.network.sendingPacket.map Prod.fst).toList.filter fun m => m.connectionId = c) ++
    (s.network.heldSnapshot c).toList ++ s.queuedSnapshots c

/-- The match flow has been checked for tick `t`. -/
def TickChecked (tr : List (Event Peer)) (t : UInt64) : Prop :=
  ∃ sessions gameState out, Event.matchFlowChecked t sessions gameState out ∈ tr

omit [DecidableEq Peer] in
theorem TickChecked.append {tr : List (Event Peer)} {t : UInt64} (h : TickChecked tr t)
    (es : List (Event Peer)) : TickChecked (tr ++ es) t := by
  obtain ⟨sessions, gameState, out, he⟩ := h
  exact ⟨sessions, gameState, out, List.mem_append_left _ he⟩

section Ticks

variable {platform : Platform} {s s' : System Peer} {h h' : SnapshotHistory} {a : Action Peer}
  {tr es : List (Event Peer)}

omit [DecidableEq Peer] in
/-- A snapshot that is made is one of the current tick. -/
theorem snapshotPacket_of_made {clock : Nat → UInt64} {networkState : NetworkState Peer}
    {t : UInt64} {start : Nat} {m : SimulationToNetworkOUTMessage}
    (hm : m ∈ System.stamp start
      (ServerSimulation.createFullSnapshotsForAllSessionsAndEnqueueForNetworkOutgoing clock
        networkState t)) : ∃ packet, m.snapshotPacket = some packet ∧ packet.serverTick = t := by
  obtain ⟨m₀, hm₀, serial, rfl⟩ := System.mem_stamp hm
  obtain ⟨serverTimeNs, session, _, rfl⟩ := ServerSimulation.mem_createFullSnapshots hm₀
  exact ⟨_, deserialize_serializeServerSnapshotFullPacketUnreliable rfl, rfl⟩

omit [DecidableEq Peer] in
/-- A tick makes at most one snapshot for a connection. -/
theorem pairwise_made {order : Sessions} (own : s.SessionsOwned)
    (perm : order.entries.Perm s.networkState.sessions.entries) (clock : Nat → UInt64)
    (t : UInt64) (start : Nat) (c : ConnectionId)
    (r : SimulationToNetworkOUTMessage → SimulationToNetworkOUTMessage → Prop) :
    (ofFamily .serverSnapshotFullPacketUnreliable c (System.stamp start
      (ServerSimulation.createFullSnapshotsForAllSessionsAndEnqueueForNetworkOutgoing clock
        { s.networkState with sessions := order } t))).Pairwise r := by
  have hkeys : (UnorderedMap.values order).map (·.connectionId) = order.keys := by
    refine UnorderedMap.map_values_eq_keys ?_
    intro k x hx
    refine (own k x ?_).1
    rw [← hx]
    exact (List.perm_dlookup k order.nodupKeys perm).symm
  refine pairwise_filter_of_nodup_map (fun m => m.connectionId) ?_ c r ?_
  · have hids : (System.stamp start
        (ServerSimulation.createFullSnapshotsForAllSessionsAndEnqueueForNetworkOutgoing clock
          { s.networkState with sessions := order } t)).map (fun m => m.connectionId) =
        (UnorderedMap.values order).map (·.connectionId) := by
      refine List.ext_getElem (by simp [System.stamp,
        ServerSimulation.createFullSnapshotsForAllSessionsAndEnqueueForNetworkOutgoing]) ?_
      intro i _ _
      simp [System.stamp,
        ServerSimulation.createFullSnapshotsForAllSessionsAndEnqueueForNetworkOutgoing,
        ServerSimulation.createFullSnapshotAndEnqueue]
    rw [hids, hkeys]
    exact order.keys_nodup
  · intro m hm
    simp only [Bool.and_eq_true, decide_eq_true_eq] at hm
    exact hm.2

omit [DecidableEq Peer] in
/-- A step drops some of the snapshots of a connection or moves them on, or it is the
    production of a tick. -/
theorem snapshotsOf_step (pass : PassInv s h) (hs : SnapshotSteps s h a s' h') :
    (∀ c, (snapshotsOf s' h' c).Sublist (snapshotsOf s h c)) ∨
    ∃ order clock, a = .createSnapshots order clock ∧
      order.entries.Perm s.networkState.sessions.entries ∧
      ∀ c, snapshotsOf s' h' c = snapshotsOf s h c ++
        ofFamily .serverSnapshotFullPacketUnreliable c (System.stamp s.producedCount
          (ServerSimulation.createFullSnapshotsForAllSessionsAndEnqueueForNetworkOutgoing clock
            { s.networkState with sessions := order } s.simulation.currentTick)) := by
  cases hs with
  | quiet _ sending held queued =>
      refine Or.inl fun c => ?_
      have hheld : (s'.network.heldSnapshot c).toList.Sublist
          (s.network.heldSnapshot c).toList := by
        cases hm : s'.network.heldSnapshot c with
        | none => exact List.nil_sublist _
        | some m => rw [held c m hm]
      unfold snapshotsOf
      rw [sending, queued]
      exact ((List.Sublist.refl _).append hheld).append (List.Sublist.refl _)
  | opened _ network queued =>
      refine Or.inl fun c => ?_
      unfold snapshotsOf
      rw [network, queued]
      exact List.Sublist.refl _
  | drained idle _ sending held queued =>
      refine Or.inl fun c => ?_
      unfold snapshotsOf
      rw [sending, held, queued, idle]
      simp only [NetworkThread.sendingPacket, NetworkThread.heldSnapshot, Option.map_none,
        Option.toList_none, List.filter_nil, List.append_nil, List.append_assoc]
      exact (List.Sublist.refl _).append
        ((getLast?_toList_sublist _).append (List.Sublist.refl _))
  | @numbered c _ m x bytes packet free held _ _ sending heldAfter queued =>
      have hown := pass.connectionId_of_held held
      refine Or.inl fun c' => ?_
      unfold snapshotsOf
      rw [free, sending, heldAfter, queued]
      by_cases hc : c' = c
      · -- the snapshot held has become the one being sent
        rw [hc, held]
        simp [hown, SnapshotHistory.numbered]
      · have hne : m.connectionId ≠ c' := by
          rw [hown]
          exact Ne.symm hc
        simp [hc, hne, SnapshotHistory.numbered]
  | @sent outcome _ p m bytes prepared sending _ network queued =>
      refine Or.inl fun c => ?_
      unfold snapshotsOf
      rw [network, sending, queued]
      simp only [SnapshotHistory.sent, NetworkThread.sendingPacket, NetworkThread.heldSnapshot,
        Option.map_some, Option.map_none, Option.toList_some, Option.toList_none, List.filter_nil,
        List.append_nil, List.map_append, List.filter_append, List.map_map]
      refine (List.Sublist.append (List.Sublist.append (List.Sublist.refl _) ?_)
        (List.Sublist.refl _)).append (List.Sublist.refl _)
      refine List.Sublist.filter _ ?_
      split
      · exact List.Sublist.refl _
      · exact List.nil_sublist _
  | made perm _ network queued =>
      refine Or.inr ⟨_, _, rfl, perm, ?_⟩
      intro c
      unfold snapshotsOf
      rw [network, queued, ← List.append_assoc]

omit [DecidableEq Peer] in
/-- The batch of a pass is part of what was on its way. -/
theorem drained_step (hs : SnapshotSteps s h a s' h') :
    h'.drained = h.drained ∨
    ∀ c, (ofFamily .serverSnapshotFullPacketUnreliable c h'.drained).Sublist
      (snapshotsOf s h c) := by
  cases hs with
  | drained _ _ _ _ queued =>
      refine Or.inr fun c => ?_
      unfold snapshotsOf
      rw [queued]
      exact (List.sublist_append_left _ _).trans (List.sublist_append_right _ _)
  | _ => exact Or.inl rfl

/-- A step leaves no tick running, begins one, or keeps the tick; the match flow is
    checked before the snapshots are made. -/
theorem System.Steps.tick (hs : System.Steps platform s a s' es) :
    s'.simulation.phase = .idle ∨
    (a = .beginTick s'.simulation.currentTick ∧ s'.simulation.phase = .drainHttp) ∨
    (s.simulation.phase ≠ .idle ∧ s'.simulation.currentTick = s.simulation.currentTick ∧
      (s'.simulation.phase = .snapshots → s.simulation.phase = .snapshots ∨
        TickChecked es s.simulation.currentTick)) := by
  have hsame : s'.simulation.phase = s.simulation.phase →
      s'.simulation.currentTick = s.simulation.currentTick →
      s'.simulation.phase = .idle ∨
      (a = .beginTick s'.simulation.currentTick ∧ s'.simulation.phase = .drainHttp) ∨
      (s.simulation.phase ≠ .idle ∧ s'.simulation.currentTick = s.simulation.currentTick ∧
        (s'.simulation.phase = .snapshots → s.simulation.phase = .snapshots ∨
          TickChecked es s.simulation.currentTick)) := by
    intro hphase htick
    by_cases hidle : s.simulation.phase = .idle
    · exact Or.inl (hphase.trans hidle)
    · exact Or.inr (Or.inr ⟨hidle, htick, fun h => Or.inl (hphase.symm.trans h)⟩)
  cases hs with
  | beginTick => exact Or.inr (Or.inl ⟨rfl, rfl⟩)
  | drainHttp phase => exact Or.inr (Or.inr ⟨by simp [phase], rfl, by simp⟩)
  | checkMatchFlow phase =>
      refine Or.inr (Or.inr ⟨by simp [phase], rfl, fun _ => Or.inr ?_⟩)
      exact ⟨_, _, _, List.mem_singleton.mpr rfl⟩
  | createSnapshots => exact Or.inl rfl
  | _ => exact hsame rfl rfl

end Ticks

/-- Ticks over a run: the snapshots of a connection are in the order of their ticks,
    which all have gone through the match flow and are over when the next one runs. -/
structure TickInv (s : System Peer) (h : SnapshotHistory) (tr : List (Event Peer)) : Prop where
  ordered : ∀ c, (snapshotsOf s h c).Pairwise SimulationToNetworkOUTMessage.MadeBefore
  checked : ∀ c, ∀ m ∈ snapshotsOf s h c, ∃ packet, m.snapshotPacket = some packet ∧
    TickChecked tr packet.serverTick ∧
    (s.simulation.phase ≠ .idle → packet.serverTick < s.simulation.currentTick)
  current : s.simulation.phase = .snapshots → TickChecked tr s.simulation.currentTick
  drained : ∀ c, (ofFamily .serverSnapshotFullPacketUnreliable c h.drained).Pairwise
    SimulationToNetworkOUTMessage.MadeBefore

namespace TickInv

variable {platform : Platform} {s s' : System Peer} {h h' : SnapshotHistory} {a : Action Peer}
  {tr es : List (Event Peer)}

/-- The tick that runs after a step is later than those of the snapshots there were. -/
theorem older (inv : TickInv s h tr) (hsteps : System.Steps platform s a s' es)
    (hok : increasingTicks tr a = true) {c : ConnectionId} {m : SimulationToNetworkOUTMessage}
    (hm : m ∈ snapshotsOf s h c) : ∃ packet, m.snapshotPacket = some packet ∧
      TickChecked (tr ++ es) packet.serverTick ∧
      (s'.simulation.phase ≠ .idle → packet.serverTick < s'.simulation.currentTick) := by
  obtain ⟨packet, hpacket, hchecked, holder⟩ := inv.checked c m hm
  refine ⟨packet, hpacket, hchecked.append es, ?_⟩
  intro hphase
  rcases hsteps.tick with hidle | ⟨hbegin, _⟩ | ⟨hphase', htick, _⟩
  · exact absurd hidle hphase
  · obtain ⟨sessions, gameState, out, he⟩ := hchecked
    rw [hbegin] at hok
    exact increasingTicks_lt hok he
  · rw [htick]
    exact holder hphase'

theorem step (inv : TickInv s h tr) (own : s.SessionsOwned) (pass : PassInv s h)
    (hs : SnapshotSteps s h a s' h') (hsteps : System.Steps platform s a s' es)
    (hok : increasingTicks tr a = true) : TickInv s' h' (tr ++ es) := by
  have hcurrent : s'.simulation.phase = .snapshots →
      TickChecked (tr ++ es) s'.simulation.currentTick := by
    intro hphase
    rcases hsteps.tick with hidle | ⟨_, hdrain⟩ | ⟨_, htick, hchecked⟩
    · rw [hidle] at hphase
      cases hphase
    · rw [hdrain] at hphase
      cases hphase
    · rw [htick]
      rcases hchecked hphase with hphase | ⟨sessions, gameState, out, he⟩
      · exact (inv.current hphase).append es
      · exact ⟨sessions, gameState, out, List.mem_append_right _ he⟩
  have hdrained : ∀ c, (ofFamily .serverSnapshotFullPacketUnreliable c h'.drained).Pairwise
      SimulationToNetworkOUTMessage.MadeBefore := by
    intro c
    rcases drained_step hs with hsame | hpart
    · rw [hsame]
      exact inv.drained c
    · exact (inv.ordered c).sublist (hpart c)
  rcases snapshotsOf_step pass hs with hpart | ⟨order, clock, rfl, perm, hmade⟩
  · refine ⟨fun c => (inv.ordered c).sublist (hpart c), ?_, hcurrent, hdrained⟩
    intro c m hm
    exact inv.older hsteps hok ((hpart c).subset hm)
  · -- the production of a tick, whose match flow has been checked
    have hphase : s.simulation.phase = .snapshots := by
      cases hsteps with
      | createSnapshots phase => exact phase
    have hrunning : s.simulation.phase ≠ .idle := by
      rw [hphase]
      simp
    refine ⟨?_, ?_, hcurrent, hdrained⟩
    · intro c
      rw [hmade]
      refine List.pairwise_append.mpr ⟨inv.ordered c, pairwise_made own perm _ _ _ c _, ?_⟩
      intro m hm m' hm'
      obtain ⟨packet, hpacket, _, holder⟩ := inv.checked c m hm
      obtain ⟨packet', hpacket', htick⟩ := snapshotPacket_of_made (List.mem_of_mem_filter hm')
      exact ⟨packet, packet', hpacket, hpacket', htick ▸ holder hrunning⟩
    · intro c m hm
      rw [hmade] at hm
      rcases List.mem_append.mp hm with hm | hm
      · exact inv.older hsteps hok hm
      · obtain ⟨packet, hpacket, htick⟩ := snapshotPacket_of_made (List.mem_of_mem_filter hm)
        refine ⟨packet, hpacket, ?_, ?_⟩
        · rw [htick]
          exact (inv.current hphase).append es
        · intro hphase'
          cases hsteps with
          | createSnapshots => exact absurd rfl hphase'

end TickInv

-- ============================================================================
-- Whole runs
-- ============================================================================

section Runs

variable {platform : Platform} {s : System Peer} {h : SnapshotHistory} {tr : List (Event Peer)}

theorem IdsInv.of_run (hr : (serverWithSnapshots Peer platform).Run
      (fun s tr a => increasingTicks tr a = true ∧ s.1.allocatesFew s.2 a = true) (s, h) tr) :
    IdsInv s h := by
  refine TraceMachine.Run.invariant (M := serverWithSnapshots Peer platform)
    (P := fun s _ => IdsInv s.1 s.2)
    ⟨by simp [serverWithSnapshots, TraceMachine.withHistory],
      by simp [serverWithSnapshots, TraceMachine.withHistory, server, System.init],
      List.Pairwise.nil⟩ ?_ hr
  rintro ⟨s, h⟩ tr a ⟨s', h'⟩ es hr inv ⟨_, hfew⟩ hs
  refine inv.step (LivesInv.of_reach hr.reach) (NumberingInv.of_reach hr.reach)
    (PassInv.of_reach hr.reach) (snapshot_cases hs) ?_
  rintro c rfl
  obtain ⟨_, rfl⟩ := TraceMachine.withHistory_step hs
  exact of_decide_eq_true hfew

theorem TickInv.of_run (hr : (serverWithSnapshots Peer platform).Run
      (fun s tr a => increasingTicks tr a = true ∧ s.1.allocatesFew s.2 a = true) (s, h) tr) :
    TickInv s h tr := by
  refine TraceMachine.Run.invariant (M := serverWithSnapshots Peer platform)
    (P := fun s tr => TickInv s.1 s.2 tr) ?_ ?_ hr
  · have hnone : ∀ c, snapshotsOf (System.init platform : System Peer) {} c = [] := fun _ => rfl
    refine ⟨?_, ?_, ?_, fun _ => List.Pairwise.nil⟩
    · exact fun c => (hnone c).symm ▸ List.Pairwise.nil
    · intro c m hm
      cases (hnone c ▸ hm : m ∈ [])
    · rintro ⟨⟩
  · rintro ⟨s, h⟩ tr a ⟨s', h'⟩ es hr inv ⟨hok, _⟩ hs
    exact inv.step (sessionsOwned_of_reach hr.reach.of_withHistory) (PassInv.of_reach hr.reach)
      (snapshot_cases hs) (System.step_cases (TraceMachine.withHistory_step hs).1) hok

omit [DecidableEq Peer] in
/-- Among the packets accepted for one connection the ticks increase. -/
theorem TickInv.accepted (inv : TickInv s h tr) :
    h.accepted.Pairwise fun r r' => r.message.connectionId = r'.message.connectionId →
      r.message.MadeBefore r'.message := by
  have hmessages : (h.accepted.map (·.message)).Pairwise fun m m' =>
      m.connectionId = m'.connectionId → m.MadeBefore m' := by
    refine pairwise_of_pairwise_filter fun c => (inv.ordered c).sublist ?_
    unfold snapshotsOf
    rw [List.append_assoc, List.append_assoc]
    exact List.sublist_append_left _ _
  exact List.pairwise_map.mp hmessages

omit [DecidableEq Peer] in
/-- The last snapshot of a connection in the batch is the newest one. -/
theorem TickInv.newest (inv : TickInv s h tr) {m : SimulationToNetworkOUTMessage}
    (hlast : (ofFamily .serverSnapshotFullPacketUnreliable m.connectionId h.drained).getLast? =
      some m) : m.NewestIn h.drained := by
  obtain ⟨older, hfamily⟩ := List.getLast?_eq_some_iff.mp hlast
  have hordered := inv.drained m.connectionId
  rw [hfamily] at hordered
  refine ⟨older, hfamily, ?_⟩
  intro m' hm'
  exact (List.pairwise_append.mp hordered).2.2 m' hm' m (List.mem_singleton.mpr rfl)

theorem AcceptedSnapshot.sentBefore {r r' : AcceptedSnapshot} {id id' : UInt32}
    (hid : r.Numbered id) (hid' : r'.Numbered id') (hlt : id < id')
    (hmade : r.message.MadeBefore r'.message) : r.SentBefore r' := by
  obtain ⟨packet, hpacket, hr⟩ := hid
  obtain ⟨packet', hpacket', hr'⟩ := hid'
  obtain ⟨made, made', hmade, hmade', htick⟩ := hmade
  obtain rfl := Option.some.inj (hpacket.symm.trans hmade)
  obtain rfl := Option.some.inj (hpacket'.symm.trans hmade')
  exact ⟨_, _, hr, hr', hlt, htick⟩

/-- In every run with increasing ticks and fewer than 2^32 - 1 snapshot ids for each
    session, snapshots are handed to ENet in order. -/
theorem snapshots_in_order (hr : (serverWithSnapshots Peer platform).Run
      (fun s tr a => increasingTicks tr a = true ∧ s.1.allocatesFew s.2 a = true) (s, h) tr) :
    SnapshotsInOrder h where
  increasing := by
    intro c life
    have hboth := (IdsInv.of_run hr).ordered.and (TickInv.of_run hr).accepted
    refine (hboth.sublist List.filter_sublist).imp_of_mem ?_
    rintro r r' hmem hmem' ⟨hids, hticks⟩
    have hown := (List.mem_filter.mp hmem).2
    have hown' := (List.mem_filter.mp hmem').2
    simp only [Bool.and_eq_true, decide_eq_true_eq] at hown hown'
    have hconnection := hown.1.trans hown'.1.symm
    obtain ⟨id, id', hid, hid', hlt⟩ := hids hconnection (hown.2.trans hown'.2.symm)
    exact AcceptedSnapshot.sentBefore hid hid' hlt (hticks hconnection)
  once := by
    refine List.pairwise_map.mpr ((TickInv.of_run hr).accepted.imp ?_)
    intro r r' hmade heq
    obtain ⟨packet, packet', hpacket, hpacket', hlt⟩ := hmade (by rw [heq])
    rw [heq, hpacket'] at hpacket
    obtain rfl := Option.some.inj hpacket
    exact UInt64.lt_irrefl _ hlt
  onePerPass := (PassInv.of_reach hr.reach).once
  newest := fun m hm => (TickInv.of_run hr).newest ((PassInv.of_reach hr.reach).sent m hm)

end Runs

/-- A pass that handles `n` reliable messages and sends the snapshot of the client. -/
def Action.soloSnapshotPass (n : Nat) : List (Action Unit) :=
  .beginOutgoing :: List.replicate n (.sendReliable {}) ++
    [.patchSnapshot 1, .sendSnapshot {}, .endOutgoing]

/-- The snapshots of ticks 1 to 3 are coalesced in one pass, that of tick 4 is sent in
    the next one. -/
def orderedSnapshotsRun : List (Action Unit) :=
  Action.soloEndTick
      (Action.soloEndTick Action.soloAuthenticated 0 ++ Action.soloSnapshotPass 3 ++
        Action.soloTick 4 0) 0 ++
    Action.soloSnapshotPass 0

theorem orderedSnapshotsRun_runs :
    ((serverWithSnapshots Unit soloPlatform).exec
      (fun s tr a => increasingTicks tr a = true ∧ s.1.allocatesFew s.2 a = true)
      orderedSnapshotsRun).isSome = true := by
  decide +kernel

/-- The state with its past, and the trace of the run. -/
def orderedSnapshotsResult : (System Unit × SnapshotHistory) × List (Event Unit) :=
  ((serverWithSnapshots Unit soloPlatform).exec
    (fun s tr a => increasingTicks tr a = true ∧ s.1.allocatesFew s.2 a = true)
    orderedSnapshotsRun).get orderedSnapshotsRun_runs

/-- Two snapshots have been sent, in order. -/
theorem orderedSnapshots_in_order :
    orderedSnapshotsResult.1.2.accepted.length = 2 ∧
      SnapshotsInOrder orderedSnapshotsResult.1.2 := by
  have hr : (serverWithSnapshots Unit soloPlatform).Run
      (fun s tr a => increasingTicks tr a = true ∧ s.1.allocatesFew s.2 a = true)
      (orderedSnapshotsResult.1.1, orderedSnapshotsResult.1.2) orderedSnapshotsResult.2 := by
    rw [Prod.mk.eta]
    exact TraceMachine.run_get orderedSnapshotsRun_runs
  exact ⟨by decide +kernel, snapshots_in_order hr⟩

end RcnetServer
