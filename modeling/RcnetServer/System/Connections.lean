/-
  RcnetServer.System.Connections

  The connection tables over whole runs.

  `BoundTables` says that the tables and the peer slots agree both ways; it is
  kept by every step, as long as no id is given out that is 0 or in use.
  `TableInv` adds the log of incoming messages: a connection is in the table
  exactly while it is live in the log, and ids are never given out twice.
-/

import RcnetServer.System.Logs
import RcnetServer.System.Steps

namespace RcnetServer

variable {Peer : Type} [DecidableEq Peer]

/-- Tables and slots agree: a slot carries the id of an entry exactly if the table
    maps the id to the slot. -/
structure BoundTables (peers : ENetPeers Peer) (networkState : NetworkState Peer) : Prop where
  bound : ∀ c p, networkState.connectionIdToEnetPeer.lookup c = some (some p) ↔
    c ≠ 0 ∧ (peers p).data = dataOfConnectionId c
  notNull : ∀ c, networkState.connectionIdToEnetPeer.lookup c ≠ some none
  slot : ∀ p, (peers p).connected = true ↔ (peers p).data ≠ 0
  carried : ∀ p, (peers p).data ≠ 0 → ∃ c, c ≠ 0 ∧ (peers p).data = dataOfConnectionId c
  encryptionKeys : ∀ c, (networkState.connectionIdToEncryptionEnabled.lookup c).isSome =
    (networkState.connectionIdToEnetPeer.lookup c).isSome

namespace BoundTables

variable {peers : ENetPeers Peer} {networkState : NetworkState Peer}

omit [DecidableEq Peer] in
theorem init (platform : Platform) :
    BoundTables (System.init platform : System Peer).peers
      (System.init platform : System Peer).networkState where
  bound := by
    intro c p
    simp only [System.init, AList.lookup_empty, reduceCtorEq, false_iff, not_and]
    intro hc hdata
    exact hc (dataOfConnectionId_eq_zero.mp hdata.symm)
  notNull := by simp [System.init]
  slot := by simp [System.init]
  carried := by simp [System.init]
  encryptionKeys := by simp [System.init]

omit [DecidableEq Peer] in
/-- A non-null slot carries the id of its connection. -/
theorem slot_id (inv : BoundTables peers networkState) {p : Peer} (h : (peers p).data ≠ 0) :
    (peers p).data.toUInt32 ≠ 0 ∧ (peers p).data = dataOfConnectionId (peers p).data.toUInt32 ∧
      networkState.connectionIdToEnetPeer.lookup (peers p).data.toUInt32 = some (some p) := by
  obtain ⟨c, hc, hdata⟩ := inv.carried p h
  have hid : (peers p).data.toUInt32 = c := by rw [hdata, dataOfConnectionId_toUInt32]
  rw [hid]
  exact ⟨hc, hdata, (inv.bound c p).mpr ⟨hc, hdata⟩⟩

/-- A CONNECT binds an unused id to the slot. -/
theorem connected {s : System Peer} {p : Peer} (inv : BoundTables s.peers s.networkState)
    (free : (s.peers p).connected = false) (hc0 : s.networkState.nextConnectionId ≠ 0)
    (hnone : s.networkState.connectionIdToEnetPeer.lookup s.networkState.nextConnectionId =
      none) : BoundTables (s.connected p).peers (s.connected p).networkState := by
  set c := s.networkState.nextConnectionId with hc
  have hnull : (s.peers p).data = 0 := by
    by_contra hdata
    rw [(inv.slot p).mpr hdata] at free
    cases free
  refine { bound := ?_, notNull := ?_, slot := ?_, carried := ?_, encryptionKeys := ?_ }
  · intro k q
    simp only [System.connected, UnorderedMap.lookup_insert, ← hc]
    by_cases hq : q = p
    · subst hq
      rw [ENetPeers.set_self]
      by_cases hk : k = c
      · subst hk
        simp [hc0]
      · rw [if_neg hk]
        have hleft : s.networkState.connectionIdToEnetPeer.lookup k ≠ some (some q) := by
          intro h
          obtain ⟨hk0, hdata⟩ := (inv.bound k q).mp h
          rw [hnull] at hdata
          exact hk0 (dataOfConnectionId_eq_zero.mp hdata.symm)
        simp only [hleft, false_iff, not_and]
        intro _ hdata
        exact hk (dataOfConnectionId_inj hdata).symm
    · rw [ENetPeers.set_of_ne _ _ hq]
      by_cases hk : k = c
      · subst hk
        rw [if_pos rfl, ← inv.bound _ q, hnone]
        simp [Ne.symm hq]
      · rw [if_neg hk]
        exact inv.bound k q
  · intro k
    simp only [System.connected, UnorderedMap.lookup_insert]
    split
    · simp
    · exact inv.notNull k
  · intro q
    by_cases hq : q = p
    · subst hq
      simp [System.connected, dataOfConnectionId_eq_zero, ← hc, hc0]
    · simp only [System.connected, ENetPeers.set_of_ne _ _ hq]
      exact inv.slot q
  · intro q
    by_cases hq : q = p
    · subst hq
      intro _
      exact ⟨c, hc0, by simp [System.connected, ← hc]⟩
    · simp only [System.connected, ENetPeers.set_of_ne _ _ hq]
      exact inv.carried q
  · intro k
    simp only [System.connected, UnorderedMap.lookup_insert]
    split
    · rfl
    · exact inv.encryptionKeys k

/-- A DISCONNECT takes the id of the slot out of the tables. -/
theorem disconnected {s : System Peer} {p : Peer} (inv : BoundTables s.peers s.networkState)
    (notNull : (s.peers p).data ≠ 0) :
    BoundTables (s.disconnected p (s.peers p).data.toUInt32).peers
      (s.disconnected p (s.peers p).data.toUInt32).networkState := by
  obtain ⟨hc0, hdata, htable⟩ := inv.slot_id notNull
  set c := (s.peers p).data.toUInt32 with hc
  refine { bound := ?_, notNull := ?_, slot := ?_, carried := ?_, encryptionKeys := ?_ }
  · intro k q
    simp only [System.disconnected, UnorderedMap.lookup_erase]
    by_cases hq : q = p
    · subst hq
      rw [ENetPeers.set_self]
      have hright : ¬ (k ≠ 0 ∧ (0 : UInt64) = dataOfConnectionId k) := by
        rintro ⟨hk0, h⟩
        exact hk0 (dataOfConnectionId_eq_zero.mp h.symm)
      simp only [hright, iff_false]
      split
      · simp
      · rename_i hk
        intro h
        have := ((inv.bound k q).mp h).2
        rw [hdata] at this
        exact hk (dataOfConnectionId_inj this).symm
    · rw [ENetPeers.set_of_ne _ _ hq]
      by_cases hk : k = c
      · subst hk
        rw [if_pos rfl, ← inv.bound _ q, htable]
        simp [Ne.symm hq]
      · rw [if_neg hk]
        exact inv.bound k q
  · intro k
    simp only [System.disconnected, UnorderedMap.lookup_erase]
    split
    · simp
    · exact inv.notNull k
  · intro q
    by_cases hq : q = p
    · subst hq
      simp [System.disconnected]
    · simp only [System.disconnected, ENetPeers.set_of_ne _ _ hq]
      exact inv.slot q
  · intro q
    by_cases hq : q = p
    · subst hq
      simp [System.disconnected]
    · simp only [System.disconnected, ENetPeers.set_of_ne _ _ hq]
      exact inv.carried q
  · intro k
    simp only [System.disconnected, UnorderedMap.lookup_erase]
    split
    · rfl
    · exact inv.encryptionKeys k

omit [DecidableEq Peer] in
/-- Setting the encryption flag of a connection of the table keeps the keys. -/
theorem enableEncryption (inv : BoundTables peers networkState) {p : Peer} {c : ConnectionId}
    (htable : networkState.connectionIdToEnetPeer.lookup c = some (some p)) :
    BoundTables peers (networkState.enableEncryption c) := by
  refine { inv with encryptionKeys := ?_ }
  intro k
  simp only [NetworkState.enableEncryption, UnorderedMap.lookup_insert]
  by_cases hk : k = c
  · rw [if_pos hk, hk, htable]
    rfl
  · rw [if_neg hk]
    exact inv.encryptionKeys k

/-- Every step keeps the tables in order, if a CONNECT finds an id that is not 0 and
    not in use. -/
theorem step {platform : Platform} {s s' : System Peer} {a : Action Peer}
    {es : List (Event Peer)} (inv : BoundTables s.peers s.networkState)
    (hs : s.step platform a = some (s', es))
    (safe : ∀ event p, a = .enetEvent event → event.type = .connect → event.peer = some p →
      s.networkState.nextConnectionId ≠ 0 ∧
        s.networkState.connectionIdToEnetPeer.lookup s.networkState.nextConnectionId = none) :
    BoundTables s'.peers s'.networkState := by
  cases a with
  | enetEvent event =>
      cases (System.enetEvent_cases hs).2 with
      | connect peer type free =>
          obtain ⟨hc0, hnone⟩ := safe event _ rfl type peer
          exact inv.connected free hc0 hnone
      | disconnectUnknown _ _ used null => exact absurd null ((inv.slot _).mp used)
      | disconnect _ _ _ notNull => exact inv.disconnected notNull
      | _ => exact inv
  | acknowledge i =>
      cases System.step_cases hs with
      | acknowledgeIgnored => exact inv
      | acknowledge _ _ _ _ bound =>
          simp only
          split
          · exact inv.enableEncryption bound.table
          · exact inv
  | patchSnapshot c =>
      cases System.step_cases hs with
      | skipSnapshot => exact inv
      | patchSnapshot => exact { inv with }
  | handleNetwork oracle =>
      cases System.step_cases hs with
      | handleNetwork => exact { inv with }
  | handleHttp =>
      cases System.step_cases hs with
      | handleHttp => exact { inv with }
  | _ =>
      cases System.step_cases hs
      exact inv

omit [DecidableEq Peer] in
/-- Two ids of one slot are the same. -/
theorem injective (inv : BoundTables peers networkState) {c c' : ConnectionId} {p : Peer}
    (h : networkState.connectionIdToEnetPeer.lookup c = some (some p))
    (h' : networkState.connectionIdToEnetPeer.lookup c' = some (some p)) : c = c' := by
  have hdata := ((inv.bound c p).mp h).2
  have hdata' := ((inv.bound c' p).mp h').2
  exact dataOfConnectionId_inj (hdata.symm.trans hdata')

omit [DecidableEq Peer] in
/-- The entries of the table are the slots that carry a non-zero id. -/
theorem lookup_iff (inv : BoundTables peers networkState) {c : ConnectionId} (hc : c ≠ 0)
    (peer : Option Peer) :
    networkState.connectionIdToEnetPeer.lookup c = some peer ↔
      ∃ p, peer = some p ∧ (peers p).data = dataOfConnectionId c := by
  constructor
  · intro h
    cases peer with
    | none => exact absurd h (inv.notNull c)
    | some p => exact ⟨p, rfl, ((inv.bound c p).mp h).2⟩
  · rintro ⟨p, rfl, hdata⟩
    exact (inv.bound c p).mpr ⟨hc, hdata⟩

/-- A packet of a connected slot is validated with the id the slot carries. -/
theorem validated (inv : BoundTables peers networkState) {event : ENetEvent Peer} {p : Peer}
    {c : ConnectionId} (hpeer : event.peer = some p) (used : (peers p).connected = true)
    (hdata : (peers p).data = dataOfConnectionId c) :
    c ≠ 0 ∧ networkState.connectionIdToEnetPeer.lookup c = some (some p) ∧
      ServerNetworkIncoming.getValidatedConnectionIdOrZero event networkState peers = c := by
  have hnotNull := (inv.slot p).mp used
  have hid : (peers p).data.toUInt32 = c := by rw [hdata, dataOfConnectionId_toUInt32]
  obtain ⟨hc, _, htable⟩ := inv.slot_id hnotNull
  rw [hid] at hc htable
  refine ⟨hc, htable, ?_⟩
  unfold ServerNetworkIncoming.getValidatedConnectionIdOrZero
  simp only [hpeer]
  rw [if_neg hnotNull, hid, if_neg hc, htable]
  simp

/-- A DISCONNECT takes the entry of its own slot out of both tables, and no other. -/
theorem disconnect_entry {s s' : System Peer} {event : ENetEvent Peer} {p : Peer}
    {es : List (Event Peer)} (inv : BoundTables s.peers s.networkState)
    (hpeer : event.peer = some p)
    (htype : event.type = .disconnect ∨ event.type = .disconnectTimeout)
    (hs : s.enetEvent event = some (s', es)) :
    ∃ c, s.networkState.connectionIdToEnetPeer.lookup c = some (some p) ∧
      (∀ c', s'.networkState.connectionIdToEnetPeer.lookup c' =
        if c' = c then none else s.networkState.connectionIdToEnetPeer.lookup c') ∧
      ∀ c', s'.networkState.connectionIdToEncryptionEnabled.lookup c' =
        if c' = c then none else s.networkState.connectionIdToEncryptionEnabled.lookup c' := by
  cases (System.enetEvent_cases hs).2 with
  | nullPeer peer => simp [hpeer] at peer
  | connect _ type => rcases htype with h | h <;> simp [h] at type
  | disconnectUnknown _ _ used null => exact absurd null ((inv.slot _).mp used)
  | @disconnect q peer _ _ notNull =>
      obtain rfl : p = q := Option.some.inj (hpeer.symm.trans peer)
      refine ⟨_, (inv.slot_id notNull).2.2, ?_, ?_⟩
      · intro c'
        exact UnorderedMap.lookup_erase _ _ _
      · intro c'
        exact UnorderedMap.lookup_erase _ _ _
  | dropped type => rcases htype with h | h <;> simp [h] at type
  | protocolMismatch type => rcases htype with h | h <;> simp [h] at type
  | receive type => rcases htype with h | h <;> simp [h] at type

end BoundTables

/-- The connection tables, against the log of incoming messages. -/
structure TableInv (peers : ENetPeers Peer) (networkState : NetworkState Peer)
    (log : List NetworkINToSimulationMessage) : Prop where
  /-- The counter is one ahead of the ids given out. -/
  next : networkState.nextConnectionId.toNat = connectCount log + 1
  named : ∀ m ∈ log, m.connectionId ≠ 0 ∧ m.connectionId < networkState.nextConnectionId
  wellFormed : WellFormedLog log
  live : ∀ c, (networkState.connectionIdToEnetPeer.lookup c).isSome = true ↔
    connectionPhase c log = .live
  bound : ∀ c p, networkState.connectionIdToEnetPeer.lookup c = some (some p) ↔
    c ≠ 0 ∧ (peers p).data = dataOfConnectionId c
  notNull : ∀ c, networkState.connectionIdToEnetPeer.lookup c ≠ some none
  slot : ∀ p, (peers p).connected = true ↔ (peers p).data ≠ 0
  carried : ∀ p, (peers p).data ≠ 0 → ∃ c, c ≠ 0 ∧ (peers p).data = dataOfConnectionId c
  encryptionKeys : ∀ c, (networkState.connectionIdToEncryptionEnabled.lookup c).isSome =
    (networkState.connectionIdToEnetPeer.lookup c).isSome

namespace TableInv

variable {peers : ENetPeers Peer} {networkState : NetworkState Peer}
  {log : List NetworkINToSimulationMessage}

omit [DecidableEq Peer] in
/-- The tables do not depend on the sessions. -/
theorem withSessions (inv : TableInv peers networkState log) (sessions : Sessions) :
    TableInv peers { networkState with sessions := sessions } log :=
  { inv with }

omit [DecidableEq Peer] in
/-- The next id has not been used. -/
theorem fresh_next (inv : TableInv peers networkState log) :
    connectionPhase networkState.nextConnectionId log = .fresh := by
  refine Lifecycle.phase_eq_fresh_iff.mpr ?_
  intro m hm heq
  have hlt := (inv.named m hm).2
  rw [heq] at hlt
  exact UInt32.lt_irrefl _ hlt

omit [DecidableEq Peer] in
theorem next_ne_zero (inv : TableInv peers networkState log) :
    networkState.nextConnectionId ≠ 0 := by
  intro hzero
  have h := inv.next
  rw [hzero] at h
  simp at h

omit [DecidableEq Peer] in
/-- An id of the table is in use. -/
theorem live_of_table (inv : TableInv peers networkState log) {c : ConnectionId}
    {peer : Option Peer} (h : networkState.connectionIdToEnetPeer.lookup c = some peer) :
    connectionPhase c log = .live :=
  (inv.live c).mp (by rw [h]; rfl)

omit [DecidableEq Peer] in
/-- A live id is named by its CONNECT, so the bounds of `named` hold for it. -/
theorem named_of_live (inv : TableInv peers networkState log) {c : ConnectionId}
    (h : connectionPhase c log = .live) : c ≠ 0 ∧ c < networkState.nextConnectionId := by
  have hnamed : connectionPhase c log ≠ .fresh := by simp [h]
  rw [Ne, Lifecycle.phase_eq_fresh_iff] at hnamed
  push Not at hnamed
  obtain ⟨m, hm, rfl⟩ := hnamed
  exact inv.named m hm

omit [DecidableEq Peer] in
theorem table_of_live (inv : TableInv peers networkState log) {c : ConnectionId}
    (h : connectionPhase c log = .live) :
    ∃ p, networkState.connectionIdToEnetPeer.lookup c = some (some p) := by
  obtain ⟨peer, hpeer⟩ := Option.isSome_iff_exists.mp ((inv.live c).mpr h)
  cases peer with
  | none => exact absurd hpeer (inv.notNull c)
  | some p => exact ⟨p, hpeer⟩

omit [DecidableEq Peer] in
theorem tables (inv : TableInv peers networkState log) : BoundTables peers networkState :=
  { inv with }

omit [DecidableEq Peer] in
/-- A non-null slot carries the id of its connection. -/
theorem slot_id (inv : TableInv peers networkState log) {p : Peer} (h : (peers p).data ≠ 0) :
    (peers p).data.toUInt32 ≠ 0 ∧ (peers p).data = dataOfConnectionId (peers p).data.toUInt32 ∧
      networkState.connectionIdToEnetPeer.lookup (peers p).data.toUInt32 = some (some p) :=
  inv.tables.slot_id h

-- ============================================================================
-- Steps
-- ============================================================================

omit [DecidableEq Peer] in
theorem init (platform : Platform) :
    TableInv (System.init platform : System Peer).peers (System.init platform).networkState [] :=
  { BoundTables.init platform with
    next := rfl
    named := by simp
    wellFormed := by intro k; simp
    live := by simp [System.init] }

/-- A CONNECT gives out a fresh id and binds it to the slot. -/
theorem connected {s : System Peer} {p : Peer} {log : List NetworkINToSimulationMessage}
    (inv : TableInv s.peers s.networkState log) (free : (s.peers p).connected = false)
    (few : connectCount log + 1 < 2 ^ 32 - 1) :
    TableInv (s.connected p).peers (s.connected p).networkState
      (log ++ [.clientEventConnect s.networkState.nextConnectionId]) := by
  have hfresh := inv.fresh_next
  have hc0 := inv.next_ne_zero
  set c := s.networkState.nextConnectionId with hc
  have hsucc : (c + 1).toNat = c.toNat + 1 := by
    have h := inv.next
    rw [← hc] at h
    rw [UInt32.toNat_add, UInt32.toNat_one]
    omega
  have hnone : s.networkState.connectionIdToEnetPeer.lookup c = none := by
    by_contra hsome
    have hlive := (inv.live c).mp (Option.isSome_iff_ne_none.mpr hsome)
    rw [hfresh] at hlive
    cases hlive
  have hphase : ∀ k, connectionPhase k (log ++ [.clientEventConnect c]) =
      if k = c then .live else connectionPhase k log := by
    intro k
    by_cases hk : k = c
    · have hself : connectionPhase c (log ++ [.clientEventConnect c]) = _ :=
        connectionPhase_append_self log rfl
      rw [if_pos hk, hk, hself, hfresh]
      rfl
    · rw [if_neg hk, connectionPhase_append_of_ne _ (Ne.symm hk)]
  refine
    { inv.tables.connected free hc0 hnone with
      next := ?_, named := ?_, wellFormed := ?_, live := ?_ }
  · have h := inv.next
    simp only [System.connected, connectCount_append, connectCount_singleton,
      NetworkINToSimulationMessage.kind, if_true]
    rw [← hc] at h ⊢
    omega
  · intro m hm
    have hlt : ∀ k : ConnectionId, k.toNat ≤ c.toNat → k < c + 1 := by
      intro k hk
      rw [UInt32.lt_iff_toNat_lt]
      omega
    rcases List.mem_append.mp hm with hm | hm
    · obtain ⟨hne, hk⟩ := inv.named m hm
      exact ⟨hne, hlt _ (Nat.le_of_lt (UInt32.lt_iff_toNat_lt.mp hk))⟩
    · obtain rfl := List.mem_singleton.mp hm
      exact ⟨hc0, hlt c (Nat.le_refl _)⟩
  · intro k
    show connectionPhase k _ ≠ _
    rw [hphase]
    split
    · simp
    · exact inv.wellFormed k
  · intro k
    rw [hphase]
    simp only [System.connected, UnorderedMap.lookup_insert, ← hc]
    by_cases hk : k = c
    · simp [hk]
    · rw [if_neg hk, if_neg hk]
      exact inv.live k

/-- A DISCONNECT takes the id of the slot out of the tables. -/
theorem disconnected {s : System Peer} {p : Peer} {log : List NetworkINToSimulationMessage}
    (inv : TableInv s.peers s.networkState log) (notNull : (s.peers p).data ≠ 0) :
    TableInv (s.disconnected p (s.peers p).data.toUInt32).peers
      (s.disconnected p (s.peers p).data.toUInt32).networkState
      (log ++ [.clientEventDisconnect (s.peers p).data.toUInt32]) := by
  obtain ⟨hc0, hdata, htable⟩ := inv.slot_id notNull
  set c := (s.peers p).data.toUInt32 with hc
  have hlive := inv.live_of_table htable
  have hphase : ∀ k, connectionPhase k (log ++ [.clientEventDisconnect c]) =
      if k = c then .ended else connectionPhase k log := by
    intro k
    by_cases hk : k = c
    · have hself : connectionPhase c (log ++ [.clientEventDisconnect c]) = _ :=
        connectionPhase_append_self log rfl
      rw [if_pos hk, hk, hself, hlive]
      rfl
    · rw [if_neg hk, connectionPhase_append_of_ne _ (Ne.symm hk)]
  refine
    { inv.tables.disconnected notNull with
      next := ?_, named := ?_, wellFormed := ?_, live := ?_ }
  · simpa [System.disconnected, connectCount_singleton, NetworkINToSimulationMessage.kind]
      using inv.next
  · intro m hm
    rcases List.mem_append.mp hm with hm | hm
    · exact inv.named m hm
    · obtain rfl := List.mem_singleton.mp hm
      exact inv.named_of_live hlive
  · intro k
    show connectionPhase k _ ≠ _
    rw [hphase]
    split
    · simp
    · exact inv.wellFormed k
  · intro k
    rw [hphase]
    simp only [System.disconnected, UnorderedMap.lookup_erase]
    by_cases hk : k = c
    · simp [hk]
    · rw [if_neg hk, if_neg hk]
      exact inv.live k

omit [DecidableEq Peer] in
/-- A packet message of a live connection changes nothing. -/
theorem packet (inv : TableInv peers networkState log) {m : NetworkINToSimulationMessage}
    (hkind : m.kind = .uses)
    (htable : (networkState.connectionIdToEnetPeer.lookup m.connectionId).isSome = true) :
    TableInv peers networkState (log ++ [m]) := by
  have hlive := (inv.live m.connectionId).mp htable
  have hphase : ∀ k, connectionPhase k (log ++ [m]) = connectionPhase k log := by
    intro k
    by_cases hk : m.connectionId = k
    · rw [connectionPhase_append_self log hk, ← hk, hlive, hkind]
      rfl
    · exact connectionPhase_append_of_ne log hk
  refine { inv with next := ?_, named := ?_, wellFormed := ?_, live := ?_ }
  · simpa [connectCount_singleton, hkind] using inv.next
  · intro m' hm'
    rcases List.mem_append.mp hm' with hm' | hm'
    · exact inv.named m' hm'
    · obtain rfl := List.mem_singleton.mp hm'
      exact inv.named_of_live hlive
  · intro k
    show connectionPhase k _ ≠ _
    rw [hphase]
    exact inv.wellFormed k
  · intro k
    rw [hphase]
    exact inv.live k

omit [DecidableEq Peer] in
/-- Setting the encryption flag of a connection of the table keeps the keys. -/
theorem enableEncryption (inv : TableInv peers networkState log) {p : Peer} {c : ConnectionId}
    (htable : networkState.connectionIdToEnetPeer.lookup c = some (some p)) :
    TableInv peers (networkState.enableEncryption c) log :=
  { inv with encryptionKeys := (inv.tables.enableEncryption htable).encryptionKeys }

/-- Every step keeps the tables in order, as long as the id counter has not
    wrapped. -/
theorem step {platform : Platform} {s s' : System Peer} {a : Action Peer}
    {tr es : List (Event Peer)} (inv : TableInv s.peers s.networkState (incomingLog tr))
    (h : System.Steps platform s a s' es) (few : FewConnects (tr ++ es)) :
    TableInv s'.peers s'.networkState (incomingLog (tr ++ es)) := by
  cases h with
  | connect _ free =>
      simp only [FewConnects, incomingLog_append, incomingLog_cons, incomingLog_nil,
        Event.incomingMessage, Option.toList_some, Option.toList_none, List.append_nil,
        connectCount_append, connectCount_singleton] at few ⊢
      exact inv.connected free few
  | disconnectUnknown _ used null => exact absurd null ((inv.slot _).mp used)
  | disconnect _ _ notNull => simpa using inv.disconnected notNull
  | receive _ pushed =>
      obtain ⟨_, ⟨p, _, _, htable⟩, hguard⟩ :=
        ServerNetworkIncoming.eventHandleReceive_push pushed
      simpa using inv.packet hguard.kind (by rw [htable]; rfl)
  | acknowledge _ _ _ _ bound =>
      simp only [incomingLog_append, incomingLog_cons, incomingLog_nil, Event.incomingMessage,
        Option.toList_none, List.append_nil]
      split
      · exact inv.enableEncryption bound.table
      · exact inv
  | patchSnapshot => simpa [NetworkState.setSession] using inv.withSessions _
  | handleNetwork => simpa using inv.withSessions _
  | handleHttp => simpa using inv.withSessions _
  | _ => simpa using inv

/-- The tables of a reachable state. -/
theorem of_reach {platform : Platform} {s : System Peer} {tr : List (Event Peer)}
    (hr : (server Peer platform).Reach s tr) (few : FewConnects tr) :
    TableInv s.peers s.networkState (incomingLog tr) :=
  TraceMachine.Run.invariant_of_prefix
    (P := fun s tr => TableInv s.peers s.networkState (incomingLog tr)) (B := FewConnects)
    (fun _ _ h => h.of_append) (TableInv.init platform)
    (fun _ _ _ _ _ _ inv _ hs few => inv.step (System.step_cases hs) few) hr few

end TableInv

end RcnetServer
