/-
  RcnetServer.System.Connects

  The CONNECT events of a run.

  `serverWithConnects` is the server with a history variable: the list of the
  CONNECT events handled so far, each with its slot and the state it found.  The
  id counter is the length of that list plus one, modulo 2^32, and a connected
  slot carries the id its last CONNECT was given (`ConnectsInv`).
-/

import RcnetServer.Lib.Precedence
import RcnetServer.System.Sessions

namespace RcnetServer

variable {Peer : Type} [DecidableEq Peer]

/-- A CONNECT event that was handled: its slot, and the state before. -/
structure AcceptedConnect (Peer : Type) where
  peer : Peer
  before : System Peer

/-- The id the CONNECT was given. -/
def AcceptedConnect.connectionId (connect : AcceptedConnect Peer) : ConnectionId :=
  connect.before.networkState.nextConnectionId

/-- A CONNECT event of a peer is recorded with the state it finds. -/
def recordConnect (connects : List (AcceptedConnect Peer)) (s : System Peer) :
    Action Peer → List (AcceptedConnect Peer)
  | .enetEvent event =>
      match event.type, event.peer with
      | .connect, some p => connects ++ [{ peer := p, before := s }]
      | _, _ => connects
  | _ => connects

/-- The server with its CONNECT events. -/
def serverWithConnects (Peer : Type) [DecidableEq Peer] (platform : Platform) :
    TraceMachine (System Peer × List (AcceptedConnect Peer)) (Action Peer) (Event Peer) :=
  (server Peer platform).withHistory [] recordConnect

/-- The id given at the last CONNECT of slot `p`. -/
def lastConnectionId (connects : List (AcceptedConnect Peer)) (p : Peer) : Option ConnectionId :=
  ((connects.filter fun connect => connect.peer = p).getLast?).map AcceptedConnect.connectionId

theorem lastConnectionId_append (connects : List (AcceptedConnect Peer))
    (connect : AcceptedConnect Peer) (p : Peer) :
    lastConnectionId (connects ++ [connect]) p =
      if connect.peer = p then some connect.connectionId else lastConnectionId connects p := by
  unfold lastConnectionId
  rw [List.filter_append]
  by_cases hp : connect.peer = p
  · rw [if_pos hp, List.filter_cons_of_pos (by simpa using hp)]
    simp
  · rw [if_neg hp, List.filter_cons_of_neg (by simpa using hp), List.filter_nil, List.append_nil]

/-- What the recorded CONNECT events say about the state. -/
structure ConnectsInv (s : System Peer) (connects : List (AcceptedConnect Peer))
    (tr : List (Event Peer)) : Prop where
  count : connectCount (incomingLog tr) = connects.length
  /-- The counter wraps. -/
  counter : s.networkState.nextConnectionId = UInt32.ofNat (connects.length + 1)
  carried : ∀ p, (s.peers p).connected = true → ∃ c, lastConnectionId connects p = some c ∧
    (s.peers p).data = dataOfConnectionId c

namespace ConnectsInv

variable {platform : Platform} {s s' : System Peer} {connects : List (AcceptedConnect Peer)}
  {tr es : List (Event Peer)}

/-- Only ENet events touch the slots and the counter, and only they log a message. -/
theorem kept_of_not_enetEvent {a : Action Peer} (h : System.Steps platform s a s' es)
    (ha : ∀ event, a ≠ .enetEvent event) :
    s'.peers = s.peers ∧ s'.networkState.nextConnectionId = s.networkState.nextConnectionId ∧
      incomingLog es = [] := by
  cases h with
  | eventDropped => exact absurd rfl (ha _)
  | protocolMismatch => exact absurd rfl (ha _)
  | connect => exact absurd rfl (ha _)
  | disconnectUnknown => exact absurd rfl (ha _)
  | disconnect => exact absurd rfl (ha _)
  | receive => exact absurd rfl (ha _)
  | acknowledge =>
      refine ⟨rfl, ?_, rfl⟩
      simp only
      split <;> rfl
  | _ => exact ⟨rfl, rfl, rfl⟩

omit [DecidableEq Peer] in
/-- An event that is no CONNECT of a peer is not recorded. -/
theorem recordConnect_of_ne {event : ENetEvent Peer} {s : System Peer}
    (h : event.type ≠ .connect ∨ event.peer = none) :
    recordConnect connects s (.enetEvent event) = connects := by
  unfold recordConnect
  rcases h with htype | hpeer
  · cases hevent : event.type <;> simp_all
  · cases event.type <;> simp [hpeer]

theorem init (platform : Platform) : ConnectsInv (System.init platform : System Peer) [] [] where
  count := rfl
  counter := rfl
  carried := by simp [System.init]

/-- A slot may only lose its connection. -/
theorem keep (inv : ConnectsInv s connects tr)
    (hcounter : s'.networkState.nextConnectionId = s.networkState.nextConnectionId)
    (hlog : connectCount (incomingLog es) = 0)
    (hpeers : ∀ p, (s'.peers p).connected = true → s'.peers p = s.peers p) :
    ConnectsInv s' connects (tr ++ es) where
  count := by rw [incomingLog_append, connectCount_append, hlog, inv.count, Nat.add_zero]
  counter := hcounter.trans inv.counter
  carried := by
    intro p hp
    have hslot := hpeers p hp
    rw [hslot] at hp ⊢
    exact inv.carried p hp

theorem step {a : Action Peer} (inv : ConnectsInv s connects tr)
    (hs : s.step platform a = some (s', es)) :
    ConnectsInv s' (recordConnect connects s a) (tr ++ es) := by
  by_cases ha : ∀ event, a ≠ .enetEvent event
  · obtain ⟨hpeers, hcounter, hlog⟩ := kept_of_not_enetEvent (System.step_cases hs) ha
    have hrecord : recordConnect connects s a = connects := by
      cases a with
      | enetEvent event => exact absurd rfl (ha event)
      | _ => rfl
    rw [hrecord]
    exact inv.keep hcounter (by simp [hlog]) fun p _ => congrFun hpeers p
  · push Not at ha
    obtain ⟨event, rfl⟩ := ha
    cases (System.enetEvent_cases hs).2 with
    | nullPeer peer =>
        rw [recordConnect_of_ne (Or.inr peer)]
        exact inv.keep rfl rfl fun _ _ => rfl
    | @connect p peer type free =>
        have hrecord : recordConnect connects s (.enetEvent event) =
            connects ++ [{ peer := p, before := s }] := by
          simp [recordConnect, type, peer]
        rw [hrecord]
        refine ⟨?_, ?_, ?_⟩
        · simp [inv.count, connectCount_singleton, NetworkINToSimulationMessage.kind]
        · show s.networkState.nextConnectionId + 1 = _
          rw [inv.counter, List.length_append, List.length_singleton,
            UInt32.ofNat_add (connects.length + 1)]
          rfl
        · intro q hq
          rw [lastConnectionId_append]
          by_cases hpq : q = p
          · subst hpq
            exact ⟨_, if_pos rfl, by simp [System.connected, AcceptedConnect.connectionId]⟩
          · rw [if_neg (Ne.symm hpq)]
            simp only [System.connected, ENetPeers.set_of_ne _ _ hpq] at hq ⊢
            exact inv.carried q hq
    | @disconnectUnknown p peer type used null =>
        rw [recordConnect_of_ne (Or.inl (by rcases type with h | h <;> simp [h]))]
        refine inv.keep rfl rfl ?_
        intro q hq
        by_cases hpq : q = p
        · subst hpq
          simp at hq
        · exact ENetPeers.set_of_ne _ _ hpq
    | @disconnect p peer type used notNull =>
        rw [recordConnect_of_ne (Or.inl (by rcases type with h | h <;> simp [h]))]
        refine inv.keep rfl (by simp [connectCount, NetworkINToSimulationMessage.kind]) ?_
        intro q hq
        by_cases hpq : q = p
        · subst hpq
          simp [System.disconnected] at hq
        · exact ENetPeers.set_of_ne _ _ hpq
    | dropped type =>
        rw [recordConnect_of_ne (Or.inl (by simp [type]))]
        exact inv.keep rfl rfl fun _ _ => rfl
    | protocolMismatch type =>
        rw [recordConnect_of_ne (Or.inl (by simp [type]))]
        exact inv.keep rfl rfl fun _ _ => rfl
    | receive type pushed =>
        rw [recordConnect_of_ne (Or.inl (by simp [type]))]
        have hkind := (ServerNetworkIncoming.eventHandleReceive_push pushed).2.2.kind
        exact inv.keep rfl (by simp [connectCount_singleton, hkind]) fun _ _ => rfl

theorem of_reach (hr : (serverWithConnects Peer platform).Reach (s, connects) tr) :
    (server Peer platform).Reach s tr ∧ ConnectsInv s connects tr :=
  TraceMachine.Reach.invariant_withHistory (P := ConnectsInv) (ConnectsInv.init platform)
    (fun _ _ _ _ _ _ _ inv hs => inv.step hs) hr

end ConnectsInv

/-- Every recorded CONNECT was handled in a reachable state, with the CONNECT events
    before it recorded. -/
theorem reached_before_connect {platform : Platform} {s : System Peer}
    {connects : List (AcceptedConnect Peer)} {tr : List (Event Peer)}
    (hr : (serverWithConnects Peer platform).Reach (s, connects) tr) :
    EachAfter (fun pre connect => ∃ tr₀,
      (serverWithConnects Peer platform).Reach (connect.before, pre) tr₀) connects := by
  refine TraceMachine.Run.invariant (M := serverWithConnects Peer platform)
    (P := fun s _ => EachAfter (fun pre connect => ∃ tr₀,
      (serverWithConnects Peer platform).Reach (connect.before, pre) tr₀) s.2)
    EachAfter.nil ?_ hr
  rintro ⟨s, connects⟩ tr a ⟨s', connects'⟩ es hr ih _ hs
  obtain ⟨_, rfl⟩ := TraceMachine.withHistory_step hs
  cases a with
  | enetEvent event =>
      simp only [recordConnect]
      split
      · exact EachAfter.append_singleton ih ⟨tr, hr⟩
      · exact ih
  | _ => exact ih

end RcnetServer
