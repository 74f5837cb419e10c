/-
  RcnetServer.Properties.EncryptionFlags

  The two copies of the encryption flag agree, and a connection once encrypted
  stays encrypted until its DISCONNECT is handled by the network thread.
-/

import RcnetServer.Network.Encryption
import RcnetServer.System.Handshake

namespace RcnetServer

variable {Peer : Type} [DecidableEq Peer] {platform : Platform} {s s' : System Peer}
  {tr es : List (Event Peer)}

/-- The flag of `c` in the connection table is set. -/
def IsEncrypted (s : System Peer) (c : ConnectionId) : Prop :=
  s.networkState.connectionIdToEncryptionEnabled.lookup c = some true

/-- One step takes the flag away only with the connection. -/
theorem IsEncrypted.step {a : Action Peer} {c : ConnectionId} (h : IsEncrypted s c)
    (table : TableInv s.peers s.networkState (incomingLog tr))
    (hs : System.Steps platform s a s' es)
    (hkeep : NetworkINToSimulationMessage.clientEventDisconnect c ∉ incomingLog es) :
    IsEncrypted s' c := by
  unfold IsEncrypted at h ⊢
  cases hs with
  | connect =>
      have hc : c ≠ s.networkState.nextConnectionId := by
        intro hc
        have hlive : connectionPhase c (incomingLog tr) = .live := by
          refine (table.live c).mp ?_
          rw [← table.encryptionKeys c, h]
          rfl
        rw [hc, table.fresh_next] at hlive
        cases hlive
      simp only [System.connected, UnorderedMap.lookup_insert, if_neg hc]
      exact h
  | @disconnect _ p =>
      have hc : c ≠ (s.peers p).data.toUInt32 := by
        intro hc
        exact hkeep (by simp [hc])
      simp only [System.disconnected, UnorderedMap.lookup_erase, if_neg hc]
      exact h
  | acknowledge =>
      simp only
      split
      · simp only [NetworkState.enableEncryption, UnorderedMap.lookup_insert]
        split
        · rfl
        · exact h
      · exact h
  | _ => exact h

/-- From an encrypted state on, the flag stays until the DISCONNECT of `c`. -/
theorem IsEncrypted.path {c : ConnectionId} (h : IsEncrypted s c)
    (hr : (server Peer platform).Reach s tr) (hp : (server Peer platform).Path s es s')
    (few : FewConnects (tr ++ es))
    (hkeep : NetworkINToSimulationMessage.clientEventDisconnect c ∉ incomingLog es) :
    IsEncrypted s' c := by
  induction hp with
  | refl => exact h
  | @step s₁ s₂ es₁ es₂ a hp hs ih =>
      rw [← List.append_assoc] at few
      simp only [incomingLog_append, List.mem_append, not_or] at hkeep
      have hbefore := ih few.of_append hkeep.1
      have table := TableInv.of_reach (hr.path hp) few.of_append
      exact hbefore.step table (System.step_cases hs) hkeep.2

/-- A key is loaded for every encrypted connection. -/
theorem tryLoadSessionKey_of_encrypted (hr : (server Peer platform).Reach s tr)
    (few : FewConnects tr) {c : ConnectionId} (h : IsEncrypted s c)
    (forOutgoingEncryption : Bool) :
    (ServerNetworkEncryption.tryLoadSessionKeyIfEnabled s.networkState.sessions c
      forOutgoingEncryption).isSome = true := by
  obtain ⟨session, hsession⟩ := Option.isSome_iff_exists.mp (session_of_encrypted hr few h)
  have hagree := (EncryptionInv.of_reach hr few).agree c true session h hsession
  rw [ServerNetworkEncryption.tryLoadSessionKeyIfEnabled_of_enabled hsession hagree.symm]
  rfl

/-- The two encryption flags agree and never go back. -/
theorem encryption_flags_agree (hr : (server Peer platform).Reach s tr) (few : FewConnects tr) :
    (∀ c peer session, s.networkState.connectionIdToEnetPeer.lookup c = some peer →
      s.networkState.sessions.lookup c = some session →
      s.networkState.connectionIdToEncryptionEnabled.lookup c =
        some session.isPacketEncryptionEnabled) ∧
    (∀ c, IsEncrypted s c → (s.networkState.sessions.lookup c).isSome = true) ∧
    (∀ c s' es, IsEncrypted s c → (server Peer platform).Path s es s' → FewConnects (tr ++ es) →
      NetworkINToSimulationMessage.clientEventDisconnect c ∉ incomingLog es →
      IsEncrypted s' c ∧ ∀ forOutgoingEncryption,
        (ServerNetworkEncryption.tryLoadSessionKeyIfEnabled s'.networkState.sessions c
          forOutgoingEncryption).isSome = true) := by
  refine ⟨?_, fun c h => session_of_encrypted hr few h, ?_⟩
  · intro c peer session hpeer hsession
    have hkeys := (TableInv.of_reach hr few).encryptionKeys c
    rw [hpeer] at hkeys
    obtain ⟨flag, hflag⟩ := Option.isSome_iff_exists.mp hkeys
    rw [hflag, (EncryptionInv.of_reach hr few).agree c flag session hflag hsession]
  · intro c s' es h hp few' hkeep
    have h' := h.path hr hp few' hkeep
    exact ⟨h', fun _ => tryLoadSessionKey_of_encrypted (hr.path hp) few' h' _⟩

/-- A client says hello and its response is acknowledged. -/
def encryptedRun : List (Action Unit) :=
  [.soloConnect] ++ Action.soloHello 7 ++
    [.beginTick 1, .drainHttp, .handleNetwork signingOracle, .handleNetwork signingOracle,
      .simulationPush, .beginOutgoing, .sendReliable {}, .endOutgoing, .acknowledge 0]

theorem encryptedRun_runs :
    ((server Unit soloPlatform).exec (fun _ _ _ => True) encryptedRun).isSome = true := by
  decide +kernel

/-- The state and the trace of the run. -/
def encryptedRunResult : System Unit × List (Event Unit) :=
  ((server Unit soloPlatform).exec (fun _ _ _ => True) encryptedRun).get encryptedRun_runs

/-- The client stays encrypted when an outgoing pass begins. -/
theorem encryptedRun_stays_encrypted :
    ∃ s' es, encryptedRunResult.1.step soloPlatform .beginOutgoing = some (s', es) ∧
      IsEncrypted s' 1 := by
  have hr : (server Unit soloPlatform).Reach encryptedRunResult.1 encryptedRunResult.2 :=
    TraceMachine.run_get encryptedRun_runs
  have few : FewConnects encryptedRunResult.2 := by
    unfold FewConnects
    decide +kernel
  have hencrypted : IsEncrypted encryptedRunResult.1 1 := by
    unfold IsEncrypted
    decide +kernel
  have hstep : (encryptedRunResult.1.step soloPlatform .beginOutgoing).isSome = true := by
    decide +kernel
  obtain ⟨⟨s', es⟩, hs⟩ := Option.isSome_iff_exists.mp hstep
  have hes : es = [] := by
    cases System.step_cases hs
    rfl
  have hs' : (server Unit soloPlatform).step encryptedRunResult.1 .beginOutgoing =
      some (s', es) := hs
  have hp : (server Unit soloPlatform).Path encryptedRunResult.1 ([] ++ es) s' :=
    TraceMachine.Path.step TraceMachine.Path.refl hs'
  rw [List.nil_append] at hp
  refine ⟨s', es, hs, ((encryption_flags_agree hr few).2.2 1 s' es hencrypted hp ?_ ?_).1⟩
  · rw [hes, List.append_nil]
    exact few
  · simp [hes]

end RcnetServer
