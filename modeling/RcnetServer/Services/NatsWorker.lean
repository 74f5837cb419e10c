/-
  RcnetServer.Services.NatsWorker

  The NATS thread on `SimulationToNatsQueue` (services/nats).

  `natsWorker` subscribes until it succeeds, then waits with an empty batch and
  publishes the batch from the front; pushes and `stop()` of the other threads fall
  anywhere between these steps.  A publication builds a JSON text with cJSON, which is
  not part of the sources.  Its calls can each fail, which for one message is a
  `CJsonOutcome`; the text of an object is a function of its members (`JsonPrinter`).
  The calls made are listed.
-/

import RcnetServer.Services.Http
import RcnetServer.Simulation.MetricsPublisher
import RcnetServer.Threading.StoppableQueues

namespace RcnetServer

-- ============================================================================
-- Publications
-- ============================================================================

/-- What the thread reads of the engine's `RCNET_SimulationEtatMetrics`, each number
    as the `double` that is passed to cJSON. -/
structure RcnetSimulationEtatMetrics where
  frequenceCibleTickSimulationHz : Float
  frequenceReelleTickSimulationHzSurDerniereSeconde : Float
  nombreTicksSimulationExecutesSurDerniereSeconde : Float
  tempsMoyenParTickSurDerniereSecondeMs : Float
  tempsEnMsSousLequelSeSituent95PourcentDesTicksSurLesDeuxDernieresSecondes : Float
  tempsEnMsSousLequelSeSituent99PourcentDesTicksSurLesDeuxDernieresSecondes : Float
  tempsMaximumObservePourUnTickSurDerniereSecondeMs : Float
  identifiantTickDuTempsMaximumObserveSurDerniereSeconde : Float
  retardMoyenDeReveilDuThreadParmiLesTicksEnRetardSurDerniereSecondeMs : Float
  retardMaximumObserveSurDerniereSecondeMs : Float
  nombreDeReveilsDuThreadApresLHorairePrevuSurDerniereSeconde : Float
  tempsMoyenTotalReelDuTickEnComptantRetardDeReveilPlusTraitementSurDerniereSecondeMs : Float
  margeMoyenneRestanteAvantDeDeborderSurLeTickSuivantSurDerniereSecondeMs : Float
  budgetMaximalParTickAvantDeDeborderSurLeTickSuivantMs : Float
  nombreTicksDeRattrapageExecutesSurDerniereSeconde : Float
  nombreTicksDeRattrapageExecutesDepuisLeLancementDuServeur : Float
  nombreAbandonsDeBacklogSimulationSurDerniereSeconde : Float
  nombreAbandonsDeBacklogSimulationDepuisLeLancementDuServeur : Float
deriving Inhabited

/-- A message of the queue. -/
abbrev NatsMessage :=
  SimulationToNatsMessage (GameserverSimulationEtatMetricsPayload RcnetSimulationEtatMetrics)

/-- The value of a member of a JSON object. -/
inductive JsonValue
  | string (text : String)
  | number (value : Float)

/-- The calls of a publication, as far as they succeed. -/
inductive NatsCall
  | cJSONCreateObject
  /-- `cJSON_AddStringToObject` or `cJSON_AddNumberToObject`. -/
  | cJSONAddToObject (name : String) (value : JsonValue)
  | cJSONPrintUnformatted (jsonString : List UInt8)
  | rcnetNatsPublish (subject : String) (payload : List UInt8)
  | cJSONFree
  | cJSONDelete

/-- The text `cJSON_PrintUnformatted` gives for an object, from its members in the order
    they were added. -/
abbrev JsonPrinter := List (String × JsonValue) → List UInt8

/-- How cJSON behaves for one message: whether the root is made, how many members
    can be put into it, and whether it can be printed. -/
structure CJsonOutcome where
  created : Bool
  added : Nat
  printed : Bool

namespace ServerNats

variable (print : JsonPrinter)

/-- `std::string::c_str`, read as a C string. -/
def cString (s : String) : String :=
  String.ofList (s.toList.takeWhile fun c => c ≠ Char.ofNat 0)

/-- Build an object with the given members, print it, publish it on `subject`, and
    give everything back. -/
def publishObject (members : List (String × JsonValue)) (subject : String)
    (outcome : CJsonOutcome) : List NatsCall :=
  if outcome.created then
    -- the first member that cannot be added ends the attempt
    let adds := (members.take outcome.added).map fun member =>
      NatsCall.cJSONAddToObject member.1 member.2
    if outcome.added < members.length then .cJSONCreateObject :: (adds ++ [.cJSONDelete])
    else
      match outcome.printed with
      | false => .cJSONCreateObject :: (adds ++ [.cJSONDelete])
      | true =>
          let jsonString := print members
          .cJSONCreateObject :: (adds ++
            [.cJSONPrintUnformatted jsonString,
              .rcnetNatsPublish (cString subject) (cStr jsonString), .cJSONFree, .cJSONDelete])
  else []

/-- The members of the metrics object, in the order they are added. -/
def gameserverSimulationEtatMetricsMembers
    (payload : GameserverSimulationEtatMetricsPayload RcnetSimulationEtatMetrics) :
    List (String × JsonValue) :=
  let metrics := payload.simulationEtatMetrics
  let numbers : List (String × Float) :=
  [
   ("server_id",
      payload.serverId.toFloat),
   ("temps_reel_traitement_network_incoming_dispatcher_sur_ce_tick_ms",
      payload.tempsReelTraitementNetworkIncomingDispatcherSurCeTickMs),
   ("temps_reel_traitement_http_dispatcher_sur_ce_tick_ms",
      payload.tempsReelTraitementHttpDispatcherSurCeTickMs),
   ("temps_reel_traitement_nats_dispatcher_sur_ce_tick_ms",
      payload.tempsReelTraitementNatsDispatcherSurCeTickMs),
   ("temps_reel_traitement_check_match_flow_sur_ce_tick_ms",
      payload.tempsReelTraitementCheckMatchFlowSurCeTickMs),
   ("temps_reel_traitement_world_simulate_sur_ce_tick_ms",
      payload.tempsReelTraitementWorldSimulateSurCeTickMs),
   ("temps_reel_traitement_create_full_snapshots_sur_ce_tick_ms",
      payload.tempsReelTraitementCreateFullSnapshotsSurCeTickMs),
   ("frequence_cible_tick_simulation_hz",
      metrics.frequenceCibleTickSimulationHz),
   ("frequence_reelle_tick_simulation_hz_sur_derniere_seconde",
      metrics.frequenceReelleTickSimulationHzSurDerniereSeconde),
   ("nombre_ticks_simulation_executes_sur_derniere_seconde",
      metrics.nombreTicksSimulationExecutesSurDerniereSeconde),
   ("temps_moyen_par_tick_sur_derniere_seconde_ms",
      metrics.tempsMoyenParTickSurDerniereSecondeMs),
   ("temps_en_ms_sous_lequel_se_situent_95_pourcent_des_ticks_sur_les_deux_dernieres_secondes",
      metrics.tempsEnMsSousLequelSeSituent95PourcentDesTicksSurLesDeuxDernieresSecondes),
   ("temps_en_ms_sous_lequel_se_situent_99_pourcent_des_ticks_sur_les_deux_dernieres_secondes",
      metrics.tempsEnMsSousLequelSeSituent99PourcentDesTicksSurLesDeuxDernieresSecondes),
   ("temps_maximum_observe_pour_un_tick_sur_derniere_seconde_ms",
      metrics.tempsMaximumObservePourUnTickSurDerniereSecondeMs),
   ("identifiant_tick_du_temps_maximum_observe_sur_derniere_seconde",
      metrics.identifiantTickDuTempsMaximumObserveSurDerniereSeconde),
   ("retard_moyen_de_reveil_du_thread_parmi_les_ticks_en_retard_sur_derniere_seconde_ms",
      metrics.retardMoyenDeReveilDuThreadParmiLesTicksEnRetardSurDerniereSecondeMs),
   ("retard_maximum_observe_sur_derniere_seconde_ms",
      metrics.retardMaximumObserveSurDerniereSecondeMs),
   ("nombre_de_reveils_du_thread_apres_l_horaire_prevu_sur_derniere_seconde",
      metrics.nombreDeReveilsDuThreadApresLHorairePrevuSurDerniereSeconde),
   ("temps_moyen_total_reel_du_tick_en_comptant_retard_de_reveil_plus_traitement_sur_derniere_seconde_ms",
      metrics.tempsMoyenTotalReelDuTickEnComptantRetardDeReveilPlusTraitementSurDerniereSecondeMs),
   ("marge_moyenne_restante_avant_de_deborder_sur_le_tick_suivant_sur_derniere_seconde_ms",
      metrics.margeMoyenneRestanteAvantDeDeborderSurLeTickSuivantSurDerniereSecondeMs),
   ("budget_maximal_par_tick_avant_de_deborder_sur_le_tick_suivant_ms",
      metrics.budgetMaximalParTickAvantDeDeborderSurLeTickSuivantMs),
   ("nombre_ticks_de_rattrapage_executes_sur_derniere_seconde",
      metrics.nombreTicksDeRattrapageExecutesSurDerniereSeconde),
   ("nombre_ticks_de_rattrapage_executes_depuis_le_lancement_du_serveur",
      metrics.nombreTicksDeRattrapageExecutesDepuisLeLancementDuServeur),
   ("nombre_abandons_de_backlog_simulation_sur_derniere_seconde",
      metrics.nombreAbandonsDeBacklogSimulationSurDerniereSeconde),
   ("nombre_abandons_de_backlog_simulation_depuis_le_lancement_du_serveur",
      metrics.nombreAbandonsDeBacklogSimulationDepuisLeLancementDuServeur)]
  numbers.map fun member => (member.1, .number member.2)

/-- `..._HandlePublishMessageForSubjectMySubject1`. -/
def handlePublishMessageForSubjectMySubject1 (message : NatsMessage) (outcome : CJsonOutcome) :
    List NatsCall :=
  publishObject print [("message", .string (cString message.mySubject1Message))] message.subject
    outcome

/-- `..._HandlePublishMessageForSubjectGameserverSimulationEtatMetrics`.  Unlike the
    other handler it looks at the subject. -/
def handlePublishMessageForSubjectGameserverSimulationEtatMetrics (message : NatsMessage)
    (outcome : CJsonOutcome) : List NatsCall :=
  if message.subject.isEmpty then []
  else
    publishObject print
      (gameserverSimulationEtatMetricsMembers message.gameserverSimulationEtatMetricsPayload)
      message.subject outcome

/-- `ServerNats_ProcessSimulationDispatcher`. -/
def processSimulationDispatcher (message : NatsMessage) (outcome : CJsonOutcome) :
    List NatsCall :=
  match message.type with
  | .publishMessageForSubjectMySubject1 =>
      handlePublishMessageForSubjectMySubject1 print message outcome
  | .publishMessageForSubjectGameserverSimulationEtatMetrics =>
      handlePublishMessageForSubjectGameserverSimulationEtatMetrics print message outcome

end ServerNats

-- ============================================================================
-- The worker
-- ============================================================================

/-- The queue, the static `subscriptionsInitialized`, and the rest of the local batch
    of `ServerNats_WaitAndProcessOneSimulationMessage_And_RunNatsLogic`. -/
structure NatsWorker where
  queue : SimulationToNatsQueue
    (GameserverSimulationEtatMetricsPayload RcnetSimulationEtatMetrics) := {}
  subscriptionsInitialized : Bool := false
  batch : List NatsMessage := []

inductive NatsWorkerAction
  | push (message : NatsMessage)
  | stop
  /-- A pass with a null context, which only logs. -/
  | withoutContext
  /-- `ServerNats_SubscribeAllSubjects` returns. -/
  | subscribe (subscribed : Bool)
  | waitAndDrain
  /-- The front of the batch is dispatched. -/
  | dispatch (outcome : CJsonOutcome)

inductive NatsWorkerEvent
  | queue (event : StoppableQueueEvent NatsMessage)
  | subscribed (subscribed : Bool)
  | dispatched (message : NatsMessage) (outcome : CJsonOutcome) (calls : List NatsCall)

/-- A pass begins with an empty batch; it subscribes if that has not succeeded yet,
    and gets to `waitAndDrain` only when it has. -/
def NatsWorker.step (print : JsonPrinter) (w : NatsWorker) :
    NatsWorkerAction → Option (NatsWorker × List NatsWorkerEvent)
  | .push message =>
      some ({ w with queue := w.queue.push message }, [.queue (.pushed message)])
  | .stop => some ({ w with queue := w.queue.stop }, [.queue .stopped])
  | .withoutContext => if w.batch.isEmpty then some (w, []) else none
  | .subscribe subscribed =>
      if w.batch.isEmpty && !w.subscriptionsInitialized then
        some ({ w with subscriptionsInitialized := subscribed }, [.subscribed subscribed])
      else none
  | .waitAndDrain =>
      if w.batch.isEmpty && w.subscriptionsInitialized then
        match w.queue.waitAndDrain with
        | .blocked => none
        | .stopped => some (w, [.queue .returnedFalse])
        | .drained batch rest =>
            some ({ w with queue := rest, batch := batch }, [.queue (.returnedTrue batch)])
      else none
  | .dispatch outcome =>
      match w.batch with
      | [] => none
      | message :: rest =>
          some ({ w with batch := rest },
            [.dispatched message outcome
              (ServerNats.processSimulationDispatcher print message outcome)])

/-- A return of `waitAndDrain`. -/
def StoppableQueueEvent.isReturn {M : Type} : StoppableQueueEvent M → Bool
  | .pushed _ => false
  | .stopped => false
  | .returnedTrue _ => true
  | .returnedFalse => true

/-- The worker, with the threads that push and stop. -/
def natsWorker (print : JsonPrinter) :
    TraceMachine NatsWorker NatsWorkerAction NatsWorkerEvent where
  start := {}
  step := NatsWorker.step print

/-- The steps of the worker. -/
inductive NatsWorker.Steps (print : JsonPrinter) (w : NatsWorker) :
    NatsWorker → List NatsWorkerEvent → Prop
  /-- A call on the queue, whose batch is taken when there is none. -/
  | queue {w' : NatsWorker} {a : StoppableQueueAction NatsMessage}
      {event : StoppableQueueEvent NatsMessage}
      (called : (stoppableQueue NatsMessage).step w.queue a = some (w'.queue, [event]))
      (batch : w.batch ++ (returnedBatches [event]).flatten = w'.batch)
      (flag : w'.subscriptionsInitialized = w.subscriptionsInitialized)
      (after : event.isReturn = true → w.subscriptionsInitialized = true)
      (done : event = .returnedFalse → w.batch = []) :
      Steps print w w' [.queue event]
  | withoutContext : Steps print w w []
  | subscribe {subscribed : Bool} (first : w.subscriptionsInitialized = false) :
      Steps print w { w with subscriptionsInitialized := subscribed } [.subscribed subscribed]
  | dispatch {message : NatsMessage} {rest : List NatsMessage} {outcome : CJsonOutcome}
      (next : w.batch = message :: rest) :
      Steps print w { w with batch := rest }
        [.dispatched message outcome
          (ServerNats.processSimulationDispatcher print message outcome)]

theorem natsWorker_step_cases {print : JsonPrinter} {w w' : NatsWorker}
    {action : NatsWorkerAction} {es : List NatsWorkerEvent}
    (h : (natsWorker print).step w action = some (w', es)) : w.Steps print w' es := by
  cases action with
  | push message =>
      obtain ⟨rfl, rfl⟩ := Prod.mk.inj (Option.some.inj h)
      exact .queue (a := .push message) rfl (List.append_nil _) rfl (fun h => by cases h)
        (fun h => by cases h)
  | stop =>
      obtain ⟨rfl, rfl⟩ := Prod.mk.inj (Option.some.inj h)
      exact .queue (a := .stop) rfl (List.append_nil _) rfl (fun h => by cases h)
        (fun h => by cases h)
  | withoutContext =>
      simp only [natsWorker, NatsWorker.step] at h
      split at h
      · obtain ⟨rfl, rfl⟩ := Prod.mk.inj (Option.some.inj h)
        exact .withoutContext
      · cases h
  | subscribe subscribed =>
      simp only [natsWorker, NatsWorker.step] at h
      split at h
      · rename_i hguard
        obtain ⟨rfl, rfl⟩ := Prod.mk.inj (Option.some.inj h)
        exact .subscribe (by simpa using (Bool.and_eq_true_iff.mp hguard).2)
      · cases h
  | waitAndDrain =>
      simp only [natsWorker, NatsWorker.step] at h
      split at h
      · rename_i hguard
        obtain ⟨hempty, hflag⟩ := Bool.and_eq_true_iff.mp hguard
        have hbatch : w.batch = [] := List.isEmpty_iff.mp hempty
        split at h
        · cases h
        · rename_i hwait
          obtain ⟨rfl, rfl⟩ := Prod.mk.inj (Option.some.inj h)
          refine .queue (a := .waitAndDrain) ?_ (List.append_nil _) rfl (fun _ => hflag)
            (fun _ => hbatch)
          simp only [stoppableQueue, hwait]
        · rename_i batch rest hwait
          obtain ⟨rfl, rfl⟩ := Prod.mk.inj (Option.some.inj h)
          refine .queue (a := .waitAndDrain) ?_ ?_ rfl (fun _ => hflag) (fun h => by cases h)
          · simp only [stoppableQueue, hwait]
          · rw [hbatch]
            exact List.append_nil batch
      · cases h
  | dispatch outcome =>
      simp only [natsWorker, NatsWorker.step] at h
      split at h
      · cases h
      · rename_i message rest hbatch
        obtain ⟨rfl, rfl⟩ := Prod.mk.inj (Option.some.inj h)
        exact .dispatch hbatch

end RcnetServer
