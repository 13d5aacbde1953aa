import Concurrente.WebServer.Http.ThreadSteps
import Concurrente.WebServer.Http.UnitFlow

/-!
# Conservation of units

Every step of every thread keeps the account of the units, whether or not
connections close.
-/

namespace Concurrente.WebServer

open Library Network

/-! ## Objects and their handlers -/

theorem CalcData.ofRequest_registered {applications : List HttpApp}
    {app : CalcWebApp} {appIndex : UInt64} {queries : List Int64}
    (application : applications[appIndex.toNat]? = some (.calc app))
    (asked : queries ≠ []) (few : queries.length < 2 ^ 64) (exchange : Nat) :
    (ofRequest exchange appIndex queries).Registered applications app :=
  ⟨application, asked, few, by simp [ofRequest, updatePending]⟩

theorem CalcData.ofRequest_untouched (exchange : Nat) (appIndex : UInt64)
    (queries : List Int64) :
    (ofRequest exchange appIndex queries).Untouched where
  pending := rfl
  empty result member := by
    simp only [ofRequest, updatePending, List.take_nil, List.nil_append] at member
    exact List.eq_of_mem_replicate member

/-- What `processQuery` does for a unit that awaits its result. -/
theorem CalcData.Awaits.processQuery {applications : List HttpApp}
    {app : CalcWebApp} {data : CalcData} {index : UInt64} {query : Int64}
    (awaits : data.Awaits index query)
    (application : applications[data.appIndex.toNat]? = some (.calc app)) :
    data.processQuery applications index =
      .ok { data with
        results := data.results.modify index.toNat (app.processQuery query) } := by
  simp [CalcData.processQuery, application, awaits.query]

/-- A worker turns the unit it received into its answer. -/
theorem Calculator.processWork_createWorkUnit {applications : List HttpApp}
    {app : CalcWebApp} {appIndex : UInt64}
    (application : applications[appIndex.toNat]? = some (.calc app))
    (unit : DataUnit) (query : Int64) :
    Calculator.processWork applications (CalcWebApp.createWorkUnit appIndex
        unit.concurrentData unit.resultIndex query) =
      .producing (app.answer appIndex unit query) := by
  simp [processWork, CalcData.processQuery, CalcWebApp.createWorkUnit,
    CalcData.updatePending, application, CalcWebApp.answer]

section Threads

variable {config : Configuration} {mayClose : Channel config → Prop}
  {allowed : Node config → config.State → Prop}

/-! ## What the threads do with units -/

/-- The client request an object belongs to. -/
def CalcData.request (data : CalcData) : Option Nat × UInt64 × List Int64 :=
  (data.exchange, data.appIndex, data.queries)

/-- The client requests that the objects belong to. -/
def Heap.requests (heap : Heap) (address : Address) :
    Option (Option Nat × UInt64 × List Int64) :=
  (heap address).map CalcData.request

theorem Heap.requests_update {heap : Heap} {address : Address}
    {data changed : CalcData} (live : heap address = some data)
    (same : changed.request = data.request) :
    Heap.requests (Function.update heap address (some changed)) =
      heap.requests := by
  funext other
  by_cases equal : other = address
  · subst equal
    simp [requests, live, same]
  · simp [requests, equal]

section Work

variable {shared : Shared config} {rest : Address → Multiset Stage}

theorem Decomposer.decompose_spec {data : Address}
    (kept : Accounted config.applications shared.heap
      (rest + (Load.object data .whole).weight)) (pending : Nat) :
    ∃ units, decompose data pending shared = .producing units pending ∧
      Accounted config.applications shared.heap
        (rest + loadWeight (units.map (·.load .queued))) := by
  obtain ⟨calcData, live, decomposed⟩ := kept.decompose
  exact ⟨_, by simp [decompose, live], decomposed⟩

theorem Distributor.serialize_spec {unit : DataUnit}
    (kept : Accounted config.applications shared.heap
      (rest + (unit.load .queued).weight)) (worker : config.Worker) :
    ∃ text, serialize shared unit worker = .sending worker unit text ∧
      text ≠ stopText ∧
      Accounted config.applications shared.heap
        (rest + (unit.load (.serialized text)).weight) := by
  obtain ⟨data, app, found⟩ := kept.found
  obtain ⟨query, awaits⟩ := found.fits.of_queued
  have text := CalcWebApp.serializeRequest_eq found.live awaits.query
  refine ⟨CalcWebApp.requestText data.appIndex unit query, ?_,
    messageText_ne_stopText _ _ _ _, found.move (.serialized awaits)⟩
  simp [serialize, found.live, found.registered.application,
    HttpApp.serializeRequest, text]

theorem Distributor.serialized_ne_stopText {unit : DataUnit} {text : Text}
    (kept : Accounted config.applications shared.heap
      (rest + (unit.load (.serialized text)).weight)) : text ≠ stopText := by
  obtain ⟨data, app, found⟩ := kept.found
  obtain ⟨query, _, rfl⟩ := found.fits.of_serialized
  exact messageText_ne_stopText _ _ _ _

theorem Calculator.process_spec {unit : DataUnit}
    (kept : Accounted config.applications shared.heap
      (rest + (unit.load .queued).weight)) :
    ∃ heap, process unit shared = ({ shared with heap }, .producing unit) ∧
      Heap.requests heap = shared.heap.requests ∧
      Accounted config.applications heap
        (rest + (unit.load .processed).weight) := by
  obtain ⟨data, app, found⟩ := kept.found
  obtain ⟨query, awaits⟩ := found.fits.of_queued
  refine ⟨_, ?_, Heap.requests_update found.live ?_,
    found.store (app.processQuery query) awaits rfl⟩
  · simp [process, found.live, awaits.processQuery found.registered.application]
  · rfl

theorem WorkerConnectionHandler.handle_stopText (worker : config.Worker)
    (shared : Shared config) :
    handle worker stopText shared = (shared, .removing worker) := by
  have routed := route_stop_line config.fewApplications shared.heap []
  unfold handle
  rw [linesOf_stopText, routed]

theorem WorkerConnectionHandler.handle_spec {text : Text}
    (kept : Accounted config.applications shared.heap
      (rest + loadWeight (responseLoads text)))
    (other : text ≠ stopText) (worker : config.Worker) :
    ∃ unit heap,
      handle worker text shared = ({ shared with heap }, .producing worker unit) ∧
      Heap.requests heap = shared.heap.requests ∧
      Accounted config.applications heap
        (rest + (unit.load .processed).weight) := by
  rcases responseLoads_cases text with stops | broken | ⟨unit, loads⟩
  · exact (other stops).elim
  · have absent := kept.not_broken 0
    simp [broken, Load.weight] at absent
  · rw [loads, loadWeight_singleton] at kept
    obtain ⟨data, app, found⟩ := kept.found
    obtain ⟨query, awaits, rfl⟩ := found.fits.of_replied
    have routed := route_responseText
      (found.registered.finished found.live found.valid awaits) []
    rw [List.append_nil] at routed
    refine ⟨unit, _, ?_, Heap.requests_update found.live ?_,
      found.store (· ++ app.processQuery query []) awaits rfl⟩
    · simp [handle, routed, Heap.append, found.live, CalcData.appendResults]
    · rfl

theorem ResponseAssembler.assemble_spec {unit : DataUnit}
    (kept : Accounted config.applications shared.heap
      (rest + (unit.load .processed).weight)) (pending : Nat) :
    ∃ heap next, assemble unit pending shared = ({ shared with heap }, next) ∧
      (next = .producing unit.concurrentData pending ∨ next = .loop pending) ∧
      Heap.requests heap = shared.heap.requests ∧
      Accounted config.applications heap (rest + loadWeight next.loads) := by
  obtain ⟨data, live, marked⟩ := kept.mark
  refine ⟨Function.update shared.heap unit.concurrentData
      (some data.markUnitReady),
    if data.markUnitReady.isReady then .producing unit.concurrentData pending
      else .loop pending,
    by simp [assemble, live], ?_, Heap.requests_update live rfl, ?_⟩
  · split
    · exact .inl rfl
    · exact .inr rfl
  · split at marked <;> rename_i ready <;> simpa [ready] using marked

theorem ClientResponder.respond_spec {data : Address}
    (kept : Accounted config.applications shared.heap
      (rest + (Load.object data .handed).weight)) :
    ∃ calcData, shared.heap data = some calcData ∧
      respond data shared = ({ shared with
        heap := Function.update shared.heap data none
        responded := shared.responded ++ calcData.exchange.toList }, .loop) ∧
      Accounted config.applications (Function.update shared.heap data none)
        rest := by
  obtain ⟨calcData, live, deleted⟩ := kept.delete
  exact ⟨calcData, live, by simp [respond, live], deleted⟩

theorem RequestServer.handle_stopText (worker : config.Worker) :
    handle worker stopText = .stops (config.workerCalculators worker) := by
  have read := readRequestFromMaster_stop_line config.fewApplications []
  unfold handle
  rw [linesOf_stopText, read]

theorem RequestServer.handle_spec {text : Text}
    (kept : Accounted config.applications shared.heap
      (rest + loadWeight (requestLoads config.applications text)))
    (other : text ≠ stopText) (worker : config.Worker) :
    ∃ unit, handle worker text = .producing unit ∧
      requestLoads config.applications text =
        [unit.original.load (.remote unit)] := by
  rcases requestLoads_cases config.applications text with
    stops | broken | ⟨unit, read, loads⟩
  · exact (other stops).elim
  · have absent := kept.not_broken 0
    simp [broken, Load.weight] at absent
  · exact ⟨unit, by simp [handle, read], loads⟩

theorem Calculator.processWork_spec {unit : WorkUnit}
    (kept : Accounted config.applications shared.heap
      (rest + (unit.original.load (.remote unit)).weight)) :
    ∃ answer : WorkUnit,
      processWork config.applications unit = .producing answer ∧
      Accounted config.applications shared.heap
        (rest + (answer.original.load (.answered answer)).weight) := by
  obtain ⟨data, app, found⟩ := kept.found
  obtain ⟨query, awaits, same⟩ := found.fits.of_remote
  refine ⟨app.answer data.appIndex unit.original query, ?_,
    found.move (.answered awaits)⟩
  rw [same]
  exact processWork_createWorkUnit found.registered.application _ _

theorem ResponseClient.serialize_spec {unit : WorkUnit}
    (kept : Accounted config.applications shared.heap
      (rest + (unit.original.load (.answered unit)).weight)) (pending : Nat) :
    ∃ text, serialize unit pending = .sending text pending ∧
      text ≠ stopText ∧
      Accounted config.applications shared.heap
        (rest + loadWeight (responseLoads text)) := by
  obtain ⟨data, app, found⟩ := kept.found
  obtain ⟨query, awaits, same⟩ := found.fits.of_answered
  have text := (congrArg WorkUnit.serializeResponse same).trans
    (WorkUnit.serializeResponse_eq
      (app.answer_processed data.appIndex unit.original query))
  have serializes : serialize unit pending =
      .sending (app.answer data.appIndex unit.original query).responseText
        pending := by
    simp only [serialize, text]
  refine ⟨_, serializes, messageText_ne_stopText _ _ _ _, ?_⟩
  rw [responseLoads_responseText found.valid, loadWeight_singleton]
  exact found.move (.replied awaits)

end Work

/-! ## Steps -/

theorem Configuration.unitsKept_ignores :
    Ignores config.UnitsKept Shared.heap fun _ _ => True where
  store same kept := by
    unfold Configuration.UnitsKept at kept ⊢
    rwa [same]
  sent _ kept := kept

/-- The step of a thread in some state keeps the account of the units. -/
abbrev KeepsUnits (mayClose : Channel config → Prop)
    (allowed : Node config → config.State → Prop) (node : Node config)
    (thread : config.Thread node) : Prop :=
  Respects config.unitWeights mayClose allowed config.UnitsKept node thread
    (config.act node thread)

namespace KeepsUnits

theorem of_keeps {node : Node config} {thread : config.Thread node}
    (keeps : Keeps config.unitWeights mayClose Shared.heap (fun _ _ => True) node
      thread (config.act node thread)) :
    KeepsUnits mayClose allowed node thread :=
  Keeps.respects Configuration.unitsKept_ignores keeps

end KeepsUnits

theorem SignalHandler.keepsUnits (thread : SignalHandler) :
    KeepsUnits mayClose allowed .signalHandler thread := by
  apply KeepsUnits.of_keeps
  cases thread with
  | waiting | stoppingWorkers =>
      rintro choice store after next ⟨⟩
      exact ⟨rfl, rfl⟩
  | ended => trivial

theorem ClientResponder.keepsUnits (thread : ClientResponder) :
    KeepsUnits mayClose allowed .clientResponder thread := by
  cases thread with
  | loop =>
      refine .of_keeps ⟨fun item => ?_, fun _ => by simp⟩
      cases item <;> simp
  | responding data =>
      intro state rest choice store next result focus
      have kept : Accounted config.applications state.store.heap
          (rest + (Load.object data .handed).weight) := by
        simpa using focus.holds
      obtain ⟨calcData, _, responds, deleted⟩ := respond_spec kept
      simp only [responds, Option.some.injEq, Prod.mk.injEq] at result
      obtain ⟨rfl, rfl⟩ := result
      simpa using deleted
  | ended => trivial
  | failed => trivial

theorem ResponseClient.keepsUnits (worker : config.Worker)
    (thread : ResponseClient) :
    KeepsUnits mayClose allowed (.responseClient worker) thread := by
  cases thread with
  | loop pending =>
      cases pending with
      | zero => exact .of_keeps ⟨trivial, by simp, fun _ _ => by simp⟩
      | succ pending =>
          refine ⟨fun state rest item queued focus => ?_,
            fun _ state rest focus => by simpa using focus.holds⟩
          cases item with
          | none => simpa using focus.holds
          | some unit =>
              have kept : Accounted config.applications state.store.heap
                  (rest + (unit.original.load (.answered unit)).weight) := by
                simpa using focus.holds
              obtain ⟨text, serializes, _, moved⟩ :=
                serialize_spec kept (pending + 1)
              simpa [serializes] using moved
  | sending text pending =>
      refine ⟨fun state rest focus => by simpa using focus.holds,
        fun _ reported state rest focus => ?_⟩
      have kept : Accounted config.applications state.store.heap
          (rest + loadWeight (responseLoads text)) := by
        simpa using focus.holds
      rcases responseLoads_cases text with rfl | broken | ⟨unit, loads⟩
      · simpa using kept
      · have absent := kept.not_broken 0
        simp [broken, Load.weight] at absent
      · rw [loads, loadWeight_singleton] at kept
        obtain ⟨data, app, found⟩ := kept.found
        have moved := found.move .lost
        simpa [loads, DataUnit.load, Load.lose] using moved
  | ended => trivial
  | failed => trivial

theorem MasterServer.keepsUnits (thread : MasterServer config.Worker)
    (linked : ∀ channel, mayClose channel → config.link channel ≠ none) :
    KeepsUnits mayClose allowed .masterServer thread := by
  apply KeepsUnits.of_keeps
  cases thread with
  | listening =>
      intro choice store after next result
      rcases accept_cases result with ⟨worker, _, _, rfl, rfl⟩ | ⟨_, rfl, rfl⟩ <;>
        exact ⟨rfl, rfl⟩
  | readingPassword worker =>
      intro choice store after next result
      rcases readPassword_cases result with ⟨rfl, rfl⟩ | ⟨rfl, rfl⟩ <;>
        exact ⟨rfl, rfl⟩
  | adding worker =>
      intro choice store after next result
      simp only [Option.ite_none_left_eq_some, Option.some.injEq,
        Prod.mk.injEq] at result
      obtain ⟨_, rfl, rfl⟩ := result
      exact ⟨rfl, rfl⟩
  | producing worker =>
      exact ⟨trivial, rfl, fun closing => (linked _ closing rfl).elim⟩
  | stops count =>
      cases count with
      | zero => trivial
      | succ count =>
          exact ⟨trivial, rfl, fun closing => (linked _ closing rfl).elim⟩

variable (linked : ∀ channel, mayClose channel → config.link channel ≠ none)

include linked

theorem HttpConnectionHandler.keepsUnits (index : Fin config.maxConnections)
    (thread : HttpConnectionHandler) :
    KeepsUnits mayClose allowed (.connectionHandler index) thread := by
  cases thread with
  | consuming =>
      intro state rest choice store next result focus
      have kept : Accounted config.applications state.store.heap rest := by
        simpa using focus.holds
      rcases consume_cases result with
        ⟨appIndex, queries, address, app, application, asked, few, valid, free,
          rfl, rfl⟩ | ⟨_, rfl, rfl⟩
      · simpa using kept.create free valid
          (CalcData.ofRequest_registered application asked few _)
          (CalcData.ofRequest_untouched ..)
      · simpa using kept
  | producing data =>
      exact .of_keeps ⟨trivial, by simp, fun closing => (linked _ closing rfl).elim⟩
  | lastStop =>
      exact .of_keeps ⟨trivial, by simp, fun closing => (linked _ closing rfl).elim⟩
  | ended => trivial

theorem Decomposer.keepsUnits (thread : Decomposer) :
    KeepsUnits mayClose allowed .decomposer thread := by
  cases thread with
  | loop pending =>
      cases pending with
      | zero =>
          exact .of_keeps
            ⟨trivial, by simp, fun closing => (linked _ closing rfl).elim⟩
      | succ pending =>
          refine .of_keeps ⟨fun item => ?_, fun _ => by simp⟩
          cases item <;> simp
  | decomposing data pending =>
      intro state rest choice store next result focus
      have kept : Accounted config.applications state.store.heap
          (rest + (Load.object data .whole).weight) := by
        simpa using focus.holds
      obtain ⟨units, decomposes, decomposed⟩ := decompose_spec kept pending
      simp only [decomposes, Option.some.injEq, Prod.mk.injEq] at result
      obtain ⟨rfl, rfl⟩ := result
      exact decomposed
  | producing units pending =>
      cases units with
      | nil =>
          refine .of_keeps ?_
          rintro choice store after next ⟨⟩
          exact ⟨rfl, by simp⟩
      | cons unit units =>
          exact .of_keeps ⟨trivial, by simp [loadWeight_cons],
            fun closing => (linked _ closing rfl).elim⟩
  | ended => trivial
  | failed => trivial

theorem Distributor.keepsUnits (thread : Distributor config.Worker) :
    KeepsUnits mayClose allowed .distributor thread := by
  cases thread with
  | loop =>
      refine .of_keeps ⟨fun item => ?_, fun _ => by simp⟩
      cases item <;> simp
  | consuming unit =>
      intro state rest choice store next result focus
      have kept : Accounted config.applications state.store.heap
          (rest + (unit.load .queued).weight) := by
        simpa using focus.holds
      obtain ⟨rfl, ⟨worker, _, rfl⟩ | rfl⟩ :=
        getRandomWorkerConnection_cases result
      · obtain ⟨text, serializes, _, moved⟩ := serialize_spec kept worker
        simpa [serializes] using moved
      · simpa using kept
  | sending worker unit text =>
      refine ⟨fun state rest focus => ?_, fun _ reported state rest focus => ?_⟩
      · have kept : Accounted config.applications state.store.heap
            (rest + (unit.load (.serialized text)).weight) := by
          simpa using focus.holds
        obtain ⟨data, app, found⟩ := kept.found
        obtain ⟨query, awaits, rfl⟩ := found.fits.of_serialized
        have moved := found.move (.remote awaits)
        simpa [requestLoads_requestText found.registered found.valid] using moved
      · have kept : Accounted config.applications state.store.heap
            (rest + (unit.load (.serialized text)).weight) := by
          simpa using focus.holds
        obtain ⟨data, app, found⟩ := kept.found
        obtain ⟨query, awaits, rfl⟩ := found.fits.of_serialized
        cases reported with
        | true =>
            have moved := found.move .lost
            simpa [requestLoads_requestText found.registered found.valid,
              DataUnit.load, Load.lose] using moved
        | false => simpa using found.move (.queued awaits)
  | producing unit =>
      exact .of_keeps ⟨trivial, by simp, fun closing => (linked _ closing rfl).elim⟩
  | stopping =>
      refine .of_keeps fun choice store after next result => ?_
      simp only [Option.ite_none_left_eq_some, Option.some.injEq,
        Prod.mk.injEq] at result
      obtain ⟨_, rfl, rfl⟩ := result
      exact ⟨rfl, rfl⟩
  | stoppingWorkers workers =>
      cases workers with
      | nil =>
          refine .of_keeps ?_
          rintro choice store after next ⟨⟩
          exact ⟨rfl, rfl⟩
      | cons worker workers =>
          refine .of_keeps ⟨trivial, by simp, fun _ reported => ?_⟩
          cases reported <;> simp
  | stops count =>
      cases count with
      | zero => trivial
      | succ count =>
          exact .of_keeps
            ⟨trivial, by simp, fun closing => (linked _ closing rfl).elim⟩
  | failed => trivial

theorem Calculator.keepsUnits (index : Fin config.calculatorsAmount)
    (thread : Calculator DataUnit) :
    KeepsUnits mayClose allowed (.calculator index) thread := by
  cases thread with
  | loop =>
      refine .of_keeps ⟨fun item => ?_, fun _ => by simp⟩
      cases item <;> simp
  | processing unit =>
      intro state rest choice store next result focus
      have kept : Accounted config.applications state.store.heap
          (rest + (unit.load .queued).weight) := by
        simpa using focus.holds
      obtain ⟨heap, processes, _, stored⟩ := process_spec kept
      simp only [processes, Option.some.injEq, Prod.mk.injEq] at result
      obtain ⟨rfl, rfl⟩ := result
      simpa using stored
  | producing unit =>
      exact .of_keeps ⟨trivial, by simp, fun closing => (linked _ closing rfl).elim⟩
  | lastStop =>
      exact .of_keeps ⟨trivial, by simp, fun closing => (linked _ closing rfl).elim⟩
  | ended => trivial
  | failed => trivial

theorem WorkerConnectionHandler.keepsUnits
    (index : Fin config.maxWorkerConnections)
    (thread : WorkerConnectionHandler config.Worker) :
    KeepsUnits mayClose allowed (.workerConnectionHandler index) thread := by
  cases thread with
  | loop =>
      refine .of_keeps ⟨fun item => ?_, fun _ => by simp⟩
      cases item <;> simp
  | reading worker => exact .of_keeps ⟨fun item => by simp, fun _ => by simp⟩
  | routing worker text =>
      intro state rest choice store next result focus
      have kept : Accounted config.applications state.store.heap
          (rest + loadWeight (responseLoads text)) := by
        simpa using focus.holds
      by_cases stops : text = stopText
      · subst stops
        simp only [handle_stopText, Option.some.injEq, Prod.mk.injEq] at result
        obtain ⟨rfl, rfl⟩ := result
        simpa using kept
      · obtain ⟨unit, heap, handles, _, stored⟩ := handle_spec kept stops worker
        simp only [handles, Option.some.injEq, Prod.mk.injEq] at result
        obtain ⟨rfl, rfl⟩ := result
        simpa using stored
  | producing worker unit =>
      exact .of_keeps ⟨trivial, by simp, fun closing => (linked _ closing rfl).elim⟩
  | removing worker =>
      refine .of_keeps fun choice store after next result => ?_
      simp only [Option.ite_none_left_eq_some, Option.some.injEq,
        Prod.mk.injEq] at result
      obtain ⟨_, rfl, rfl⟩ := result
      exact ⟨rfl, rfl⟩
  | lastStop =>
      exact .of_keeps ⟨trivial, by simp, fun closing => (linked _ closing rfl).elim⟩
  | ended => trivial
  | failed => trivial

theorem ResponseAssembler.keepsUnits (thread : ResponseAssembler) :
    KeepsUnits mayClose allowed .responseAssembler thread := by
  cases thread with
  | loop pending =>
      cases pending with
      | zero =>
          exact .of_keeps
            ⟨trivial, by simp, fun closing => (linked _ closing rfl).elim⟩
      | succ pending =>
          refine .of_keeps ⟨fun item => ?_, fun _ => by simp⟩
          cases item <;> simp
  | assembling unit pending =>
      intro state rest choice store next result focus
      have kept : Accounted config.applications state.store.heap
          (rest + (unit.load .processed).weight) := by
        simpa using focus.holds
      obtain ⟨heap, after, assembles, _, _, marked⟩ := assemble_spec kept pending
      simp only [assembles, Option.some.injEq, Prod.mk.injEq] at result
      obtain ⟨rfl, rfl⟩ := result
      exact marked
  | producing data pending =>
      refine ⟨fun state rest focus => ?_, fun closing => (linked _ closing rfl).elim⟩
      have kept : Accounted config.applications state.store.heap
          (rest + (Load.object data .assembled).weight) := by
        simpa using focus.holds
      simpa using kept.hand.2
  | ended => trivial
  | failed => trivial

theorem RequestServer.keepsUnits (worker : config.Worker)
    (thread : RequestServer) :
    KeepsUnits mayClose allowed (.requestServer worker) thread := by
  cases thread with
  | reading =>
      refine ⟨fun state rest text queued focus => ?_,
        fun _ state rest focus => by simpa using focus.holds⟩
      have kept : Accounted config.applications state.store.heap
          (rest + loadWeight (requestLoads config.applications text)) := by
        simpa using focus.holds
      by_cases stops : text = stopText
      · subst stops
        simpa [handle_stopText] using kept
      · obtain ⟨unit, handles, loads⟩ := handle_spec kept stops worker
        simpa [handles, loads] using kept
  | producing unit =>
      exact .of_keeps ⟨trivial, by simp, fun closing => (linked _ closing rfl).elim⟩
  | stops count =>
      cases count with
      | zero => trivial
      | succ count =>
          exact .of_keeps
            ⟨trivial, by simp, fun closing => (linked _ closing rfl).elim⟩
  | failed => trivial

theorem Calculator.keepsWorkUnits (worker : config.Worker)
    (index : Fin (config.workerCalculators worker))
    (thread : Calculator WorkUnit) :
    KeepsUnits mayClose allowed (.workerCalculator worker index) thread := by
  cases thread with
  | loop =>
      refine .of_keeps ⟨fun item => ?_, fun _ => by simp⟩
      cases item <;> simp
  | processing unit =>
      intro state rest choice store next result focus
      have kept : Accounted config.applications state.store.heap
          (rest + (unit.original.load (.remote unit)).weight) := by
        simpa using focus.holds
      obtain ⟨answer, processes, moved⟩ := processWork_spec kept
      simp only [processes, Option.some.injEq, Prod.mk.injEq] at result
      obtain ⟨rfl, rfl⟩ := result
      simpa using moved
  | producing unit =>
      exact .of_keeps ⟨trivial, by simp, fun closing => (linked _ closing rfl).elim⟩
  | lastStop =>
      exact .of_keeps ⟨trivial, by simp, fun closing => (linked _ closing rfl).elim⟩
  | ended => trivial
  | failed => trivial

/-- Every step of every thread keeps the account of the units. -/
theorem Configuration.keepsUnits (node : Node config)
    (thread : config.Thread node) :
    KeepsUnits mayClose allowed node thread := by
  cases node with
  | signalHandler => exact SignalHandler.keepsUnits thread
  | connectionHandler index => exact HttpConnectionHandler.keepsUnits linked index thread
  | decomposer => exact Decomposer.keepsUnits linked thread
  | distributor => exact Distributor.keepsUnits linked thread
  | calculator index => exact Calculator.keepsUnits linked index thread
  | masterServer => exact MasterServer.keepsUnits thread linked
  | workerConnectionHandler index =>
      exact WorkerConnectionHandler.keepsUnits linked index thread
  | responseAssembler => exact ResponseAssembler.keepsUnits linked thread
  | clientResponder => exact ClientResponder.keepsUnits thread
  | requestServer worker => exact RequestServer.keepsUnits linked worker thread
  | workerCalculator worker index =>
      exact Calculator.keepsWorkUnits linked worker index thread
  | responseClient worker => exact ResponseClient.keepsUnits worker thread

end Threads

section Parts

variable {config : Configuration} {state : config.State}
  (accounted : Accounted config.applications state.store.heap
    (config.unitWeights.total state))

include accounted

/-- The account of the units, with what a thread holds set apart. -/
theorem Accounted.of_thread (node : Node config) :
    ∃ others, Accounted config.applications state.store.heap
      (others + loadWeight (config.threadLoads node (state.thread node))) := by
  rw [config.unitWeights.total_eq_others state node] at accounted
  exact ⟨_, accounted⟩

/-- The account of the units, with a queued item set apart. -/
theorem Accounted.of_item {channel : Channel config} {item : config.Item channel}
    (queued : item ∈ state.queue channel) :
    ∃ others, Accounted config.applications state.store.heap
      (others + loadWeight (config.itemLoads channel item)) := by
  obtain ⟨rest, split⟩ :=
    config.unitWeights.exists_total_eq_item queued .decomposer
  rw [split, ← add_assoc, add_right_comm] at accounted
  exact ⟨_, accounted⟩

end Parts

/-- In every state of every run all units are accounted for. -/
theorem Configuration.accounted {config : Configuration}
    {capacity : Channel config → Option Nat} {faults : Prop}
    {allowed : Node config → config.State → Prop} {state : config.State}
    (run : Reaches (config.network capacity) faults allowed config.start state) :
    Accounted config.applications state.store.heap
      (config.unitWeights.total state) := by
  refine run.total_invariant config.UnitsKept (fun _ => rfl) ?_
    fun node thread => config.keepsUnits (fun channel closing => closing.2) node thread
  have empty : config.unitWeights.total config.start = 0 := by
    refine Weights.total_eq_zero _ (fun _ _ member => by cases member)
      (fun node => ?_) fun _ member => by cases member
    cases node <;> rfl
  rw [empty]
  exact fun address => .absent

end Concurrente.WebServer
