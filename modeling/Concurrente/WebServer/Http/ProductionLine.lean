import Concurrente.Library.ThreadNetwork
import Concurrente.WebServer.Http.WireFormat

/-!
# The production line

The threads of the master and of its workers, with the queues and connections
between them.  A queue holds objects by address, and `nullptr` is its stop
condition.  A connection holds the texts that were sent on it, each of them the
output buffer of one call of `send`, so what is read from it is read line by
line from whole texts.  In a run with faults connections close between such
texts; neither a text cut short by a closing connection nor the `SIGPIPE` of a
send to a peer that has gone is modelled.

Client requests, worker connections and their passwords, the signal and the
random choices of the distributor come from outside; a `Choice` says which of
them happens in a step.
-/

namespace Concurrente.WebServer

open Library

/-- The sizes of a run: the command line arguments of the master, the number
of calculators of each process and the workers that may connect.  The chain of
applications is a vector, so its size is a `size_t`. -/
structure Configuration where
  applications : List HttpApp
  fewApplications : applications.length < 2 ^ 64
  maxConnections : Nat
  calculatorsAmount : Nat
  maxWorkerConnections : Nat
  workers : Nat
  workerCalculators : Fin workers → Nat

namespace Configuration

/-- The peers that may connect as workers. -/
abbrev Worker (config : Configuration) : Type := Fin config.workers

end Configuration

/-- Queues, and the two directions of each connection. -/
inductive Channel (config : Configuration) where
  | decomposerQueue
  | distributorQueue
  | dataUnitsQueue
  | workerConnectionsQueue
  | assemblerQueue
  | responderQueue
  | toWorker (worker : config.Worker)
  | workerUnits (worker : config.Worker)
  | workerResponses (worker : config.Worker)
  | toMaster (worker : config.Worker)
  deriving DecidableEq, Fintype

/-- Threads. -/
inductive Node (config : Configuration) where
  | signalHandler
  | connectionHandler (index : Fin config.maxConnections)
  | decomposer
  | distributor
  | calculator (index : Fin config.calculatorsAmount)
  | masterServer
  | workerConnectionHandler (index : Fin config.maxWorkerConnections)
  | responseAssembler
  | clientResponder
  | requestServer (worker : config.Worker)
  | workerCalculator (worker : config.Worker)
      (index : Fin (config.workerCalculators worker))
  | responseClient (worker : config.Worker)
  deriving DecidableEq, Fintype

namespace Configuration

/-- What a channel holds; `none` is the stop condition of a queue. -/
@[reducible] def Item (config : Configuration) : Channel config → Type
  | .decomposerQueue => Option Address
  | .distributorQueue => Option DataUnit
  | .dataUnitsQueue => Option DataUnit
  | .workerConnectionsQueue => Option config.Worker
  | .assemblerQueue => Option DataUnit
  | .responderQueue => Option Address
  | .toWorker _ => Text
  | .workerUnits _ => Option WorkUnit
  | .workerResponses _ => Option WorkUnit
  | .toMaster _ => Text

end Configuration

/-- What the threads of the master share, with the client requests that were
accepted, by number, and the numbers of those that were answered. -/
structure Shared (config : Configuration) where
  heap : Heap
  pool : List config.Worker
  poolLocked : Bool
  clientsStopped : Bool
  workersStopped : Bool
  connected : List config.Worker
  accepted : List (UInt64 × List Int64)
  responded : List Nat

/-- What happens outside the threads. -/
inductive Choice (config : Configuration) where
  | proceed
  | accept (appIndex : UInt64) (queries : List Int64) (address : Address)
  | worker (worker : config.Worker)
  | password (correct : Bool)
  | stop

/-! ## Threads -/

/-- `HttpServer::stop`, which a signal invokes. -/
inductive SignalHandler where
  | waiting
  | stoppingWorkers
  | ended
  deriving DecidableEq, Repr

/-- `HttpConnectionHandler`. -/
inductive HttpConnectionHandler where
  | consuming
  | producing (data : Address)
  | lastStop
  | ended
  deriving DecidableEq, Repr

/-- `Decomposer`, with the stop conditions it still waits for. -/
inductive Decomposer where
  | loop (pending : Nat)
  | decomposing (data : Address) (pending : Nat)
  | producing (units : List DataUnit) (pending : Nat)
  | ended
  | failed (fault : Fault)
  deriving DecidableEq, Repr

/-- `Distributor`.  `stopping` waits for the lock of the pool. -/
inductive Distributor (Worker : Type) where
  | loop
  | consuming (unit : DataUnit)
  | sending (worker : Worker) (unit : DataUnit) (text : Text)
  | producing (unit : DataUnit)
  | stopping
  | stoppingWorkers (workers : List Worker)
  | stops (count : Nat)
  | failed (fault : Fault)
  deriving DecidableEq, Repr

/-- `Calculator`, of the master or of a worker. -/
inductive Calculator (Unit : Type) where
  | loop
  | processing (unit : Unit)
  | producing (unit : Unit)
  | lastStop
  | ended
  | failed (fault : Fault)
  deriving DecidableEq, Repr

/-- `MasterServer`.  Registering a worker takes three steps; `stops` counts the
stop conditions still to be sent. -/
inductive MasterServer (Worker : Type) where
  | listening
  | readingPassword (worker : Worker)
  | adding (worker : Worker)
  | producing (worker : Worker)
  | stops (count : Nat)
  deriving DecidableEq, Repr

/-- `WorkerConnectionHandler`. -/
inductive WorkerConnectionHandler (Worker : Type) where
  | loop
  | reading (worker : Worker)
  | routing (worker : Worker) (text : Text)
  | producing (worker : Worker) (unit : DataUnit)
  | removing (worker : Worker)
  | lastStop
  | ended
  | failed (fault : Fault)
  deriving DecidableEq, Repr

/-- `ResponseAssembler`, with the stop conditions it still waits for. -/
inductive ResponseAssembler where
  | loop (pending : Nat)
  | assembling (unit : DataUnit) (pending : Nat)
  | producing (data : Address) (pending : Nat)
  | ended
  | failed (fault : Fault)
  deriving DecidableEq, Repr

/-- `ClientResponder`. -/
inductive ClientResponder where
  | loop
  | responding (data : Address)
  | ended
  | failed (fault : Fault)
  deriving DecidableEq, Repr

/-- `RequestServer`. -/
inductive RequestServer where
  | reading
  | producing (unit : WorkUnit)
  | stops (count : Nat)
  | failed (fault : Fault)
  deriving DecidableEq, Repr

/-- `ResponseClient`, with the stop conditions it still waits for. -/
inductive ResponseClient where
  | loop (pending : Nat)
  | sending (text : Text) (pending : Nat)
  | ended
  | failed (fault : Fault)
  deriving DecidableEq, Repr

namespace Configuration

/-- The state of a thread. -/
@[reducible] def Thread (config : Configuration) : Node config → Type
  | .signalHandler => SignalHandler
  | .connectionHandler _ => HttpConnectionHandler
  | .decomposer => Decomposer
  | .distributor => Distributor config.Worker
  | .calculator _ => Calculator DataUnit
  | .masterServer => MasterServer config.Worker
  | .workerConnectionHandler _ => WorkerConnectionHandler config.Worker
  | .responseAssembler => ResponseAssembler
  | .clientResponder => ClientResponder
  | .requestServer _ => RequestServer
  | .workerCalculator _ _ => Calculator WorkUnit
  | .responseClient _ => ResponseClient

/-- An action of a thread of the line. -/
abbrev Action (config : Configuration) (Thread : Type) : Type :=
  Act config.Item (Shared config) (Choice config) Thread

/-- A state of the line. -/
abbrev State (config : Configuration) : Type :=
  Network.State config.Worker (Shared config) config.Item config.Thread

end Configuration

/-- The text that stops the peer of a connection. -/
def stopText : Text := "-1\n".toList

namespace CalcData

/-- `processQuery` of the application an object belongs to. -/
def processQuery (applications : List HttpApp) (data : CalcData)
    (index : UInt64) : Except Fault CalcData :=
  match applications[data.appIndex.toNat]?, data.queries[index.toNat]? with
  | some (.calc app), some query =>
      .ok { data with
        results := data.results.modify index.toNat (app.processQuery query) }
  | _, _ => .error .dangling

/-- The object a concurrent application creates for a client request. -/
def ofRequest (exchange : Nat) (appIndex : UInt64) (queries : List Int64) :
    CalcData :=
  CalcData.updatePending
    { exchange := some exchange, appIndex, pendingQueries := 0, queries,
      results := [] }

end CalcData

section Programs

variable {config : Configuration}

/-- `HttpServer::stop`: client requests first, then worker connections. -/
def SignalHandler.act : SignalHandler → config.Action SignalHandler
  | .waiting => .work fun _ shared =>
      some ({ shared with clientsStopped := true }, .stoppingWorkers)
  | .stoppingWorkers => .work fun _ shared =>
      some ({ shared with workersStopped := true }, .ended)
  | .ended => .halt

/-- `HttpConnectionHandler::consume`: a request of a concurrent application is
accepted, or, once the listener has stopped, the stop condition is met. -/
def HttpConnectionHandler.consume (choice : Choice config)
    (shared : Shared config) : Option (Shared config × HttpConnectionHandler) :=
  match choice with
  | .accept appIndex queries address =>
      match config.applications[appIndex.toNat]? with
      | some (.calc _) =>
          if queries ≠ [] ∧ queries.length < 2 ^ 64 ∧ address ≠ 0 ∧
              shared.heap address = none then
            some ({ shared with
              heap := Function.update shared.heap address
                (some (.ofRequest shared.accepted.length appIndex queries))
              accepted := shared.accepted ++ [(appIndex, queries)] }, .producing address)
          else none
      | _ => none
  | .stop => if shared.clientsStopped then some (shared, .lastStop) else none
  | _ => none

/-- `HttpConnectionHandler::run`. -/
def HttpConnectionHandler.act :
    HttpConnectionHandler → config.Action HttpConnectionHandler
  | .consuming => .work HttpConnectionHandler.consume
  | .producing data => .send .decomposerQueue (some data) fun _ => .consuming
  | .lastStop => .send .decomposerQueue none fun _ => .ended
  | .ended => .halt

/-- `Decomposer::consume`. -/
def Decomposer.decompose (data : Address) (pending : Nat)
    (shared : Shared config) : Decomposer :=
  match shared.heap data with
  | some calcData => .producing (calcData.decompose data) pending
  | none => .failed .dangling

/-- `Decomposer::run`. -/
def Decomposer.act : Decomposer → config.Action Decomposer
  | .loop 0 => .send .distributorQueue none fun _ => .ended
  | .loop (pending + 1) => .receive .decomposerQueue fun
      | some (some data) => .decomposing data (pending + 1)
      | _ => .loop pending
  | .decomposing data pending => .work fun _ shared =>
      some (shared, Decomposer.decompose data pending shared)
  | .producing [] pending => .work fun _ shared => some (shared, .loop pending)
  | .producing (unit :: units) pending =>
      .send .distributorQueue (some unit) fun _ => .producing units pending
  | .ended => .halt
  | .failed _ => .halt

/-- What `Distributor::consume` does before it sends: a unit that cannot be
serialized is produced, and a fault ends the process. -/
def Distributor.serialize (shared : Shared config) (unit : DataUnit)
    (worker : config.Worker) : Distributor config.Worker :=
  match shared.heap unit.concurrentData with
  | none => .failed .dangling
  | some data =>
      match config.applications[data.appIndex.toNat]? with
      | none => .failed .dangling
      | some app =>
          match app.serializeRequest shared.heap unit with
          | .ok text => .sending worker unit text
          | .error (.exception _) => .producing unit
          | .error fault => .failed fault

/-- `WorkerConnections::getRandomWorkerConnection`, which throws when there is
no connection, and what `Distributor::consume` does with its result. -/
def Distributor.getRandomWorkerConnection (unit : DataUnit)
    (choice : Choice config) (shared : Shared config) :
    Option (Shared config × Distributor config.Worker) :=
  match choice with
  | .worker worker =>
      if worker ∈ shared.pool then
        some (shared, Distributor.serialize shared unit worker)
      else none
  | _ => if shared.pool = [] then some (shared, .producing unit) else none

/-- `Distributor::run`, with `WorkerConnections::stopWorkers`. -/
def Distributor.act :
    Distributor config.Worker → config.Action (Distributor config.Worker)
  | .loop => .receive .distributorQueue fun
      | some (some unit) => .consuming unit
      | _ => .stopping
  | .consuming unit => .work (Distributor.getRandomWorkerConnection unit)
  | .sending worker unit text => .send (.toWorker worker) text fun
      | true => .loop
      | false => .producing unit
  | .producing unit => .send .dataUnitsQueue (some unit) fun _ => .loop
  | .stopping => .work fun _ shared =>
      if shared.poolLocked then none
      else some ({ shared with poolLocked := true }, .stoppingWorkers shared.pool)
  | .stoppingWorkers [] => .work fun _ shared =>
      some ({ shared with poolLocked := false },
        .stops config.calculatorsAmount)
  | .stoppingWorkers (worker :: workers) =>
      .send (.toWorker worker) stopText fun _ => .stoppingWorkers workers
  | .stops 0 => .halt
  | .stops (count + 1) => .send .dataUnitsQueue none fun _ => .stops count
  | .failed _ => .halt

/-- `Calculator::consume` of the master. -/
def Calculator.process (unit : DataUnit) (shared : Shared config) :
    Shared config × Calculator DataUnit :=
  match shared.heap unit.concurrentData with
  | none => (shared, .failed .dangling)
  | some data =>
      match data.processQuery config.applications unit.resultIndex with
      | .ok processed => ({ shared with
          heap := Function.update shared.heap unit.concurrentData
            (some processed) }, .producing unit)
      | .error fault => (shared, .failed fault)

/-- `Calculator::run` of the master. -/
def Calculator.act :
    Calculator DataUnit → config.Action (Calculator DataUnit)
  | .loop => .receive .dataUnitsQueue fun
      | some (some unit) => .processing unit
      | _ => .lastStop
  | .processing unit => .work fun _ shared =>
      some (Calculator.process unit shared)
  | .producing unit => .send .assemblerQueue (some unit) fun _ => .loop
  | .lastStop => .send .assemblerQueue none fun _ => .ended
  | .ended => .halt
  | .failed _ => .halt

/-- `MasterServer::acceptAllConnections`, which ends when the listener has
stopped. -/
def MasterServer.accept (choice : Choice config) (shared : Shared config) :
    Option (Shared config × MasterServer config.Worker) :=
  match choice with
  | .worker worker =>
      if shared.workersStopped = false ∧ worker ∉ shared.connected then
        some ({ shared with connected := worker :: shared.connected },
          .readingPassword worker)
      else none
  | .stop =>
      if shared.workersStopped then
        some (shared, .stops config.maxWorkerConnections)
      else none
  | _ => none

/-- The password of a worker; a connection with another one is dropped. -/
def MasterServer.readPassword (worker : config.Worker) (choice : Choice config)
    (shared : Shared config) :
    Option (Shared config × MasterServer config.Worker) :=
  match choice with
  | .password true => some (shared, .adding worker)
  | .password false =>
      some ({ shared with connected := shared.connected.erase worker },
        .listening)
  | _ => none

/-- `MasterServer::run`, with `MasterServer::handleClientConnection`. -/
def MasterServer.act :
    MasterServer config.Worker → config.Action (MasterServer config.Worker)
  | .listening => .work MasterServer.accept
  | .readingPassword worker => .work (MasterServer.readPassword worker)
  | .adding worker => .work fun _ shared =>
      if shared.poolLocked then none
      else some ({ shared with pool := shared.pool ++ [worker] },
        .producing worker)
  | .producing worker =>
      .send .workerConnectionsQueue (some worker) fun _ => .listening
  | .stops 0 => .halt
  | .stops (count + 1) =>
      .send .workerConnectionsQueue none fun _ => .stops count

/-- `WorkerConnectionHandler::route` for the lines of a whole text. -/
def WorkerConnectionHandler.handle (worker : config.Worker) (text : Text)
    (shared : Shared config) :
    Shared config × WorkerConnectionHandler config.Worker :=
  let routed := WorkerConnectionHandler.route config.applications shared.heap
    (linesOf text)
  ({ shared with heap := routed.heap },
    match routed.outcome, routed.produced with
    | .ok true, unit :: _ => .producing worker unit
    | .ok _, _ => .removing worker
    | .error fault, _ => .failed fault)

/-- `WorkerConnectionHandler::run` and `WorkerConnectionHandler::consume`. -/
def WorkerConnectionHandler.act :
    WorkerConnectionHandler config.Worker →
      config.Action (WorkerConnectionHandler config.Worker)
  | .loop => .receive .workerConnectionsQueue fun
      | some (some worker) => .reading worker
      | _ => .lastStop
  | .reading worker => .receive (.toMaster worker) fun
      | some text => .routing worker text
      | none => .removing worker
  | .routing worker text => .work fun _ shared =>
      some (WorkerConnectionHandler.handle worker text shared)
  | .producing worker unit =>
      .send .assemblerQueue (some unit) fun _ => .reading worker
  | .removing worker => .work fun _ shared =>
      if shared.poolLocked then none
      else some ({ shared with pool := shared.pool.erase worker }, .loop)
  | .lastStop => .send .assemblerQueue none fun _ => .ended
  | .ended => .halt
  | .failed _ => .halt

/-- `ResponseAssembler::consume`. -/
def ResponseAssembler.assemble (unit : DataUnit) (pending : Nat)
    (shared : Shared config) : Shared config × ResponseAssembler :=
  match shared.heap unit.concurrentData with
  | none => (shared, .failed .dangling)
  | some data =>
      ({ shared with
        heap := Function.update shared.heap unit.concurrentData
          (some data.markUnitReady) },
        if data.markUnitReady.isReady then
          .producing unit.concurrentData pending
        else .loop pending)

/-- `ResponseAssembler::run`. -/
def ResponseAssembler.act :
    ResponseAssembler → config.Action ResponseAssembler
  | .loop 0 => .send .responderQueue none fun _ => .ended
  | .loop (pending + 1) => .receive .assemblerQueue fun
      | some (some unit) => .assembling unit (pending + 1)
      | _ => .loop pending
  | .assembling unit pending => .work fun _ shared =>
      some (ResponseAssembler.assemble unit pending shared)
  | .producing data pending =>
      .send .responderQueue (some data) fun _ => .loop pending
  | .ended => .halt
  | .failed _ => .halt

/-- `ClientResponder::consume`: the response is sent and the object deleted. -/
def ClientResponder.respond (data : Address) (shared : Shared config) :
    Shared config × ClientResponder :=
  match shared.heap data with
  | none => (shared, .failed .dangling)
  | some calcData =>
      ({ shared with
        heap := Function.update shared.heap data none
        responded := shared.responded ++ calcData.exchange.toList }, .loop)

/-- `ClientResponder::run`. -/
def ClientResponder.act : ClientResponder → config.Action ClientResponder
  | .loop => .receive .responderQueue fun
      | some (some data) => .responding data
      | _ => .ended
  | .responding data => .work fun _ shared =>
      some (ClientResponder.respond data shared)
  | .ended => .halt
  | .failed _ => .halt

/-- `RequestServer::handleMasterConnection` for the lines of a whole text. -/
def RequestServer.handle (worker : config.Worker) (text : Text) :
    RequestServer :=
  match (RequestServer.readRequestFromMaster config.applications
      (linesOf text)).1 with
  | .ok (some unit) => .producing unit
  | .ok none => .stops (config.workerCalculators worker)
  | .error fault => .failed fault

/-- `RequestServer::run`. -/
def RequestServer.act (worker : config.Worker) :
    RequestServer → config.Action RequestServer
  | .reading => .receive (.toWorker worker) fun
      | some text => RequestServer.handle worker text
      | none => .stops (config.workerCalculators worker)
  | .producing unit => .send (.workerUnits worker) (some unit) fun _ => .reading
  | .stops 0 => .halt
  | .stops (count + 1) => .send (.workerUnits worker) none fun _ => .stops count
  | .failed _ => .halt

/-- `Calculator::consume` of a worker, which owns the data of its units. -/
def Calculator.processWork (applications : List HttpApp) (unit : WorkUnit) :
    Calculator WorkUnit :=
  match unit.concurrentData.processQuery applications unit.resultIndex with
  | .ok processed => .producing { unit with concurrentData := processed }
  | .error fault => .failed fault

/-- `Calculator::run` of a worker. -/
def Calculator.workerAct (worker : config.Worker) :
    Calculator WorkUnit → config.Action (Calculator WorkUnit)
  | .loop => .receive (.workerUnits worker) fun
      | some (some unit) => .processing unit
      | _ => .lastStop
  | .processing unit => .work fun _ shared =>
      some (shared, Calculator.processWork config.applications unit)
  | .producing unit =>
      .send (.workerResponses worker) (some unit) fun _ => .loop
  | .lastStop => .send (.workerResponses worker) none fun _ => .ended
  | .ended => .halt
  | .failed _ => .halt

/-- `ResponseClient::consume` before it sends. -/
def ResponseClient.serialize (unit : WorkUnit) (pending : Nat) :
    ResponseClient :=
  match unit.serializeResponse with
  | .ok text => .sending text pending
  | .error fault => .failed fault

/-- `ResponseClient::run`. -/
def ResponseClient.act (worker : config.Worker) :
    ResponseClient → config.Action ResponseClient
  | .loop 0 => .send (.toMaster worker) stopText fun _ => .ended
  | .loop (pending + 1) => .receive (.workerResponses worker) fun
      | some (some unit) => ResponseClient.serialize unit (pending + 1)
      | _ => .loop pending
  | .sending text pending => .send (.toMaster worker) text fun _ => .loop pending
  | .ended => .halt
  | .failed _ => .halt

end Programs

namespace Configuration

/-- The program of every thread. -/
def act (config : Configuration) :
    (node : Node config) → config.Thread node → config.Action (config.Thread node)
  | .signalHandler => SignalHandler.act
  | .connectionHandler _ => HttpConnectionHandler.act
  | .decomposer => Decomposer.act
  | .distributor => Distributor.act
  | .calculator _ => Calculator.act
  | .masterServer => MasterServer.act
  | .workerConnectionHandler _ => WorkerConnectionHandler.act
  | .responseAssembler => ResponseAssembler.act
  | .clientResponder => ClientResponder.act
  | .requestServer worker => RequestServer.act worker
  | .workerCalculator worker _ => Calculator.workerAct worker
  | .responseClient worker => ResponseClient.act worker

/-- The connection a channel is a direction of. -/
def link (config : Configuration) : Channel config → Option config.Worker
  | .toWorker worker => some worker
  | .toMaster worker => some worker
  | _ => none

/-- The line, for given capacities of queues and connection buffers. -/
def network (config : Configuration) (capacity : Channel config → Option Nat) :
    Network config.Worker (Shared config) (Choice config) config.Item
      config.Thread where
  act := config.act
  capacity := capacity
  link := config.link

/-- The state of the threads when they start. -/
def startThread (config : Configuration) :
    (node : Node config) → config.Thread node
  | .signalHandler => .waiting
  | .connectionHandler _ => .consuming
  | .decomposer => .loop config.maxConnections
  | .distributor => .loop
  | .calculator _ => .loop
  | .masterServer => .listening
  | .workerConnectionHandler _ => .loop
  | .responseAssembler =>
      .loop (config.calculatorsAmount + config.maxWorkerConnections)
  | .clientResponder => .loop
  | .requestServer _ => .reading
  | .workerCalculator _ _ => .loop
  | .responseClient worker => .loop (config.workerCalculators worker)

/-- Nothing has been accepted and nobody is connected. -/
def start (config : Configuration) : config.State where
  queue _ := []
  thread := config.startThread
  store :=
    { heap := fun _ => none
      pool := []
      poolLocked := false
      clientsStopped := false
      workersStopped := false
      connected := []
      accepted := []
      responded := [] }
  closed _ := false
  sent := []
  lost := []

end Configuration

end Concurrente.WebServer
