import Concurrente.WebServer.Http.ProductionLine
import Concurrente.WebServer.ProdCons.ThreadTeam

/-!
# The threads of a server

`HttpServer` makes the threads of the production line and the queues between
them: one process is the master, and each worker is a process of its own.  The
queues its threads get are those the threads of the line use.
-/

namespace Concurrente.WebServer

open Library

/-! ## The members of `HttpServer` -/

/-- The members that point to threads, in the role of the master. -/
inductive MasterThread (config : Configuration) where
  | handler (index : Fin config.maxConnections)
  | decomposer
  | distributor
  | calculator (index : Fin config.calculatorsAmount)
  | masterServer
  | workerConnectionHandler (index : Fin config.maxWorkerConnections)
  | responseAssembler
  | clientResponder
  deriving DecidableEq

/-- The members that point to threads, in the role of a worker. -/
inductive WorkerThread (calculatorsAmount : Nat) where
  | requestServer
  | calculator (index : Fin calculatorsAmount)
  | responseClient
  deriving DecidableEq

/-- The members that point to queues. -/
inductive ServerQueue where
  | socketsQueue
  | dataUnitsQueue
  | workerConnectionsQueue
  deriving DecidableEq, Repr

/-- The thread of the line. -/
def MasterThread.node {config : Configuration} : MasterThread config → Node config
  | .handler index => .connectionHandler index
  | .decomposer => .decomposer
  | .distributor => .distributor
  | .calculator index => .calculator index
  | .masterServer => .masterServer
  | .workerConnectionHandler index => .workerConnectionHandler index
  | .responseAssembler => .responseAssembler
  | .clientResponder => .clientResponder

/-- The thread of the line, in the process of a worker. -/
def WorkerThread.node {config : Configuration} (worker : config.Worker) :
    WorkerThread (config.workerCalculators worker) → Node config
  | .requestServer => .requestServer worker
  | .calculator index => .workerCalculator worker index
  | .responseClient => .responseClient worker

namespace HttpServer

/-! ## The master -/

section Master

variable (config : Configuration)

/-- A statement of the master. -/
abbrev MasterStatement : Type := Statement (MasterThread config) ServerQueue

/-- The vector `handlers`. -/
def handlers : List (MasterThread config) := (List.finRange _).map .handler

/-- The vector `calculators`. -/
def calculators : List (MasterThread config) := (List.finRange _).map .calculator

/-- The vector `workerConnectionHandlers`. -/
def workerConnectionHandlers : List (MasterThread config) :=
  (List.finRange _).map .workerConnectionHandler

/-- `HttpServer::createThreads`. -/
def createThreads : List (MasterStatement config) :=
  List.flatten
    [[.assertNone (handlers config)],
      (handlers config).flatMap fun handler => [.newThread handler 0],
      [.newThread .decomposer config.maxConnections],
      [.newThread .distributor config.calculatorsAmount],
      (calculators config).flatMap fun calculator => [.newThread calculator 0],
      [.newThread .masterServer config.maxWorkerConnections],
      (workerConnectionHandlers config).flatMap fun handler => [.newThread handler 0],
      [.newThread .responseAssembler
        (config.calculatorsAmount + config.maxWorkerConnections)],
      [.newThread .clientResponder 0]]

/-- `HttpServer::createQueues`. -/
def createQueues (queuesCapacity : Nat) : List (MasterStatement config) :=
  [.newQueue .socketsQueue queuesCapacity,
    .createOwnQueue .decomposer queuesCapacity,
    .createOwnQueue .distributor queuesCapacity,
    .newQueue .dataUnitsQueue queuesCapacity,
    .newQueue .workerConnectionsQueue config.maxWorkerConnections,
    .createOwnQueue .responseAssembler queuesCapacity,
    .createOwnQueue .clientResponder queuesCapacity]

/-- `HttpServer::connectQueues`. -/
def connectQueues : List (MasterStatement config) :=
  List.flatten
    [(handlers config).flatMap fun handler =>
        [.setConsumingQueue handler (.member .socketsQueue),
          .setProducingQueue handler (.consumedBy .decomposer)],
      [.setProducingQueue .decomposer (.consumedBy .distributor)],
      [.setProducingQueue .distributor (.member .dataUnitsQueue)],
      (calculators config).flatMap fun calculator =>
        [.setConsumingQueue calculator (.member .dataUnitsQueue),
          .setProducingQueue calculator (.consumedBy .responseAssembler)],
      [.setProducingQueue .masterServer (.member .workerConnectionsQueue)],
      (workerConnectionHandlers config).flatMap fun handler =>
        [.setConsumingQueue handler (.member .workerConnectionsQueue),
          .setProducingQueue handler (.consumedBy .responseAssembler)],
      [.setProducingQueue .responseAssembler (.consumedBy .clientResponder)]]

/-- `HttpServer::startThreads`. -/
def startThreads : List (MasterStatement config) :=
  List.flatten
    [(handlers config).flatMap fun handler => [.startThread handler],
      [.startThread .decomposer],
      [.startThread .distributor],
      (calculators config).flatMap fun calculator => [.startThread calculator],
      [.startThread .responseAssembler],
      [.startThread .masterServer],
      (workerConnectionHandlers config).flatMap fun handler => [.startThread handler],
      [.startThread .clientResponder]]

/-- `HttpServer::joinThreads`. -/
def joinThreads : List (MasterStatement config) :=
  List.flatten
    [List.replicate config.maxConnections (.enqueue .socketsQueue),
      (handlers config).flatMap fun handler => [.waitToFinishInVector handler],
      [.waitToFinish .decomposer],
      [.waitToFinish .distributor],
      (calculators config).flatMap fun calculator => [.waitToFinish calculator],
      [.waitToFinish .masterServer],
      (workerConnectionHandlers config).flatMap fun handler => [.waitToFinish handler],
      [.waitToFinish .responseAssembler],
      [.waitToFinish .clientResponder]]

/-- `HttpServer::deleteThreads`. -/
def deleteThreads : List (MasterStatement config) :=
  List.flatten
    [(handlers config).flatMap fun handler => [.deleteThread handler],
      [.clear (handlers config)],
      [.deleteThread .decomposer, .clear [.decomposer]],
      [.deleteThread .distributor, .clear [.distributor]],
      (calculators config).flatMap fun calculator => [.deleteThread calculator],
      [.clear (calculators config)],
      [.deleteThread .masterServer, .clear [.masterServer]],
      (workerConnectionHandlers config).flatMap fun handler => [.deleteThread handler],
      [.clear (workerConnectionHandlers config)],
      [.deleteThread .responseAssembler, .clear [.responseAssembler]],
      [.deleteThread .clientResponder, .clear [.clientResponder]]]

/-- The part of `HttpServer::run` between `startServer` and
`acceptAllConnections`. -/
def buildMaster (queuesCapacity : Nat) : List (MasterStatement config) :=
  createThreads config ++ createQueues config queuesCapacity ++
    connectQueues config ++ startThreads config

end Master

/-! ## A worker -/

section Worker

variable (calculatorsAmount : Nat)

/-- A statement of a worker. -/
abbrev WorkerStatement : Type := Statement (WorkerThread calculatorsAmount) ServerQueue

/-- The vector `calculators` of a worker. -/
def workerCalculators : List (WorkerThread calculatorsAmount) :=
  (List.finRange _).map .calculator

/-- `HttpServer::startWorker`, up to the call of `connectToMaster`. -/
def beginWorker : List (WorkerStatement calculatorsAmount) :=
  [.newThread .responseClient calculatorsAmount, .call .responseClient]

/-- `HttpServer::createWorkerThreads`.  The request server gets the socket of
the response client. -/
def createWorkerThreads : List (WorkerStatement calculatorsAmount) :=
  List.flatten
    [(workerCalculators calculatorsAmount).flatMap fun calculator =>
        [.newThread calculator 0],
      [.call .responseClient],
      [.newThread .requestServer calculatorsAmount]]

/-- `HttpServer::createWorkerQueues`. -/
def createWorkerQueues (queuesCapacity : Nat) :
    List (WorkerStatement calculatorsAmount) :=
  [.newQueue .dataUnitsQueue queuesCapacity,
    .createOwnQueue .responseClient queuesCapacity]

/-- `HttpServer::connectWorkerQueues`. -/
def connectWorkerQueues : List (WorkerStatement calculatorsAmount) :=
  List.flatten
    [[.setProducingQueue .requestServer (.member .dataUnitsQueue)],
      (workerCalculators calculatorsAmount).flatMap fun calculator =>
        [.setConsumingQueue calculator (.member .dataUnitsQueue),
          .setProducingQueue calculator (.consumedBy .responseClient)]]

/-- `HttpServer::startWorkerThreads`. -/
def startWorkerThreads : List (WorkerStatement calculatorsAmount) :=
  List.flatten
    [[.startThread .requestServer],
      (workerCalculators calculatorsAmount).flatMap fun calculator =>
        [.startThread calculator],
      [.startThread .responseClient]]

/-- `HttpServer::joinWorkerThreads`. -/
def joinWorkerThreads : List (WorkerStatement calculatorsAmount) :=
  List.flatten
    [[.waitToFinish .requestServer],
      (workerCalculators calculatorsAmount).flatMap fun calculator =>
        [.waitToFinish calculator],
      [.waitToFinish .responseClient]]

/-- `HttpServer::deleteWorkerThreads`. -/
def deleteWorkerThreads : List (WorkerStatement calculatorsAmount) :=
  List.flatten
    [[.deleteThread .requestServer, .clear [.requestServer]],
      (workerCalculators calculatorsAmount).flatMap fun calculator =>
        [.deleteThread calculator],
      [.clear (workerCalculators calculatorsAmount)],
      [.deleteThread .responseClient, .clear [.responseClient]]]

/-- `HttpServer::startWorker` and `HttpServer::startWorkerThreads` of a worker
that could connect to its master. -/
def buildWorker (queuesCapacity : Nat) : List (WorkerStatement calculatorsAmount) :=
  beginWorker calculatorsAmount ++ createWorkerThreads calculatorsAmount ++
    createWorkerQueues calculatorsAmount queuesCapacity ++
    connectWorkerQueues calculatorsAmount ++ startWorkerThreads calculatorsAmount

end Worker

/-! ## What is built -/

section MasterTeam

variable {config : Configuration}

/-- The master in the order in which its threads are made. -/
def makingOrder (config : Configuration) : List (MasterThread config) :=
  List.flatten
    [handlers config, [.decomposer], [.distributor], calculators config,
      [.masterServer], workerConnectionHandlers config, [.responseAssembler],
      [.clientResponder]]

/-- The master in the order in which its threads are started. -/
def startingOrder (config : Configuration) : List (MasterThread config) :=
  List.flatten
    [handlers config, [.decomposer], [.distributor], calculators config,
      [.responseAssembler], [.masterServer], workerConnectionHandlers config,
      [.clientResponder]]

theorem mem_makingOrder (thread : MasterThread config) :
    thread ∈ makingOrder config := by
  cases thread <;>
    simp [makingOrder, handlers, calculators, workerConnectionHandlers]

theorem nodup_makingOrder : (makingOrder config).Nodup := by
  simp [makingOrder, handlers, calculators, workerConnectionHandlers,
    List.nodup_append, List.nodup_map_iff_inj_on, List.nodup_finRange]
  constructor <;>
    · rintro index thread member rfl
      simp at member

theorem mem_startingOrder (thread : MasterThread config) :
    thread ∈ startingOrder config := by
  cases thread <;>
    simp [startingOrder, handlers, calculators, workerConnectionHandlers]

theorem nodup_startingOrder : (startingOrder config).Nodup := by
  simp [startingOrder, handlers, calculators, workerConnectionHandlers,
    List.nodup_append, List.nodup_map_iff_inj_on, List.nodup_finRange]
  constructor <;>
    · rintro index thread member rfl
      simp at member

/-- The stop conditions a thread is made with. -/
def stopConditions : MasterThread config → Nat
  | .decomposer => config.maxConnections
  | .distributor => config.calculatorsAmount
  | .masterServer => config.maxWorkerConnections
  | .responseAssembler => config.calculatorsAmount + config.maxWorkerConnections
  | _ => 0

/-- The queue a thread makes for itself, by its address. -/
def ownQueue : MasterThread config → Option Nat
  | .decomposer => some 1
  | .distributor => some 2
  | .responseAssembler => some 5
  | .clientResponder => some 6
  | _ => none

/-- The queue a thread gets to consume from. -/
def consumingQueue : MasterThread config → Option Nat
  | .handler _ => some 0
  | .calculator _ => some 3
  | .workerConnectionHandler _ => some 4
  | thread => ownQueue thread

/-- The queue a thread gets to produce to. -/
def producingQueue : MasterThread config → Option Nat
  | .handler _ => some 1
  | .decomposer => some 2
  | .distributor => some 3
  | .calculator _ => some 5
  | .masterServer => some 4
  | .workerConnectionHandler _ => some 5
  | .responseAssembler => some 6
  | .clientResponder => none

/-- The members of the master that point to queues. -/
def masterQueues : ServerQueue → Option Nat
  | .socketsQueue => some 0
  | .dataUnitsQueue => some 3
  | .workerConnectionsQueue => some 4

/-- The queues of the master. -/
def masterCapacities (config : Configuration) (queuesCapacity : Nat) :
    List (Option Nat) :=
  [some queuesCapacity, some queuesCapacity, some queuesCapacity, some queuesCapacity,
    some config.maxWorkerConnections, some queuesCapacity, some queuesCapacity]

/-- A thread with its own queue. -/
def queuedObject (thread : MasterThread config) : ThreadObject :=
  { ThreadObject.new (stopConditions thread) with
    consumingQueue := ownQueue thread
    ownsQueue := (ownQueue thread).isSome }

/-- A thread with its queues. -/
def connectedObject (thread : MasterThread config) : ThreadObject :=
  { queuedObject thread with
    consumingQueue := consumingQueue thread
    producingQueue := producingQueue thread }

/-- The master with its threads, once it has queues. -/
def masterTeam (queuesCapacity : Nat)
    (threads : MasterThread config → ThreadPointer) :
    ThreadTeam (MasterThread config) ServerQueue :=
  ⟨threads, masterQueues, masterCapacities config queuesCapacity⟩

theorem createThreads_execute :
    execute Statement.step (createThreads config) .empty =
      .ok (.ofThreads fun thread => .object (.new (stopConditions thread))) := by
  have program : createThreads config = .assertNone (handlers config) ::
      (makingOrder config).flatMap fun thread =>
        [.newThread thread (stopConditions thread)] := by
    simp [createThreads, makingOrder, handlers, calculators, workerConnectionHandlers,
      List.flatMap_map, stopConditions]
  have noHandlers : (Statement.assertNone (handlers config)).step .empty =
      .ok (.empty : ThreadTeam (MasterThread config) ServerQueue) := by
    simp [Statement.step, ThreadTeam.empty, ThreadTeam.ofThreads]
  rw [program, execute_cons noHandlers]
  apply execute_flatMap_own ThreadTeam.ofThreads nodup_makingOrder mem_makingOrder
  intro thread current same
  rfl

theorem createQueues_execute (queuesCapacity : Nat) :
    execute Statement.step (createQueues config queuesCapacity)
        (.ofThreads fun thread => .object (.new (stopConditions thread))) =
      .ok (masterTeam queuesCapacity fun thread => .object (queuedObject thread)) := by
  simp only [createQueues, ThreadTeam.ofThreads, ThreadObject.new, execute,
    Statement.step, List.length_nil, List.nil_append, ThreadTeam.onThread, ↓reduceIte,
    ThreadTeam.withThread, List.length_cons, zero_add, List.cons_append, ne_eq,
    reduceCtorEq, not_false_eq_true, Function.update_of_ne, Nat.reduceAdd, masterTeam,
    Except.ok.injEq, ThreadTeam.mk.injEq]
  refine ⟨?_, ?_, rfl⟩
  · funext thread
    cases thread <;> rfl
  · funext queue
    cases queue <;> rfl

/-- What `connectQueues` does for a thread. -/
def connections : MasterThread config → List (MasterStatement config)
  | .handler index =>
      [.setConsumingQueue (.handler index) (.member .socketsQueue),
        .setProducingQueue (.handler index) (.consumedBy .decomposer)]
  | .decomposer => [.setProducingQueue .decomposer (.consumedBy .distributor)]
  | .distributor => [.setProducingQueue .distributor (.member .dataUnitsQueue)]
  | .calculator index =>
      [.setConsumingQueue (.calculator index) (.member .dataUnitsQueue),
        .setProducingQueue (.calculator index) (.consumedBy .responseAssembler)]
  | .masterServer => [.setProducingQueue .masterServer (.member .workerConnectionsQueue)]
  | .workerConnectionHandler index =>
      [.setConsumingQueue (.workerConnectionHandler index) (.member .workerConnectionsQueue),
        .setProducingQueue (.workerConnectionHandler index) (.consumedBy .responseAssembler)]
  | .responseAssembler =>
      [.setProducingQueue .responseAssembler (.consumedBy .clientResponder)]
  | .clientResponder => []

/-- The threads that made a queue for themselves still consume from it. -/
def KeepsOwnQueues (threads : MasterThread config → ThreadPointer) : Prop :=
  ∀ thread place, ownQueue thread = some place →
    ∃ object, threads thread = .object object ∧ object.consumingQueue = some place

theorem connections_execute (queuesCapacity : Nat) (thread : MasterThread config)
    {threads : MasterThread config → ThreadPointer}
    (queued : threads thread = .object (queuedObject thread)) (owned : KeepsOwnQueues threads) :
    execute Statement.step (connections thread) (masterTeam queuesCapacity threads) =
      .ok (masterTeam queuesCapacity
        (Function.update threads thread (.object (connectedObject thread)))) := by
  have consumed : ∀ other place, ownQueue other = some place →
      (masterTeam queuesCapacity threads).address (.consumedBy other) = .ok (some place) := by
    intro other place owns
    obtain ⟨object, present, consuming⟩ := owned other place owns
    simp [ThreadTeam.address, masterTeam, present, consuming]
  -- the threads of a vector get both of their queues here
  have both : ∀ (owner : MasterThread config) (source : ServerQueue) (place : Nat),
      thread ≠ owner → ownQueue owner = some place →
      consumingQueue thread = masterQueues source →
      producingQueue thread = some place →
      execute Statement.step
          [.setConsumingQueue thread (.member source),
            .setProducingQueue thread (.consumedBy owner)]
          (masterTeam queuesCapacity threads) =
        .ok (masterTeam queuesCapacity
          (Function.update threads thread (.object (connectedObject thread)))) := by
    intro owner source place different owns consumes produces
    rw [execute_setQueues queued different.symm (consumed owner place owns), connectedObject,
      consumes, produces]
    rfl
  cases thread with
  | handler index => exact both .decomposer .socketsQueue 1 (by simp) rfl rfl rfl
  | decomposer =>
      rw [connections, execute_cons (Statement.step_setProducingQueue queued
        (consumed .distributor 2 rfl))]
      rfl
  | distributor =>
      rw [connections, execute_cons (Statement.step_setProducingQueue queued rfl)]
      rfl
  | calculator index => exact both .responseAssembler .dataUnitsQueue 5 (by simp) rfl rfl rfl
  | masterServer =>
      rw [connections, execute_cons (Statement.step_setProducingQueue queued rfl)]
      rfl
  | workerConnectionHandler index =>
      exact both .responseAssembler .workerConnectionsQueue 5 (by simp) rfl rfl rfl
  | responseAssembler =>
      rw [connections, execute_cons (Statement.step_setProducingQueue queued
        (consumed .clientResponder 6 rfl))]
      rfl
  | clientResponder =>
      -- it only has the queue it made
      rw [connections, execute_nil]
      congr 2
      exact (Function.update_eq_self_iff.mpr queued.symm).symm

theorem connectQueues_execute (queuesCapacity : Nat) :
    execute Statement.step (connectQueues config)
        (masterTeam queuesCapacity fun thread => .object (queuedObject thread)) =
      .ok (masterTeam queuesCapacity fun thread => .object (connectedObject thread)) := by
  have program : connectQueues config = (makingOrder config).flatMap connections := by
    simp [connectQueues, makingOrder, handlers, calculators, workerConnectionHandlers,
      List.flatMap_map, connections]
  rw [program]
  apply execute_flatMap_all (masterTeam queuesCapacity) KeepsOwnQueues
    nodup_makingOrder mem_makingOrder
  · intro thread place owns
    exact ⟨queuedObject thread, rfl, owns⟩
  · intro thread current same owned
    refine ⟨connections_execute queuesCapacity thread same owned, ?_⟩
    intro other place owns
    by_cases here : other = thread
    · subst here
      refine ⟨connectedObject other, Function.update_self _ _ _, ?_⟩
      cases other <;> first | exact owns | cases owns
    · rw [Function.update_of_ne here]
      exact owned other place owns

/-- A thread that was started. -/
def startedObject (thread : MasterThread config) : ThreadObject :=
  { connectedObject thread with started := true }

theorem startThreads_execute (queuesCapacity : Nat) :
    execute Statement.step (startThreads config)
        (masterTeam queuesCapacity fun thread => .object (connectedObject thread)) =
      .ok (masterTeam queuesCapacity fun thread => .object (startedObject thread)) := by
  have program : startThreads config =
      (startingOrder config).flatMap fun thread => [.startThread thread] := by
    simp [startThreads, startingOrder, handlers, calculators, workerConnectionHandlers,
      List.flatMap_map]
  rw [program]
  apply execute_flatMap_own (masterTeam queuesCapacity) nodup_startingOrder
    mem_startingOrder
  intro thread current same
  rw [execute_cons (Statement.step_startThread same rfl)]
  rfl

/-- The master that is built. -/
theorem buildMaster_execute (queuesCapacity : Nat) :
    execute Statement.step (buildMaster config queuesCapacity) .empty =
      .ok (masterTeam queuesCapacity fun thread => .object (startedObject thread)) := by
  rw [buildMaster, List.append_assoc, List.append_assoc, execute_append createThreads_execute,
    execute_append (createQueues_execute queuesCapacity),
    execute_append (connectQueues_execute queuesCapacity)]
  exact startThreads_execute queuesCapacity

end MasterTeam

section WorkerTeam

variable {calculatorsAmount : Nat}

/-- A worker in the order in which its threads are started. -/
def workerOrder (calculatorsAmount : Nat) : List (WorkerThread calculatorsAmount) :=
  List.flatten [[.requestServer], workerCalculators calculatorsAmount, [.responseClient]]

theorem mem_workerOrder (thread : WorkerThread calculatorsAmount) :
    thread ∈ workerOrder calculatorsAmount := by
  cases thread <;> simp [workerOrder, workerCalculators]

theorem nodup_workerOrder : (workerOrder calculatorsAmount).Nodup := by
  simp [workerOrder, workerCalculators, List.nodup_append, List.nodup_map_iff_inj_on,
    List.nodup_finRange]

/-- The stop conditions a thread of a worker is made with. -/
def workerStopConditions : WorkerThread calculatorsAmount → Nat
  | .calculator _ => 0
  | _ => calculatorsAmount

/-- A thread of a worker with its own queue. -/
def queuedWorkerObject (thread : WorkerThread calculatorsAmount) : ThreadObject :=
  match thread with
  | .responseClient =>
      { ThreadObject.new (workerStopConditions thread) with
        consumingQueue := some 1
        ownsQueue := true }
  | _ => .new (workerStopConditions thread)

/-- A thread of a worker with its queues. -/
def connectedWorkerObject (thread : WorkerThread calculatorsAmount) : ThreadObject :=
  match thread with
  | .requestServer => { queuedWorkerObject thread with producingQueue := some 0 }
  | .calculator _ =>
      { queuedWorkerObject thread with
        consumingQueue := some 0
        producingQueue := some 1 }
  | .responseClient => queuedWorkerObject thread

/-- A thread of a worker that was started. -/
def startedWorkerObject (thread : WorkerThread calculatorsAmount) : ThreadObject :=
  { connectedWorkerObject thread with started := true }

/-- The members of a worker that point to queues. -/
def workerQueues : ServerQueue → Option Nat
  | .dataUnitsQueue => some 0
  | _ => none

/-- A worker with its threads, once it has queues. -/
def workerTeam (queuesCapacity : Nat)
    (threads : WorkerThread calculatorsAmount → ThreadPointer) :
    ThreadTeam (WorkerThread calculatorsAmount) ServerQueue :=
  ⟨threads, workerQueues, [some queuesCapacity, some queuesCapacity]⟩

/-- A worker that has its response client only. -/
def clientTeam (calculatorsAmount : Nat) :
    ThreadTeam (WorkerThread calculatorsAmount) ServerQueue :=
  ThreadTeam.empty.withThread .responseClient (.object (.new calculatorsAmount))

theorem beginWorker_execute :
    execute Statement.step (beginWorker calculatorsAmount) .empty =
      .ok (clientTeam calculatorsAmount) := by
  simp [beginWorker, execute, Statement.step, ThreadTeam.onThread, clientTeam]

/-- A worker that has its response client and its calculators. -/
def calculatorsTeam (calculatorsAmount : Nat) :
    ThreadTeam (WorkerThread calculatorsAmount) ServerQueue :=
  .ofThreads fun thread =>
    if thread ∈ workerCalculators calculatorsAmount then .object (.new 0)
    else (clientTeam calculatorsAmount).threads thread

theorem createWorkerThreads_execute :
    execute Statement.step (createWorkerThreads calculatorsAmount)
        (clientTeam calculatorsAmount) =
      .ok (.ofThreads fun thread => .object (.new (workerStopConditions thread))) := by
  have loop : execute Statement.step
      ((workerCalculators calculatorsAmount).flatMap fun thread => [.newThread thread 0])
      (clientTeam calculatorsAmount) = .ok (calculatorsTeam calculatorsAmount) := by
    change execute _ _ (ThreadTeam.ofThreads (clientTeam calculatorsAmount).threads) = _
    apply execute_flatMap ThreadTeam.ofThreads (fun _ => True)
      ((List.nodup_finRange _).map fun _ _ => WorkerThread.calculator.inj) trivial
    intro thread _ current same _
    exact ⟨rfl, trivial⟩
  -- the response client that gives its socket was made before
  have client : (calculatorsTeam calculatorsAmount).threads .responseClient =
      .object (.new calculatorsAmount) := by
    simp [calculatorsTeam, clientTeam, ThreadTeam.ofThreads, workerCalculators]
  rw [createWorkerThreads, List.flatten_cons, execute_append loop, List.flatten_cons,
    List.singleton_append, execute_cons (Statement.step_call client)]
  refine congrArg (fun threads => Except.ok (ThreadTeam.ofThreads threads)) ?_
  funext thread
  cases thread <;> simp [calculatorsTeam, clientTeam, ThreadTeam.withThread,
    ThreadTeam.empty, ThreadTeam.ofThreads, workerStopConditions, workerCalculators]

theorem createWorkerQueues_execute (queuesCapacity : Nat) :
    execute Statement.step (createWorkerQueues calculatorsAmount queuesCapacity)
        (.ofThreads fun thread => .object (.new (workerStopConditions thread))) =
      .ok (workerTeam queuesCapacity fun thread => .object (queuedWorkerObject thread)) := by
  simp only [createWorkerQueues, ThreadTeam.ofThreads, ThreadObject.new, execute, Statement.step,
    List.length_nil, List.nil_append, ThreadTeam.onThread, ↓reduceIte,
    ThreadTeam.withThread, List.length_cons, zero_add, List.cons_append, workerTeam,
    Except.ok.injEq, ThreadTeam.mk.injEq, and_true]
  refine ⟨?_, ?_⟩
  · funext thread
    cases thread <;> rfl
  · funext queue
    cases queue <;> rfl

/-- What `connectWorkerQueues` does for a thread. -/
def workerConnections :
    WorkerThread calculatorsAmount → List (WorkerStatement calculatorsAmount)
  | .requestServer => [.setProducingQueue .requestServer (.member .dataUnitsQueue)]
  | .calculator index =>
      [.setConsumingQueue (.calculator index) (.member .dataUnitsQueue),
        .setProducingQueue (.calculator index) (.consumedBy .responseClient)]
  | .responseClient => []

theorem connectWorkerQueues_execute (queuesCapacity : Nat) :
    execute Statement.step (connectWorkerQueues calculatorsAmount)
        (workerTeam queuesCapacity fun thread => .object (queuedWorkerObject thread)) =
      .ok (workerTeam queuesCapacity fun thread => .object (connectedWorkerObject thread)) := by
  have program : connectWorkerQueues calculatorsAmount =
      (workerOrder calculatorsAmount).flatMap workerConnections := by
    simp [connectWorkerQueues, workerOrder, workerCalculators, List.flatMap_map,
      workerConnections]
  rw [program]
  apply execute_flatMap_all (workerTeam queuesCapacity)
    (fun threads => ∃ object, threads .responseClient = .object object ∧
      object.consumingQueue = some 1)
    nodup_workerOrder mem_workerOrder ⟨_, rfl, rfl⟩
  rintro thread current same ⟨client, present, consuming⟩
  cases thread with
  | requestServer =>
      rw [workerConnections, execute_cons (Statement.step_setProducingQueue same rfl)]
      exact ⟨rfl, client, present, consuming⟩
  | calculator index =>
      have pointer : (workerTeam queuesCapacity current).address
          (.consumedBy .responseClient) = .ok (some 1) := by
        simp [ThreadTeam.address, workerTeam, present, consuming]
      rw [workerConnections, execute_setQueues same (by simp) pointer]
      exact ⟨rfl, client, present, consuming⟩
  | responseClient =>
      rw [workerConnections, execute_nil]
      have idle : Function.update current .responseClient
          (.object (connectedWorkerObject .responseClient)) = current :=
        Function.update_eq_self_iff.mpr same.symm
      rw [idle]
      exact ⟨rfl, client, present, consuming⟩

theorem startWorkerThreads_execute (queuesCapacity : Nat) :
    execute Statement.step (startWorkerThreads calculatorsAmount)
        (workerTeam queuesCapacity fun thread => .object (connectedWorkerObject thread)) =
      .ok (workerTeam queuesCapacity fun thread => .object (startedWorkerObject thread)) := by
  have program : startWorkerThreads calculatorsAmount =
      (workerOrder calculatorsAmount).flatMap fun thread => [.startThread thread] := by
    simp [startWorkerThreads, workerOrder, workerCalculators, List.flatMap_map]
  rw [program]
  apply execute_flatMap_own (workerTeam queuesCapacity) nodup_workerOrder mem_workerOrder
  intro thread current same
  rw [execute_cons (Statement.step_startThread same (by cases thread <;> rfl))]
  rfl

/-- The worker that is built. -/
theorem buildWorker_execute (queuesCapacity : Nat) :
    execute Statement.step (buildWorker calculatorsAmount queuesCapacity) .empty =
      .ok (workerTeam queuesCapacity fun thread => .object (startedWorkerObject thread)) := by
  rw [buildWorker, List.append_assoc, List.append_assoc, List.append_assoc,
    execute_append beginWorker_execute, execute_append createWorkerThreads_execute,
    execute_append (createWorkerQueues_execute queuesCapacity),
    execute_append (connectWorkerQueues_execute queuesCapacity)]
  exact startWorkerThreads_execute queuesCapacity

end WorkerTeam

end HttpServer

/-! ## The queues of the line -/

namespace ThreadTeam

variable {Thread Member : Type}

/-- The queue a thread consumes from. -/
def consumed (team : ThreadTeam Thread Member) (thread : Thread) : Option Nat :=
  (team.threads thread).object?.bind ThreadObject.consumingQueue

end ThreadTeam

namespace Configuration

variable (config : Configuration)

/-- A thread of the line waits for as many stop conditions as it was made with,
or sends as many. -/
def CountsStops (stops : Nat) : Node config → Prop
  | .decomposer => config.startThread .decomposer = .loop stops
  | .distributor => ∀ shared : Shared config, shared.poolLocked = true →
      ∀ choice effect, config.act .distributor (.stoppingWorkers []) = .work effect →
        effect choice shared = some ({ shared with poolLocked := false }, .stops stops)
  | .masterServer => ∀ shared : Shared config, shared.workersStopped = true →
      MasterServer.accept .stop shared = some (shared, .stops stops)
  | .responseAssembler => config.startThread .responseAssembler = .loop stops
  | .requestServer worker =>
      ∀ next, config.act (.requestServer worker) .reading =
        .receive (.toWorker worker) next → next none = .stops stops
  | .responseClient worker => config.startThread (.responseClient worker) = .loop stops
  | _ => True

/-- A thread object is the thread of the line: whatever the state of the
thread, the queues it uses are those the object has. -/
structure IsThread (queue : Channel config → Option Nat) (node : Node config)
    (object : ThreadObject) : Prop where
  started : object.started = true
  receives : ∀ state channel next, config.act node state = .receive channel next →
    config.link channel = none →
      (queue channel).isSome ∧ object.consumingQueue = queue channel
  sends : ∀ state channel item next, config.act node state = .send channel item next →
    config.link channel = none →
      (queue channel).isSome ∧ object.producingQueue = queue channel
  stops : config.CountsStops object.stops node

/-- The queues of a process that are channels of the line. -/
structure HasQueues (queue : Channel config → Option Nat)
    (queues : List (Option Nat)) : Prop where
  distinct : ∀ channel other place,
    queue channel = some place → queue other = some place → channel = other
  made : ∀ channel place, queue channel = some place →
    ∃ capacity, queues[place]? = some (some capacity)

/-- The queues of the master. -/
def masterQueue (team : ThreadTeam (MasterThread config) ServerQueue) :
    Channel config → Option Nat
  | .decomposerQueue => team.consumed .decomposer
  | .distributorQueue => team.consumed .distributor
  | .dataUnitsQueue => team.members .dataUnitsQueue
  | .workerConnectionsQueue => team.members .workerConnectionsQueue
  | .assemblerQueue => team.consumed .responseAssembler
  | .responderQueue => team.consumed .clientResponder
  | _ => none

/-- The queues of a worker. -/
def workerQueue (worker : config.Worker)
    (team : ThreadTeam (WorkerThread (config.workerCalculators worker)) ServerQueue) :
    Channel config → Option Nat
  | .workerUnits other => if other = worker then team.members .dataUnitsQueue else none
  | .workerResponses other => if other = worker then team.consumed .responseClient else none
  | _ => none

/-! ## Every thread is that of the line -/

section Threads

variable {config}

theorem masterThread_isThread (queuesCapacity : Nat) (thread : MasterThread config) :
    config.IsThread
      (config.masterQueue
        (HttpServer.masterTeam queuesCapacity fun thread =>
          .object (HttpServer.startedObject thread)))
      thread.node (HttpServer.startedObject thread) := by
  cases thread with
  | handler index =>
      refine ⟨rfl, ?_, ?_, trivial⟩
      · intro state channel next acts internal
        cases state <;> cases acts
      · intro state channel item next acts internal
        cases state <;> cases acts <;> exact ⟨rfl, rfl⟩
  | decomposer =>
      refine ⟨rfl, ?_, ?_, rfl⟩
      · intro state channel next acts internal
        rcases state with ⟨_ | _⟩ | _ | ⟨_ | _⟩ | _ | _ <;> cases acts
        exact ⟨rfl, rfl⟩
      · intro state channel item next acts internal
        rcases state with ⟨_ | _⟩ | _ | ⟨_ | _⟩ | _ | _ <;> cases acts <;> exact ⟨rfl, rfl⟩
  | distributor =>
      refine ⟨rfl, ?_, ?_, ?_⟩
      · intro state channel next acts internal
        rcases state with _ | _ | _ | _ | _ | ⟨_ | _⟩ | ⟨_ | _⟩ | _ <;> cases acts
        exact ⟨rfl, rfl⟩
      · intro state channel item next acts internal
        -- what it sends to a worker goes through a connection
        rcases state with _ | _ | _ | _ | _ | ⟨_ | _⟩ | ⟨_ | _⟩ | _ <;> cases acts <;>
          first | exact ⟨rfl, rfl⟩ | cases internal
      · intro shared locked choice effect acts
        cases acts
        rfl
  | calculator index =>
      refine ⟨rfl, ?_, ?_, trivial⟩
      · intro state channel next acts internal
        cases state <;> cases acts
        exact ⟨rfl, rfl⟩
      · intro state channel item next acts internal
        cases state <;> cases acts <;> exact ⟨rfl, rfl⟩
  | masterServer =>
      refine ⟨rfl, ?_, ?_, ?_⟩
      · intro state channel next acts internal
        rcases state with _ | _ | _ | _ | ⟨_ | _⟩ <;> cases acts
      · intro state channel item next acts internal
        rcases state with _ | _ | _ | _ | ⟨_ | _⟩ <;> cases acts <;> exact ⟨rfl, rfl⟩
      · intro shared stopped
        exact if_pos stopped
  | workerConnectionHandler index =>
      refine ⟨rfl, ?_, ?_, trivial⟩
      · intro state channel next acts internal
        -- it reads from workers, too
        cases state <;> cases acts <;> first | exact ⟨rfl, rfl⟩ | cases internal
      · intro state channel item next acts internal
        cases state <;> cases acts <;> exact ⟨rfl, rfl⟩
  | responseAssembler =>
      refine ⟨rfl, ?_, ?_, rfl⟩
      · intro state channel next acts internal
        rcases state with ⟨_ | _⟩ | _ | _ | _ | _ <;> cases acts
        exact ⟨rfl, rfl⟩
      · intro state channel item next acts internal
        rcases state with ⟨_ | _⟩ | _ | _ | _ | _ <;> cases acts <;> exact ⟨rfl, rfl⟩
  | clientResponder =>
      refine ⟨rfl, ?_, ?_, trivial⟩
      · intro state channel next acts internal
        cases state <;> cases acts
        exact ⟨rfl, rfl⟩
      · intro state channel item next acts internal
        cases state <;> cases acts

theorem workerThread_isThread (queuesCapacity : Nat) (worker : config.Worker)
    (thread : WorkerThread (config.workerCalculators worker)) :
    config.IsThread
      (config.workerQueue worker
        (HttpServer.workerTeam queuesCapacity fun thread =>
          .object (HttpServer.startedWorkerObject thread)))
      (thread.node worker) (HttpServer.startedWorkerObject thread) := by
  have units : config.workerQueue worker
      (HttpServer.workerTeam queuesCapacity fun thread =>
        .object (HttpServer.startedWorkerObject thread)) (.workerUnits worker) = some 0 :=
    if_pos rfl
  have responses : config.workerQueue worker
      (HttpServer.workerTeam queuesCapacity fun thread =>
        .object (HttpServer.startedWorkerObject thread)) (.workerResponses worker) = some 1 :=
    if_pos rfl
  cases thread with
  | requestServer =>
      refine ⟨rfl, ?_, ?_, ?_⟩
      · intro state channel next acts internal
        rcases state with _ | _ | ⟨_ | _⟩ | _ <;> cases acts
        cases internal
      · intro state channel item next acts internal
        rcases state with _ | _ | ⟨_ | _⟩ | _ <;> cases acts <;> rw [units] <;>
          exact ⟨rfl, rfl⟩
      · intro next acts
        cases acts
        rfl
  | calculator index =>
      refine ⟨rfl, ?_, ?_, trivial⟩
      · intro state channel next acts internal
        cases state <;> cases acts
        rw [units]
        exact ⟨rfl, rfl⟩
      · intro state channel item next acts internal
        cases state <;> cases acts <;> rw [responses] <;> exact ⟨rfl, rfl⟩
  | responseClient =>
      refine ⟨rfl, ?_, ?_, rfl⟩
      · intro state channel next acts internal
        rcases state with ⟨_ | _⟩ | _ | _ | _ <;> cases acts
        rw [responses]
        exact ⟨rfl, rfl⟩
      · intro state channel item next acts internal
        rcases state with ⟨_ | _⟩ | _ | _ | _ <;> cases acts <;> cases internal

theorem masterTeam_hasQueues (queuesCapacity : Nat) :
    config.HasQueues
      (config.masterQueue
        (HttpServer.masterTeam queuesCapacity fun thread =>
          .object (HttpServer.startedObject thread)))
      (HttpServer.masterCapacities config queuesCapacity) where
  distinct := by
    intro channel other place first second
    cases channel <;> cases first <;> cases other <;> cases second <;> rfl
  made := by
    intro channel place first
    cases channel <;> cases first <;> exact ⟨_, rfl⟩

theorem workerTeam_hasQueues (queuesCapacity : Nat) (worker : config.Worker) :
    config.HasQueues
      (config.workerQueue worker
        (HttpServer.workerTeam queuesCapacity fun thread =>
          .object (HttpServer.startedWorkerObject thread)))
      [some queuesCapacity, some queuesCapacity] := by
  have known : ∀ channel place,
      config.workerQueue worker
          (HttpServer.workerTeam queuesCapacity fun thread =>
            .object (HttpServer.startedWorkerObject thread)) channel = some place →
        (channel = .workerUnits worker ∧ place = 0) ∨
          (channel = .workerResponses worker ∧ place = 1) := by
    intro channel place is
    cases channel with
    | workerUnits other =>
        rw [Configuration.workerQueue] at is
        split at is
        case isTrue same =>
          cases is
          exact .inl ⟨by rw [same], rfl⟩
        case isFalse => cases is
    | workerResponses other =>
        rw [Configuration.workerQueue] at is
        split at is
        case isTrue same =>
          cases is
          exact .inr ⟨by rw [same], rfl⟩
        case isFalse => cases is
    | _ => cases is
  constructor
  · intro channel other place first second
    rcases known channel place first with ⟨rfl, rfl⟩ | ⟨rfl, rfl⟩
    · rcases known other 0 second with ⟨rfl, _⟩ | ⟨_, different⟩
      · rfl
      · cases different
    · rcases known other 1 second with ⟨_, different⟩ | ⟨rfl, _⟩
      · cases different
      · rfl
  · intro channel place first
    rcases known channel place first with ⟨_, rfl⟩ | ⟨_, rfl⟩ <;> exact ⟨_, rfl⟩

end Threads

/-- A master and its workers build the line: each of their threads is started
with the queues that the thread of the line uses. -/
theorem built_threads (queuesCapacity : Nat) :
    (∃ team : ThreadTeam (MasterThread config) ServerQueue,
      execute Statement.step (HttpServer.buildMaster config queuesCapacity) .empty =
          .ok team ∧
        config.HasQueues (config.masterQueue team) team.queues ∧
        (∀ thread, ∃ object, team.threads thread = .object object ∧
          config.IsThread (config.masterQueue team) thread.node object) ∧
        -- the clients come through a queue of their own
        (∀ index, team.consumed (.handler index) = team.members .socketsQueue) ∧
        ∀ channel, config.masterQueue team channel ≠ team.members .socketsQueue) ∧
      ∀ worker, ∃ team : ThreadTeam (WorkerThread (config.workerCalculators worker)) ServerQueue,
        execute Statement.step
            (HttpServer.buildWorker (config.workerCalculators worker) queuesCapacity)
            .empty = .ok team ∧
          config.HasQueues (config.workerQueue worker team) team.queues ∧
          ∀ thread, ∃ object, team.threads thread = .object object ∧
            config.IsThread (config.workerQueue worker team) (thread.node worker) object := by
  constructor
  · refine ⟨_, HttpServer.buildMaster_execute queuesCapacity,
      masterTeam_hasQueues queuesCapacity, ?_, fun index => rfl, ?_⟩
    · intro thread
      exact ⟨_, rfl, masterThread_isThread queuesCapacity thread⟩
    · intro channel same
      cases channel <;> cases same
  · intro worker
    refine ⟨_, HttpServer.buildWorker_execute queuesCapacity,
      workerTeam_hasQueues queuesCapacity worker, ?_⟩
    intro thread
    exact ⟨_, rfl, workerThread_isThread queuesCapacity worker thread⟩

end Configuration

end Concurrente.WebServer
