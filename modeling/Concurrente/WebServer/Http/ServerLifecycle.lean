import Concurrente.WebServer.Http.ServerThreads

/-!
# The end of a server

A master joins and deletes the threads it built, and so does a worker, which
may not have built them.  The statements are taken here for their effect, as if
each thread that is joined had ended; when a master gets to them is another
matter.
-/

namespace Concurrente.WebServer

open Library

namespace HttpServer

section Master

variable (config : Configuration)

/-- `HttpServer::stopServer`. -/
def stopServer : List (MasterStatement config) :=
  joinThreads config ++ deleteThreads config

/-- The statements of the main thread in `HttpServer::run`, if the master can
listen and accepts some clients. -/
def run (queuesCapacity clients : Nat) : List (MasterStatement config) :=
  buildMaster config queuesCapacity ++
    (List.replicate clients (.enqueue .socketsQueue) ++ stopServer config)

end Master

/-- `HttpServer::~HttpServer`. -/
def destructor (Thread : Type) : List (Statement Thread ServerQueue) :=
  [.deleteQueue .socketsQueue, .deleteQueue .dataUnitsQueue,
    .deleteQueue .workerConnectionsQueue]

/-- All threads are deleted, and after the destructor all queues. -/
def Released {Thread : Type} [DecidableEq Thread] (team : ThreadTeam Thread ServerQueue) :
    Prop :=
  ∃ final, execute Statement.step (destructor Thread) team = .ok final ∧
    (∀ thread, final.threads thread = .null) ∧ ∀ queue ∈ final.queues, queue = none

/-- `HttpServer::runWorker`, for a worker that can connect to its master or
not. -/
def runWorker (calculatorsAmount queuesCapacity : Nat) (connects : Bool) :
    List (WorkerStatement calculatorsAmount) :=
  if connects then
    buildWorker calculatorsAmount queuesCapacity ++
      (joinWorkerThreads calculatorsAmount ++ deleteWorkerThreads calculatorsAmount)
  else beginWorker calculatorsAmount ++ deleteWorkerThreads calculatorsAmount

/-! ## The end of a master -/

section Master

variable {config : Configuration}

theorem joinThreads_execute (queuesCapacity : Nat) :
    execute Statement.step (joinThreads config)
        (masterTeam queuesCapacity fun thread => .object (startedObject thread)) =
      .ok (masterTeam queuesCapacity fun thread => .object (connectedObject thread)) := by
  have program : joinThreads config =
      List.replicate config.maxConnections (.enqueue .socketsQueue) ++
        (makingOrder config).flatMap fun thread =>
          match thread with
          | .handler index => [.waitToFinishInVector (.handler index)]
          | thread => [.waitToFinish thread] := by
    simp [joinThreads, makingOrder, handlers, calculators, workerConnectionHandlers,
      List.flatMap_map]
  rw [program, execute_append (execute_replicate rfl _)]
  apply execute_flatMap_own (masterTeam queuesCapacity) nodup_makingOrder mem_makingOrder
  intro thread current same
  cases thread with
  | handler index =>
      rw [execute_cons (Statement.step_waitToFinishInVector same rfl)]
      rfl
  | _ =>
      rw [execute_cons (Statement.step_waitToFinish same rfl)]
      rfl

/-- A master some of whose threads are deleted: their queues are, too. -/
def deletingTeam (queuesCapacity : Nat) (threads : MasterThread config → ThreadPointer) :
    ThreadTeam (MasterThread config) ServerQueue :=
  let own := fun thread => (threads thread).object?.map fun _ => queuesCapacity
  ⟨threads, masterQueues,
    [some queuesCapacity, own .decomposer, own .distributor, some queuesCapacity,
      some config.maxWorkerConnections, own .responseAssembler, own .clientResponder]⟩

theorem deletingTeam_delete (queuesCapacity : Nat) {thread : MasterThread config}
    {threads : MasterThread config → ThreadPointer}
    (present : threads thread = .object (connectedObject thread)) :
    (Statement.deleteThread thread).step (deletingTeam queuesCapacity threads) =
      .ok (deletingTeam queuesCapacity (Function.update threads thread .dangling)) := by
  have same : (deletingTeam queuesCapacity threads).threads thread =
      .object (connectedObject thread) := present
  rw [Statement.step_deleteThread same rfl]
  cases thread <;> simp [connectedObject, queuedObject, ownQueue, consumingQueue,
    ThreadTeam.deleteAt, ThreadTeam.withThread, deletingTeam, present]

/-- A pointer that is cleared leads to no object any more, so no queue is lost. -/
theorem deletingTeam_clear (queuesCapacity : Nat)
    {cleared : List (MasterThread config)} {threads : MasterThread config → ThreadPointer}
    (deleted : ∀ thread ∈ cleared, threads thread = .dangling) :
    (Statement.clear cleared).step (deletingTeam queuesCapacity threads) =
      .ok (deletingTeam queuesCapacity fun thread =>
        if thread ∈ cleared then .null else threads thread) := by
  have object : ∀ thread,
      (if thread ∈ cleared then ThreadPointer.null else threads thread).object? =
        (threads thread).object? := by
    intro thread
    split
    case isTrue member => simp [deleted thread member]
    case isFalse => rfl
  simp only [Statement.step, deletingTeam, object]

/-- The threads in the groups in which they are deleted. -/
def deletingOrder (config : Configuration) : List (List (MasterThread config)) :=
  [handlers config, [.decomposer], [.distributor], calculators config, [.masterServer],
    workerConnectionHandlers config, [.responseAssembler], [.clientResponder]]

theorem deleteThreads_execute (queuesCapacity : Nat) :
    execute Statement.step (deleteThreads config)
        (masterTeam queuesCapacity fun thread => .object (connectedObject thread)) =
      .ok (deletingTeam queuesCapacity fun _ => .null) := by
  have program : deleteThreads config = (deletingOrder config).flatMap fun threads =>
      threads.flatMap (fun thread => [.deleteThread thread]) ++ [.clear threads] := by
    simp [deleteThreads, deletingOrder]
  have whole : (deletingOrder config).flatten = makingOrder config := rfl
  have distinct : (deletingOrder config).flatten.Nodup := nodup_makingOrder
  rw [program]
  change execute _ _ (deletingTeam queuesCapacity fun thread =>
    .object (connectedObject thread)) = _
  have round : ∀ threads ∈ deletingOrder config, ∀ current,
      (∀ thread ∈ threads, current thread = .object (connectedObject thread)) →
        execute Statement.step
            (threads.flatMap (fun thread => [.deleteThread thread]) ++ [.clear threads])
            (deletingTeam queuesCapacity current) =
          .ok (deletingTeam queuesCapacity fun thread =>
            if thread ∈ threads then .null else current thread) := by
    intro threads member current same
    apply execute_deleteAll (deletingTeam queuesCapacity)
      ((List.nodup_flatten.mp distinct).1 threads member)
    · intro thread _ other present
      exact deletingTeam_delete queuesCapacity present
    · intro other deleted
      exact deletingTeam_clear queuesCapacity deleted
    · exact same
  rw [execute_flatMap_groups (deletingTeam queuesCapacity) distinct round]
  simp [whole, mem_makingOrder]

theorem run_execute (queuesCapacity clients : Nat) :
    execute Statement.step (run config queuesCapacity clients) .empty =
      .ok (deletingTeam queuesCapacity fun _ => .null) := by
  rw [run, execute_append (buildMaster_execute queuesCapacity),
    execute_append (execute_replicate rfl clients), stopServer,
    execute_append (joinThreads_execute queuesCapacity)]
  exact deleteThreads_execute queuesCapacity

/-- A master that has no threads has no queue to send stop conditions on, and no
decomposer to wait for. -/
theorem stopServer_execute_empty (config : Configuration) :
    ∃ statement later, stopServer config = statement :: later ∧
      statement.step .empty = .error .nullPointer := by
  rcases Nat.eq_zero_or_pos config.maxConnections with none | some
  · have noHandlers : handlers config = [] := by
      rw [handlers, List.finRange_eq_nil_iff.mpr none, List.map_nil]
    refine ⟨.waitToFinish .decomposer, (stopServer config).tail, ?_, rfl⟩
    rw [stopServer, joinThreads, none, noHandlers]
    rfl
  · obtain ⟨count, more⟩ := Nat.exists_eq_succ_of_ne_zero some.ne'
    refine ⟨.enqueue .socketsQueue, (stopServer config).tail, ?_, rfl⟩
    rw [stopServer, joinThreads, more]
    rfl

theorem deletingTeam_released (queuesCapacity : Nat) :
    Released (deletingTeam queuesCapacity fun _ : MasterThread config => .null) := by
  refine ⟨_, rfl, fun thread => rfl, ?_⟩
  intro queue member
  simpa [deletingTeam] using member

end Master

/-! ## The end of a worker -/

section Worker

variable {calculatorsAmount : Nat}

theorem joinWorkerThreads_execute (queuesCapacity : Nat) :
    execute Statement.step (joinWorkerThreads calculatorsAmount)
        (workerTeam queuesCapacity fun thread => .object (startedWorkerObject thread)) =
      .ok (workerTeam queuesCapacity fun thread => .object (connectedWorkerObject thread)) := by
  have program : joinWorkerThreads calculatorsAmount =
      (workerOrder calculatorsAmount).flatMap fun thread => [.waitToFinish thread] := by
    simp [joinWorkerThreads, workerOrder, workerCalculators, List.flatMap_map]
  rw [program]
  apply execute_flatMap_own (workerTeam queuesCapacity) nodup_workerOrder mem_workerOrder
  intro thread current same
  rw [execute_cons (Statement.step_waitToFinish same rfl)]
  cases thread <;> rfl

/-- A worker some of whose threads are deleted. -/
def deletingWorkerTeam (queuesCapacity : Nat)
    (threads : WorkerThread calculatorsAmount → ThreadPointer) :
    ThreadTeam (WorkerThread calculatorsAmount) ServerQueue :=
  ⟨threads, workerQueues,
    [some queuesCapacity, (threads .responseClient).object?.map fun _ => queuesCapacity]⟩

/-- The threads of a worker in the groups in which they are deleted. -/
def deletingWorkerOrder (calculatorsAmount : Nat) :
    List (List (WorkerThread calculatorsAmount)) :=
  [[.requestServer], workerCalculators calculatorsAmount, [.responseClient]]

/-- The deletions of a worker, from what each does. -/
theorem deleteWorkerThreads_of_groups
    (write : (WorkerThread calculatorsAmount → ThreadPointer) →
      ThreadTeam (WorkerThread calculatorsAmount) ServerQueue)
    {before : WorkerThread calculatorsAmount → ThreadPointer}
    (gone : WorkerThread calculatorsAmount → ThreadPointer)
    (delete : ∀ thread current, current thread = before thread →
      (Statement.deleteThread thread).step (write current) =
        .ok (write (Function.update current thread (gone thread))))
    (clear : ∀ threads current, (∀ thread ∈ threads, current thread = gone thread) →
      (Statement.clear threads).step (write current) =
        .ok (write fun thread => if thread ∈ threads then .null else current thread)) :
    execute Statement.step (deleteWorkerThreads calculatorsAmount) (write before) =
      .ok (write fun _ => .null) := by
  have program : deleteWorkerThreads calculatorsAmount =
      (deletingWorkerOrder calculatorsAmount).flatMap fun threads =>
        threads.flatMap (fun thread => [.deleteThread thread]) ++ [.clear threads] := by
    simp [deleteWorkerThreads, deletingWorkerOrder]
  have whole : (deletingWorkerOrder calculatorsAmount).flatten =
      workerOrder calculatorsAmount := rfl
  have distinct : (deletingWorkerOrder calculatorsAmount).flatten.Nodup := nodup_workerOrder
  rw [program, execute_flatMap_groups write distinct fun threads member current same =>
    execute_deleteAll write ((List.nodup_flatten.mp distinct).1 threads member)
      (fun thread _ => delete thread) (clear threads) same]
  simp [whole, mem_workerOrder]

theorem deleteWorkerThreads_execute (queuesCapacity : Nat) :
    execute Statement.step (deleteWorkerThreads calculatorsAmount)
        (workerTeam queuesCapacity fun thread => .object (connectedWorkerObject thread)) =
      .ok (deletingWorkerTeam queuesCapacity fun _ => .null) := by
  change execute _ _ (deletingWorkerTeam queuesCapacity fun thread =>
    .object (connectedWorkerObject thread)) = _
  apply deleteWorkerThreads_of_groups (deletingWorkerTeam queuesCapacity) fun _ => .dangling
  · intro thread current present
    have same : (deletingWorkerTeam queuesCapacity current).threads thread =
        .object (connectedWorkerObject thread) := present
    rw [Statement.step_deleteThread same (by cases thread <;> rfl)]
    cases thread <;> simp [connectedWorkerObject, queuedWorkerObject, ThreadObject.new,
      ThreadTeam.deleteAt, ThreadTeam.withThread, deletingWorkerTeam, present]
  · intro threads current deleted
    by_cases member : WorkerThread.responseClient ∈ threads
    · simp [Statement.step, deletingWorkerTeam, member, deleted _ member]
    · simp [Statement.step, deletingWorkerTeam, member]

/-- What was not made cannot be deleted, and a response client that never
started can. -/
theorem deleteWorkerThreads_execute_client :
    execute Statement.step (deleteWorkerThreads calculatorsAmount)
        (clientTeam calculatorsAmount) = .ok .empty := by
  change execute _ _ (ThreadTeam.ofThreads (clientTeam calculatorsAmount).threads) = _
  apply deleteWorkerThreads_of_groups ThreadTeam.ofThreads
    (Function.update (fun _ => .null) .responseClient .dangling)
  · intro thread current same
    cases thread with
    | responseClient =>
        have client : (ThreadTeam.ofThreads current : ThreadTeam _ ServerQueue).threads
            .responseClient = .object (.new calculatorsAmount) := same
        rw [Statement.step_deleteThread client rfl]
        rfl
    | _ =>
        rw [Statement.step_deleteThread_of_null same]
        congr 2
        exact (Function.update_eq_self_iff.mpr same.symm).symm
  · intro threads current _
    rfl

/-- A worker ends as it should whether or not it can connect to its master. -/
theorem runWorker_released (queuesCapacity : Nat) (connects : Bool) :
    ∃ team,
      execute Statement.step (runWorker calculatorsAmount queuesCapacity connects) .empty =
          .ok team ∧
        Released team := by
  cases connects with
  | false =>
      refine ⟨.empty, ?_, .empty, rfl, fun thread => rfl, ?_⟩
      · exact (execute_append beginWorker_execute).trans deleteWorkerThreads_execute_client
      · intro queue member
        simp [ThreadTeam.empty, ThreadTeam.ofThreads] at member
  | true =>
      refine ⟨deletingWorkerTeam queuesCapacity fun _ => .null, ?_, _, rfl,
        fun thread => rfl, ?_⟩
      · exact (execute_append (buildWorker_execute queuesCapacity)).trans
          ((execute_append (joinWorkerThreads_execute queuesCapacity)).trans
            (deleteWorkerThreads_execute queuesCapacity))
      · intro queue member
        simpa [deletingWorkerTeam] using member

end Worker

end HttpServer

end Concurrente.WebServer
