import Concurrente.WebServer.Http.BlockedThreads
import Concurrente.WebServer.Http.Contacts
import Concurrente.WebServer.Http.StopConditions

/-!
# Graceful shutdown

The stop conditions end the threads of the production line one after another,
and nothing is left behind: who has ended knows that everybody before it has.
-/

namespace Concurrente.WebServer

open Library Network

/-! ## Threads without duties -/

theorem HttpConnectionHandler.owes_eq_zero {thread : HttpConnectionHandler} :
    thread.owes = 0 ↔ thread = .ended := by
  cases thread <;> simp

theorem Decomposer.owes_eq_zero {thread : Decomposer} :
    thread.owes = 0 ↔ thread = .ended := by
  cases thread <;> simp

theorem Distributor.owesUnits_eq_zero {Worker : Type} {amount : Nat}
    (some : 0 < amount) {thread : Distributor Worker} :
    thread.owesUnits amount = 0 ↔ thread = .stops 0 := by
  cases thread <;> simp <;> omega

theorem Calculator.owes_eq_zero {Unit : Type} {thread : Calculator Unit} :
    thread.owes = 0 ↔ thread = .ended := by
  cases thread <;> simp

theorem MasterServer.owes_eq_zero {Worker : Type} {amount : Nat}
    (some : 0 < amount) {thread : MasterServer Worker} :
    thread.owes amount = 0 ↔ thread = .stops 0 := by
  cases thread <;> simp <;> omega

theorem WorkerConnectionHandler.owes_eq_zero {Worker : Type}
    {thread : WorkerConnectionHandler Worker} :
    thread.owes = 0 ↔ thread = .ended := by
  cases thread <;> simp

theorem ResponseAssembler.owes_eq_zero {thread : ResponseAssembler} :
    thread.owes = 0 ↔ thread = .ended := by
  cases thread <;> simp

theorem RequestServer.owes_eq_zero {amount : Nat} (some : 0 < amount)
    {thread : RequestServer} : thread.owes amount = 0 ↔ thread = .stops 0 := by
  cases thread <;> simp <;> omega

theorem ResponseClient.owes_eq_zero {thread : ResponseClient} :
    thread.owes = 0 ↔ thread = .ended := by
  cases thread with
  | sending text pending =>
      simp only [owes, reduceCtorEq, iff_false]
      split <;> simp
  | loop | ended | failed => simp

namespace Configuration

variable {config : Configuration} {capacity : Channel config → Option Nat}
  {state : config.State}

/-- The threads of the master have ended. -/
structure MasterEnded (state : config.State) : Prop where
  connectionHandlers : ∀ index,
    state.thread (.connectionHandler index) = .ended
  decomposer : state.thread .decomposer = .ended
  distributor : state.thread .distributor = .stops 0
  calculators : ∀ index, state.thread (.calculator index) = .ended
  masterServer : config.Worker → state.thread .masterServer = .stops 0
  handlers : ∀ index, state.thread (.workerConnectionHandler index) = .ended
  assembler : state.thread .responseAssembler = .ended
  responder : state.thread .clientResponder = .ended

/-- The threads of a worker have ended. -/
structure WorkerEnded (state : config.State) (worker : config.Worker) : Prop where
  requestServer : state.thread (.requestServer worker) = .stops 0
  calculators : ∀ index, state.thread (.workerCalculator worker index) = .ended
  responseClient : state.thread (.responseClient worker) = .ended

theorem MasterEnded.queue_read (ended : MasterEnded state)
    {channel : Channel config} (belongs : channelWorker channel = none) :
    readersAwait state channel = 0 := by
  cases channel with
  | toWorker | workerUnits | workerResponses | toMaster => cases belongs
  | _ =>
      simp [readersAwait, ended.decomposer, ended.distributor,
        ended.calculators, ended.handlers, ended.assembler, ended.responder]

theorem WorkerEnded.channel_read {worker : config.Worker}
    (ended : WorkerEnded state worker)
    (read : readersAwait state (.toMaster worker) = 0)
    {channel : Channel config} (belongs : channelWorker channel = some worker) :
    readersAwait state channel = 0 := by
  cases channel <;> cases belongs
  · simp [readersAwait, ended.requestServer]
  · simp [readersAwait, ended.calculators]
  · simp [readersAwait, ended.responseClient]
  · exact read

/-! ## Channels that are not awaited -/

section Channels

variable (staffed : config.Staffed)
  (run : Reaches (config.network capacity) False config.AllRegistered
    config.start state)
  (channel : Channel config)

include staffed run

theorem queued_add_writersOwe :
    config.stopProtocol.queued state channel + writersOwe state channel =
      readersAwait state channel := by
  rw [← owed_eq, ← awaited_eq]
  exact (stopsBalanced staffed run).queued_add_owed channel

/-- Who reads a channel to its end knows that its writers have ended. -/
theorem writersOwe_eq_zero (read : readersAwait state channel = 0) :
    writersOwe state channel = 0 := by
  have balance := queued_add_writersOwe staffed run channel
  omega

/-- Who reads an empty channel whose writers have ended has ended too. -/
theorem readersAwait_eq_zero (written : writersOwe state channel = 0)
    (empty : state.queue channel = []) : readersAwait state channel = 0 := by
  rw [← queued_add_writersOwe staffed run channel, written]
  simp [StopProtocol.queued, empty]

theorem queue_eq_nil (read : readersAwait state channel = 0) :
    state.queue channel = [] :=
  (stopsBalanced staffed run).queue_eq_nil channel
    (run.history_eq (fun _ => rfl) rfl channel) (by rw [awaited_eq, read])

/-! ## From the responder back to the clients -/

theorem masterEnded_of_responder
    (responder : state.thread .clientResponder = .ended) :
    MasterEnded state := by
  have assembler : state.thread .responseAssembler = .ended :=
    ResponseAssembler.owes_eq_zero.mp
      (writersOwe_eq_zero staffed run .responderQueue
        (by simp [readersAwait, responder]))
  have producers := writersOwe_eq_zero staffed run .assemblerQueue
    (by simp [readersAwait, assembler])
  simp only [writersOwe, Nat.add_eq_zero_iff, Finset.sum_eq_zero_iff,
    Finset.mem_univ, true_imp_iff, Calculator.owes_eq_zero,
    WorkerConnectionHandler.owes_eq_zero] at producers
  obtain ⟨calculators, handlers⟩ := producers
  have distributor : state.thread .distributor = .stops 0 :=
    (Distributor.owesUnits_eq_zero staffed.calculators).mp
      (writersOwe_eq_zero staffed run .dataUnitsQueue
        (by simp [readersAwait, calculators]))
  have decomposer : state.thread .decomposer = .ended :=
    Decomposer.owes_eq_zero.mp
      (writersOwe_eq_zero staffed run .distributorQueue
        (by simp [readersAwait, distributor]))
  have clients := writersOwe_eq_zero staffed run .decomposerQueue
    (by simp [readersAwait, decomposer])
  simp only [writersOwe, Finset.sum_eq_zero_iff, Finset.mem_univ, true_imp_iff,
    HttpConnectionHandler.owes_eq_zero] at clients
  have masterServer (worker : config.Worker) :
      state.thread .masterServer = .stops 0 :=
    (MasterServer.owes_eq_zero (staffed.handlers worker)).mp
      (writersOwe_eq_zero staffed run .workerConnectionsQueue
        (by simp [readersAwait, handlers]))
  exact ⟨clients, decomposer, distributor, calculators, masterServer, handlers,
    assembler, responder⟩

theorem workerEnded_of_connection {worker : config.Worker}
    (read : readersAwait state (.toMaster worker) = 0) :
    WorkerEnded state worker := by
  have responseClient : state.thread (.responseClient worker) = .ended :=
    ResponseClient.owes_eq_zero.mp (writersOwe_eq_zero staffed run _ read)
  have calculators := writersOwe_eq_zero staffed run (.workerResponses worker)
    (by simp [readersAwait, responseClient])
  simp only [writersOwe, Finset.sum_eq_zero_iff, Finset.mem_univ, true_imp_iff,
    Calculator.owes_eq_zero] at calculators
  have requestServer : state.thread (.requestServer worker) = .stops 0 :=
    (RequestServer.owes_eq_zero (staffed.workerCalculators worker)).mp
      (writersOwe_eq_zero staffed run (.workerUnits worker)
        (by simp [readersAwait, calculators]))
  exact ⟨requestServer, calculators, responseClient⟩

/-- When the master has ended, whoever was in contact with it has too. -/
theorem MasterEnded.connection_read (ended : MasterEnded state)
    {worker : config.Worker}
    (contact : 0 < (config.contactWeights.total state).1 worker) :
    readersAwait state (.toMaster worker) = 0 := by
  have connected := (contactsKept staffed.workerCalculators run worker contact).1
  have tokens := queue_eq_nil staffed run .workerConnectionsQueue
    (by simp [readersAwait, ended.handlers])
  simp [readersAwait, ended.masterServer worker, ended.handlers, tokens, connected]

/-- When the master has ended, no queue or connection holds anything. -/
theorem MasterEnded.queue_eq_nil (ended : MasterEnded state)
    (channel : Channel config) : state.queue channel = [] := by
  cases belongs : channelWorker channel with
  | none =>
      exact Configuration.queue_eq_nil staffed run _ (ended.queue_read belongs)
  | some worker =>
      by_contra filled
      obtain ⟨item, queued⟩ := List.exists_mem_of_ne_nil _ filled
      have read := ended.connection_read staffed run
        (contacts_pos_of_item queued belongs)
      have worked := workerEnded_of_connection staffed run read
      exact filled (Configuration.queue_eq_nil staffed run _
        (worked.channel_read read belongs))

/-- When the master has ended, no thread holds a unit or an object. -/
theorem MasterEnded.threadLoads_eq_nil (ended : MasterEnded state)
    (node : Node config) : config.threadLoads node (state.thread node) = [] := by
  cases belongs : nodeWorker node with
  | none =>
      cases node with
      | requestServer | workerCalculator | responseClient => cases belongs
      | signalHandler | masterServer => rfl
      | _ =>
          simp [ended.connectionHandlers, ended.decomposer, ended.distributor,
            ended.calculators, ended.handlers, ended.assembler, ended.responder]
  | some worker =>
      by_cases none : (config.contactWeights.total state).1 worker = 0
      · exact threadLoads_of_no_contact belongs none
      · have worked := workerEnded_of_connection staffed run
          (ended.connection_read staffed run (Nat.pos_of_ne_zero none))
        cases node <;> cases belongs <;>
          simp [worked.requestServer, worked.calculators, worked.responseClient]

/-! ## From the clients to the responder -/

/-- What has ended when no thread can take a step. -/
theorem all_ended_of_blocked
    (unbounded : ∀ channel, channel ≠ .workerConnectionsQueue →
      capacity channel = none)
    (some : ∀ bound, capacity .workerConnectionsQueue = some bound → 0 < bound)
    (blocked : ∀ node, Blocked capacity state node) :
    MasterEnded state ∧ (∀ worker, WorkerEnded state worker) ∧
      state.thread .signalHandler = .ended ∧
      state.thread .masterServer = .stops 0 := by
  have isOpen : ∀ channel, (config.network capacity).IsOpen state channel :=
    run.isOpen fun _ => rfl
  have room {channel : Channel config} (other : channel ≠ .workerConnectionsQueue) :
      (config.network capacity).HasRoom state channel := by
    intro bound same
    cases (unbounded channel other).symm.trans same
  have sound := not_failed run
  have drained := readersAwait_eq_zero staffed run
  have signal := SignalHandler.of_blocked (blocked .signalHandler)
  obtain ⟨both, _, workersStopped, _⟩ := informed run .signalHandler
  have workers := workersStopped signal
  have connectionHandlers (index) :
      state.thread (.connectionHandler index) = .ended := by
    rcases HttpConnectionHandler.of_blocked isOpen (blocked _) (room (by simp)) with
      ended | ⟨_, running⟩
    · exact ended
    · rw [both workers] at running
      cases running
  have decomposer : state.thread .decomposer = .ended := by
    rcases Decomposer.of_blocked isOpen (sound _) (blocked _) (room (by simp)) with
      ended | ⟨⟨pending, waits⟩, empty⟩
    · exact ended
    · have read := drained .decomposerQueue
        (by simp [writersOwe, connectionHandlers]) empty
      simp [readersAwait, waits] at read
  have distributor : state.thread .distributor = .stops 0 := by
    rcases Distributor.of_blocked isOpen (sound _) (informed run .distributor)
      (blocked _) (room (by simp)) (fun _ => room (by simp)) with ended | ⟨waits, empty⟩
    · exact ended
    · have read := drained .distributorQueue
        (by simp [writersOwe, decomposer]) empty
      simp [readersAwait, waits] at read
  have requestServers (worker) :
      state.thread (.requestServer worker) = .stops 0 := by
    rcases RequestServer.of_blocked isOpen (sound _) (blocked _) (room (by simp)) with
      ended | ⟨waits, empty⟩
    · exact ended
    · have read := drained (.toWorker worker)
        (by simp [writersOwe, distributor]) empty
      simp [readersAwait, waits] at read
  have workerCalculators (worker index) :
      state.thread (.workerCalculator worker index) = .ended := by
    rcases Calculator.of_workBlocked isOpen (sound _) (blocked _) (room (by simp)) with
      ended | ⟨waits, empty⟩
    · exact ended
    · have read := drained (.workerUnits worker)
        (by simp [writersOwe, requestServers]) empty
      simp only [readersAwait, Finset.sum_eq_zero_iff, Finset.mem_univ,
        true_imp_iff] at read
      simpa [waits] using read index
  have responseClients (worker) :
      state.thread (.responseClient worker) = .ended := by
    rcases ResponseClient.of_blocked isOpen (sound _) (blocked _) (room (by simp)) with
      ended | ⟨⟨pending, waits⟩, empty⟩
    · exact ended
    · have read := drained (.workerResponses worker)
        (by simp [writersOwe, workerCalculators]) empty
      simp [readersAwait, waits] at read
  have unlocked : state.store.poolLocked = false := by
    by_contra locked
    obtain ⟨_, stopping⟩ :=
      informed run .distributor (Bool.eq_true_of_not_eq_false locked)
    cases distributor.symm.trans stopping
  have handler (index : Fin config.maxWorkerConnections) :
      state.thread (.workerConnectionHandler index) = .ended ∨
        (state.thread (.workerConnectionHandler index) = .loop ∧
          state.queue .workerConnectionsQueue = []) := by
    rcases WorkerConnectionHandler.of_blocked isOpen (sound _) unlocked
      (blocked (.workerConnectionHandler index)) (room (by simp)) with
      ended | waits | ⟨worker, waits, empty⟩
    · exact .inl ended
    · exact .inr waits
    · have read := drained (.toMaster worker)
        (by simp [writersOwe, responseClients]) empty
      simp only [readersAwait, Nat.add_eq_zero_iff, Finset.sum_eq_zero_iff,
        Finset.mem_univ, true_imp_iff] at read
      simpa [waits] using read.1.1.2 index
  have connections : state.queue .workerConnectionsQueue = [] := by
    by_contra filled
    refine filled (queue_eq_nil staffed run _ (Finset.sum_eq_zero fun index _ => ?_))
    rcases handler index with ended | ⟨_, empty⟩
    · rw [ended]
      rfl
    · exact (filled empty).elim
  have masterServer : state.thread .masterServer = .stops 0 := by
    have free : (config.network capacity).HasRoom state .workerConnectionsQueue := by
      intro bound same
      rw [connections]
      exact some bound same
    rcases MasterServer.of_blocked isOpen unlocked (blocked _) free with
      ended | ⟨_, running⟩
    · exact ended
    · rw [workers] at running
      cases running
  have handlers (index) :
      state.thread (.workerConnectionHandler index) = .ended := by
    rcases handler index with ended | ⟨waits, empty⟩
    · exact ended
    · have read := drained .workerConnectionsQueue
        (by simp [writersOwe, masterServer]) empty
      simp only [readersAwait, Finset.sum_eq_zero_iff, Finset.mem_univ,
        true_imp_iff] at read
      simpa [waits] using read index
  have calculators (index) : state.thread (.calculator index) = .ended := by
    rcases Calculator.of_blocked isOpen (sound _) (blocked _) (room (by simp)) with
      ended | ⟨waits, empty⟩
    · exact ended
    · have read := drained .dataUnitsQueue
        (by simp [writersOwe, distributor]) empty
      simp only [readersAwait, Finset.sum_eq_zero_iff, Finset.mem_univ,
        true_imp_iff] at read
      simpa [waits] using read index
  have assembler : state.thread .responseAssembler = .ended := by
    rcases ResponseAssembler.of_blocked isOpen (sound _) (blocked _) (room (by simp)) with
      ended | ⟨⟨pending, waits⟩, empty⟩
    · exact ended
    · have read := drained .assemblerQueue
        (by simp [writersOwe, calculators, handlers]) empty
      simp [readersAwait, waits] at read
  have responder : state.thread .clientResponder = .ended := by
    rcases ClientResponder.of_blocked isOpen (sound _) (blocked _) with
      ended | ⟨waits, empty⟩
    · exact ended
    · have read := drained .responderQueue
        (by simp [writersOwe, assembler]) empty
      simp [readersAwait, waits] at read
  exact ⟨⟨connectionHandlers, decomposer, distributor, calculators,
    fun _ => masterServer, handlers, assembler, responder⟩,
    fun worker => ⟨requestServers worker, workerCalculators worker,
      responseClients worker⟩, signal, masterServer⟩

end Channels

/-! ## What holds of the line -/

/-- In every run in which connections stay open and all workers are registered
before they are stopped: the stop conditions that were received from a channel
and those that its readers still await are as many as they wait for; nothing is
enqueued behind the last stop condition; when the client responder has ended,
all queues of the master have been read to the end and every accepted request
has been answered; and, if no channel has a bound except the queue of worker
connections, when no thread can take a step, all of them have ended and every
stop condition has been received. -/
theorem shutdown_drains (staffed : config.Staffed)
    (run : Reaches (config.network capacity) False config.AllRegistered
      config.start state) :
    (∀ channel, ∃ received,
      state.history channel = received ++ state.queue channel ∧
      received.countP (config.isStop channel) + readersAwait state channel =
        config.expectedStops channel) ∧
    (∀ channel (front : List (config.Item channel)) item back,
      state.history channel = front ++ item :: back →
      front.countP (config.isStop channel) < config.expectedStops channel) ∧
    (state.thread .clientResponder = .ended →
      (∀ channel, state.queue channel = []) ∧
      (∀ channel, channelWorker channel = none →
        (state.history channel).countP (config.isStop channel) =
          config.expectedStops channel) ∧
      ∀ number < state.store.accepted.length,
        number ∈ state.store.responded) ∧
    ((∀ channel, channel ≠ .workerConnectionsQueue → capacity channel = none) →
      (∀ bound, capacity .workerConnectionsQueue = some bound → 0 < bound) →
      (∀ node, Blocked capacity state node) →
      (∀ node, config.ended node (state.thread node) = true) ∧
      ∀ channel, (state.history channel).countP (config.isStop channel) =
        config.expectedStops channel) := by
  have balanced := stopsBalanced staffed run
  have received (channel : Channel config) : ∃ received,
      state.history channel = received ++ state.queue channel ∧
      received.countP (config.isStop channel) + readersAwait state channel =
        config.expectedStops channel := by
    obtain ⟨received, split⟩ := run.history_eq (fun _ => rfl) rfl channel
    have count : (state.history channel).countP (config.isStop channel) + _ =
      config.expectedStops channel :=
      balanced.stopsIn_add_owed channel
    have balance : (state.queue channel).countP (config.isStop channel) + _ = _ :=
      balanced.queued_add_owed channel
    rw [split, List.countP_append] at count
    rw [← awaited_eq]
    exact ⟨received, split, by omega⟩
  have complete (channel : Channel config) (empty : state.queue channel = [])
      (read : readersAwait state channel = 0) :
      (state.history channel).countP (config.isStop channel) =
        config.expectedStops channel := by
    obtain ⟨received, split, count⟩ := received channel
    rwa [split, empty, List.append_nil, ← Nat.add_zero (received.countP _), ← read]
  refine ⟨received, balanced.order, fun responder => ?_,
    fun unbounded some blocked => ?_⟩
  · have ended := masterEnded_of_responder staffed run responder
    have empty := ended.queue_eq_nil staffed run
    refine ⟨empty, fun channel belongs =>
        complete channel (empty channel) (ended.queue_read belongs),
      fun number inside => responded_of_unloaded run (by simp [empty])
        (ended.threadLoads_eq_nil staffed run) inside⟩
  · obtain ⟨master, workers, signal, server⟩ :=
      all_ended_of_blocked staffed run unbounded some blocked
    have contact (worker : config.Worker) :
        0 < (config.contactWeights.total state).1 worker :=
      contacts_pos_of_thread (.responseClient worker)
        (by simp [(workers worker).responseClient])
    have read (channel : Channel config) : readersAwait state channel = 0 := by
      cases belongs : channelWorker channel with
      | none => exact master.queue_read belongs
      | some worker =>
          exact (workers worker).channel_read
            (master.connection_read staffed run (contact worker)) belongs
    refine ⟨fun node => ?_, fun channel =>
      complete channel (master.queue_eq_nil staffed run channel) (read channel)⟩
    cases node with
    | signalHandler => simp [Configuration.ended, signal]
    | masterServer => simp [Configuration.ended, server]
    | requestServer worker =>
        simp [Configuration.ended, (workers worker).requestServer]
    | workerCalculator worker index =>
        simp [Configuration.ended, (workers worker).calculators]
    | responseClient worker =>
        simp [Configuration.ended, (workers worker).responseClient]
    | _ =>
        simp [Configuration.ended, master.connectionHandlers, master.decomposer,
          master.distributor, master.calculators, master.handlers,
          master.assembler, master.responder]

/-! ## A run -/

/-- After the request of the sample schedule the signal comes, and every thread
ends. -/
def shutdownTurns : List SampleTurn :=
  sampleTurns ++
  ([.go .signalHandler, .go .signalHandler,
    .step (.connectionHandler only) .stop true, .go (.connectionHandler only),
    .go .decomposer, .go .decomposer, .go .distributor, .go .distributor,
    .go .distributor, .go .distributor, .go .distributor,
    .go (.requestServer only), .go (.requestServer only),
    .go (.workerCalculator only only), .go (.workerCalculator only only),
    .go (.responseClient only), .go (.responseClient only),
    .step .masterServer .stop true, .go .masterServer,
    .go (.workerConnectionHandler only), .go (.workerConnectionHandler only),
    .go (.workerConnectionHandler only), .go (.workerConnectionHandler only),
    .go (.workerConnectionHandler only), .go (.calculator only),
    .go (.calculator only), .go .responseAssembler, .go .responseAssembler,
    .go .responseAssembler, .go .clientResponder] : List SampleTurn)

/-- The queue of worker connections has room for one of them. -/
def sampleCapacity : Channel sampleConfiguration → Option Nat
  | .workerConnectionsQueue => some 1
  | _ => none

/-- The state after the schedule. -/
def shutdownState : Option sampleConfiguration.State :=
  (sampleConfiguration.network sampleCapacity).exec false
    (fun node state => decide (sampleConfiguration.AllRegistered node state))
    shutdownTurns sampleConfiguration.start

theorem shutdown_drains_sample :
    ∃ state ∈ shutdownState, state.thread .clientResponder = .ended ∧
      (∀ number < state.store.accepted.length,
        number ∈ state.store.responded) ∧
      ∀ channel, (state.history channel).countP
          (sampleConfiguration.isStop channel) =
        sampleConfiguration.expectedStops channel := by
  have works : shutdownState.any (fun state => ∀ node,
      sampleConfiguration.ended node (state.thread node) = true) = true := by
    decide +kernel
  obtain ⟨state, result, run, checked⟩ := Reaches.exists_of_exec False (by decide)
    (fun _ _ permitted => of_decide_eq_true permitted) works
  have responder : state.thread .clientResponder = .ended := by
    simpa [Configuration.ended] using checked .clientResponder
  have drained := shutdown_drains
    ⟨by decide, fun _ => Nat.one_pos, fun _ => Nat.one_pos⟩ run
  refine ⟨state, result, responder, (drained.2.2.1 responder).2.2,
    (drained.2.2.2 (fun channel other => ?_) (fun bound same => ?_)
      fun node => .of_ended (checked node)).2⟩
  · cases channel <;> first | rfl | exact (other rfl).elim
  · cases same
    exact Nat.one_pos

end Configuration

end Concurrente.WebServer
