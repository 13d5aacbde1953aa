import Concurrente.WebServer.Http.Shutdown

/-!
# Progress before shutdown

Before the signal comes the line does not deadlock: as long as a request is not
answered, a thread of the line can take a step or a registered connection can
be handed over, whatever the capacities are.
-/

namespace Concurrente.WebServer

open Library Network

/-- The registered connections that a handler holds. -/
@[simp] def WorkerConnectionHandler.holds {Worker : Type} :
    WorkerConnectionHandler Worker → Nat
  | .reading _ => 1
  | .routing _ _ => 1
  | .producing _ _ => 1
  | .removing _ => 1
  | _ => 0

namespace Configuration

variable {config : Configuration} {capacity : Channel config → Option Nat}
  {state : config.State}

/-! ## Before the signal -/

/-- The listener of client requests does not start again. -/
theorem clientsStopped_mono {before after : config.State} {node : Node config}
    (step : Step (config.network capacity) node before after)
    (running : after.store.clientsStopped = false) :
    before.store.clientsStopped = false := by
  cases step with
  | receive | receiveClosed | send | sendClosed => exact running
  | @work effect choice store thread acts result =>
      by_cases signal : node = .signalHandler
      · subst signal
        revert acts
        generalize before.thread .signalHandler = acting
        intro acts
        cases acting with
        | waiting =>
            cases acts
            cases result
            cases running
        | stoppingWorkers =>
            cases acts
            cases result
            exact running
        | ended => cases acts
      · have within := act_within node (before.thread node)
        have acts : config.act node (before.thread node) = .work effect := acts
        rw [acts] at within
        have signals := (within choice _ _ _ result).signals signal
        exact (congrArg Prod.fst signals).symm.trans running

/-- Before the signal comes the distributor waits for units or handles one. -/
theorem distributor_awaits (staffed : config.Staffed)
    (clients : 0 < config.maxConnections)
    (run : Reaches (config.network capacity) False config.AllRegistered
      config.start state)
    (running : state.store.clientsStopped = false) :
    0 < (state.thread .distributor).awaits := by
  have owes (index : Fin config.maxConnections) :
      (state.thread (.connectionHandler index)).owes = 1 := by
    have known := informed run (.connectionHandler index)
    cases acting : state.thread (.connectionHandler index) with
    | ended => simp [Informed, acting, running] at known
    | consuming | producing | lastStop => rfl
  have requests := queued_add_writersOwe staffed run .decomposerQueue
  simp only [writersOwe, readersAwait, owes, Finset.sum_const, Finset.card_univ,
    Fintype.card_fin, smul_eq_mul, mul_one] at requests
  have owing : (state.thread .decomposer).owes = 1 := by
    cases acting : state.thread .decomposer with
    | ended =>
        rw [acting] at requests
        simp only [Decomposer.awaits] at requests
        omega
    | loop | decomposing | producing | failed => rfl
  have units := queued_add_writersOwe staffed run .distributorQueue
  simp only [writersOwe, readersAwait, owing] at units
  omega

/-- Before the signal comes nobody stops the workers. -/
theorem allRegistered_of_running (staffed : config.Staffed)
    (clients : 0 < config.maxConnections)
    (run : Reaches (config.network capacity) False (fun _ _ => True)
      config.start state)
    (running : state.store.clientsStopped = false) :
    Reaches (config.network capacity) False config.AllRegistered config.start
      state := by
  induction run with
  | refl => exact .refl
  | tail _ move ih =>
      cases move with
      | close faulty => exact faulty.elim
      | step _ step =>
          have before := clientsStopped_mono step running
          refine (ih before).tail (.step ?_ step)
          rintro rfl stopping
          have awaits := distributor_awaits staffed clients (ih before) before
          simp [stopping] at awaits

/-! ## Connections -/

/-- How many connections are held. -/
def heldCount (config : Configuration) : config.Holdings →+ Nat where
  toFun held := ∑ worker, held.1 worker
  map_zero' := by simp
  map_add' _ _ := by simp [Finset.sum_add_distrib]

theorem heldCount_handler (index : Fin config.maxWorkerConnections)
    (thread : WorkerConnectionHandler config.Worker) :
    config.heldCount (config.threadWorkers (.workerConnectionHandler index) thread) =
      thread.holds := by
  cases thread <;> simp [heldCount]

theorem heldCount_item (item : Option config.Worker) :
    config.heldCount (config.itemWorkers .workerConnectionsQueue item) =
      if item.isSome then 1 else 0 := by
  cases item <;> simp [heldCount]

/-- No connection is held twice. -/
theorem held_le_workers
    (run : Reaches (config.network capacity) False config.AllRegistered
      config.start state) :
    ((state.queue .workerConnectionsQueue).map fun item =>
      if item.isSome then 1 else 0).sum +
      (∑ index, (state.thread (.workerConnectionHandler index)).holds) ≤
      config.workers := by
  have kept := poolKept run
  have bound : config.heldCount (config.poolWeights.total state) ≤ config.workers := by
    calc config.heldCount (config.poolWeights.total state)
        = ∑ worker, (config.poolWeights.total state).1 worker := rfl
      _ ≤ ∑ _worker : config.Worker, 1 :=
          Finset.sum_le_sum fun worker _ => by
            obtain ⟨pool, connected, once⟩ := kept worker
            omega
      _ = config.workers := by simp
  refine le_trans ?_ bound
  rw [← Weights.total_map]
  unfold Weights.total
  rw [sum_node]
  have queued := Finset.single_le_sum (f := fun channel =>
    ((state.queue channel).map
      ((config.poolWeights.map config.heldCount).item channel)).sum)
    (fun _ _ => Nat.zero_le _) (Finset.mem_univ Channel.workerConnectionsQueue)
  simp only [Weights.map, poolWeights_item, poolWeights_thread,
    heldCount_handler, heldCount_item] at queued ⊢
  omega

/-! ## Lines that stand still -/

/-- The threads of the line; a connection handler is one while it has a request
to enqueue. -/
def OfLine (state : config.State) : Node config → Prop
  | .signalHandler => False
  | .masterServer => False
  | .connectionHandler index =>
      ∃ data, state.thread (.connectionHandler index) = .producing data
  | _ => True

/-- The master server has a registered connection to enqueue. -/
def HandsOver (state : config.State) : Node config → Prop
  | .masterServer => ∃ worker, state.thread .masterServer = .producing worker
  | _ => False

/-- A line before shutdown in which no thread of the line can take a step and no
connection can be handed over, for given capacities of at least one. -/
structure Still (capacity : Channel config → Option Nat) (state : config.State) :
    Prop where
  staffed : config.Staffed
  few : config.workers ≤ config.maxWorkerConnections
  capacities : ∀ channel bound, capacity channel = some bound → 0 < bound
  run : Reaches (config.network capacity) False config.AllRegistered
    config.start state
  unlocked : state.store.poolLocked = false
  running : state.store.workersStopped = false
  blocked : ∀ node, OfLine state node ∨ HandsOver state node →
    Blocked capacity state node

namespace Still

variable (still : Still capacity state)

include still

theorem isOpen (channel : Channel config) :
    (config.network capacity).IsOpen state channel :=
  still.run.isOpen (fun _ => rfl) channel

theorem hasRoom {channel : Channel config} (empty : state.queue channel = []) :
    (config.network capacity).HasRoom state channel := by
  intro bound same
  rw [empty]
  exact still.capacities channel bound same

theorem sound (node : Node config) : ¬ config.Failed node (state.thread node) :=
  not_failed still.run node

/-- A channel that has been read to its end is empty. -/
theorem empty_of_read {channel : Channel config}
    (read : readersAwait state channel = 0) : state.queue channel = [] :=
  queue_eq_nil still.staffed still.run channel read

theorem responder : state.thread .clientResponder = .ended ∨
    (state.thread .clientResponder = .loop ∧ state.queue .responderQueue = []) :=
  ClientResponder.of_blocked still.isOpen (still.sound _)
    (still.blocked _ (.inl trivial))

theorem responderQueue : state.queue .responderQueue = [] := by
  rcases still.responder with ended | ⟨_, empty⟩
  · exact still.empty_of_read (by simp [readersAwait, ended])
  · exact empty

theorem assembler : state.thread .responseAssembler = .ended ∨
    ((∃ pending, state.thread .responseAssembler = .loop (pending + 1)) ∧
      state.queue .assemblerQueue = []) :=
  ResponseAssembler.of_blocked still.isOpen (still.sound _)
    (still.blocked _ (.inl trivial)) (still.hasRoom still.responderQueue)

theorem assemblerQueue : state.queue .assemblerQueue = [] := by
  rcases still.assembler with ended | ⟨_, empty⟩
  · exact still.empty_of_read (by simp [readersAwait, ended])
  · exact empty

theorem calculator (index : Fin config.calculatorsAmount) :
    state.thread (.calculator index) = .ended ∨
      (state.thread (.calculator index) = .loop ∧
        state.queue .dataUnitsQueue = []) :=
  Calculator.of_blocked still.isOpen (still.sound _)
    (still.blocked _ (.inl trivial)) (still.hasRoom still.assemblerQueue)

theorem dataUnitsQueue : state.queue .dataUnitsQueue = [] := by
  by_contra filled
  refine filled (still.empty_of_read (Finset.sum_eq_zero fun index _ => ?_))
  rcases still.calculator index with ended | ⟨_, empty⟩
  · rw [ended]
    rfl
  · exact (filled empty).elim

theorem handler (index : Fin config.maxWorkerConnections) :
    state.thread (.workerConnectionHandler index) = .ended ∨
      (state.thread (.workerConnectionHandler index) = .loop ∧
        state.queue .workerConnectionsQueue = []) ∨
      ∃ worker, state.thread (.workerConnectionHandler index) = .reading worker ∧
        state.queue (.toMaster worker) = [] :=
  WorkerConnectionHandler.of_blocked still.isOpen (still.sound _) still.unlocked
    (still.blocked _ (.inl trivial)) (still.hasRoom still.assemblerQueue)

/-- A handler is free for every connection that was registered. -/
theorem workerConnectionsQueue : state.queue .workerConnectionsQueue = [] := by
  by_contra filled
  have server : (state.thread .masterServer).owes config.maxWorkerConnections =
      config.maxWorkerConnections := by
    have known := informed still.run .masterServer
    cases acting : state.thread .masterServer with
    | stops => simp [Informed, acting, still.running] at known
    | listening | readingPassword | adding | producing => rfl
  have tokens := queued_add_writersOwe still.staffed still.run .workerConnectionsQueue
  simp only [writersOwe, readersAwait, server] at tokens
  have once (index : Fin config.maxWorkerConnections) :
      (state.thread (.workerConnectionHandler index)).awaits +
        (1 - (state.thread (.workerConnectionHandler index)).awaits) = 1 := by
    cases state.thread (.workerConnectionHandler index) <;> rfl
  have whole := Finset.sum_congr rfl fun index (_ : index ∈ Finset.univ) => once index
  rw [Finset.sum_add_distrib, Finset.sum_const, Finset.card_univ, Fintype.card_fin,
    smul_eq_mul, mul_one] at whole
  have awaiting : ∑ index, (1 -
      (state.thread (.workerConnectionHandler index)).awaits) = 0 := by omega
  have holding (index : Fin config.maxWorkerConnections) :
      (state.thread (.workerConnectionHandler index)).holds = 1 := by
    have awaits := Finset.sum_eq_zero_iff.mp awaiting index (Finset.mem_univ _)
    rcases still.handler index with ended | ⟨_, empty⟩ | ⟨worker, reads, _⟩
    · rw [ended] at awaits
      cases awaits
    · exact (filled empty).elim
    · rw [reads]
      rfl
  have held := held_le_workers still.run
  simp only [holding, Finset.sum_const, Finset.card_univ, Fintype.card_fin,
    smul_eq_mul, mul_one] at held
  obtain ⟨item, rest, contents⟩ := List.exists_cons_of_ne_nil filled
  have unstopped : config.stopProtocol.queued state .workerConnectionsQueue = 0 := by
    omega
  have token := List.countP_eq_zero.mp unstopped item
    (contents ▸ List.mem_cons_self)
  have connection : item.isSome = true := by
    cases item with
    | none => exact (token rfl).elim
    | some => rfl
  rw [contents, List.map_cons, List.sum_cons, if_pos connection] at held
  have few := still.few
  omega

/-- Somebody reads from every worker that has something to send. -/
theorem toMaster (worker : config.Worker) : state.queue (.toMaster worker) = [] := by
  by_contra filled
  have tokens := still.workerConnectionsQueue
  obtain ⟨item, queued⟩ := List.exists_mem_of_ne_nil _ filled
  obtain ⟨connected, pending⟩ := contactsKept still.staffed.workerCalculators
    still.run worker (contacts_pos_of_item queued rfl)
  refine filled (still.empty_of_read ?_)
  have server : config.readerDuty .masterServer (state.thread .masterServer)
      (.toMaster worker) = 0 := by
    rw [config.contactWeights.total_eq_others state .masterServer] at pending
    cases acting : state.thread .masterServer with
    | listening | stops => rfl
    | readingPassword other | adding other =>
        rw [acting] at pending
        by_cases same : worker = other
        · subst same
          simp at pending
        · simp [same]
    | producing other =>
        exact ((still.blocked .masterServer (.inr ⟨other, acting⟩)).send acting rfl
          (still.isOpen _) (still.hasRoom tokens)).elim
  have handlers (index : Fin config.maxWorkerConnections) :
      config.readerDuty (.workerConnectionHandler index)
        (state.thread (.workerConnectionHandler index)) (.toMaster worker) = 0 := by
    rcases still.handler index with ended | ⟨waits, _⟩ | ⟨other, reads, empty⟩
    · rw [ended]
      rfl
    · rw [waits]
      rfl
    · have differs : worker ≠ other := by
        rintro rfl
        exact filled empty
      rw [reads]
      simp [differs]
  simp [readersAwait, server, handlers, tokens, connected, -readerDuty]

theorem responseClient (worker : config.Worker) :
    state.thread (.responseClient worker) = .ended ∨
      ((∃ pending, state.thread (.responseClient worker) = .loop (pending + 1)) ∧
        state.queue (.workerResponses worker) = []) :=
  ResponseClient.of_blocked still.isOpen (still.sound _)
    (still.blocked _ (.inl trivial)) (still.hasRoom (still.toMaster worker))

theorem workerResponses (worker : config.Worker) :
    state.queue (.workerResponses worker) = [] := by
  rcases still.responseClient worker with ended | ⟨_, empty⟩
  · exact still.empty_of_read (by simp [readersAwait, ended])
  · exact empty

theorem workerCalculator (worker : config.Worker)
    (index : Fin (config.workerCalculators worker)) :
    state.thread (.workerCalculator worker index) = .ended ∨
      (state.thread (.workerCalculator worker index) = .loop ∧
        state.queue (.workerUnits worker) = []) :=
  Calculator.of_workBlocked still.isOpen (still.sound _)
    (still.blocked _ (.inl trivial)) (still.hasRoom (still.workerResponses worker))

theorem workerUnits (worker : config.Worker) :
    state.queue (.workerUnits worker) = [] := by
  by_contra filled
  refine filled (still.empty_of_read (Finset.sum_eq_zero fun index _ => ?_))
  rcases still.workerCalculator worker index with ended | ⟨_, empty⟩
  · rw [ended]
    rfl
  · exact (filled empty).elim

theorem requestServer (worker : config.Worker) :
    state.thread (.requestServer worker) = .stops 0 ∨
      (state.thread (.requestServer worker) = .reading ∧
        state.queue (.toWorker worker) = []) :=
  RequestServer.of_blocked still.isOpen (still.sound _)
    (still.blocked _ (.inl trivial)) (still.hasRoom (still.workerUnits worker))

theorem toWorker (worker : config.Worker) :
    state.queue (.toWorker worker) = [] := by
  rcases still.requestServer worker with ended | ⟨_, empty⟩
  · exact still.empty_of_read (by simp [readersAwait, ended])
  · exact empty

theorem distributor : state.thread .distributor = .stops 0 ∨
    (state.thread .distributor = .loop ∧ state.queue .distributorQueue = []) :=
  Distributor.of_blocked still.isOpen (still.sound _)
    (informed still.run .distributor) (still.blocked _ (.inl trivial))
    (still.hasRoom still.dataUnitsQueue)
    fun worker => still.hasRoom (still.toWorker worker)

theorem distributorQueue : state.queue .distributorQueue = [] := by
  rcases still.distributor with ended | ⟨_, empty⟩
  · exact still.empty_of_read (by simp [readersAwait, ended])
  · exact empty

theorem decomposer : state.thread .decomposer = .ended ∨
    ((∃ pending, state.thread .decomposer = .loop (pending + 1)) ∧
      state.queue .decomposerQueue = []) :=
  Decomposer.of_blocked still.isOpen (still.sound _)
    (still.blocked _ (.inl trivial)) (still.hasRoom still.distributorQueue)

theorem decomposerQueue : state.queue .decomposerQueue = [] := by
  rcases still.decomposer with ended | ⟨_, empty⟩
  · exact still.empty_of_read (by simp [readersAwait, ended])
  · exact empty

/-- Nothing is left in a line that stands still. -/
theorem queue (channel : Channel config) : state.queue channel = [] := by
  cases channel with
  | decomposerQueue => exact still.decomposerQueue
  | distributorQueue => exact still.distributorQueue
  | dataUnitsQueue => exact still.dataUnitsQueue
  | workerConnectionsQueue => exact still.workerConnectionsQueue
  | assemblerQueue => exact still.assemblerQueue
  | responderQueue => exact still.responderQueue
  | toWorker worker => exact still.toWorker worker
  | workerUnits worker => exact still.workerUnits worker
  | workerResponses worker => exact still.workerResponses worker
  | toMaster worker => exact still.toMaster worker

theorem threadLoads (node : Node config) :
    config.threadLoads node (state.thread node) = [] := by
  cases node with
  | signalHandler | masterServer => rfl
  | connectionHandler index =>
      cases acting : state.thread (.connectionHandler index) with
      | producing data =>
          exact ((still.blocked (.connectionHandler index)
            (.inl ⟨data, acting⟩)).send acting rfl (still.isOpen _)
            (still.hasRoom still.decomposerQueue)).elim
      | consuming | lastStop | ended => rfl
  | decomposer =>
      rcases still.decomposer with ended | ⟨⟨_, waits⟩, _⟩
      · simp [ended]
      · simp [waits]
  | distributor =>
      rcases still.distributor with ended | ⟨waits, _⟩
      · simp [ended]
      · simp [waits]
  | calculator index =>
      rcases still.calculator index with ended | ⟨waits, _⟩
      · simp [ended]
      · simp [waits]
  | workerConnectionHandler index =>
      rcases still.handler index with ended | ⟨waits, _⟩ | ⟨_, reads, _⟩
      · simp [ended]
      · simp [waits]
      · simp [reads]
  | responseAssembler =>
      rcases still.assembler with ended | ⟨⟨_, waits⟩, _⟩
      · simp [ended]
      · simp [waits]
  | clientResponder =>
      rcases still.responder with ended | ⟨waits, _⟩
      · simp [ended]
      · simp [waits]
  | requestServer worker =>
      rcases still.requestServer worker with ended | ⟨waits, _⟩
      · simp [ended]
      · simp [waits]
  | workerCalculator worker index =>
      rcases still.workerCalculator worker index with ended | ⟨waits, _⟩
      · simp [ended]
      · simp [waits]
  | responseClient worker =>
      rcases still.responseClient worker with ended | ⟨⟨_, waits⟩, _⟩
      · simp [ended]
      · simp [waits]

end Still

/-! ## What holds of the line -/

/-- In every run in which connections stay open, for capacities of at least one,
calculators in every process and no more workers than handlers: before shutdown,
when a request is not answered, a thread of the line can take a step, or the
master server can hand over a connection that was registered. -/
theorem line_progresses (calculators : 0 < config.calculatorsAmount)
    (workerCalculators : ∀ worker, 0 < config.workerCalculators worker)
    (few : config.workers ≤ config.maxWorkerConnections)
    (capacities : ∀ channel bound, capacity channel = some bound → 0 < bound)
    (run : Reaches (config.network capacity) False (fun _ _ => True)
      config.start state)
    (running : state.store.clientsStopped = false) {number : Nat}
    (accepted : number < state.store.accepted.length)
    (unanswered : number ∉ state.store.responded) :
    ∃ node, (OfLine state node ∨ HandsOver state node) ∧
      CanStep (config.network capacity) node state := by
  by_contra stuck
  have staffed : config.Staffed := ⟨calculators, workerCalculators, fun worker =>
    Nat.lt_of_lt_of_le (Nat.zero_lt_of_lt worker.isLt) few⟩
  obtain ⟨both, _, _, none⟩ := informed run .signalHandler
  have clients : 0 < config.maxConnections := by
    refine Nat.pos_of_ne_zero fun closed => ?_
    simp [none closed] at accepted
  have restricted := allRegistered_of_running staffed clients run running
  have unlocked : state.store.poolLocked = false := by
    by_contra locked
    obtain ⟨_, stopping⟩ :=
      informed run .distributor (Bool.eq_true_of_not_eq_false locked)
    have awaits := distributor_awaits staffed clients restricted running
    simp [stopping] at awaits
  have workersRunning : state.store.workersStopped = false := by
    by_contra stopped
    have clientsStopped := both (Bool.eq_true_of_not_eq_false stopped)
    rw [running] at clientsStopped
    cases clientsStopped
  have still : Still capacity state :=
    { staffed, few, capacities, run := restricted, unlocked
      running := workersRunning
      blocked := fun node inside canStep => stuck ⟨node, inside, canStep⟩ }
  exact unanswered (responded_of_unloaded run (by simp [still.queue])
    still.threadLoads accepted)

/-! ## A worker that nobody reads from yet -/

/-- A worker is put into the pool and gets the only unit of a request before its
connection is handed over. -/
def earlyTurns : List SampleTurn :=
  [.step .masterServer (.worker only) true,
    .step .masterServer (.password true) true, .go .masterServer,
    .step (.connectionHandler only) (.accept 0 [7] 4096) true,
    .go (.connectionHandler only), .go .decomposer, .go .decomposer,
    .go .decomposer, .go .decomposer, .go .distributor,
    .step .distributor (.worker only) true, .go .distributor,
    .go (.requestServer only), .go (.requestServer only),
    .go (.workerCalculator only only), .go (.workerCalculator only only),
    .go (.workerCalculator only only), .go (.responseClient only),
    .go (.responseClient only)]

/-- The state after the schedule, with channels of capacity one. -/
def earlyState : Option sampleConfiguration.State :=
  (sampleConfiguration.network fun _ => some 1).exec false (fun _ _ => true)
    earlyTurns sampleConfiguration.start

/-- The result waits in the connection, and no thread of the line can step. -/
theorem line_waits_for_masterServer :
    ∃ state : sampleConfiguration.State,
      Reaches (sampleConfiguration.network fun _ => some 1) False (fun _ _ => True)
        sampleConfiguration.start state ∧
      state.store.clientsStopped = false ∧
      0 < state.store.accepted.length ∧ 0 ∉ state.store.responded ∧
      ∀ node, OfLine state node →
        ¬ CanStep (sampleConfiguration.network fun _ => some 1) node state := by
  have works : earlyState.any (fun state =>
      state.store.clientsStopped = false ∧
      0 < state.store.accepted.length ∧ 0 ∉ state.store.responded ∧
      state.thread (.connectionHandler only) = .consuming ∧
      ∀ node, node ≠ .signalHandler → node ≠ .masterServer →
        node ≠ .connectionHandler only →
        (sampleConfiguration.network fun _ => some 1).waits node state = true) =
        true := by
    decide +kernel
  obtain ⟨state, _, run, running, accepted, unanswered, consuming, waiting⟩ :=
    Reaches.exists_of_exec False (by decide) (fun _ _ _ => trivial) works
  refine ⟨state, run, running, accepted, unanswered, fun node inside => ?_⟩
  have others := waiting node
  cases node with
  | signalHandler | masterServer => exact inside.elim
  | connectionHandler index =>
      obtain ⟨data, producing⟩ := inside
      rw [Subsingleton.elim index only, consuming] at producing
      cases producing
  | _ => exact not_canStep_of_waits (others (by simp) (by simp) (by simp))

theorem line_progresses_early :
    ∃ state ∈ earlyState, ∃ node, (OfLine state node ∨ HandsOver state node) ∧
      CanStep (sampleConfiguration.network fun _ => some 1) node state := by
  have works : earlyState.any (fun state =>
      state.store.clientsStopped = false ∧
      0 < state.store.accepted.length ∧ 0 ∉ state.store.responded) = true := by
    decide +kernel
  obtain ⟨state, result, run, running, accepted, unanswered⟩ :=
    Reaches.exists_of_exec False (by decide) (fun _ _ _ => trivial) works
  exact ⟨state, result, line_progresses Nat.one_pos (fun _ => Nat.one_pos)
    (Nat.le_refl 1) (fun _ _ same => by cases same; exact Nat.one_pos) run running
    accepted unanswered⟩

end Configuration

end Concurrente.WebServer
