import Concurrente.Library.NetworkBudget
import Concurrente.WebServer.Http.WorkerPool

/-!
# What the line has still to do

Every thread and every item of the production line gets the number of steps it
can still cause.  A step spends some of them, whatever order the threads step
in and whatever is lost, unless it brings a client request or a worker from
outside.
-/

namespace Concurrente.WebServer

open Library Network

/-- The units that an object will be decomposed into. -/
def Heap.units (heap : Heap) (address : Address) : Nat :=
  ((heap address).map CalcData.pendingQueries).getD 0

/-! ## Objects keep their units -/

namespace Heap

variable {heap after : Heap}

theorem units_update_le {address : Address} {changed : Option CalcData}
    (le : (changed.map CalcData.pendingQueries).getD 0 ≤ heap.units address)
    (other : Address) :
    units (Function.update heap address changed) other ≤ heap.units other := by
  by_cases same : other = address
  · subst same
    simpa [units] using le
  · simp [units, same]

end Heap

theorem CalcData.storeResults_pendingQueries (data : CalcData)
    (resultIndex : UInt64) (values : List Text) :
    (data.storeResults resultIndex values).1.pendingQueries =
      data.pendingQueries := by
  induction values generalizing data with
  | nil => rfl
  | cons value values ih =>
      simp only [storeResults]
      split
      · exact ih _
      · rfl

theorem CalcData.deserializeResult_pendingQueries (data : CalcData)
    (resultIndex : UInt64) (queryResult : Text) :
    (data.deserializeResult resultIndex queryResult).1.pendingQueries =
      data.pendingQueries := by
  unfold deserializeResult
  split
  · split
    · rfl
    · exact data.storeResults_pendingQueries resultIndex _
  · rfl

theorem CalcWebApp.units_deserializeResponse_le (heap : Heap) (text : Text)
    (address : Address) :
    (deserializeResponse heap text).1.units address ≤ heap.units address := by
  unfold deserializeResponse
  split
  · exact Nat.le_refl _
  · dsimp only
    split
    · exact Nat.le_refl _
    · split
      · exact Nat.le_refl _
      · split
        · exact Nat.le_refl _
        · rename_i data live
          apply Heap.units_update_le
          simp [Heap.units, live, CalcData.deserializeResult_pendingQueries]

theorem HttpApp.units_deserializeResponse_le (app : HttpApp) (heap : Heap)
    (text : Text) (address : Address) :
    (app.deserializeResponse heap text).1.units address ≤ heap.units address := by
  rcases app with _ | app
  · exact Nat.le_refl _
  · exact CalcWebApp.units_deserializeResponse_le heap text address

theorem WorkerConnectionHandler.units_route_le (applications : List HttpApp)
    (heap : Heap) (lines : List Text) (address : Address) :
    (route applications heap lines).heap.units address ≤ heap.units address := by
  cases lines with
  | nil => exact Nat.le_refl _
  | cons line lines =>
      simp only [route]
      split
      · exact Nat.le_refl _
      · exact Nat.le_refl _
      · split
        · exact Nat.le_refl _
        · rename_i app _
          split
          · exact Nat.le_refl _
          · have kept := app.units_deserializeResponse_le heap
              (joinLines (lines.take responseBufferLinesCount)) address
            split <;> simpa only [*] using kept

theorem CalcData.processQuery_pendingQueries {applications : List HttpApp}
    {data processed : CalcData} {index : UInt64}
    (result : data.processQuery applications index = .ok processed) :
    processed.pendingQueries = data.pendingQueries := by
  unfold processQuery at result
  split at result
  · cases result
    rfl
  · cases result

section Objects

variable {config : Configuration} (shared : Shared config)

theorem Calculator.units_process_le (unit : DataUnit) (address : Address) :
    (process unit shared).1.heap.units address ≤ shared.heap.units address := by
  unfold process
  split
  · exact Nat.le_refl _
  · rename_i data live
    split
    · rename_i processed result
      apply Heap.units_update_le
      simp [Heap.units, live, CalcData.processQuery_pendingQueries result]
    · exact Nat.le_refl _

theorem ResponseAssembler.units_assemble_le (unit : DataUnit) (pending : Nat)
    (address : Address) :
    (assemble unit pending shared).1.heap.units address ≤
      shared.heap.units address := by
  unfold assemble
  split
  · exact Nat.le_refl _
  · rename_i data live
    apply Heap.units_update_le
    simp only [Heap.units, live, Option.map_some, Option.getD_some,
      CalcData.markUnitReady]
    split <;> omega

theorem ClientResponder.units_respond_le (data : Address) (address : Address) :
    (respond data shared).1.heap.units address ≤ shared.heap.units address := by
  unfold respond
  split
  · exact Nat.le_refl _
  · apply Heap.units_update_le
    simp

theorem WorkerConnectionHandler.units_handle_le (worker : config.Worker)
    (text : Text) (address : Address) :
    (handle worker text shared).1.heap.units address ≤
      shared.heap.units address :=
  units_route_le config.applications shared.heap (linesOf text) address

end Objects

/-! ## Weights -/

@[simp] def SignalHandler.budget : SignalHandler → Nat
  | .waiting => 2
  | .stoppingWorkers => 1
  | .ended => 0

/-- `units` tells how many units an object has. -/
@[simp] def HttpConnectionHandler.budget (units : Address → Nat) :
    HttpConnectionHandler → Nat
  | .consuming => 2
  | .producing data => 19 * units data + 6
  | .lastStop => 1
  | .ended => 0

@[simp] def Decomposer.budget (units : Address → Nat) : Decomposer → Nat
  | .loop pending => pending + 1
  | .decomposing data pending => pending + 19 * units data + 3
  | .producing queued pending => pending + 19 * queued.length + 2
  | .ended => 0
  | .failed _ => 0

/-- The distributor will send a stop condition to every worker and to every
calculator. -/
@[simp] def Distributor.budget {Worker : Type} (connected calculators : Nat) :
    Distributor Worker → Nat
  | .loop => 16 * connected + calculators + 3
  | .consuming _ => 16 * connected + calculators + 20
  | .sending _ _ _ => 16 * connected + calculators + 19
  | .producing _ => 16 * connected + calculators + 12
  | .stopping => 16 * connected + calculators + 2
  | .stoppingWorkers workers => 16 * workers.length + calculators + 1
  | .stops count => count
  | .failed _ => 0

/-- `output` is the weight of a unit that has been processed. -/
@[simp] def Calculator.budget {Unit : Type} (output : Nat) :
    Calculator Unit → Nat
  | .loop => 2
  | .processing _ => output + 4
  | .producing _ => output + 3
  | .lastStop => 1
  | .ended => 0
  | .failed _ => 0

@[simp] def MasterServer.budget {Worker : Type} (handlers : Nat) :
    MasterServer Worker → Nat
  | .listening => handlers + 1
  | .readingPassword _ => handlers + 7
  | .adding _ => handlers + 6
  | .producing _ => handlers + 5
  | .stops count => count

@[simp] def WorkerConnectionHandler.budget {Worker : Type} :
    WorkerConnectionHandler Worker → Nat
  | .loop => 2
  | .reading _ => 4
  | .routing _ _ => 11
  | .producing _ _ => 10
  | .removing _ => 3
  | .lastStop => 1
  | .ended => 0
  | .failed _ => 0

@[simp] def ResponseAssembler.budget : ResponseAssembler → Nat
  | .loop pending => pending + 1
  | .assembling _ pending => pending + 5
  | .producing _ pending => pending + 4
  | .ended => 0
  | .failed _ => 0

@[simp] def ClientResponder.budget : ClientResponder → Nat
  | .loop => 1
  | .responding _ => 2
  | .ended => 0
  | .failed _ => 0

@[simp] def RequestServer.budget (calculators : Nat) : RequestServer → Nat
  | .reading => calculators + 1
  | .producing _ => calculators + 15
  | .stops count => count
  | .failed _ => 0

@[simp] def ResponseClient.budget : ResponseClient → Nat
  | .loop pending => pending + 9
  | .sending _ pending => pending + 18
  | .ended => 0
  | .failed _ => 0

namespace Configuration

variable {config : Configuration}

/-- The steps that an item causes. -/
@[simp] def itemBudget (units : Address → Nat) :
    (channel : Channel config) → config.Item channel → Nat
  | .decomposerQueue, some data => 19 * units data + 3
  | .distributorQueue, some _ => 18
  | .dataUnitsQueue, some _ => 8
  | .workerConnectionsQueue, some _ => 3
  | .assemblerQueue, some _ => 5
  | .responderQueue, some _ => 2
  | .toWorker _, _ => 15
  | .workerUnits _, some _ => 13
  | .workerResponses _, some _ => 10
  | .toMaster _, _ => 8
  | _, _ => 0

/-- The steps that a thread takes, and those that its items cause. -/
@[simp] def threadBudget (units : Address → Nat) (connected : Nat) :
    (node : Node config) → config.Thread node → Nat
  | .signalHandler, thread => thread.budget
  | .connectionHandler _, thread => thread.budget units
  | .decomposer, thread => thread.budget units
  | .distributor, thread => thread.budget connected config.calculatorsAmount
  | .calculator _, thread => thread.budget 5
  | .masterServer, thread => thread.budget config.maxWorkerConnections
  | .workerConnectionHandler _, thread => thread.budget
  | .responseAssembler, thread => thread.budget
  | .clientResponder, thread => thread.budget
  | .requestServer worker, thread => thread.budget (config.workerCalculators worker)
  | .workerCalculator _ _, thread => thread.budget 10
  | .responseClient _, thread => thread.budget

/-- The weights, as the objects and the connected workers determine them. -/
def lineWeights (shared : Shared config) :
    Weights config.Item config.Thread Nat where
  item := itemBudget shared.heap.units
  thread := threadBudget shared.heap.units shared.connected.length
  lost _ _ _ := 0

@[simp] theorem lineWeights_item (shared : Shared config) :
    (lineWeights shared).item = itemBudget shared.heap.units := rfl

@[simp] theorem lineWeights_thread (shared : Shared config) :
    (lineWeights shared).thread =
      threadBudget shared.heap.units shared.connected.length := rfl

@[simp] theorem lineWeights_lost (shared : Shared config) (channel : Channel config)
    (item : config.Item channel) (reported : Bool) :
    (lineWeights shared).lost channel item reported = 0 := rfl

/-- Neither a client request nor a worker comes from outside. -/
structure Quiet (shared after : Shared config) : Prop where
  accepted : after.accepted = shared.accepted
  connected : after.connected.length ≤ shared.connected.length

/-- The weights fall with the units of the objects and with the workers. -/
theorem lineWeights_le {shared after : Shared config}
    (units : ∀ address, after.heap.units address ≤ shared.heap.units address)
    (connected : after.connected.length ≤ shared.connected.length) :
    (lineWeights after).Le (lineWeights shared) where
  item channel item := by
    cases channel with
    | decomposerQueue =>
        cases item with
        | none => exact Nat.le_refl _
        | some data =>
            have le := units data
            simp only [lineWeights_item, itemBudget]
            omega
    | toWorker | toMaster => exact Nat.le_refl _
    | _ => cases item <;> exact Nat.le_refl _
  thread node thread := by
    cases node with
    | connectionHandler =>
        cases thread with
        | producing data =>
            have le := units data
            simp only [lineWeights_thread, threadBudget,
              HttpConnectionHandler.budget]
            omega
        | consuming | lastStop | ended => exact Nat.le_refl _
    | decomposer =>
        cases thread with
        | decomposing data =>
            have le := units data
            simp only [lineWeights_thread, threadBudget, Decomposer.budget]
            omega
        | loop | producing | ended | failed => exact Nat.le_refl _
    | distributor =>
        cases thread <;>
          simp only [lineWeights_thread, threadBudget, Distributor.budget,
            Nat.le_refl] <;> omega
    | _ => exact Nat.le_refl _
  lost _ _ _ := Nat.le_refl _

/-- An action spends, unless it brings something from outside. -/
abbrev SpendsLine (shared : Shared config) (node : Node config)
    (thread : config.Thread node) : Prop :=
  Spends lineWeights Quiet shared node thread (config.act node thread)

/-- A step that leaves the objects and the roster alone. -/
theorem lineWeights_le_of_eq {shared after : Shared config}
    (heap : after.heap = shared.heap) (connected : after.connected = shared.connected) :
    (lineWeights after).Le (lineWeights shared) :=
  lineWeights_le (fun _ => heap ▸ Nat.le_refl _) (connected ▸ Nat.le_refl _)

end Configuration

/-! ## Every thread spends -/

open WebServer.Configuration (SpendsLine lineWeights lineWeights_le
  lineWeights_le_of_eq lineWeights_thread threadBudget)

section Threads

variable {config : Configuration} (shared : Shared config)

theorem SignalHandler.spends (thread : SignalHandler) :
    SpendsLine shared .signalHandler thread := by
  cases thread with
  | waiting | stoppingWorkers =>
      rintro choice after next ⟨⟩ _
      constructor
      · exact lineWeights_le_of_eq rfl rfl
      · simp
  | ended => trivial

theorem HttpConnectionHandler.spends (index : Fin config.maxConnections)
    (thread : HttpConnectionHandler) :
    SpendsLine shared (.connectionHandler index) thread := by
  cases thread with
  | consuming =>
      intro choice after next result quiet
      rcases consume_cases result with
        ⟨_, _, _, _, _, _, _, _, _, rfl, _⟩ | ⟨_, rfl, rfl⟩
      · have same := quiet.accepted
        simp at same
      · constructor
        · exact lineWeights_le_of_eq rfl rfl
        · simp
  | producing data =>
      constructor
      · simp
        omega
      · intro reported
        simp
  | lastStop =>
      constructor
      · simp
      · intro reported
        simp
  | ended => trivial

theorem Decomposer.spends (thread : Decomposer) :
    SpendsLine shared .decomposer thread := by
  cases thread with
  | loop pending =>
      cases pending with
      | zero =>
          constructor
          · simp
          · intro reported
            simp
      | succ pending =>
          constructor
          · simp
          · intro item
            cases item with
            | none => simp
            | some data =>
                simp
                omega
  | decomposing data pending =>
      rintro choice after next ⟨⟩ _
      constructor
      · exact lineWeights_le_of_eq rfl rfl
      · unfold decompose
        cases live : shared.heap data with
        | none => simp
        | some calcData => simp [CalcData.decompose, Heap.units, live]
  | producing units pending =>
      cases units with
      | nil =>
          rintro choice after next ⟨⟩ _
          constructor
          · exact lineWeights_le_of_eq rfl rfl
          · simp
      | cons unit units =>
          constructor
          · simp
            omega
          · intro reported
            simp
  | ended | failed => trivial

theorem Distributor.budget_serialize_le (unit : DataUnit) (worker : config.Worker) :
    (serialize shared unit worker).budget shared.connected.length
        config.calculatorsAmount ≤
      16 * shared.connected.length + config.calculatorsAmount + 19 := by
  unfold serialize
  split
  · simp
  · split
    · simp
    · split <;> simp

theorem Distributor.spends (known : shared.pool.length ≤ shared.connected.length)
    (thread : Distributor config.Worker) :
    SpendsLine shared .distributor thread := by
  cases thread with
  | loop =>
      constructor
      · simp
      · intro item
        cases item <;> simp
  | consuming unit =>
      intro choice after next result _
      obtain ⟨same, ⟨worker, _, picked⟩ | none⟩ :=
        getRandomWorkerConnection_cases result
      · rw [same, picked]
        constructor
        · exact .refl _
        · exact Nat.lt_succ_of_le (budget_serialize_le shared unit worker)
      · rw [same, none]
        constructor
        · exact .refl _
        · simp
  | sending worker unit text =>
      constructor
      · simp
      · intro reported
        cases reported <;> simp
  | producing unit =>
      constructor
      · simp
      · intro reported
        simp
  | stopping =>
      intro choice after next result _
      simp only [Option.ite_none_left_eq_some, Option.some.injEq,
        Prod.mk.injEq] at result
      obtain ⟨_, rfl, rfl⟩ := result
      constructor
      · exact lineWeights_le_of_eq rfl rfl
      · simp only [lineWeights_thread, threadBudget, budget]
        omega
  | stoppingWorkers workers =>
      cases workers with
      | nil =>
          rintro choice after next ⟨⟩ _
          constructor
          · exact lineWeights_le_of_eq rfl rfl
          · simp
      | cons worker workers =>
          constructor
          · simp
            omega
          · intro reported
            simp
  | stops count =>
      cases count with
      | zero => trivial
      | succ count =>
          constructor
          · simp
          · intro reported
            simp
  | failed => trivial

theorem Calculator.budget_process_le (unit : DataUnit) :
    (process unit shared).2.budget 5 ≤ 8 := by
  unfold process
  split
  · simp
  · split <;> simp

theorem Calculator.spends (index : Fin config.calculatorsAmount)
    (thread : Calculator DataUnit) : SpendsLine shared (.calculator index) thread := by
  cases thread with
  | loop =>
      constructor
      · simp
      · intro item
        cases item <;> simp
  | processing unit =>
      intro choice after next result _
      have le := budget_process_le shared unit
      have units := units_process_le shared unit
      obtain ⟨heap, same⟩ := process_fst unit shared
      have outcome := Option.some.inj result
      rw [outcome] at same units le
      subst same
      constructor
      · exact lineWeights_le units (Nat.le_refl _)
      · exact Nat.lt_succ_of_le le
  | producing | lastStop =>
      constructor
      · simp
      · intro reported
        simp
  | ended | failed => trivial

theorem MasterServer.spends (thread : MasterServer config.Worker) :
    SpendsLine shared .masterServer thread := by
  cases thread with
  | listening =>
      intro choice after next result quiet
      rcases accept_cases result with ⟨worker, _, _, rfl, _⟩ | ⟨_, rfl, rfl⟩
      · have fewer := quiet.connected
        simp at fewer
      · constructor
        · exact .refl _
        · simp
  | readingPassword worker =>
      intro choice after next result _
      rcases readPassword_cases result with ⟨rfl, rfl⟩ | ⟨rfl, rfl⟩
      · constructor
        · exact .refl _
        · simp
      · constructor
        · exact lineWeights_le (fun _ => Nat.le_refl _) List.length_erase_le
        · simp
  | adding worker =>
      intro choice after next result _
      simp only [Option.ite_none_left_eq_some, Option.some.injEq,
        Prod.mk.injEq] at result
      obtain ⟨_, rfl, rfl⟩ := result
      constructor
      · exact lineWeights_le_of_eq rfl rfl
      · simp
  | producing worker =>
      constructor
      · simp
      · intro reported
        simp
  | stops count =>
      cases count with
      | zero => trivial
      | succ count =>
          constructor
          · simp
          · intro reported
            simp

theorem WorkerConnectionHandler.budget_handle_le (worker : config.Worker)
    (text : Text) : (handle worker text shared).2.budget ≤ 10 := by
  obtain ⟨heap, next, handles, unit | removing | fault⟩ :=
    handle_cases worker text shared
  · obtain ⟨unit, rfl⟩ := unit
    simp [handles]
  · simp [handles, removing]
  · obtain ⟨fault, rfl⟩ := fault
    simp [handles]

theorem WorkerConnectionHandler.spends (index : Fin config.maxWorkerConnections)
    (thread : WorkerConnectionHandler config.Worker) :
    SpendsLine shared (.workerConnectionHandler index) thread := by
  cases thread with
  | loop =>
      constructor
      · simp
      · intro item
        cases item <;> simp
  | reading worker =>
      constructor
      · simp
      · intro text
        simp
  | routing worker text =>
      intro choice after next result _
      have le := budget_handle_le shared worker text
      have units := units_handle_le shared worker text
      obtain ⟨heap, _, same, _⟩ := handle_cases worker text shared
      have outcome := Option.some.inj result
      rw [outcome] at same units le
      cases same
      constructor
      · exact lineWeights_le units (Nat.le_refl _)
      · exact Nat.lt_succ_of_le le
  | producing | lastStop =>
      constructor
      · simp
      · intro reported
        simp
  | removing worker =>
      intro choice after next result _
      simp only [Option.ite_none_left_eq_some, Option.some.injEq,
        Prod.mk.injEq] at result
      obtain ⟨_, rfl, rfl⟩ := result
      constructor
      · exact lineWeights_le_of_eq rfl rfl
      · simp
  | ended | failed => trivial

theorem ResponseAssembler.budget_assemble_le (unit : DataUnit) (pending : Nat) :
    (assemble unit pending shared).2.budget ≤ pending + 4 := by
  unfold assemble
  split
  · simp
  · dsimp only
    split <;> simp

theorem ResponseAssembler.spends (thread : ResponseAssembler) :
    SpendsLine shared .responseAssembler thread := by
  cases thread with
  | loop pending =>
      cases pending with
      | zero =>
          constructor
          · simp
          · intro reported
            simp
      | succ pending =>
          constructor
          · simp
          · intro item
            cases item <;> simp
  | assembling unit pending =>
      intro choice after next result _
      have le := budget_assemble_le shared unit pending
      have units := units_assemble_le shared unit pending
      obtain ⟨heap, same⟩ := assemble_fst unit pending shared
      have outcome := Option.some.inj result
      rw [outcome] at same units le
      subst same
      constructor
      · exact lineWeights_le units (Nat.le_refl _)
      · exact Nat.lt_succ_of_le le
  | producing data pending =>
      constructor
      · simp
      · intro reported
        simp
  | ended | failed => trivial

theorem ClientResponder.budget_respond_le (data : Address) :
    (respond data shared).2.budget ≤ 1 := by
  unfold respond
  split <;> simp

theorem ClientResponder.spends (thread : ClientResponder) :
    SpendsLine shared .clientResponder thread := by
  cases thread with
  | loop =>
      constructor
      · simp
      · intro item
        cases item <;> simp
  | responding data =>
      intro choice after next result _
      have le := budget_respond_le shared data
      have units := units_respond_le shared data
      obtain ⟨heap, responded, same⟩ := respond_fst data shared
      have outcome := Option.some.inj result
      rw [outcome] at same units le
      subst same
      constructor
      · exact lineWeights_le units (Nat.le_refl _)
      · exact Nat.lt_succ_of_le le
  | ended | failed => trivial

theorem RequestServer.budget_handle_le (worker : config.Worker) (text : Text) :
    (handle worker text).budget (config.workerCalculators worker) ≤
      config.workerCalculators worker + 15 := by
  unfold handle
  split <;> simp

theorem RequestServer.spends (worker : config.Worker) (thread : RequestServer) :
    SpendsLine shared (.requestServer worker) thread := by
  cases thread with
  | reading =>
      constructor
      · simp
      · intro text
        exact Nat.lt_succ_of_le (budget_handle_le worker text)
  | producing unit =>
      constructor
      · simp
      · intro reported
        simp
  | stops count =>
      cases count with
      | zero => trivial
      | succ count =>
          constructor
          · simp
          · intro reported
            simp
  | failed => trivial

theorem Calculator.budget_processWork_le (applications : List HttpApp)
    (unit : WorkUnit) : (processWork applications unit).budget 10 ≤ 13 := by
  unfold processWork
  split <;> simp

theorem Calculator.spendsWork (worker : config.Worker)
    (index : Fin (config.workerCalculators worker)) (thread : Calculator WorkUnit) :
    SpendsLine shared (.workerCalculator worker index) thread := by
  cases thread with
  | loop =>
      constructor
      · simp
      · intro item
        cases item <;> simp
  | processing unit =>
      rintro choice after next ⟨⟩ _
      constructor
      · exact .refl _
      · exact Nat.lt_succ_of_le (budget_processWork_le config.applications unit)
  | producing | lastStop =>
      constructor
      · simp
      · intro reported
        simp
  | ended | failed => trivial

theorem ResponseClient.budget_serialize_le (unit : WorkUnit) (pending : Nat) :
    (serialize unit pending).budget ≤ pending + 18 := by
  unfold serialize
  split <;> simp

theorem ResponseClient.spends (worker : config.Worker) (thread : ResponseClient) :
    SpendsLine shared (.responseClient worker) thread := by
  cases thread with
  | loop pending =>
      cases pending with
      | zero =>
          constructor
          · simp
          · intro reported
            simp
      | succ pending =>
          constructor
          · simp
          · intro item
            cases item with
            | none => simp
            | some unit =>
                exact Nat.lt_succ_of_le (budget_serialize_le unit (pending + 1))
  | sending text pending =>
      constructor
      · simp
      · intro reported
        simp
  | ended | failed => trivial

/-- Every action of every thread spends. -/
theorem Configuration.spends (known : shared.pool.length ≤ shared.connected.length)
    (node : Node config) (thread : config.Thread node) :
    SpendsLine shared node thread := by
  cases node with
  | signalHandler => exact SignalHandler.spends shared thread
  | connectionHandler index => exact HttpConnectionHandler.spends shared index thread
  | decomposer => exact Decomposer.spends shared thread
  | distributor => exact Distributor.spends shared known thread
  | calculator index => exact Calculator.spends shared index thread
  | masterServer => exact MasterServer.spends shared thread
  | workerConnectionHandler index =>
      exact WorkerConnectionHandler.spends shared index thread
  | responseAssembler => exact ResponseAssembler.spends shared thread
  | clientResponder => exact ClientResponder.spends shared thread
  | requestServer worker => exact RequestServer.spends shared worker thread
  | workerCalculator worker index => exact Calculator.spendsWork shared worker index thread
  | responseClient worker => exact ResponseClient.spends shared worker thread

end Threads

end Concurrente.WebServer
