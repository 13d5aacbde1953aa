import Concurrente.Library.StopTokens
import Concurrente.WebServer.Http.UnitConservation
import Concurrente.WebServer.Http.WorkerPool

/-!
# Stop conditions

The stop conditions of the queues and the stop lines of the connections are the
tokens by which the threads of the production line end.  A connection that was
registered carries the duty to read it until the stop line of its worker.
-/

namespace Concurrente.WebServer

open Library Network

/-! ## Duties -/

@[simp] def HttpConnectionHandler.owes : HttpConnectionHandler → Nat
  | .ended => 0
  | _ => 1

@[simp] def Decomposer.owes : Decomposer → Nat
  | .ended => 0
  | _ => 1

@[simp] def Decomposer.awaits : Decomposer → Nat
  | .loop pending => pending
  | .decomposing _ pending => pending
  | .producing _ pending => pending
  | _ => 0

@[simp] def Distributor.awaits {Worker : Type} : Distributor Worker → Nat
  | .stopping => 0
  | .stoppingWorkers _ => 0
  | .stops _ => 0
  | _ => 1

@[simp] def Distributor.owesUnits {Worker : Type} (calculatorsAmount : Nat) :
    Distributor Worker → Nat
  | .stops count => count
  | _ => calculatorsAmount

@[simp] def Distributor.owesWorkers {Worker : Type} [DecidableEq Worker] :
    Distributor Worker → Worker → Nat
  | .stoppingWorkers workers => (workers.count ·)
  | .stops _ => fun _ => 0
  | _ => fun _ => 1

@[simp] def Calculator.owes {Unit : Type} : Calculator Unit → Nat
  | .ended => 0
  | _ => 1

@[simp] def Calculator.awaits {Unit : Type} : Calculator Unit → Nat
  | .lastStop => 0
  | .ended => 0
  | _ => 1

@[simp] def MasterServer.owes {Worker : Type} (maxWorkerConnections : Nat) :
    MasterServer Worker → Nat
  | .stops count => count
  | _ => maxWorkerConnections

@[simp] def WorkerConnectionHandler.owes {Worker : Type} :
    WorkerConnectionHandler Worker → Nat
  | .ended => 0
  | _ => 1

@[simp] def WorkerConnectionHandler.awaits {Worker : Type} :
    WorkerConnectionHandler Worker → Nat
  | .lastStop => 0
  | .ended => 0
  | _ => 1

@[simp] def ResponseAssembler.owes : ResponseAssembler → Nat
  | .ended => 0
  | _ => 1

@[simp] def ResponseAssembler.awaits : ResponseAssembler → Nat
  | .loop pending => pending
  | .assembling _ pending => pending
  | .producing _ pending => pending
  | _ => 0

@[simp] def ClientResponder.awaits : ClientResponder → Nat
  | .ended => 0
  | _ => 1

@[simp] def RequestServer.awaits : RequestServer → Nat
  | .stops _ => 0
  | _ => 1

@[simp] def RequestServer.owes (calculatorsAmount : Nat) : RequestServer → Nat
  | .stops count => count
  | _ => calculatorsAmount

/-- A text to be sent that looks like the stop line would be one more. -/
@[simp] def ResponseClient.owes : ResponseClient → Nat
  | .ended => 0
  | .sending text _ => if text = stopText then 2 else 1
  | _ => 1

@[simp] def ResponseClient.awaits : ResponseClient → Nat
  | .loop pending => pending
  | .sending _ pending => pending
  | _ => 0

namespace Configuration

variable (config : Configuration)

/-- The stop conditions of the queues and the stop lines of the connections. -/
@[simp] def isStop : (channel : Channel config) → config.Item channel → Bool
  | .decomposerQueue, item => item.isNone
  | .distributorQueue, item => item.isNone
  | .dataUnitsQueue, item => item.isNone
  | .workerConnectionsQueue, item => item.isNone
  | .assemblerQueue, item => item.isNone
  | .responderQueue, item => item.isNone
  | .toWorker _, text => decide (text = stopText)
  | .workerUnits _, item => item.isNone
  | .workerResponses _, item => item.isNone
  | .toMaster _, text => decide (text = stopText)

/-- The stop lines that the distributor owes to the workers. -/
@[simp] def workerStops (amount : config.Worker → Nat) : Channel config → Nat
  | .toWorker worker => amount worker
  | _ => 0

/-- The stop conditions a thread still owes. -/
@[simp] def stopsOwed : (node : Node config) → config.Thread node →
    Channel config → Nat
  | .signalHandler, _ => 0
  | .connectionHandler _, thread => Pi.single .decomposerQueue thread.owes
  | .decomposer, thread => Pi.single .distributorQueue thread.owes
  | .distributor, thread =>
      Pi.single .dataUnitsQueue (thread.owesUnits config.calculatorsAmount) +
        config.workerStops thread.owesWorkers
  | .calculator _, thread => Pi.single .assemblerQueue thread.owes
  | .masterServer, thread =>
      Pi.single .workerConnectionsQueue (thread.owes config.maxWorkerConnections)
  | .workerConnectionHandler _, thread => Pi.single .assemblerQueue thread.owes
  | .responseAssembler, thread => Pi.single .responderQueue thread.owes
  | .clientResponder, _ => 0
  | .requestServer worker, thread =>
      Pi.single (.workerUnits worker) (thread.owes (config.workerCalculators worker))
  | .workerCalculator worker _, thread =>
      Pi.single (.workerResponses worker) thread.owes
  | .responseClient worker, thread => Pi.single (.toMaster worker) thread.owes

/-- The stop lines that a thread which holds a connection awaits. -/
@[simp] def readerDuty : (node : Node config) → config.Thread node →
    Channel config → Nat
  | .masterServer, .readingPassword worker => Pi.single (.toMaster worker) 1
  | .masterServer, .adding worker => Pi.single (.toMaster worker) 1
  | .masterServer, .producing worker => Pi.single (.toMaster worker) 1
  | .workerConnectionHandler _, .reading worker => Pi.single (.toMaster worker) 1
  | .workerConnectionHandler _, .routing worker text =>
      if text = stopText then 0 else Pi.single (.toMaster worker) 1
  | .workerConnectionHandler _, .producing worker _ =>
      Pi.single (.toMaster worker) 1
  | _, _ => 0

/-- The stop conditions a thread still awaits. -/
@[simp] def stopsAwaited : (node : Node config) → config.Thread node →
    Channel config → Nat
  | .signalHandler, _ => 0
  | .connectionHandler _, _ => 0
  | .decomposer, thread => Pi.single .decomposerQueue thread.awaits
  | .distributor, thread => Pi.single .distributorQueue thread.awaits
  | .calculator _, thread => Pi.single .dataUnitsQueue thread.awaits
  | .masterServer, thread => config.readerDuty .masterServer thread
  | .workerConnectionHandler index, thread =>
      Pi.single .workerConnectionsQueue thread.awaits +
        config.readerDuty (.workerConnectionHandler index) thread
  | .responseAssembler, thread => Pi.single .assemblerQueue thread.awaits
  | .clientResponder, thread => Pi.single .responderQueue thread.awaits
  | .requestServer worker, thread => Pi.single (.toWorker worker) thread.awaits
  | .workerCalculator worker _, thread =>
      Pi.single (.workerUnits worker) thread.awaits
  | .responseClient worker, thread =>
      Pi.single (.workerResponses worker) thread.awaits

/-- A connection in a queue carries the duty to read it. -/
@[simp] def stopsCarried : (channel : Channel config) → config.Item channel →
    Channel config → Nat
  | .workerConnectionsQueue, some worker => Pi.single (.toMaster worker) 1
  | _, _ => 0

/-- Nobody reads from a worker that has not connected. -/
@[simp] def stopsVacant (connected : List config.Worker) : Channel config → Nat
  | .toMaster worker => if connected.contains worker then 0 else 1
  | _ => 0

/-- The stop conditions of the production line. -/
def stopProtocol : StopProtocol (Shared config) config.Item config.Thread where
  isStop := config.isStop
  owes := config.stopsOwed
  awaits := config.stopsAwaited
  carries := config.stopsCarried
  vacant shared := config.stopsVacant shared.connected

/-- There is a calculator in every process, and a worker connection handler if
there are workers. -/
structure Staffed : Prop where
  calculators : 0 < config.calculatorsAmount
  workerCalculators : ∀ worker, 0 < config.workerCalculators worker
  handlers : config.Worker → 0 < config.maxWorkerConnections

/-- The distributor stops the workers only when all of them are in the pool. -/
def AllRegistered (node : Node config) (state : config.State) : Prop :=
  node = .distributor → state.thread .distributor = .stopping →
    ∀ worker, worker ∈ state.store.pool

instance (node : Node config) (state : config.State) :
    Decidable (config.AllRegistered node state) :=
  inferInstanceAs (Decidable (_ → _ → _))

/-- What is known of every state: the account of the units and the pool. -/
structure Orderly (state : config.State) : Prop where
  accounted : Accounted config.applications state.store.heap
    (config.unitWeights.total state)
  pool : config.PoolKept state.store (config.poolWeights.total state) state.sent

end Configuration

section Threads

variable {config : Configuration}
  {allowed : Node config → config.State → Prop}

/-- The step of a thread in some state honors the stop conditions. -/
abbrev HonorsStops (allowed : Node config → config.State → Prop)
    (node : Node config) (thread : config.Thread node) : Prop :=
  config.stopProtocol.Honors allowed node thread (config.act node thread)

@[simp] theorem Configuration.stopProtocol_token (channel : Channel config)
    (item : config.Item channel) :
    config.stopProtocol.token channel item =
      if config.isStop channel item then Pi.single channel 1 else 0 := rfl

@[simp] theorem Configuration.stopProtocol_owes (node : Node config)
    (thread : config.Thread node) :
    config.stopProtocol.owes node thread = config.stopsOwed node thread := rfl

@[simp] theorem Configuration.stopProtocol_awaits (node : Node config)
    (thread : config.Thread node) :
    config.stopProtocol.awaits node thread = config.stopsAwaited node thread := rfl

@[simp] theorem Configuration.stopProtocol_carries (channel : Channel config)
    (item : config.Item channel) :
    config.stopProtocol.carries channel item =
      config.stopsCarried channel item := rfl

@[simp] theorem Configuration.stopProtocol_vacant (shared : Shared config) :
    config.stopProtocol.vacant shared = config.stopsVacant shared.connected := rfl

theorem SignalHandler.honorsStops (thread : SignalHandler) :
    HonorsStops allowed .signalHandler thread := by
  cases thread with
  | waiting | stoppingWorkers =>
      rintro state choice store next _ _ ⟨⟩
      exact ⟨rfl, rfl⟩
  | ended => trivial

theorem HttpConnectionHandler.honorsStops (index : Fin config.maxConnections)
    (thread : HttpConnectionHandler) :
    HonorsStops allowed (.connectionHandler index) thread := by
  cases thread with
  | consuming =>
      intro state choice store next _ _ result
      rcases consume_cases result with
        ⟨_, _, _, _, _, _, _, _, _, rfl, rfl⟩ | ⟨_, rfl, rfl⟩ <;>
        exact ⟨rfl, rfl⟩
  | producing data =>
      intro state _ _
      exact ⟨by simp, by simp, by simp⟩
  | lastStop =>
      intro state _ _
      exact ⟨by simp, by simp, by simp⟩
  | ended => trivial

theorem Calculator.honorsStops (index : Fin config.calculatorsAmount)
    (thread : Calculator DataUnit)
    (orderly : ∀ node state, allowed node state → config.Orderly state) :
    HonorsStops allowed (.calculator index) thread := by
  cases thread with
  | loop =>
      intro state item _ _ _
      cases item <;> simp
  | processing unit =>
      intro state choice store next permitted acting result
      obtain ⟨others, accounted⟩ :=
        (orderly _ _ permitted).accounted.of_thread (.calculator index)
      rw [acting] at accounted
      obtain ⟨heap, processes, _⟩ := process_spec (by simpa using accounted)
      simp only [processes, Option.some.injEq, Prod.mk.injEq] at result
      obtain ⟨rfl, rfl⟩ := result
      simp
  | producing unit =>
      intro state _ _
      simp
  | lastStop =>
      intro state _ _
      simp
  | ended | failed => trivial

theorem ClientResponder.honorsStops (thread : ClientResponder)
    (orderly : ∀ node state, allowed node state → config.Orderly state) :
    HonorsStops allowed .clientResponder thread := by
  cases thread with
  | loop =>
      intro state item _ _ _
      cases item <;> simp
  | responding data =>
      intro state choice store next permitted acting result
      obtain ⟨others, accounted⟩ :=
        (orderly _ _ permitted).accounted.of_thread .clientResponder
      rw [acting] at accounted
      obtain ⟨_, _, responds, _⟩ := respond_spec (by simpa using accounted)
      simp only [responds, Option.some.injEq, Prod.mk.injEq] at result
      obtain ⟨rfl, rfl⟩ := result
      simp
  | ended | failed => trivial

theorem ResponseAssembler.honorsStops (thread : ResponseAssembler)
    (orderly : ∀ node state, allowed node state → config.Orderly state) :
    HonorsStops allowed .responseAssembler thread := by
  cases thread with
  | loop pending =>
      cases pending with
      | zero =>
          intro state _ _
          simp
      | succ pending =>
          intro state item _ _ _
          cases item <;> simp [← Pi.single_add]
  | assembling unit pending =>
      intro state choice store next permitted acting result
      obtain ⟨others, accounted⟩ :=
        (orderly _ _ permitted).accounted.of_thread .responseAssembler
      rw [acting] at accounted
      obtain ⟨heap, after, assembles, outcome, _⟩ :=
        assemble_spec (by simpa using accounted) pending
      simp only [assembles, Option.some.injEq, Prod.mk.injEq] at result
      obtain ⟨rfl, rfl⟩ := result
      rcases outcome with rfl | rfl <;> simp
  | producing data pending =>
      intro state _ _
      simp
  | ended | failed => trivial

theorem Decomposer.honorsStops (thread : Decomposer)
    (orderly : ∀ node state, allowed node state → config.Orderly state) :
    HonorsStops allowed .decomposer thread := by
  cases thread with
  | loop pending =>
      cases pending with
      | zero =>
          intro state _ _
          simp
      | succ pending =>
          intro state item _ _ _
          cases item <;> simp [← Pi.single_add]
  | decomposing data pending =>
      intro state choice store next permitted acting result
      obtain ⟨others, accounted⟩ :=
        (orderly _ _ permitted).accounted.of_thread .decomposer
      rw [acting] at accounted
      obtain ⟨units, decomposes, _⟩ :=
        decompose_spec (by simpa using accounted) pending
      simp only [decomposes, Option.some.injEq, Prod.mk.injEq] at result
      obtain ⟨rfl, rfl⟩ := result
      simp
  | producing units pending =>
      cases units with
      | nil =>
          rintro state choice store next _ _ ⟨⟩
          simp
      | cons unit units =>
          intro state _ _
          simp
  | ended | failed => trivial

theorem MasterServer.honorsStops (thread : MasterServer config.Worker)
    (staffed : config.Staffed)
    (orderly : ∀ node state, allowed node state → config.Orderly state) :
    HonorsStops allowed .masterServer thread := by
  cases thread with
  | listening =>
      intro state choice store next _ _ result
      rcases accept_cases result with ⟨worker, _, fresh, rfl, rfl⟩ | ⟨_, rfl, rfl⟩
      · refine ⟨rfl, funext fun channel => ?_⟩
        cases channel with
        | toMaster other =>
            by_cases same : other = worker
            · subst same
              simp [fresh]
            · simp [same]
        | _ => simp
      · simp
  | readingPassword worker =>
      intro state choice store next permitted acting result
      rcases readPassword_cases result with ⟨rfl, rfl⟩ | ⟨rfl, rfl⟩
      · exact ⟨rfl, rfl⟩
      · refine ⟨rfl, funext fun channel => ?_⟩
        cases channel with
        | toMaster other =>
            by_cases same : other = worker
            · subst same
              obtain ⟨_, bound, once⟩ := (orderly _ _ permitted).pool other
              rw [config.poolWeights.total_eq_others state .masterServer,
                acting] at bound
              simp at bound
              have connected : state.store.connected.count other = 1 := by omega
              have absent : state.store.connected.count other - 1 = 0 := by omega
              rw [← List.count_erase_self, List.count_eq_zero] at absent
              have member := List.count_pos_iff.mp (by omega :
                0 < state.store.connected.count other)
              simp [absent, member]
            · simp [same, List.mem_erase_of_ne same]
        | _ => simp
  | adding worker =>
      intro state choice store next _ _ result
      simp only [Option.ite_none_left_eq_some, Option.some.injEq,
        Prod.mk.injEq] at result
      obtain ⟨_, rfl, rfl⟩ := result
      exact ⟨rfl, rfl⟩
  | producing worker =>
      intro state _ _
      simpa using staffed.handlers worker
  | stops count =>
      cases count with
      | zero => trivial
      | succ count =>
          intro state _ _
          simp [← Pi.single_add]

theorem WorkerConnectionHandler.honorsStops
    (index : Fin config.maxWorkerConnections)
    (thread : WorkerConnectionHandler config.Worker)
    (orderly : ∀ node state, allowed node state → config.Orderly state) :
    HonorsStops allowed (.workerConnectionHandler index) thread := by
  cases thread with
  | loop =>
      intro state item _ _ _
      cases item <;> simp
  | reading worker =>
      intro state text _ _ _
      by_cases stops : text = stopText <;> simp [stops]
  | routing worker text =>
      intro state choice store next permitted acting result
      by_cases stops : text = stopText
      · subst stops
        simp only [handle_stopText, Option.some.injEq, Prod.mk.injEq] at result
        obtain ⟨rfl, rfl⟩ := result
        simp
      · obtain ⟨others, accounted⟩ :=
          (orderly _ _ permitted).accounted.of_thread
            (.workerConnectionHandler index)
        rw [acting] at accounted
        obtain ⟨unit, heap, handles, _⟩ := handle_spec accounted stops worker
        simp only [handles, Option.some.injEq, Prod.mk.injEq] at result
        obtain ⟨rfl, rfl⟩ := result
        simp [stops]
  | producing worker unit =>
      intro state _ _
      simp
  | removing worker =>
      intro state choice store next _ _ result
      simp only [Option.ite_none_left_eq_some, Option.some.injEq,
        Prod.mk.injEq] at result
      obtain ⟨_, rfl, rfl⟩ := result
      simp
  | lastStop =>
      intro state _ _
      simp
  | ended | failed => trivial

theorem RequestServer.honorsStops (worker : config.Worker)
    (thread : RequestServer) (staffed : config.Staffed)
    (orderly : ∀ node state, allowed node state → config.Orderly state) :
    HonorsStops allowed (.requestServer worker) thread := by
  cases thread with
  | reading =>
      intro state text permitted _ queued
      by_cases stops : text = stopText
      · subst stops
        simp [handle_stopText]
      · obtain ⟨others, accounted⟩ :=
          (orderly _ _ permitted).accounted.of_item queued
        obtain ⟨unit, handles, _⟩ := handle_spec accounted stops worker
        simp [handles, stops]
  | producing unit =>
      intro state _ _
      simpa using staffed.workerCalculators worker
  | stops count =>
      cases count with
      | zero => trivial
      | succ count =>
          intro state _ _
          simp [← Pi.single_add]
  | failed => trivial

theorem Calculator.honorsWorkStops (worker : config.Worker)
    (index : Fin (config.workerCalculators worker))
    (thread : Calculator WorkUnit)
    (orderly : ∀ node state, allowed node state → config.Orderly state) :
    HonorsStops allowed (.workerCalculator worker index) thread := by
  cases thread with
  | loop =>
      intro state item _ _ _
      cases item <;> simp
  | processing unit =>
      intro state choice store next permitted acting result
      obtain ⟨others, accounted⟩ :=
        (orderly _ _ permitted).accounted.of_thread
          (.workerCalculator worker index)
      rw [acting] at accounted
      obtain ⟨answer, processes, _⟩ := processWork_spec (by simpa using accounted)
      simp only [processes, Option.some.injEq, Prod.mk.injEq] at result
      obtain ⟨rfl, rfl⟩ := result
      simp
  | producing unit =>
      intro state _ _
      simp
  | lastStop =>
      intro state _ _
      simp
  | ended | failed => trivial

theorem ResponseClient.honorsStops (worker : config.Worker)
    (thread : ResponseClient)
    (orderly : ∀ node state, allowed node state → config.Orderly state) :
    HonorsStops allowed (.responseClient worker) thread := by
  cases thread with
  | loop pending =>
      cases pending with
      | zero =>
          intro state _ _
          simp
      | succ pending =>
          intro state item permitted _ queued
          cases item with
          | none => simp [← Pi.single_add]
          | some unit =>
              obtain ⟨others, accounted⟩ :=
                (orderly _ _ permitted).accounted.of_item queued
              obtain ⟨text, serializes, other, _⟩ :=
                serialize_spec (by simpa using accounted) (pending + 1)
              simp [serializes, other]
  | sending text pending =>
      intro state _ _
      by_cases stops : text = stopText <;> simp [stops, ← Pi.single_add]
  | ended | failed => trivial

theorem Configuration.workerStops_count_cons (worker : config.Worker)
    (workers : List config.Worker) :
    config.workerStops (workers.count ·) + Pi.single (.toWorker worker) 1 =
      config.workerStops ((worker :: workers).count ·) := by
  funext channel
  cases channel with
  | toWorker other =>
      by_cases same : other = worker
      · subst same
        simp
      · simp [same, Ne.symm same]
  | _ => simp

theorem Distributor.honorsStops (thread : Distributor config.Worker)
    (staffed : config.Staffed)
    (orderly : ∀ node state, allowed node state → config.Orderly state)
    (registered : ∀ node state, allowed node state →
      config.AllRegistered node state) :
    HonorsStops allowed .distributor thread := by
  cases thread with
  | loop =>
      intro state item _ _ _
      cases item <;> simp
  | consuming unit =>
      intro state choice store next permitted acting result
      obtain ⟨others, accounted⟩ :=
        (orderly _ _ permitted).accounted.of_thread .distributor
      rw [acting] at accounted
      obtain ⟨rfl, ⟨worker, _, rfl⟩ | rfl⟩ := getRandomWorkerConnection_cases result
      · obtain ⟨text, serializes, _⟩ :=
          serialize_spec (by simpa using accounted) worker
        simp [serializes]
      · simp
  | sending worker unit text =>
      intro state permitted acting
      obtain ⟨others, accounted⟩ :=
        (orderly _ _ permitted).accounted.of_thread .distributor
      rw [acting] at accounted
      have other := serialized_ne_stopText (by simpa using accounted)
      simp [other]
  | producing unit =>
      intro state _ _
      simpa using staffed.calculators
  | stopping =>
      intro state choice store next permitted acting result
      simp only [Option.ite_none_left_eq_some, Option.some.injEq,
        Prod.mk.injEq] at result
      obtain ⟨_, rfl, rfl⟩ := result
      have once (worker : config.Worker) : state.store.pool.count worker = 1 := by
        obtain ⟨_, bound, once⟩ := (orderly _ _ permitted).pool worker
        have member := List.count_pos_iff.mpr
          (registered _ _ permitted rfl acting worker)
        omega
      simp [once]
  | stoppingWorkers workers =>
      cases workers with
      | nil =>
          rintro state choice store next _ _ ⟨⟩
          simp
      | cons worker workers =>
          intro state _ _
          simp [add_assoc, Configuration.workerStops_count_cons]
  | stops count =>
      cases count with
      | zero => trivial
      | succ count =>
          intro state _ _
          simp [Pi.single_add, add_right_comm]
  | failed => trivial

/-- Every step of every thread honors the stop conditions. -/
theorem Configuration.honorsStops (staffed : config.Staffed)
    (orderly : ∀ node state, allowed node state → config.Orderly state)
    (registered : ∀ node state, allowed node state →
      config.AllRegistered node state)
    (node : Node config) (thread : config.Thread node) :
    HonorsStops allowed node thread := by
  cases node with
  | signalHandler => exact SignalHandler.honorsStops thread
  | connectionHandler index =>
      exact HttpConnectionHandler.honorsStops index thread
  | decomposer => exact Decomposer.honorsStops thread orderly
  | distributor => exact Distributor.honorsStops thread staffed orderly registered
  | calculator index => exact Calculator.honorsStops index thread orderly
  | masterServer => exact MasterServer.honorsStops thread staffed orderly
  | workerConnectionHandler index =>
      exact WorkerConnectionHandler.honorsStops index thread orderly
  | responseAssembler => exact ResponseAssembler.honorsStops thread orderly
  | clientResponder => exact ClientResponder.honorsStops thread orderly
  | requestServer worker =>
      exact RequestServer.honorsStops worker thread staffed orderly
  | workerCalculator worker index =>
      exact Calculator.honorsWorkStops worker index thread orderly
  | responseClient worker => exact ResponseClient.honorsStops worker thread orderly

end Threads

/-! ## Whole runs -/

namespace Configuration

variable {config : Configuration}

/-- The threads by their kinds. -/
def nodeEquiv (config : Configuration) :
    Node config ≃ Fin 6 ⊕ Fin config.maxConnections ⊕
      Fin config.calculatorsAmount ⊕ Fin config.maxWorkerConnections ⊕
      config.Worker ⊕ (Σ worker, Fin (config.workerCalculators worker)) ⊕
      config.Worker where
  toFun
    | .signalHandler => .inl 0
    | .decomposer => .inl 1
    | .distributor => .inl 2
    | .masterServer => .inl 3
    | .responseAssembler => .inl 4
    | .clientResponder => .inl 5
    | .connectionHandler index => .inr (.inl index)
    | .calculator index => .inr (.inr (.inl index))
    | .workerConnectionHandler index => .inr (.inr (.inr (.inl index)))
    | .requestServer worker => .inr (.inr (.inr (.inr (.inl worker))))
    | .workerCalculator worker index =>
        .inr (.inr (.inr (.inr (.inr (.inl ⟨worker, index⟩)))))
    | .responseClient worker => .inr (.inr (.inr (.inr (.inr (.inr worker)))))
  invFun
    | .inl 0 => .signalHandler
    | .inl 1 => .decomposer
    | .inl 2 => .distributor
    | .inl 3 => .masterServer
    | .inl 4 => .responseAssembler
    | .inl 5 => .clientResponder
    | .inr (.inl index) => .connectionHandler index
    | .inr (.inr (.inl index)) => .calculator index
    | .inr (.inr (.inr (.inl index))) => .workerConnectionHandler index
    | .inr (.inr (.inr (.inr (.inl worker)))) => .requestServer worker
    | .inr (.inr (.inr (.inr (.inr (.inl ⟨worker, index⟩))))) =>
        .workerCalculator worker index
    | .inr (.inr (.inr (.inr (.inr (.inr worker))))) => .responseClient worker
  left_inv node := by cases node <;> rfl
  right_inv kind := by
    rcases kind with single | index | index | index | worker | ⟨worker, index⟩ | worker
    · fin_cases single <;> rfl
    all_goals rfl

/-- A sum over all threads, kind by kind. -/
theorem sum_node (f : Node config → Nat) :
    ∑ node, f node =
      f .signalHandler + f .decomposer + f .distributor + f .masterServer +
      f .responseAssembler + f .clientResponder +
      ((∑ index, f (.connectionHandler index)) + ((∑ index, f (.calculator index)) +
      ((∑ index, f (.workerConnectionHandler index)) +
      ((∑ worker, f (.requestServer worker)) +
      ((∑ worker, ∑ index, f (.workerCalculator worker index)) +
      ∑ worker, f (.responseClient worker)))))) := by
  rw [← (nodeEquiv config).symm.sum_comp]
  simp only [Fintype.sum_sum_type, Fin.sum_univ_six, Fintype.sum_sigma]
  rfl

/-- The stop conditions of each channel. -/
def expectedStops (config : Configuration) : Channel config → Nat
  | .decomposerQueue => config.maxConnections
  | .distributorQueue => 1
  | .dataUnitsQueue => config.calculatorsAmount
  | .workerConnectionsQueue => config.maxWorkerConnections
  | .assemblerQueue => config.calculatorsAmount + config.maxWorkerConnections
  | .responderQueue => 1
  | .toWorker _ => 1
  | .workerUnits worker => config.workerCalculators worker
  | .workerResponses worker => config.workerCalculators worker
  | .toMaster _ => 1

theorem owed_start : config.stopProtocol.owed config.start = config.expectedStops := by
  funext channel
  unfold StopProtocol.owed
  rw [sum_node]
  cases channel <;> simp [start, startThread, expectedStops, Pi.single_apply]

theorem awaited_start :
    config.stopProtocol.awaited config.start = config.expectedStops := by
  funext channel
  unfold StopProtocol.awaited
  rw [sum_node]
  cases channel <;> simp [start, startThread, expectedStops, Pi.single_apply]

/-- Only connections are read by threads that hold them. -/
theorem readerDuty_of_queue {node : Node config} {thread : config.Thread node}
    {channel : Channel config} (queue : ∀ worker, channel ≠ .toMaster worker) :
    config.readerDuty node thread channel = 0 := by
  unfold readerDuty
  split <;> try split
  all_goals simp [queue]

theorem stopsCarried_of_queue {other channel : Channel config}
    {item : config.Item other} (queue : ∀ worker, channel ≠ .toMaster worker) :
    config.stopsCarried other item channel = 0 := by
  unfold stopsCarried
  split <;> simp [queue]

theorem stopsCarried_of_ne {other : Channel config}
    (ne : other ≠ .workerConnectionsQueue) (item : config.Item other) :
    config.stopsCarried other item = 0 := by
  cases other <;> first | rfl | exact (ne rfl).elim

/-- The stop conditions owed to a channel, by those who write to it. -/
def writersOwe (state : config.State) : Channel config → Nat
  | .decomposerQueue =>
      ∑ index, (state.thread (.connectionHandler index)).owes
  | .distributorQueue => (state.thread .decomposer).owes
  | .dataUnitsQueue =>
      (state.thread .distributor).owesUnits config.calculatorsAmount
  | .workerConnectionsQueue =>
      (state.thread .masterServer).owes config.maxWorkerConnections
  | .assemblerQueue =>
      (∑ index, (state.thread (.calculator index)).owes) +
        ∑ index, (state.thread (.workerConnectionHandler index)).owes
  | .responderQueue => (state.thread .responseAssembler).owes
  | .toWorker worker => (state.thread .distributor).owesWorkers worker
  | .workerUnits worker =>
      (state.thread (.requestServer worker)).owes (config.workerCalculators worker)
  | .workerResponses worker =>
      ∑ index, (state.thread (.workerCalculator worker index)).owes
  | .toMaster worker => (state.thread (.responseClient worker)).owes

theorem owed_eq (state : config.State) (channel : Channel config) :
    config.stopProtocol.owed state channel = writersOwe state channel := by
  unfold StopProtocol.owed
  rw [sum_node]
  cases channel <;> simp [writersOwe, Pi.single_apply]

/-- The stop conditions awaited from a channel, by those who read it. -/
def readersAwait (state : config.State) : Channel config → Nat
  | .decomposerQueue => (state.thread .decomposer).awaits
  | .distributorQueue => (state.thread .distributor).awaits
  | .dataUnitsQueue => ∑ index, (state.thread (.calculator index)).awaits
  | .workerConnectionsQueue =>
      ∑ index, (state.thread (.workerConnectionHandler index)).awaits
  | .assemblerQueue => (state.thread .responseAssembler).awaits
  | .responderQueue => (state.thread .clientResponder).awaits
  | .toWorker worker => (state.thread (.requestServer worker)).awaits
  | .workerUnits worker =>
      ∑ index, (state.thread (.workerCalculator worker index)).awaits
  | .workerResponses worker => (state.thread (.responseClient worker)).awaits
  | .toMaster worker =>
      config.readerDuty .masterServer (state.thread .masterServer)
          (.toMaster worker) +
        (∑ index, config.readerDuty (.workerConnectionHandler index)
          (state.thread (.workerConnectionHandler index)) (.toMaster worker)) +
        ((state.queue .workerConnectionsQueue).map fun item =>
          config.stopsCarried .workerConnectionsQueue item (.toMaster worker)).sum +
        config.stopsVacant state.store.connected (.toMaster worker)

theorem awaited_eq (state : config.State) (channel : Channel config) :
    config.stopProtocol.awaited state channel = readersAwait state channel := by
  unfold StopProtocol.awaited
  rw [sum_node]
  cases channel <;> simp [readersAwait, Pi.single_apply, readerDuty_of_queue,
    stopsCarried_of_queue, -readerDuty, -stopsCarried]
  refine Finset.sum_eq_single_of_mem _ (Finset.mem_univ _) fun other _ ne => ?_
  exact List.sum_eq_zero fun weight member => by
    obtain ⟨item, _, rfl⟩ := List.mem_map.mp member
    rw [stopsCarried_of_ne ne, Pi.zero_apply]

end Configuration

section Runs

variable {config : Configuration} {capacity : Channel config → Option Nat}
  {state : config.State}

theorem Configuration.orderly {faults : Prop}
    {allowed : Node config → config.State → Prop}
    (run : Reaches (config.network capacity) faults allowed config.start state) :
    config.Orderly state :=
  ⟨config.accounted run, Configuration.poolKept run⟩

/-- In every state of every run in which all workers are registered before they
are stopped, the stop conditions add up. -/
theorem Configuration.stopsBalanced (staffed : config.Staffed)
    (run : Reaches (config.network capacity) False config.AllRegistered
      config.start state) :
    config.stopProtocol.Balanced config.expectedStops state.store
      (config.stopProtocol.weights.total state) state.sent := by
  have known := run.assuming fun _ reached => Configuration.orderly reached
  have balanced := StopProtocol.balanced known (fun _ => rfl) (fun _ => rfl) rfl
    (fun channel => by rw [owed_start, awaited_start])
    (Configuration.honorsStops staffed (fun _ _ permitted => permitted.2)
      fun _ _ permitted => permitted.1)
  rwa [owed_start] at balanced

end Runs

end Concurrente.WebServer
