import Concurrente.WebServer.Http.ProductionLine

/-!
# Steps of single threads

What a thread of the production line can do in one step, for the threads that
depend on what happens outside.
-/

namespace Concurrente.WebServer

variable {config : Configuration}

/-- The two ways in which a handler goes on. -/
theorem HttpConnectionHandler.consume_cases {choice : Choice config}
    {shared after : Shared config} {next : HttpConnectionHandler}
    (result : consume choice shared = some (after, next)) :
    (∃ appIndex queries address app,
      config.applications[appIndex.toNat]? = some (.calc app) ∧
      queries ≠ [] ∧ queries.length < 2 ^ 64 ∧ address ≠ 0 ∧
      shared.heap address = none ∧
      after = { shared with
        heap := Function.update shared.heap address
          (some (.ofRequest shared.accepted.length appIndex queries))
        accepted := shared.accepted ++ [(appIndex, queries)] } ∧
      next = .producing address) ∨
    (shared.clientsStopped = true ∧ after = shared ∧ next = .lastStop) := by
  cases choice with
  | accept appIndex queries address =>
      simp only [consume] at result
      split at result
      · split at result
        · rename_i app application guards
          simp only [Option.some.injEq, Prod.mk.injEq] at result
          exact .inl ⟨appIndex, queries, address, app, application, guards.1,
            guards.2.1, guards.2.2.1, guards.2.2.2, result.1.symm, result.2.symm⟩
        · cases result
      · cases result
  | stop =>
      simp only [consume] at result
      split at result
      · simp only [Option.some.injEq, Prod.mk.injEq] at result
        exact .inr ⟨‹_›, result.1.symm, result.2.symm⟩
      · cases result
  | proceed | worker | password => cases result

/-- What a handler does with a request of a concurrent application. -/
theorem HttpConnectionHandler.consume_accept {appIndex : UInt64}
    {queries : List Int64} {address : Address} {shared after : Shared config}
    {next : HttpConnectionHandler}
    (result : consume (.accept appIndex queries address) shared =
      some (after, next)) :
    after = { shared with
      heap := Function.update shared.heap address
        (some (.ofRequest shared.accepted.length appIndex queries))
      accepted := shared.accepted ++ [(appIndex, queries)] } ∧
      next = .producing address := by
  simp only [consume] at result
  split at result
  · split at result
    · simp only [Option.some.injEq, Prod.mk.injEq] at result
      exact ⟨result.1.symm, result.2.symm⟩
    · cases result
  · cases result

/-- The distributor picks a worker of the pool, or none is there. -/
theorem Distributor.getRandomWorkerConnection_cases {unit : DataUnit}
    {choice : Choice config} {shared after : Shared config}
    {next : Distributor config.Worker}
    (result : getRandomWorkerConnection unit choice shared = some (after, next)) :
    after = shared ∧
      ((∃ worker ∈ shared.pool, next = serialize shared unit worker) ∨
        next = .producing unit) := by
  cases choice with
  | worker worker =>
      simp only [getRandomWorkerConnection] at result
      split at result
      · simp only [Option.some.injEq, Prod.mk.injEq] at result
        exact ⟨result.1.symm, .inl ⟨worker, ‹_›, result.2.symm⟩⟩
      · cases result
  | proceed | accept | password | stop =>
      simp only [getRandomWorkerConnection] at result
      split at result
      · simp only [Option.some.injEq, Prod.mk.injEq] at result
        exact ⟨result.1.symm, .inr result.2.symm⟩
      · cases result

/-- A worker connects, or the listener has stopped. -/
theorem MasterServer.accept_cases {choice : Choice config}
    {shared after : Shared config} {next : MasterServer config.Worker}
    (result : accept choice shared = some (after, next)) :
    (∃ worker, shared.workersStopped = false ∧ worker ∉ shared.connected ∧
      after = { shared with connected := worker :: shared.connected } ∧
      next = .readingPassword worker) ∨
    (shared.workersStopped = true ∧ after = shared ∧
      next = .stops config.maxWorkerConnections) := by
  cases choice with
  | worker worker =>
      simp only [accept, Option.ite_none_right_eq_some, Option.some.injEq,
        Prod.mk.injEq] at result
      obtain ⟨⟨running, fresh⟩, rfl, rfl⟩ := result
      exact .inl ⟨worker, running, fresh, rfl, rfl⟩
  | stop =>
      simp only [accept, Option.ite_none_right_eq_some, Option.some.injEq,
        Prod.mk.injEq] at result
      obtain ⟨stopped, rfl, rfl⟩ := result
      exact .inr ⟨stopped, rfl, rfl⟩
  | proceed | accept | password => cases result

/-- The password is right, or the connection is dropped. -/
theorem MasterServer.readPassword_cases {worker : config.Worker}
    {choice : Choice config} {shared after : Shared config}
    {next : MasterServer config.Worker}
    (result : readPassword worker choice shared = some (after, next)) :
    (after = shared ∧ next = .adding worker) ∨
    (after = { shared with connected := shared.connected.erase worker } ∧
      next = .listening) := by
  cases choice with
  | password correct =>
      cases correct <;> cases result
      · exact .inr ⟨rfl, rfl⟩
      · exact .inl ⟨rfl, rfl⟩
  | proceed | accept | worker | stop => cases result

/-! ## What threads leave alone -/

theorem Calculator.process_fst (unit : DataUnit) (shared : Shared config) :
    ∃ heap, (process unit shared).1 = { shared with heap } := by
  unfold process
  split
  · exact ⟨shared.heap, rfl⟩
  · split
    · exact ⟨_, rfl⟩
    · exact ⟨shared.heap, rfl⟩

theorem ResponseAssembler.assemble_fst (unit : DataUnit) (pending : Nat)
    (shared : Shared config) :
    ∃ heap, (assemble unit pending shared).1 = { shared with heap } := by
  unfold assemble
  split
  · exact ⟨shared.heap, rfl⟩
  · exact ⟨_, rfl⟩

theorem ClientResponder.respond_fst (data : Address) (shared : Shared config) :
    ∃ heap responded,
      (respond data shared).1 = { shared with heap, responded } := by
  unfold respond
  split
  · exact ⟨shared.heap, shared.responded, rfl⟩
  · exact ⟨_, _, rfl⟩

theorem WorkerConnectionHandler.handle_cases (worker : config.Worker)
    (text : Text) (shared : Shared config) :
    ∃ heap next, handle worker text shared = ({ shared with heap }, next) ∧
      ((∃ unit, next = .producing worker unit) ∨ next = .removing worker ∨
        ∃ fault, next = .failed fault) := by
  refine ⟨_, _, rfl, ?_⟩
  split
  · exact .inl ⟨_, rfl⟩
  · exact .inr (.inl rfl)
  · exact .inr (.inr ⟨_, rfl⟩)

/-- The workers that are in the pool, and those that have connected. -/
def Shared.roster (shared : Shared config) :
    List config.Worker × List config.Worker :=
  (shared.pool, shared.connected)

/-- Which listeners have been stopped. -/
def Shared.signals (shared : Shared config) : Bool × Bool :=
  (shared.clientsStopped, shared.workersStopped)

/-- The threads that change the roster. -/
def Configuration.managesWorkers : Node config → Bool
  | .masterServer => true
  | .workerConnectionHandler _ => true
  | _ => false

/-- The threads that accept client requests. -/
def Configuration.acceptsRequests : Node config → Bool
  | .connectionHandler _ => true
  | _ => false

/-- What a thread leaves alone, except the objects, their answers and what it is
there to change. -/
structure Configuration.Frame (node : Node config)
    (shared after : Shared config) : Prop where
  roster : managesWorkers node = false → after.roster = shared.roster
  accepted : acceptsRequests node = false → after.accepted = shared.accepted
  signals : node ≠ .signalHandler → after.signals = shared.signals
  poolLocked : node ≠ .distributor → after.poolLocked = shared.poolLocked

/-- The channels that a thread uses. -/
def Configuration.uses : Node config → Channel config → Prop
  | .signalHandler, _ => False
  | .connectionHandler _, channel => channel = .decomposerQueue
  | .decomposer, channel =>
      channel = .decomposerQueue ∨ channel = .distributorQueue
  | .distributor, channel =>
      channel = .distributorQueue ∨ channel = .dataUnitsQueue ∨
        ∃ worker, channel = .toWorker worker
  | .calculator _, channel =>
      channel = .dataUnitsQueue ∨ channel = .assemblerQueue
  | .masterServer, channel => channel = .workerConnectionsQueue
  | .workerConnectionHandler _, channel =>
      channel = .workerConnectionsQueue ∨ channel = .assemblerQueue ∨
        ∃ worker, channel = .toMaster worker
  | .responseAssembler, channel =>
      channel = .assemblerQueue ∨ channel = .responderQueue
  | .clientResponder, channel => channel = .responderQueue
  | .requestServer worker, channel =>
      channel = .toWorker worker ∨ channel = .workerUnits worker
  | .workerCalculator worker _, channel =>
      channel = .workerUnits worker ∨ channel = .workerResponses worker
  | .responseClient worker, channel =>
      channel = .workerResponses worker ∨ channel = .toMaster worker

namespace Configuration

/-- The worker at whose end of its connection a channel is. -/
def channelWorker : Channel config → Option config.Worker
  | .toWorker worker => some worker
  | .workerUnits worker => some worker
  | .workerResponses worker => some worker
  | .toMaster worker => some worker
  | _ => none

/-- The worker that runs a thread. -/
def nodeWorker : Node config → Option config.Worker
  | .requestServer worker => some worker
  | .workerCalculator worker _ => some worker
  | .responseClient worker => some worker
  | _ => none

end Configuration

open Library Network

theorem Configuration.Frame.refl (node : Node config) (shared : Shared config) :
    Frame node shared shared :=
  ⟨fun _ => rfl, fun _ => rfl, fun _ => rfl, fun _ => rfl⟩

/-- A step that changes objects and their answers only. -/
theorem Configuration.Frame.of_objects {Thread : Type} {node : Node config}
    {shared after : Shared config} {next : Thread}
    {step : Shared config × Thread} {heap : Heap} {responded : List Nat}
    (result : some step = some (after, next))
    (same : step.1 = { shared with heap, responded }) :
    Frame node shared after := by
  cases result
  cases same
  exact ⟨fun _ => rfl, fun _ => rfl, fun _ => rfl, fun _ => rfl⟩

/-- What a thread works on and which channels it uses. -/
theorem Configuration.act_within (node : Node config)
    (thread : config.Thread node) :
    Within (uses node) (Frame node) (config.act node thread) := by
  cases node with
  | signalHandler =>
      cases thread with
      | waiting | stoppingWorkers =>
          rintro choice store after next ⟨⟩
          exact ⟨fun _ => rfl, fun _ => rfl, fun other => (other rfl).elim,
            fun _ => rfl⟩
      | ended => trivial
  | connectionHandler index =>
      cases thread with
      | consuming =>
          intro choice store after next result
          rcases HttpConnectionHandler.consume_cases result with
            ⟨_, _, _, _, _, _, _, _, _, rfl, _⟩ | ⟨_, rfl, _⟩
          · exact ⟨fun _ => rfl, fun other => Bool.noConfusion other,
              fun _ => rfl, fun _ => rfl⟩
          · exact .refl ..
      | producing | lastStop => exact rfl
      | ended => trivial
  | decomposer =>
      cases thread with
      | loop pending => cases pending <;> simp [act, Decomposer.act, Within, uses]
      | decomposing =>
          rintro choice store after next ⟨⟩
          exact .refl ..
      | producing units =>
          cases units with
          | nil =>
              rintro choice store after next ⟨⟩
              exact .refl ..
          | cons => exact .inr rfl
      | ended | failed => trivial
  | distributor =>
      cases thread with
      | loop => exact .inl rfl
      | consuming unit =>
          intro choice store after next result
          rw [(Distributor.getRandomWorkerConnection_cases result).1]
          exact .refl ..
      | sending worker => exact .inr (.inr ⟨worker, rfl⟩)
      | producing => exact .inr (.inl rfl)
      | stopping =>
          intro choice store after next result
          simp only [Option.ite_none_left_eq_some, Option.some.injEq,
            Prod.mk.injEq] at result
          obtain ⟨_, rfl, _⟩ := result
          exact ⟨fun _ => rfl, fun _ => rfl, fun _ => rfl,
            fun other => (other rfl).elim⟩
      | stoppingWorkers workers =>
          cases workers with
          | nil =>
              rintro choice store after next ⟨⟩
              exact ⟨fun _ => rfl, fun _ => rfl, fun _ => rfl,
                fun other => (other rfl).elim⟩
          | cons worker => exact .inr (.inr ⟨worker, rfl⟩)
      | stops count => cases count <;> simp [act, Distributor.act, Within, uses]
      | failed => trivial
  | calculator index =>
      cases thread with
      | loop => exact .inl rfl
      | processing unit =>
          intro choice store after next result
          obtain ⟨heap, same⟩ := Calculator.process_fst unit store
          exact .of_objects result same
      | producing | lastStop => exact .inr rfl
      | ended | failed => trivial
  | masterServer =>
      cases thread with
      | listening =>
          intro choice store after next result
          rcases MasterServer.accept_cases result with
            ⟨_, _, _, rfl, _⟩ | ⟨_, rfl, _⟩
          · exact ⟨fun other => Bool.noConfusion other, fun _ => rfl,
              fun _ => rfl, fun _ => rfl⟩
          · exact .refl ..
      | readingPassword worker =>
          intro choice store after next result
          rcases MasterServer.readPassword_cases result with
            ⟨rfl, _⟩ | ⟨rfl, _⟩
          · exact .refl ..
          · exact ⟨fun other => Bool.noConfusion other, fun _ => rfl,
              fun _ => rfl, fun _ => rfl⟩
      | adding worker =>
          intro choice store after next result
          simp only [Option.ite_none_left_eq_some, Option.some.injEq,
            Prod.mk.injEq] at result
          obtain ⟨_, rfl, _⟩ := result
          exact ⟨fun other => Bool.noConfusion other, fun _ => rfl,
            fun _ => rfl, fun _ => rfl⟩
      | producing => exact rfl
      | stops count => cases count <;> simp [act, MasterServer.act, Within, uses]
  | workerConnectionHandler index =>
      cases thread with
      | loop => exact .inl rfl
      | reading worker => exact .inr (.inr ⟨worker, rfl⟩)
      | routing worker text =>
          intro choice store after next result
          obtain ⟨heap, after, handles, _⟩ :=
            WorkerConnectionHandler.handle_cases worker text store
          exact .of_objects result (congrArg Prod.fst handles)
      | producing | lastStop => exact .inr (.inl rfl)
      | removing worker =>
          intro choice store after next result
          simp only [Option.ite_none_left_eq_some, Option.some.injEq,
            Prod.mk.injEq] at result
          obtain ⟨_, rfl, _⟩ := result
          exact ⟨fun other => Bool.noConfusion other, fun _ => rfl,
            fun _ => rfl, fun _ => rfl⟩
      | ended | failed => trivial
  | responseAssembler =>
      cases thread with
      | loop pending =>
          cases pending <;> simp [act, ResponseAssembler.act, Within, uses]
      | assembling unit pending =>
          intro choice store after next result
          obtain ⟨heap, same⟩ := ResponseAssembler.assemble_fst unit pending store
          exact .of_objects result same
      | producing => exact .inr rfl
      | ended | failed => trivial
  | clientResponder =>
      cases thread with
      | loop => exact rfl
      | responding data =>
          intro choice store after next result
          obtain ⟨heap, responded, same⟩ := ClientResponder.respond_fst data store
          exact .of_objects result same
      | ended | failed => trivial
  | requestServer worker =>
      cases thread with
      | reading => exact .inl rfl
      | producing => exact .inr rfl
      | stops count => cases count <;> simp [act, RequestServer.act, Within, uses]
      | failed => trivial
  | workerCalculator worker index =>
      cases thread with
      | loop => exact .inl rfl
      | processing =>
          rintro choice store after next ⟨⟩
          exact .refl ..
      | producing | lastStop => exact .inr rfl
      | ended | failed => trivial
  | responseClient worker =>
      cases thread with
      | loop pending => cases pending <;> simp [act, ResponseClient.act, Within, uses]
      | sending => exact .inr rfl
      | ended | failed => trivial

end Concurrente.WebServer
