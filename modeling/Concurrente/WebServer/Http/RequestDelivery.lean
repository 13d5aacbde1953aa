import Concurrente.Library.NetworkSchedule
import Concurrente.WebServer.Http.RequestHistory

/-!
# Delivery of client requests

Every request that is accepted is enqueued for the client responder at most
once, complete, and it is not forgotten: when nothing moves any more, it has
been enqueued.
-/

namespace Concurrente.WebServer

open Library Network

section Threads

variable {config : Configuration} {mayClose : Channel config → Prop}
  {allowed : Node config → config.State → Prop}
  {inv : Shared config → (Address → Nat) →
    List (Sent (Shared config) config.Item) → Prop}

/-- The step of a thread in some state keeps an invariant of the history. -/
abbrev KeepsHistory (mayClose : Channel config → Prop)
    (allowed : Node config → config.State → Prop)
    (inv : Shared config → (Address → Nat) →
      List (Sent (Shared config) config.Item) → Prop)
    (node : Node config) (thread : config.Thread node) : Prop :=
  Respects config.handedWeights mayClose allowed inv node thread
    (config.act node thread)

/-- A thread that does not accept a request next, hand an object to the
responder, or answer. -/
def Configuration.Passes : (node : Node config) → config.Thread node → Prop
  | .connectionHandler _, .consuming => False
  | .responseAssembler, .producing _ _ => False
  | .clientResponder, .responding _ => False
  | _, _ => True

@[simp] theorem Configuration.handedWeights_item (channel : Channel config)
    (item : config.Item channel) :
    config.handedWeights.item channel item = config.itemHanded channel item := rfl

@[simp] theorem Configuration.handedWeights_thread (node : Node config)
    (thread : config.Thread node) :
    config.handedWeights.thread node thread = config.threadHanded node thread := rfl

@[simp] theorem Configuration.handedWeights_lost (channel : Channel config)
    (item : config.Item channel) (reported : Bool) :
    config.handedWeights.lost channel item reported =
      config.itemHanded channel item := rfl

/-! Most threads change nothing that the history looks at. -/

variable (ignores : Ignores inv config.requestView Configuration.BeforeResponder)

include ignores

theorem KeepsHistory.of_keeps {node : Node config} {thread : config.Thread node}
    (keeps : Keeps config.handedWeights mayClose config.requestView
      Configuration.BeforeResponder node thread (config.act node thread)) :
    KeepsHistory mayClose allowed inv node thread :=
  Keeps.respects ignores keeps

theorem SignalHandler.keepsHistory (thread : SignalHandler) :
    KeepsHistory mayClose allowed inv .signalHandler thread := by
  apply KeepsHistory.of_keeps ignores
  cases thread with
  | waiting | stoppingWorkers =>
      rintro choice store after next ⟨⟩
      exact ⟨rfl, rfl⟩
  | ended => trivial

theorem MasterServer.keepsHistory (thread : MasterServer config.Worker) :
    KeepsHistory mayClose allowed inv .masterServer thread := by
  apply KeepsHistory.of_keeps ignores
  cases thread with
  | listening =>
      intro choice store after next result
      rcases accept_cases result with ⟨worker, _, _, rfl, rfl⟩ | ⟨_, rfl, rfl⟩ <;>
        exact ⟨rfl, rfl⟩
  | readingPassword worker =>
      intro choice store after next result
      rcases readPassword_cases result with ⟨rfl, rfl⟩ | ⟨rfl, rfl⟩ <;>
        exact ⟨rfl, rfl⟩
  | adding worker =>
      intro choice store after next result
      simp only [Option.ite_none_left_eq_some, Option.some.injEq,
        Prod.mk.injEq] at result
      obtain ⟨_, rfl, rfl⟩ := result
      exact ⟨rfl, rfl⟩
  | producing worker => exact ⟨fun _ => by simp, rfl, fun _ _ => rfl⟩
  | stops count =>
      cases count with
      | zero => trivial
      | succ count => exact ⟨fun _ => by simp, rfl, fun _ _ => rfl⟩

theorem Decomposer.keepsHistory (thread : Decomposer) :
    KeepsHistory mayClose allowed inv .decomposer thread := by
  apply KeepsHistory.of_keeps ignores
  cases thread with
  | loop pending =>
      cases pending with
      | zero => exact ⟨fun _ => by simp, rfl, fun _ _ => rfl⟩
      | succ pending => exact ⟨fun item => by cases item <;> rfl, fun _ => rfl⟩
  | decomposing data pending =>
      rintro choice store after next ⟨⟩
      exact ⟨rfl, rfl⟩
  | producing units pending =>
      cases units with
      | nil =>
          rintro choice store after next ⟨⟩
          exact ⟨rfl, rfl⟩
      | cons unit units => exact ⟨fun _ => by simp, rfl, fun _ _ => rfl⟩
  | ended => trivial
  | failed => trivial

theorem Distributor.keepsHistory (thread : Distributor config.Worker) :
    KeepsHistory mayClose allowed inv .distributor thread := by
  apply KeepsHistory.of_keeps ignores
  cases thread with
  | loop => exact ⟨fun item => by cases item <;> rfl, fun _ => rfl⟩
  | consuming unit =>
      intro choice store after next result
      obtain ⟨rfl, _⟩ := getRandomWorkerConnection_cases result
      exact ⟨rfl, rfl⟩
  | sending worker unit text => exact ⟨fun _ => by simp, rfl, fun _ _ => rfl⟩
  | producing unit => exact ⟨fun _ => by simp, rfl, fun _ _ => rfl⟩
  | stopping =>
      intro choice store after next result
      simp only [Option.ite_none_left_eq_some, Option.some.injEq,
        Prod.mk.injEq] at result
      obtain ⟨_, rfl, rfl⟩ := result
      exact ⟨rfl, rfl⟩
  | stoppingWorkers workers =>
      cases workers with
      | nil =>
          rintro choice store after next ⟨⟩
          exact ⟨rfl, rfl⟩
      | cons worker workers => exact ⟨fun _ => by simp, rfl, fun _ _ => rfl⟩
  | stops count =>
      cases count with
      | zero => trivial
      | succ count => exact ⟨fun _ => by simp, rfl, fun _ _ => rfl⟩
  | failed => trivial

theorem RequestServer.keepsHistory (worker : config.Worker)
    (thread : RequestServer) :
    KeepsHistory mayClose allowed inv (.requestServer worker) thread := by
  apply KeepsHistory.of_keeps ignores
  cases thread with
  | reading => exact ⟨fun _ => rfl, fun _ => rfl⟩
  | producing unit => exact ⟨fun _ => by simp, rfl, fun _ _ => rfl⟩
  | stops count =>
      cases count with
      | zero => trivial
      | succ count => exact ⟨fun _ => by simp, rfl, fun _ _ => rfl⟩
  | failed => trivial

theorem Calculator.keepsWorkHistory (worker : config.Worker)
    (index : Fin (config.workerCalculators worker))
    (thread : Calculator WorkUnit) :
    KeepsHistory mayClose allowed inv (.workerCalculator worker index) thread := by
  apply KeepsHistory.of_keeps ignores
  cases thread with
  | loop => exact ⟨fun item => by cases item <;> rfl, fun _ => rfl⟩
  | processing unit =>
      rintro choice store after next ⟨⟩
      exact ⟨rfl, rfl⟩
  | producing unit => exact ⟨fun _ => by simp, rfl, fun _ _ => rfl⟩
  | lastStop => exact ⟨fun _ => by simp, rfl, fun _ _ => rfl⟩
  | ended => trivial
  | failed => trivial

theorem ResponseClient.keepsHistory (worker : config.Worker)
    (thread : ResponseClient) :
    KeepsHistory mayClose allowed inv (.responseClient worker) thread := by
  apply KeepsHistory.of_keeps ignores
  cases thread with
  | loop pending =>
      cases pending with
      | zero => exact ⟨fun _ => by simp, rfl, fun _ _ => rfl⟩
      | succ pending => exact ⟨fun item => by cases item <;> rfl, fun _ => rfl⟩
  | sending text pending => exact ⟨fun _ => by simp, rfl, fun _ _ => rfl⟩
  | ended => trivial
  | failed => trivial

theorem HttpConnectionHandler.keepsHistory {index : Fin config.maxConnections}
    {thread : HttpConnectionHandler}
    (passes : Configuration.Passes (.connectionHandler index) thread) :
    KeepsHistory mayClose allowed inv (.connectionHandler index) thread := by
  cases thread with
  | consuming => exact passes.elim
  | producing data =>
      exact .of_keeps ignores ⟨fun _ => by simp, rfl, fun _ _ => rfl⟩
  | lastStop => exact .of_keeps ignores ⟨fun _ => by simp, rfl, fun _ _ => rfl⟩
  | ended => trivial

theorem ClientResponder.keepsHistory {thread : ClientResponder}
    (passes : @Configuration.Passes config .clientResponder thread) :
    KeepsHistory mayClose allowed inv .clientResponder thread := by
  cases thread with
  | loop =>
      exact .of_keeps ignores ⟨fun item => by cases item <;> simp, fun _ => rfl⟩
  | responding => exact passes.elim
  | ended => trivial
  | failed => trivial

/-! The other threads change objects; what is known of all units says how. -/

variable (known : ∀ node state, allowed node state →
  Accounted config.applications state.store.heap
    (config.unitWeights.total state))

include known

omit ignores in
/-- The account of the units, with what a thread holds set apart. -/
theorem accounted_thread {node : Node config} {thread : config.Thread node}
    {state : config.State} {rest seen : Address → Nat}
    (focus : Focus config.handedWeights allowed inv node thread state rest seen) :
    ∃ others, Accounted config.applications state.store.heap
      (others + loadWeight (config.threadLoads node thread)) := by
  have accounted := (known node state focus.permitted).of_thread node
  rwa [focus.acting] at accounted

theorem Calculator.keepsHistory (index : Fin config.calculatorsAmount)
    (thread : Calculator DataUnit) :
    KeepsHistory mayClose allowed inv (.calculator index) thread := by
  cases thread with
  | loop =>
      exact .of_keeps ignores ⟨fun item => by cases item <;> rfl, fun _ => rfl⟩
  | processing unit =>
      intro state rest choice store next result focus
      obtain ⟨others, accounted⟩ := accounted_thread known focus
      obtain ⟨heap, processes, same, _⟩ :=
        process_spec (by simpa using accounted)
      simp only [processes, Option.some.injEq, Prod.mk.injEq] at result
      obtain ⟨rfl, rfl⟩ := result
      exact ignores.store (by simp [Configuration.requestView, same]) focus.holds
  | producing unit =>
      exact .of_keeps ignores ⟨fun _ => by simp, rfl, fun _ _ => rfl⟩
  | lastStop => exact .of_keeps ignores ⟨fun _ => by simp, rfl, fun _ _ => rfl⟩
  | ended => trivial
  | failed => trivial

theorem WorkerConnectionHandler.keepsHistory
    (index : Fin config.maxWorkerConnections)
    (thread : WorkerConnectionHandler config.Worker) :
    KeepsHistory mayClose allowed inv (.workerConnectionHandler index) thread := by
  cases thread with
  | loop =>
      exact .of_keeps ignores ⟨fun item => by cases item <;> rfl, fun _ => rfl⟩
  | reading worker => exact .of_keeps ignores ⟨fun _ => rfl, fun _ => rfl⟩
  | routing worker text =>
      intro state rest choice store next result focus
      by_cases stops : text = stopText
      · subst stops
        simp only [handle_stopText, Option.some.injEq, Prod.mk.injEq] at result
        obtain ⟨rfl, rfl⟩ := result
        exact focus.holds
      · obtain ⟨others, accounted⟩ := accounted_thread known focus
        obtain ⟨unit, heap, handles, same, _⟩ :=
          handle_spec accounted stops worker
        simp only [handles, Option.some.injEq, Prod.mk.injEq] at result
        obtain ⟨rfl, rfl⟩ := result
        exact ignores.store (by simp [Configuration.requestView, same]) focus.holds
  | producing worker unit =>
      exact .of_keeps ignores ⟨fun _ => by simp, rfl, fun _ _ => rfl⟩
  | removing worker =>
      refine .of_keeps ignores fun choice store after next result => ?_
      simp only [Option.ite_none_left_eq_some, Option.some.injEq,
        Prod.mk.injEq] at result
      obtain ⟨_, rfl, rfl⟩ := result
      exact ⟨rfl, rfl⟩
  | lastStop => exact .of_keeps ignores ⟨fun _ => by simp, rfl, fun _ _ => rfl⟩
  | ended => trivial
  | failed => trivial

theorem ResponseAssembler.keepsHistory {thread : ResponseAssembler}
    (passes : @Configuration.Passes config .responseAssembler thread) :
    KeepsHistory mayClose allowed inv .responseAssembler thread := by
  cases thread with
  | loop pending =>
      cases pending with
      | zero => exact .of_keeps ignores ⟨fun _ => by simp, rfl, fun _ _ => rfl⟩
      | succ pending =>
          exact .of_keeps ignores ⟨fun item => by cases item <;> rfl, fun _ => rfl⟩
  | assembling unit pending =>
      intro state rest choice store next result focus
      obtain ⟨others, accounted⟩ := accounted_thread known focus
      obtain ⟨heap, after, assembles, _, same, _⟩ :=
        assemble_spec (by simpa using accounted) pending
      simp only [assembles, Option.some.injEq, Prod.mk.injEq] at result
      obtain ⟨rfl, rfl⟩ := result
      exact ignores.store (by simp [Configuration.requestView, same]) focus.holds
  | producing => exact passes.elim
  | ended => trivial
  | failed => trivial

/-- The step of a thread that only passes things on keeps every invariant of
the history. -/
theorem Configuration.keepsHistory {node : Node config}
    {thread : config.Thread node} (passes : Passes node thread) :
    KeepsHistory mayClose allowed inv node thread := by
  cases node with
  | signalHandler => exact SignalHandler.keepsHistory ignores thread
  | connectionHandler index => exact HttpConnectionHandler.keepsHistory ignores passes
  | decomposer => exact Decomposer.keepsHistory ignores thread
  | distributor => exact Distributor.keepsHistory ignores thread
  | calculator index => exact Calculator.keepsHistory ignores known index thread
  | masterServer => exact MasterServer.keepsHistory ignores thread
  | workerConnectionHandler index =>
      exact WorkerConnectionHandler.keepsHistory ignores known index thread
  | responseAssembler => exact ResponseAssembler.keepsHistory ignores known passes
  | clientResponder => exact ClientResponder.keepsHistory ignores passes
  | requestServer worker => exact RequestServer.keepsHistory ignores worker thread
  | workerCalculator worker index =>
      exact Calculator.keepsWorkHistory ignores worker index thread
  | responseClient worker => exact ResponseClient.keepsHistory ignores worker thread

end Threads

/-! ## Steps of the history -/

section Requests

variable {config : Configuration} {mayClose : Channel config → Prop}
  {allowed : Node config → config.State → Prop}
  (known : ∀ node state, allowed node state →
    Accounted config.applications state.store.heap
      (config.unitWeights.total state))

include known

theorem HttpConnectionHandler.keepsRequests (index : Fin config.maxConnections) :
    KeepsHistory mayClose allowed config.RequestsKept (.connectionHandler index)
      HttpConnectionHandler.consuming := by
  intro state rest choice store next result focus
  have kept : config.RequestsKept state.store (rest + 0) state.sent :=
    focus.holds
  rcases consume_cases result with
    ⟨appIndex, queries, address, app, _, _, _, _, free, rfl, rfl⟩ |
      ⟨_, rfl, rfl⟩
  · refine kept.accept free ?_
    have none := known _ _ focus.permitted address
    rw [free] at none
    have total : config.handedWeights.total state = rest + 0 := focus.total
    rw [← total, config.handedWeights_total]
    simp [handedCount, none.stages_eq_zero]
  · exact kept

theorem ResponseAssembler.keepsRequests
    (linked : ∀ channel, mayClose channel → config.link channel ≠ none)
    (data : Address) (pending : Nat) :
    KeepsHistory mayClose allowed config.RequestsKept .responseAssembler
      (ResponseAssembler.producing data pending) := by
  refine ⟨fun state rest focus => ?_, fun closing => (linked _ closing rfl).elim⟩
  have kept : config.RequestsKept state.store (rest + 0) state.sent :=
    focus.holds
  have accounted := known _ state focus.permitted
  have total : config.handedWeights.total state = rest + 0 := focus.total
  have handed := congrFun
    (total.symm.trans (config.handedWeights_total state)) data
  rw [config.unitWeights.total_eq_others state .responseAssembler,
    focus.acting] at accounted handed
  have object : Accounted config.applications state.store.heap
      (config.unitWeights.others state .responseAssembler +
        (Load.object data .assembled).weight) := by
    simpa using accounted
  obtain ⟨⟨calcData, app, live, registered, complete⟩, _⟩ := object.hand
  obtain ⟨none, _⟩ := object.focus.of_assembled
  have unheld : (rest + 0) data = 0 := by
    simpa [handedCount, none, Load.weight] using handed
  simpa using kept.hand live registered complete unheld

theorem ClientResponder.keepsRequests (data : Address) :
    KeepsHistory mayClose allowed config.RequestsKept .clientResponder
      (ClientResponder.responding data) := by
  intro state rest choice store next result focus
  obtain ⟨others, accounted⟩ := accounted_thread known focus
  obtain ⟨calcData, live, responds, _⟩ :=
    respond_spec (by simpa using accounted)
  simp only [responds, Option.some.injEq, Prod.mk.injEq] at result
  obtain ⟨rfl, rfl⟩ := result
  exact focus.holds.respond live

/-- Every step of every thread keeps the history of the requests. -/
theorem Configuration.keepsRequests
    (linked : ∀ channel, mayClose channel → config.link channel ≠ none)
    (node : Node config) (thread : config.Thread node) :
    KeepsHistory mayClose allowed config.RequestsKept node thread := by
  by_cases passes : Passes node thread
  · exact Configuration.keepsHistory Configuration.requestsKept_ignores known passes
  · cases node with
    | connectionHandler index =>
        cases thread with
        | consuming => exact HttpConnectionHandler.keepsRequests known index
        | producing | lastStop | ended => exact (passes trivial).elim
    | responseAssembler =>
        cases thread with
        | producing data pending =>
            exact ResponseAssembler.keepsRequests known linked data pending
        | loop | assembling | ended | failed => exact (passes trivial).elim
    | clientResponder =>
        cases thread with
        | responding data => exact ClientResponder.keepsRequests known data
        | loop | ended | failed => exact (passes trivial).elim
    | _ => exact (passes trivial).elim

end Requests

section Runs

variable {config : Configuration} {capacity : Channel config → Option Nat}
  {faults : Prop} {allowed : Node config → config.State → Prop}
  {state : config.State}

/-- In every state of every run the history of the requests is kept. -/
theorem Configuration.requestsKept
    (run : Reaches (config.network capacity) faults allowed config.start state) :
    config.RequestsKept state.store (config.handedWeights.total state)
      state.sent := by
  have known := run.assuming fun _ reached => config.accounted reached
  refine known.total_invariant config.RequestsKept (fun _ => rfl) ?_ fun node thread =>
    config.keepsRequests (fun _ _ permitted => permitted.2)
      (fun _ closing => closing.2) node thread
  exact
    { accepted := fun _ _ _ requests => by cases requests
      distinct := fun _ _ _ serves => by cases serves.choose_spec
      once := .nil
      known := fun _ member => by cases member
      handed := fun _ _ serves => by cases serves.choose_spec
      served := fun _ inside => by cases inside
      responded := fun _ member => by cases member
      gone := fun _ member => by cases member
      answeredOnce := .nil
      snapshots := fun _ _ member => by cases member }

end Runs

/-! ## What holds of the line -/

/-- A load that refers to the object at an address. -/
def Load.Concerns : Load → Address → Prop
  | .object target _, address => target = address
  | .broken, _ => True

theorem not_concerns_of_weight {loads : List Load} {address : Address}
    (none : loadWeight loads address = 0) :
    ∀ load ∈ loads, ¬ load.Concerns address := by
  induction loads with
  | nil => simp
  | cons load loads ih =>
      rw [loadWeight_cons, Pi.add_apply, add_eq_zero] at none
      refine List.forall_mem_cons.mpr ⟨fun concerns => ?_, ih none.2⟩
      cases load with
      | broken => simp [Load.weight] at none
      | object target stage =>
          cases concerns
          simp [Load.weight] at none

namespace Configuration

variable (config : Configuration)

/-- A fault has ended the thread. -/
def Failed : (node : Node config) → config.Thread node → Prop
  | .decomposer, .failed _ => True
  | .distributor, .failed _ => True
  | .calculator _, .failed _ => True
  | .workerConnectionHandler _, .failed _ => True
  | .responseAssembler, .failed _ => True
  | .clientResponder, .failed _ => True
  | .requestServer _, .failed _ => True
  | .workerCalculator _ _, .failed _ => True
  | .responseClient _, .failed _ => True
  | _, _ => False

/-- The thread waits for something to consume, or has ended. -/
def idle : (node : Node config) → config.Thread node → Bool
  | .signalHandler, thread => thread == .waiting || thread == .ended
  | .connectionHandler _, thread => thread == .consuming || thread == .ended
  | .decomposer, .loop (_ + 1) => true
  | .decomposer, .ended => true
  | .distributor, .loop => true
  | .distributor, .stops 0 => true
  | .calculator _, .loop => true
  | .calculator _, .ended => true
  | .masterServer, .listening => true
  | .masterServer, .stops 0 => true
  | .workerConnectionHandler _, .loop => true
  | .workerConnectionHandler _, .reading _ => true
  | .workerConnectionHandler _, .ended => true
  | .responseAssembler, .loop (_ + 1) => true
  | .responseAssembler, .ended => true
  | .clientResponder, .loop => true
  | .clientResponder, .ended => true
  | .requestServer _, .reading => true
  | .requestServer _, .stops 0 => true
  | .workerCalculator _ _, .loop => true
  | .workerCalculator _ _, .ended => true
  | .responseClient _, .loop (_ + 1) => true
  | .responseClient _, .ended => true
  | _, _ => false

variable {config}

theorem threadLoads_of_idle {node : Node config} {thread : config.Thread node}
    (waits : config.idle node thread = true) :
    config.threadLoads node thread = [] := by
  cases node <;> first | rfl | (cases thread <;> first | rfl | cases waits)

theorem loads_of_failed {node : Node config} {thread : config.Thread node}
    (failed : config.Failed node thread) :
    config.threadLoads node thread = [.broken] := by
  cases node <;> first | exact failed.elim | (cases thread <;> first | rfl | exact failed.elim)

/-- Where an address has no stages, nothing refers to it. -/
theorem not_concerns_of_total {state : config.State} {address : Address}
    (none : config.unitWeights.total state address = 0) :
    (∀ channel, ∀ item ∈ state.queue channel,
      ∀ load ∈ config.itemLoads channel item, ¬ load.Concerns address) ∧
    ∀ node, ∀ load ∈ config.threadLoads node (state.thread node),
      ¬ load.Concerns address := by
  constructor
  · intro channel item queued
    obtain ⟨rest, split⟩ :=
      config.unitWeights.exists_total_eq_item queued .decomposer
    rw [split, Pi.add_apply, add_eq_zero, Pi.add_apply, add_eq_zero] at none
    exact not_concerns_of_weight none.2.1
  · intro node
    rw [config.unitWeights.total_eq_others state node, Pi.add_apply,
      add_eq_zero] at none
    exact not_concerns_of_weight none.2

end Configuration

section Line

variable {config : Configuration} {capacity : Channel config → Option Nat}
  {state : config.State}

/-- No thread fails. -/
theorem Configuration.not_failed {faults : Prop}
    {allowed : Node config → config.State → Prop}
    (run : Reaches (config.network capacity) faults allowed config.start state)
    (node : Node config) : ¬ config.Failed node (state.thread node) := by
  intro failed
  have none := config.accounted run |>.not_broken 0
  rw [config.unitWeights.total_eq_others state node,
    Configuration.unitWeights_thread, Configuration.loads_of_failed failed] at none
  simp [Load.weight] at none

/-- When there are no units and no objects on the way, every request has been
answered. -/
theorem Configuration.responded_of_unloaded
    {allowed : Node config → config.State → Prop}
    (run : Reaches (config.network capacity) False allowed config.start state)
    (items : ∀ channel, ∀ item ∈ state.queue channel,
      config.itemLoads channel item = [])
    (threads : ∀ node, config.threadLoads node (state.thread node) = [])
    {number : Nat} (inside : number < state.store.accepted.length) :
    number ∈ state.store.responded := by
  have lost := run.lost_eq_nil (fun _ => rfl) rfl
  have nothing : config.unitWeights.total state = 0 :=
    config.unitWeights.total_eq_zero
      (fun channel item queued => by
        rw [Configuration.unitWeights_item, items channel item queued,
          loadWeight_nil])
      (fun node => by
        rw [Configuration.unitWeights_thread, threads node, loadWeight_nil])
      (by simp [lost])
  rcases (config.requestsKept run).served number inside with
    ⟨address, asked, requests⟩ | answered
  · have object := config.accounted run address
    cases live : state.store.heap address with
    | none => simp [Heap.requests, live] at requests
    | some data =>
        rw [live, nothing] at object
        exact (object.stages_ne_zero rfl).elim
  · exact answered

/-- In every run in which connections stay open and sends succeed: each object
is enqueued for the client responder at most once; no thread fails, and nothing
refers to an address at which there is no object any more; an object is
complete when it is enqueued; and when nothing moves any more, every accepted
request has been enqueued. -/
theorem Configuration.requests_delivered
    (run : Reaches (config.network capacity) False (fun _ _ => True)
      config.start state) :
    (config.handedRequests state.sent).Nodup ∧
    (∀ node, ¬ config.Failed node (state.thread node)) ∧
    (∀ address, state.store.heap address = none →
      (∀ channel, ∀ item ∈ state.queue channel,
        ∀ load ∈ config.itemLoads channel item, ¬ load.Concerns address) ∧
      ∀ node, ∀ load ∈ config.threadLoads node (state.thread node),
        ¬ load.Concerns address) ∧
    (∀ data store, ⟨.responderQueue, some data, store⟩ ∈ state.sent →
      config.CompleteSnapshot state.store data store) ∧
    ((∀ channel, state.queue channel = []) →
      (∀ node, config.idle node (state.thread node) = true) →
      ∀ number < state.store.accepted.length,
        number ∈ config.handedRequests state.sent) := by
  have kept := config.requestsKept run
  refine ⟨kept.once, Configuration.not_failed run, fun address free => ?_,
    kept.snapshots, fun empty waiting number inside => ?_⟩
  · have none := config.accounted run address
    rw [free] at none
    exact Configuration.not_concerns_of_total none.stages_eq_zero
  · exact kept.responded number (Configuration.responded_of_unloaded run
      (by simp [empty])
      (fun node => Configuration.threadLoads_of_idle (waiting node)) inside)

end Line

/-! ## A run -/

/-- One application that doubles its query, one thread of each kind and one
worker. -/
@[reducible] def sampleConfiguration : Configuration where
  applications := [.calc ⟨fun query stored => stored ++ [query, query]⟩]
  fewApplications := by decide
  maxConnections := 1
  calculatorsAmount := 1
  maxWorkerConnections := 1
  workers := 1
  workerCalculators _ := 1

/-- The only thread of its kind, or the only worker. -/
abbrev only : Fin 1 := 0

/-- A schedule of the sample configuration. -/
abbrev SampleTurn : Type :=
  Turn (Node sampleConfiguration) sampleConfiguration.Worker
    (Choice sampleConfiguration)

/-- A thread steps without anything happening outside. -/
def SampleTurn.go (node : Node sampleConfiguration) : SampleTurn :=
  .step node .proceed true

/-- A request with two queries is accepted; the first unit stays at the master,
then a worker connects and gets the second one. -/
def sampleTurns : List SampleTurn :=
  [.step (.connectionHandler only) (.accept 0 [7, -12] 4096) true,
    .go (.connectionHandler only), .go .decomposer, .go .decomposer,
    .go .decomposer, .go .distributor, .go .distributor, .go .distributor,
    .step .masterServer (.worker only) true,
    .step .masterServer (.password true) true, .go .masterServer,
    .go .masterServer, .go (.workerConnectionHandler only), .go .decomposer,
    .go .decomposer, .go .distributor, .step .distributor (.worker only) true,
    .go .distributor, .go (.requestServer only), .go (.requestServer only),
    .go (.workerCalculator only only), .go (.workerCalculator only only),
    .go (.workerCalculator only only), .go (.responseClient only),
    .go (.responseClient only), .go (.workerConnectionHandler only),
    .go (.workerConnectionHandler only), .go (.workerConnectionHandler only),
    .go .responseAssembler, .go .responseAssembler, .go (.calculator only),
    .go (.calculator only), .go (.calculator only), .go .responseAssembler,
    .go .responseAssembler, .go .responseAssembler, .go .clientResponder,
    .go .clientResponder]

/-- The state after the schedule, with queues of capacity one. -/
def sampleState : Option sampleConfiguration.State :=
  (sampleConfiguration.network fun _ => some 1).exec false (fun _ _ => true)
    sampleTurns sampleConfiguration.start

theorem Configuration.requests_delivered_sample :
    ∃ state ∈ sampleState, state.store.responded = [0] ∧
      (sampleConfiguration.handedRequests state.sent).Nodup ∧
      ∀ number < state.store.accepted.length,
        number ∈ sampleConfiguration.handedRequests state.sent := by
  have works : sampleState.any (fun state =>
      state.store.responded = [0] ∧
      (∀ channel, (state.queue channel).isEmpty) ∧
      ∀ node, sampleConfiguration.idle node (state.thread node) = true) = true := by
    decide +kernel
  obtain ⟨state, result, run, responded, empty, idle⟩ :=
    Reaches.exists_of_exec False (by decide) (fun _ _ _ => trivial) works
  have delivered := Configuration.requests_delivered run
  exact ⟨state, result, responded, delivered.1,
    delivered.2.2.2.2 (fun channel => List.isEmpty_iff.mp (empty channel)) idle⟩

end Concurrente.WebServer
