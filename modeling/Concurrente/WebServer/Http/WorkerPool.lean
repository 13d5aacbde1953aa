import Concurrente.WebServer.Http.ThreadSteps

/-!
# The pool of workers

A connection that was registered is in the pool as long as it is on its way to
a worker connection handler or one holds it, and nobody else holds it.
-/

namespace Concurrente.WebServer

open Library Network

namespace Configuration

variable (config : Configuration)

/-- How often each worker is held, as registered and as about to be
registered. -/
abbrev Holdings : Type := (config.Worker → Nat) × (config.Worker → Nat)

/-- The registered connections in a queue. -/
@[simp] def itemWorkers : (channel : Channel config) → config.Item channel →
    config.Holdings
  | .workerConnectionsQueue, some worker => (Pi.single worker 1, 0)
  | _, _ => 0

/-- The registered connections a thread holds, and those that it is about to
register. -/
@[simp] def threadWorkers : (node : Node config) → config.Thread node →
    config.Holdings
  | .masterServer, .readingPassword worker => (0, Pi.single worker 1)
  | .masterServer, .adding worker => (0, Pi.single worker 1)
  | .masterServer, .producing worker => (Pi.single worker 1, 0)
  | .workerConnectionHandler _, .reading worker => (Pi.single worker 1, 0)
  | .workerConnectionHandler _, .routing worker _ => (Pi.single worker 1, 0)
  | .workerConnectionHandler _, .producing worker _ => (Pi.single worker 1, 0)
  | .workerConnectionHandler _, .removing worker => (Pi.single worker 1, 0)
  | _, _ => 0

/-- Where connections of workers are. -/
def poolWeights : Weights config.Item config.Thread config.Holdings where
  item := config.itemWorkers
  thread := config.threadWorkers
  lost channel item _ := config.itemWorkers channel item

@[simp] theorem poolWeights_item (channel : Channel config)
    (item : config.Item channel) :
    config.poolWeights.item channel item = config.itemWorkers channel item := rfl

@[simp] theorem poolWeights_thread (node : Node config)
    (thread : config.Thread node) :
    config.poolWeights.thread node thread = config.threadWorkers node thread := rfl

@[simp] theorem poolWeights_lost (channel : Channel config)
    (item : config.Item channel) (reported : Bool) :
    config.poolWeights.lost channel item reported =
      config.itemWorkers channel item := rfl

/-- The pool has the registered connections, each once. -/
def PoolKept (shared : Shared config) (held : config.Holdings)
    (_ : List (Sent (Shared config) config.Item)) : Prop :=
  ∀ worker, held.1 worker ≤ shared.pool.count worker ∧
    shared.pool.count worker + held.2 worker ≤ shared.connected.count worker ∧
    shared.connected.count worker ≤ 1

end Configuration

section Threads

variable {config : Configuration} {mayClose : Channel config → Prop}
  {allowed : Node config → config.State → Prop}

theorem Configuration.poolKept_ignores :
    Ignores config.PoolKept Shared.roster fun _ _ => True where
  store same kept := by
    simp only [Shared.roster, Prod.mk.injEq] at same
    unfold Configuration.PoolKept
    rw [same.1, same.2]
    exact kept
  sent _ kept := kept

/-- The step of a thread in some state keeps the pool. -/
abbrev KeepsPool (mayClose : Channel config → Prop)
    (allowed : Node config → config.State → Prop) (node : Node config)
    (thread : config.Thread node) : Prop :=
  Respects config.poolWeights mayClose allowed config.PoolKept node thread
    (config.act node thread)

theorem KeepsPool.of_keeps {node : Node config} {thread : config.Thread node}
    (keeps : Keeps config.poolWeights mayClose Shared.roster (fun _ _ => True)
      node thread (config.act node thread)) :
    KeepsPool mayClose allowed node thread :=
  Keeps.respects Configuration.poolKept_ignores keeps

theorem KeepsPool.of_other {node : Node config}
    (other : Configuration.managesWorkers node = false)
    (thread : config.Thread node) : KeepsPool mayClose allowed node thread := by
  refine .of_keeps (.of_within (Configuration.act_within node thread)
    (fun _ _ frame => frame.roster other) (fun thread => ?_)
    fun channel used item => ?_)
  · cases node <;> first | rfl | cases other
  · have unused : channel ≠ .workerConnectionsQueue := by
      rintro rfl
      cases node <;> simp [Configuration.uses] at used <;> cases other
    cases channel <;>
      first | exact ⟨trivial, rfl, fun _ => rfl⟩ | exact (unused rfl).elim

theorem MasterServer.keepsPool (thread : MasterServer config.Worker)
    (linked : ∀ channel, mayClose channel → config.link channel ≠ none) :
    KeepsPool mayClose allowed .masterServer thread := by
  cases thread with
  | listening =>
      intro state rest choice store next result focus
      have kept : config.PoolKept state.store (rest + 0) state.sent := focus.holds
      rcases accept_cases result with ⟨worker, _, fresh, rfl, rfl⟩ | ⟨_, rfl, rfl⟩
      · intro other
        obtain ⟨pool, bound, once⟩ := kept other
        by_cases same : other = worker
        · subst same
          have absent := List.count_eq_zero_of_not_mem fresh
          simp_all
        · simpa [same, Ne.symm same] using ⟨pool, bound, once⟩
      · exact kept
  | readingPassword worker =>
      intro state rest choice store next result focus
      have kept := focus.holds
      rcases readPassword_cases result with ⟨rfl, rfl⟩ | ⟨rfl, rfl⟩
      · exact kept
      · intro other
        have holds := kept other
        by_cases same : other = worker
        · subst same
          obtain ⟨pool, bound, once⟩ := holds
          simp at pool bound ⊢
          omega
        · simpa [same, List.count_erase_of_ne same] using holds
  | adding worker =>
      intro state rest choice store next result focus
      simp only [Option.ite_none_left_eq_some, Option.some.injEq,
        Prod.mk.injEq] at result
      obtain ⟨_, rfl, rfl⟩ := result
      intro other
      have holds := focus.holds other
      by_cases same : other = worker
      · subst same
        obtain ⟨pool, bound, once⟩ := holds
        simp at pool bound ⊢
        omega
      · simpa [same, Ne.symm same] using holds
  | producing worker =>
      exact .of_keeps ⟨trivial, by simp, fun closing => (linked _ closing rfl).elim⟩
  | stops count =>
      cases count with
      | zero => exact .of_keeps trivial
      | succ count =>
          exact .of_keeps ⟨trivial, by simp, fun closing => (linked _ closing rfl).elim⟩

theorem WorkerConnectionHandler.keepsPool
    (index : Fin config.maxWorkerConnections)
    (thread : WorkerConnectionHandler config.Worker)
    (linked : ∀ channel, mayClose channel → config.link channel ≠ none) :
    KeepsPool mayClose allowed (.workerConnectionHandler index) thread := by
  cases thread with
  | loop =>
      refine .of_keeps ⟨fun item => ?_, fun closing => (linked _ closing rfl).elim⟩
      cases item <;> simp
  | reading worker => exact .of_keeps ⟨fun item => by simp, fun _ => by simp⟩
  | routing worker text =>
      intro state rest choice store next result focus
      obtain ⟨heap, after, handles, outcome⟩ := handle_cases worker text state.store
      simp only [handles, Option.some.injEq, Prod.mk.injEq] at result
      obtain ⟨rfl, rfl⟩ := result
      rcases outcome with ⟨unit, rfl⟩ | rfl | ⟨fault, rfl⟩
      · exact focus.holds
      · exact focus.holds
      · intro other
        obtain ⟨pool, bound⟩ := focus.holds other
        simp at pool bound ⊢
        exact ⟨by omega, bound⟩
  | producing worker unit =>
      exact .of_keeps ⟨trivial, by simp, fun closing => (linked _ closing rfl).elim⟩
  | removing worker =>
      intro state rest choice store next result focus
      simp only [Option.ite_none_left_eq_some, Option.some.injEq,
        Prod.mk.injEq] at result
      obtain ⟨_, rfl, rfl⟩ := result
      intro other
      have holds := focus.holds other
      by_cases same : other = worker
      · subst same
        obtain ⟨pool, bound, once⟩ := holds
        simp at pool bound ⊢
        omega
      · simpa [same, List.count_erase_of_ne same] using holds
  | lastStop =>
      exact .of_keeps ⟨trivial, by simp, fun closing => (linked _ closing rfl).elim⟩
  | ended => exact .of_keeps trivial
  | failed => exact .of_keeps trivial

/-- Every step of every thread keeps the pool. -/
theorem Configuration.keepsPool
    (linked : ∀ channel, mayClose channel → config.link channel ≠ none)
    (node : Node config) (thread : config.Thread node) :
    KeepsPool mayClose allowed node thread := by
  cases node with
  | masterServer => exact MasterServer.keepsPool thread linked
  | workerConnectionHandler index =>
      exact WorkerConnectionHandler.keepsPool index thread linked
  | _ => exact KeepsPool.of_other rfl thread

end Threads

/-- In every state of every run the pool is kept. -/
theorem Configuration.poolKept {config : Configuration}
    {capacity : Channel config → Option Nat} {faults : Prop}
    {allowed : Node config → config.State → Prop} {state : config.State}
    (run : Reaches (config.network capacity) faults allowed config.start state) :
    config.PoolKept state.store (config.poolWeights.total state) state.sent := by
  refine run.total_invariant config.PoolKept (fun _ => rfl) ?_
    fun node thread => config.keepsPool (fun channel closing => closing.2) node thread
  have empty : config.poolWeights.total config.start = 0 := by
    refine Weights.total_eq_zero _ (fun _ _ member => by cases member)
      (fun node => ?_) fun _ member => by cases member
    cases node <;> rfl
  rw [empty]
  exact fun worker => ⟨Nat.le_refl 0, Nat.le_refl 0, Nat.zero_le 1⟩

end Concurrente.WebServer
