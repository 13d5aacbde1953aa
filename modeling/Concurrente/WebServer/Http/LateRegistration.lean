import Concurrente.WebServer.Http.RequestDelivery
import Concurrente.WebServer.Http.StopConditions

/-!
# Workers that register late

The distributor writes the stop line once to every worker in the pool.  Whoever
is in the pool afterwards has been told to stop, unless the master server adds
a worker after the distributor has taken the pool.
-/

namespace Concurrente.WebServer

open Library Network

/-- Whether the distributor has begun to stop the workers. -/
@[simp] def Distributor.phase {Worker : Type} : Distributor Worker → Nat
  | .stoppingWorkers _ => 1
  | .stops _ => 1
  | _ => 0

/-- The workers that the distributor still has to stop. -/
@[simp] def Distributor.remaining {Worker : Type} [DecidableEq Worker] :
    Distributor Worker → Worker → Nat
  | .stoppingWorkers workers => (workers.count ·)
  | _ => fun _ => 0

/-- The handler is reading from a worker. -/
def WorkerConnectionHandler.Reads {Worker : Type} (worker : Worker) :
    WorkerConnectionHandler Worker → Prop
  | .reading other => other = worker
  | .routing other _ => other = worker
  | .producing other _ => other = worker
  | _ => False

namespace Configuration

variable (config : Configuration)

/-- The stop line was written to a worker, or its connection had closed. -/
def Told (state : config.State) (worker : config.Worker) : Prop :=
  (∃ store, ⟨.toWorker worker, stopText, store⟩ ∈ state.sent) ∨
    ∃ reported, ⟨.toWorker worker, stopText, reported⟩ ∈ state.lost

/-- The master server adds a worker to the pool only before the distributor
begins to stop the workers. -/
def Timely (node : Node config) (state : config.State) : Prop :=
  node = .masterServer →
    (∃ worker, state.thread .masterServer = .adding worker) →
    (state.thread .distributor).phase = 0

instance (node : Node config) (state : config.State) :
    Decidable (config.Timely node state) :=
  inferInstanceAs (Decidable (_ → _ → _))

/-- Stop lines that were written to closed connections. -/
@[simp] def lostStops : (channel : Channel config) → config.Item channel →
    config.Worker → Nat
  | .toWorker worker, text => if text = stopText then Pi.single worker 1 else 0
  | _, _ => 0

/-- The distributor's progress in stopping the workers. -/
@[simp] def threadStops : (node : Node config) → config.Thread node →
    Nat × (config.Worker → Nat)
  | .distributor, thread => (thread.phase, thread.remaining)
  | _, _ => 0

/-- The distributor's progress, and the stop lines that were lost. -/
def stopWeights : Weights config.Item config.Thread
    (Nat × (config.Worker → Nat)) where
  item _ _ := 0
  thread := config.threadStops
  lost channel item _ := (0, config.lostStops channel item)

@[simp] theorem stopWeights_item (channel : Channel config)
    (item : config.Item channel) : config.stopWeights.item channel item = 0 := rfl

@[simp] theorem stopWeights_thread (node : Node config)
    (thread : config.Thread node) :
    config.stopWeights.thread node thread = config.threadStops node thread := rfl

@[simp] theorem stopWeights_lost (channel : Channel config)
    (item : config.Item channel) (reported : Bool) :
    config.stopWeights.lost channel item reported =
      (0, config.lostStops channel item) := rfl

/-- Once the distributor has begun, every worker in the pool has been told to
stop or will be. -/
def StopsTold (shared : Shared config) (stops : Nat × (config.Worker → Nat))
    (sent : List (Sent (Shared config) config.Item)) : Prop :=
  0 < stops.1 → ∀ worker ∈ shared.pool,
    0 < stops.2 worker ∨ ∃ store, ⟨.toWorker worker, stopText, store⟩ ∈ sent

variable {config}

theorem total_phase (state : config.State) :
    (config.stopWeights.total state).1 = (state.thread .distributor).phase := by
  rw [← AddMonoidHom.coe_fst, ← Weights.total_map]
  unfold Weights.total
  rw [sum_node]
  simp [Weights.map]

theorem total_stops (state : config.State) (worker : config.Worker) :
    (config.stopWeights.total state).2 worker =
      (state.thread .distributor).remaining worker +
        (state.lost.map fun entry =>
          config.lostStops entry.channel entry.item worker).sum := by
  have mapped := config.stopWeights.total_map ((Pi.evalAddMonoidHom _ worker).comp
    (AddMonoidHom.snd Nat (config.Worker → Nat))) state
  refine mapped.symm.trans ?_
  unfold Weights.total
  rw [sum_node]
  simp [Weights.map]

end Configuration

section Threads

variable {config : Configuration} {mayClose : Channel config → Prop}
  {allowed : Node config → config.State → Prop}

/-- The step of a thread in some state keeps track of who was told to stop. -/
abbrev TellsStop (mayClose : Channel config → Prop)
    (allowed : Node config → config.State → Prop) (node : Node config)
    (thread : config.Thread node) : Prop :=
  Respects config.stopWeights mayClose allowed config.StopsTold node thread
    (config.act node thread)

theorem Configuration.stopsTold_ignores :
    Ignores config.StopsTold Shared.pool fun _ _ => True where
  store same told := by
    unfold Configuration.StopsTold
    rw [same]
    exact told
  sent _ told begun worker member := by
    rcases told begun worker member with waits | ⟨store, written⟩
    · exact .inl waits
    · exact .inr ⟨store, List.mem_append_left _ written⟩

/-- Whoever is to be told to stop is told, or still to be told. -/
theorem Configuration.StopsTold.mono {shared : Shared config}
    {rest seen next : Nat × (config.Worker → Nat)}
    {sent later : List (Sent (Shared config) config.Item)}
    (told : config.StopsTold shared (rest + seen) sent) (phase : next.1 = seen.1)
    (goes : ∀ worker, 0 < seen.2 worker → 0 < next.2 worker ∨
      ∃ store, ⟨.toWorker worker, stopText, store⟩ ∈ later)
    (grows : ∀ entry ∈ sent, entry ∈ later) :
    config.StopsTold shared (rest + next) later := by
  intro begun worker member
  rw [Prod.fst_add, phase] at begun
  rcases told begun worker member with waits | ⟨store, written⟩
  · rcases Nat.add_pos_iff_pos_or_pos.mp waits with before | now
    · exact .inl (Nat.add_pos_left before _)
    · rcases goes worker now with still | written
      · exact .inl (Nat.add_pos_right _ still)
      · exact .inr written
  · exact .inr ⟨store, grows _ written⟩

theorem TellsStop.of_keeps {node : Node config} {thread : config.Thread node}
    (keeps : Keeps config.stopWeights mayClose Shared.pool (fun _ _ => True) node
      thread (config.act node thread)) :
    TellsStop mayClose allowed node thread :=
  Keeps.respects Configuration.stopsTold_ignores keeps

/-- A thread that neither changes the pool nor writes to workers. -/
theorem TellsStop.of_other {node : Node config}
    (other : Configuration.managesWorkers node = false)
    (silent : ∀ thread, config.threadStops node thread = 0)
    (apart : ∀ worker, ¬ Configuration.uses node (.toWorker worker))
    (thread : config.Thread node) : TellsStop mayClose allowed node thread := by
  refine .of_keeps (.of_within (Configuration.act_within node thread)
    (fun _ _ frame => congrArg Prod.fst (frame.roster other))
    silent fun channel used item => ⟨trivial, rfl, fun _ => ?_⟩)
  cases channel with
  | toWorker worker => exact (apart worker used).elim
  | _ => rfl

theorem RequestServer.tellsStop (worker : config.Worker) (thread : RequestServer) :
    TellsStop mayClose allowed (.requestServer worker) thread := by
  cases thread with
  | reading => exact .of_keeps ⟨fun _ => rfl, fun _ => rfl⟩
  | producing => exact .of_keeps ⟨trivial, rfl, fun _ _ => rfl⟩
  | stops count =>
      cases count with
      | zero => trivial
      | succ => exact .of_keeps ⟨trivial, rfl, fun _ _ => rfl⟩
  | failed => trivial

theorem WorkerConnectionHandler.tellsStop
    (index : Fin config.maxWorkerConnections)
    (thread : WorkerConnectionHandler config.Worker) :
    TellsStop mayClose allowed (.workerConnectionHandler index) thread := by
  cases thread with
  | loop | reading => exact .of_keeps ⟨fun _ => rfl, fun _ => rfl⟩
  | routing worker text =>
      refine .of_keeps fun choice store after next result => ?_
      obtain ⟨heap, _, handles, _⟩ := handle_cases worker text store
      simp only [handles, Option.some.injEq, Prod.mk.injEq] at result
      obtain ⟨rfl, rfl⟩ := result
      exact ⟨rfl, rfl⟩
  | producing | lastStop => exact .of_keeps ⟨trivial, rfl, fun _ _ => rfl⟩
  | removing worker =>
      intro state rest choice store next result focus
      simp only [Option.ite_none_left_eq_some, Option.some.injEq,
        Prod.mk.injEq] at result
      obtain ⟨_, rfl, rfl⟩ := result
      exact fun begun other member =>
        focus.holds begun other (List.mem_of_mem_erase member)
  | ended | failed => trivial

theorem MasterServer.tellsStop (thread : MasterServer config.Worker)
    (timely : ∀ node state, allowed node state → config.Timely node state) :
    TellsStop mayClose allowed .masterServer thread := by
  cases thread with
  | listening =>
      refine .of_keeps fun choice store after next result => ?_
      rcases accept_cases result with ⟨worker, _, _, rfl, rfl⟩ | ⟨_, rfl, rfl⟩ <;>
        exact ⟨rfl, rfl⟩
  | readingPassword worker =>
      refine .of_keeps fun choice store after next result => ?_
      rcases readPassword_cases result with ⟨rfl, rfl⟩ | ⟨rfl, rfl⟩ <;>
        exact ⟨rfl, rfl⟩
  | adding worker =>
      intro state rest choice store next result focus
      simp only [Option.ite_none_left_eq_some, Option.some.injEq,
        Prod.mk.injEq] at result
      obtain ⟨_, rfl, rfl⟩ := result
      have early := timely _ _ focus.permitted rfl ⟨worker, focus.acting⟩
      rw [← Configuration.total_phase, focus.total] at early
      exact fun begun => (Nat.ne_of_gt begun early).elim
  | producing => exact .of_keeps ⟨trivial, rfl, fun _ _ => rfl⟩
  | stops count =>
      cases count with
      | zero => trivial
      | succ => exact .of_keeps ⟨trivial, rfl, fun _ _ => rfl⟩

theorem Distributor.threadStops_serialize (shared : Shared config)
    (unit : DataUnit) (worker : config.Worker) :
    config.threadStops .distributor (serialize shared unit worker) = 0 := by
  unfold serialize
  repeat' split
  all_goals rfl

theorem Distributor.tellsStop (thread : Distributor config.Worker) :
    TellsStop mayClose allowed .distributor thread := by
  cases thread with
  | loop =>
      refine .of_keeps ⟨fun item => ?_, fun _ => rfl⟩
      cases item <;> rfl
  | consuming unit =>
      refine .of_keeps fun choice store after next result => ?_
      obtain ⟨rfl, ⟨worker, _, rfl⟩ | rfl⟩ := getRandomWorkerConnection_cases result
      · exact ⟨rfl, threadStops_serialize ..⟩
      · exact ⟨rfl, rfl⟩
  | sending worker unit text =>
      refine ⟨fun state rest focus =>
          Configuration.stopsTold_ignores.sent trivial focus.holds,
        fun _ reported state rest focus => focus.holds.mono ?_
          (fun other waits => (Nat.lt_irrefl 0 waits).elim) fun _ => id⟩
      cases reported <;> rfl
  | producing unit => exact .of_keeps ⟨trivial, rfl, fun _ _ => rfl⟩
  | stopping =>
      intro state rest choice store next result focus
      simp only [Option.ite_none_left_eq_some, Option.some.injEq,
        Prod.mk.injEq] at result
      obtain ⟨_, rfl, rfl⟩ := result
      exact fun _ worker member =>
        .inl (Nat.add_pos_right _ (List.count_pos_iff.mpr member))
  | stoppingWorkers workers =>
      cases workers with
      | nil =>
          refine .of_keeps ?_
          rintro choice store after next ⟨⟩
          exact ⟨rfl, rfl⟩
      | cons worker workers =>
          refine ⟨fun state rest focus => ?_, fun _ reported state rest focus => ?_⟩
          · refine focus.holds.mono rfl (fun other waits => ?_)
              fun _ => List.mem_append_left _
            by_cases same : other = worker
            · subst same
              exact .inr ⟨state.store, by simp⟩
            · refine .inl ?_
              simpa [same, Ne.symm same] using waits
          · refine focus.holds.mono rfl (fun other waits => .inl ?_) fun _ => id
            by_cases same : other = worker
            · subst same
              have lost : 0 < config.lostStops (.toWorker other) stopText other := by
                simp
              exact Nat.add_pos_left lost _
            · simpa [same, Ne.symm same] using waits
  | stops count =>
      cases count with
      | zero => trivial
      | succ => exact .of_keeps ⟨trivial, rfl, fun _ _ => rfl⟩
  | failed => trivial

/-- Every step of every thread keeps track of who was told to stop. -/
theorem Configuration.tellsStop
    (timely : ∀ node state, allowed node state → config.Timely node state)
    (node : Node config) (thread : config.Thread node) :
    TellsStop mayClose allowed node thread := by
  cases node with
  | distributor => exact Distributor.tellsStop thread
  | masterServer => exact MasterServer.tellsStop thread timely
  | workerConnectionHandler index =>
      exact WorkerConnectionHandler.tellsStop index thread
  | requestServer worker => exact RequestServer.tellsStop worker thread
  | _ =>
      refine .of_other rfl (fun _ => rfl) (fun worker used => ?_) thread
      simp [uses] at used

end Threads

section Line

variable {config : Configuration} {capacity : Channel config → Option Nat}
  {faults : Prop} {state : config.State}

theorem Configuration.stopsTold
    (run : Reaches (config.network capacity) faults config.Timely config.start
      state) :
    config.StopsTold state.store (config.stopWeights.total state) state.sent := by
  refine run.total_invariant config.StopsTold (fun _ => rfl) ?_
    (config.tellsStop fun _ _ permitted => permitted)
  intro begun
  rw [total_phase] at begun
  exact (Nat.lt_irrefl 0 begun).elim

/-- A stop line that was lost is among what was lost. -/
theorem Configuration.told_of_lostStops {worker : config.Worker}
    (lost : 0 < (state.lost.map fun entry =>
      config.lostStops entry.channel entry.item worker).sum) :
    config.Told state worker := by
  have some : ∃ entry ∈ state.lost,
      config.lostStops entry.channel entry.item worker ≠ 0 := by
    by_contra none
    have zero := List.sum_eq_zero (l := state.lost.map fun entry =>
      config.lostStops entry.channel entry.item worker) ?_
    · omega
    · intro weight member
      obtain ⟨entry, inside, rfl⟩ := List.mem_map.mp member
      by_contra counts
      exact none ⟨entry, inside, counts⟩
  obtain ⟨⟨channel, item, reported⟩, inside, counts⟩ := some
  cases channel with
  | toWorker other =>
      simp only [lostStops] at counts
      split at counts
      · rename_i stops
        obtain rfl : worker = other := by
          by_contra differs
          simp [differs] at counts
        subst stops
        exact .inr ⟨reported, inside⟩
      · exact (counts rfl).elim
  | _ => exact (counts rfl).elim

/-- A registered connection that is queued or held is in the pool. -/
theorem Configuration.mem_pool_of_held {allowed : Node config → config.State → Prop}
    (run : Reaches (config.network capacity) faults allowed config.start state)
    {worker : config.Worker}
    (held : worker ∈ state.store.pool ∨
      some worker ∈ state.queue .workerConnectionsQueue ∨
      ∃ index, (state.thread (.workerConnectionHandler index)).Reads worker) :
    worker ∈ state.store.pool := by
  have kept := (config.poolKept run worker).1
  rcases held with member | queued | ⟨index, reads⟩
  · exact member
  · obtain ⟨rest, split⟩ :=
      config.poolWeights.exists_total_eq_item queued .decomposer
    rw [split] at kept
    simp at kept
    exact List.count_pos_iff.mp (by omega)
  · rw [config.poolWeights.total_eq_others state (.workerConnectionHandler index)]
      at kept
    have holds : (config.threadWorkers (.workerConnectionHandler index)
        (state.thread (.workerConnectionHandler index))).1 worker = 1 := by
      revert reads
      generalize state.thread (.workerConnectionHandler index) = thread
      cases thread <;> simp [WorkerConnectionHandler.Reads] <;>
        (rintro rfl; simp)
    rw [Prod.fst_add, Pi.add_apply, poolWeights_thread, holds] at kept
    exact List.count_pos_iff.mp (by omega)

/-- In every run, also when connections close, in which the master server adds no
worker after the distributor has begun to stop them: when the distributor has
finished, the stop line was written to every worker that is in the pool, in the
queue of connections or being read. -/
theorem Configuration.registered_told
    (run : Reaches (config.network capacity) faults config.Timely config.start
      state) {count : Nat} (finished : state.thread .distributor = .stops count)
    {worker : config.Worker}
    (held : worker ∈ state.store.pool ∨
      some worker ∈ state.queue .workerConnectionsQueue ∨
      ∃ index, (state.thread (.workerConnectionHandler index)).Reads worker) :
    config.Told state worker := by
  have begun : 0 < (config.stopWeights.total state).1 := by
    simp [total_phase, finished]
  rcases stopsTold run begun worker (mem_pool_of_held run held) with
    waits | ⟨store, written⟩
  · rw [total_stops, finished] at waits
    exact told_of_lostStops (by simpa using waits)
  · exact .inl ⟨store, written⟩

end Line

/-! ## Two runs -/

/-- The signal comes and reaches the distributor, which takes the pool. -/
def stopTurns : List SampleTurn :=
  [.go .signalHandler, .go .signalHandler,
    .step (.connectionHandler only) .stop true, .go (.connectionHandler only),
    .go .decomposer, .go .decomposer, .go .distributor, .go .distributor]

/-- The worker is registered before the signal comes. -/
def timelyTurns : List SampleTurn :=
  ([.step .masterServer (.worker only) true,
    .step .masterServer (.password true) true, .go .masterServer,
    .go .masterServer, .go (.workerConnectionHandler only)] : List SampleTurn) ++
  stopTurns ++ ([.go .distributor, .go .distributor] : List SampleTurn)

/-- The worker is registered after the distributor has stopped the workers. -/
def lateTurns : List SampleTurn :=
  ([.step .masterServer (.worker only) true,
    .step .masterServer (.password true) true] : List SampleTurn) ++ stopTurns ++
  ([.go .distributor, .go .masterServer, .go .masterServer,
    .go (.workerConnectionHandler only)] : List SampleTurn)

/-- The state after the first schedule. -/
def timelyState : Option sampleConfiguration.State :=
  (sampleConfiguration.network fun _ => none).exec false
    (fun node state => decide (sampleConfiguration.Timely node state)) timelyTurns
    sampleConfiguration.start

/-- The state after the second schedule. -/
def lateState : Option sampleConfiguration.State :=
  (sampleConfiguration.network fun _ => none).exec false (fun _ _ => true) lateTurns
    sampleConfiguration.start

theorem Configuration.registered_told_sample :
    ∃ state ∈ timelyState, state.thread .distributor = .stops 1 ∧
      state.thread (.workerConnectionHandler only) = .reading only ∧
      sampleConfiguration.Told state only := by
  have works : timelyState.any (fun state =>
      state.thread .distributor = .stops 1 ∧
      state.thread (.workerConnectionHandler only) = .reading only) = true := by
    decide +kernel
  obtain ⟨state, result, run, finished, reading⟩ :=
    Reaches.exists_of_exec False (by decide)
      (fun _ _ permitted => of_decide_eq_true permitted) works
  refine ⟨state, result, finished, reading, Configuration.registered_told run finished
    (.inr (.inr ⟨only, ?_⟩))⟩
  rw [reading]
  rfl

/-- A handler reads from a worker that was never told to stop. -/
theorem Configuration.worker_never_told :
    ∃ state : sampleConfiguration.State,
      Reaches (sampleConfiguration.network fun _ => none) False (fun _ _ => True)
        sampleConfiguration.start state ∧
      state.thread .distributor = .stops 1 ∧ only ∈ state.store.pool ∧
      state.thread (.workerConnectionHandler only) = .reading only ∧
      ¬ sampleConfiguration.Told state only := by
  have works : lateState.any (fun state =>
      state.thread .distributor = .stops 1 ∧ only ∈ state.store.pool ∧
      state.thread (.workerConnectionHandler only) = .reading only ∧
      (∀ entry ∈ state.sent, entry.channel ≠ .toWorker only) ∧
      state.lost.isEmpty) = true := by
    decide +kernel
  obtain ⟨state, _, run, finished, member, reading, unsent, none⟩ :=
    Reaches.exists_of_exec False (by decide) (fun _ _ _ => trivial) works
  refine ⟨state, run, finished, member, reading, ?_⟩
  rintro (⟨store, written⟩ | ⟨reported, lost⟩)
  · exact unsent _ written rfl
  · rw [List.isEmpty_iff.mp none] at lost
    cases lost

end Concurrente.WebServer
