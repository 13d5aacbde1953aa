import Concurrente.WebServer.Http.RequestDelivery

/-!
# Workers that disconnect

A connection may close at any time.  The units of a request that is not yet
answered are then either within reach of the response assembler, or they were
at a worker whose connection has closed; nobody sends these again.
-/

namespace Concurrente.WebServer

open Library Network

/-- How many units of the object at an address a load stands for.  An object
that is still whole stands for all its units. -/
def Load.units (heap : Heap) (address : Address) : Load → Nat
  | .object target (.unit _ _) => if target = address then 1 else 0
  | .object target .whole =>
      if target = address then
        ((heap address).map CalcData.pendingQueries).getD 0
      else 0
  | _ => 0

namespace Configuration

variable {config : Configuration}

/-- What is at the master, or at a worker whose connection is open. -/
def withinReach (state : config.State) : Option config.Worker → Bool
  | none => true
  | some worker => !state.closed worker

/-- Units of an object in the items of a channel. -/
def channelUnits (state : config.State) (address : Address)
    (channel : Channel config) : Nat :=
  ((state.queue channel).map fun item => ((config.itemLoads channel item).map
    (Load.units state.store.heap address)).sum).sum

/-- Units of an object that a thread holds. -/
def threadUnits (state : config.State) (address : Address)
    (node : Node config) : Nat :=
  ((config.threadLoads node (state.thread node)).map
    (Load.units state.store.heap address)).sum

/-- Units of an object that were written to closed connections. -/
def lostUnits (state : config.State) (address : Address) : Nat :=
  (state.lost.map fun entry =>
    ((config.lostLoads entry.channel entry.item entry.reported).map
      (Load.units state.store.heap address)).sum).sum

/-- The units in queues and threads of the master, and those at workers whose
connection is open. -/
def reachableUnits (state : config.State) (address : Address) : Nat :=
  (∑ channel with withinReach state (channelWorker channel),
    channelUnits state address channel) +
  ∑ node with withinReach state (nodeWorker node), threadUnits state address node

/-- The units at workers whose connection has closed, and those written to a
closed connection. -/
def strandedUnits (state : config.State) (address : Address) : Nat :=
  (∑ channel with ¬ withinReach state (channelWorker channel),
    channelUnits state address channel) +
  (∑ node with ¬ withinReach state (nodeWorker node),
    threadUnits state address node) +
  lostUnits state address

end Configuration

/-- How many units some stages of an object stand for. -/
def Stage.units (pending : Nat) : Stage → Nat
  | .unit _ _ => 1
  | .whole => pending
  | _ => 0

/-- The units of the object at an address, counted by their stages. -/
def unitCount (address : Address) (pending : Nat) :
    (Address → Multiset Stage) →+ Nat where
  toFun stages := ((stages address).map (Stage.units pending)).sum
  map_zero' := by simp
  map_add' _ _ := by simp

theorem unitCount_apply (address : Address) (pending : Nat)
    (stages : Address → Multiset Stage) :
    unitCount address pending stages =
      ((stages address).map (Stage.units pending)).sum := rfl

theorem unitCount_load {heap : Heap} {address : Address} {data : CalcData}
    (live : heap address = some data) (load : Load) :
    unitCount address data.pendingQueries load.weight = load.units heap address := by
  cases load with
  | broken => simp [unitCount_apply, Load.weight, Stage.units, Load.units]
  | object target stage =>
      by_cases same : target = address
      · subst same
        cases stage <;>
          simp [unitCount_apply, Load.weight, Stage.units, Load.units, live]
      · have other : address ≠ target := Ne.symm same
        cases stage <;>
          simp [unitCount_apply, Load.weight, Load.units, same, other]

theorem unitCount_loads {heap : Heap} {address : Address} {data : CalcData}
    (live : heap address = some data) (loads : List Load) :
    unitCount address data.pendingQueries (loadWeight loads) =
      (loads.map (Load.units heap address)).sum := by
  induction loads with
  | nil => exact map_zero _
  | cons load loads ih =>
      rw [loadWeight_cons, map_add, unitCount_load live, ih, List.map_cons,
        List.sum_cons]

/-- The stages of an object stand for its pending units. -/
theorem ObjectAt.units_eq_pending {applications : List HttpApp}
    {address : Address} {data : CalcData} {stages : Multiset Stage}
    (object : ObjectAt applications address (some data) stages) :
    (stages.map (Stage.units data.pendingQueries)).sum = data.pendingQueries := by
  cases object with
  | whole => simp [Stage.units]
  | decomposed _ _ _ working =>
      simp [stagesOf, Function.comp_def, Stage.units, working.pending]
  | assembled _ _ finished => simp [Stage.units, finished]
  | handed _ _ finished => simp [Stage.units, finished]

section Line

variable {config : Configuration} {capacity : Channel config → Option Nat}
  {state : config.State} {address : Address} {data : CalcData}

theorem Configuration.unitCount_total (live : state.store.heap address = some data) :
    unitCount address data.pendingQueries (config.unitWeights.total state) =
      reachableUnits state address + strandedUnits state address := by
  rw [← Weights.total_map]
  simp only [Weights.total, Weights.map, unitWeights, unitCount_loads live]
  have channels := Finset.sum_filter_add_sum_filter_not Finset.univ
    (fun channel => withinReach state (channelWorker channel) = true)
    (channelUnits state address)
  have nodes := Finset.sum_filter_add_sum_filter_not Finset.univ
    (fun node => withinReach state (nodeWorker node) = true)
    (threadUnits state address)
  unfold reachableUnits strandedUnits
  simp only [channelUnits, threadUnits, lostUnits] at channels nodes ⊢
  omega

/-- In every run in which connections may close: what is pending of a request
that is not answered is what can still reach the assembler, and what was at a
worker when its connection closed. -/
theorem Configuration.pendingQueries_eq
    (run : Reaches (config.network capacity) True (fun _ _ => True)
      config.start state) (live : state.store.heap address = some data) :
    data.pendingQueries =
      reachableUnits state address + strandedUnits state address := by
  have object := config.accounted run address
  rw [live] at object
  rw [← unitCount_total live]
  exact object.units_eq_pending.symm

end Line

/-! ## A worker that disconnects -/

/-- A worker connects and gets the only unit of a request, then its connection
closes. -/
def disconnectTurns : List SampleTurn :=
  [.step .masterServer (.worker only) true,
    .step .masterServer (.password true) true, .go .masterServer,
    .go .masterServer,
    .step (.connectionHandler only) (.accept 0 [7] 4096) true,
    .go (.connectionHandler only), .go .decomposer, .go .decomposer,
    .go .decomposer, .go .distributor, .step .distributor (.worker only) true,
    .go .distributor, .close only]

/-- The state after the schedule. -/
def disconnectState : Option sampleConfiguration.State :=
  (sampleConfiguration.network fun _ => none).exec true (fun _ _ => true)
    disconnectTurns sampleConfiguration.start

/-- The request is not answered, and its unit cannot reach the assembler. -/
theorem Configuration.unit_stranded :
    ∃ state data,
      Reaches (sampleConfiguration.network fun _ => none) True (fun _ _ => True)
        sampleConfiguration.start state ∧
      state.store.heap 4096 = some data ∧
      data.pendingQueries = 1 ∧ reachableUnits state 4096 = 0 := by
  have works : disconnectState.any (fun state =>
      (state.store.heap 4096).map CalcData.pendingQueries = some 1 ∧
      reachableUnits state 4096 = 0) = true := by
    decide +kernel
  obtain ⟨state, _, run, queries, unreachable⟩ :=
    Reaches.exists_of_exec True (fun _ => trivial) (fun _ _ _ => trivial) works
  obtain ⟨data, live, pending⟩ := Option.map_eq_some_iff.mp queries
  exact ⟨state, data, run, live, pending, unreachable⟩

/-- The unit is accounted for as stranded. -/
theorem Configuration.pendingQueries_eq_disconnected :
    ∃ state ∈ disconnectState, ∃ data, state.store.heap 4096 = some data ∧
      data.pendingQueries =
        reachableUnits state 4096 + strandedUnits state 4096 := by
  have works : disconnectState.any (fun state =>
      (state.store.heap 4096).isSome = true) = true := by
    decide +kernel
  obtain ⟨state, result, run, some⟩ :=
    Reaches.exists_of_exec True (fun _ => trivial) (fun _ _ _ => trivial) works
  obtain ⟨data, live⟩ := Option.isSome_iff_exists.mp some
  exact ⟨state, result, data, live, Configuration.pendingQueries_eq run live⟩

end Concurrente.WebServer
