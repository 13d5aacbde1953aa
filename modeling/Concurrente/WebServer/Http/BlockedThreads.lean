import Concurrente.WebServer.Http.RequestDelivery
import Concurrente.WebServer.Http.Signals

/-!
# Blocked threads

A thread of the production line that cannot take a step has ended, or waits at
an empty channel, if there is room in the channels it writes to.
-/

namespace Concurrente.WebServer

open Library Network

variable {config : Configuration} {capacity : Channel config → Option Nat}
  {state : config.State}

namespace Configuration

/-- Threads that have come to the end of their run. -/
def ended : (node : Node config) → config.Thread node → Bool
  | .signalHandler, thread => thread == .ended
  | .connectionHandler _, thread => thread == .ended
  | .decomposer, thread => thread == .ended
  | .distributor, thread => thread == .stops 0
  | .calculator _, thread => thread == .ended
  | .masterServer, thread => thread == .stops 0
  | .workerConnectionHandler _, thread => thread == .ended
  | .responseAssembler, thread => thread == .ended
  | .clientResponder, thread => thread == .ended
  | .requestServer _, thread => thread == .stops 0
  | .workerCalculator _ _, thread => thread == .ended
  | .responseClient _, thread => thread == .ended

/-- A thread that cannot take a step. -/
abbrev Blocked (capacity : Channel config → Option Nat) (state : config.State)
    (node : Node config) : Prop :=
  ¬ CanStep (config.network capacity) node state

theorem Blocked.receive {node : Node config} {thread : config.Thread node}
    {channel : Channel config}
    {next : Option (config.Item channel) → config.Thread node}
    (blocked : Blocked capacity state node) (acting : state.thread node = thread)
    (acts : config.act node thread = .receive channel next)
    (isOpen : (config.network capacity).IsOpen state channel) :
    state.queue channel = [] := by
  by_contra filled
  subst acting
  exact blocked (.receive acts isOpen filled)

theorem Blocked.send {node : Node config} {thread : config.Thread node}
    {channel : Channel config} {item : config.Item channel}
    {next : Bool → config.Thread node}
    (blocked : Blocked capacity state node) (acting : state.thread node = thread)
    (acts : config.act node thread = .send channel item next)
    (isOpen : (config.network capacity).IsOpen state channel) :
    ¬ (config.network capacity).HasRoom state channel := by
  subst acting
  exact fun room => blocked (.send acts isOpen room)

theorem Blocked.work {node : Node config} {thread : config.Thread node}
    {effect : Choice config → Shared config →
      Option (Shared config × config.Thread node)}
    (blocked : Blocked capacity state node) (acting : state.thread node = thread)
    (acts : config.act node thread = .work effect) (choice : Choice config) :
    effect choice state.store = none := by
  subst acting
  by_contra some
  exact blocked (.work acts (Option.isSome_iff_ne_none.mpr some))

/-- Who has ended takes no more steps. -/
theorem Blocked.of_ended {node : Node config}
    (ends : config.ended node (state.thread node) = true) :
    Blocked capacity state node := by
  have halted : config.act node (state.thread node) = .halt := by
    cases node <;> simp only [ended, beq_iff_eq] at ends <;> rw [ends] <;> rfl
  rintro ⟨after, step⟩
  cases step with
  | receive acts | receiveClosed acts | send acts | sendClosed acts | work acts =>
      cases acts.symm.trans halted

end Configuration

open WebServer.Configuration (Blocked Informed)

section Threads

variable (isOpen : ∀ channel, (config.network capacity).IsOpen state channel)

theorem SignalHandler.of_blocked (blocked : Blocked capacity state .signalHandler) :
    state.thread .signalHandler = .ended := by
  cases acting : state.thread .signalHandler with
  | waiting | stoppingWorkers => cases blocked.work acting rfl .proceed
  | ended => rfl

include isOpen

theorem HttpConnectionHandler.of_blocked {index : Fin config.maxConnections}
    (blocked : Blocked capacity state (.connectionHandler index))
    (room : (config.network capacity).HasRoom state .decomposerQueue) :
    state.thread (.connectionHandler index) = .ended ∨
      (state.thread (.connectionHandler index) = .consuming ∧
        state.store.clientsStopped = false) := by
  cases acting : state.thread (.connectionHandler index) with
  | consuming =>
      have waits := blocked.work acting rfl .stop
      simp [consume] at waits
      exact .inr ⟨rfl, waits⟩
  | producing | lastStop =>
      exact (blocked.send acting rfl (isOpen _) room).elim
  | ended => exact .inl rfl

theorem Decomposer.of_blocked
    (sound : ¬ config.Failed .decomposer (state.thread .decomposer))
    (blocked : Blocked capacity state .decomposer)
    (room : (config.network capacity).HasRoom state .distributorQueue) :
    state.thread .decomposer = .ended ∨
      ((∃ pending, state.thread .decomposer = .loop (pending + 1)) ∧
        state.queue .decomposerQueue = []) := by
  cases acting : state.thread .decomposer with
  | loop pending =>
      cases pending with
      | zero => exact (blocked.send acting rfl (isOpen _) room).elim
      | succ pending =>
          exact .inr ⟨⟨pending, rfl⟩, blocked.receive acting rfl (isOpen _)⟩
  | decomposing => cases blocked.work acting rfl .proceed
  | producing units =>
      cases units with
      | nil => cases blocked.work acting rfl .proceed
      | cons => exact (blocked.send acting rfl (isOpen _) room).elim
  | ended => exact .inl rfl
  | failed => exact (sound (acting ▸ trivial)).elim

theorem Distributor.of_blocked
    (sound : ¬ config.Failed .distributor (state.thread .distributor))
    (informed : Informed .distributor (state.thread .distributor) state.store)
    (blocked : Blocked capacity state .distributor)
    (room : (config.network capacity).HasRoom state .dataUnitsQueue)
    (workerRoom : ∀ worker,
      (config.network capacity).HasRoom state (.toWorker worker)) :
    state.thread .distributor = .stops 0 ∨
      (state.thread .distributor = .loop ∧ state.queue .distributorQueue = []) := by
  cases acting : state.thread .distributor with
  | loop => exact .inr ⟨rfl, blocked.receive acting rfl (isOpen _)⟩
  | consuming unit =>
      exfalso
      cases pool : state.store.pool with
      | nil =>
          have waits := blocked.work acting rfl .proceed
          simp [getRandomWorkerConnection, pool] at waits
      | cons worker workers =>
          have waits := blocked.work acting rfl (.worker worker)
          simp [getRandomWorkerConnection, pool] at waits
  | sending worker =>
      exact (blocked.send acting rfl (isOpen _) (workerRoom worker)).elim
  | producing => exact (blocked.send acting rfl (isOpen _) room).elim
  | stopping =>
      have waits := blocked.work acting rfl .proceed
      simp only [ite_eq_left_iff, reduceCtorEq, imp_false, Bool.not_eq_true,
        Bool.not_eq_false] at waits
      obtain ⟨workers, stopping⟩ := informed waits
      cases acting.symm.trans stopping
  | stoppingWorkers workers =>
      cases workers with
      | nil => cases blocked.work acting rfl .proceed
      | cons worker =>
          exact (blocked.send acting rfl (isOpen _) (workerRoom worker)).elim
  | stops count =>
      cases count with
      | zero => exact .inl rfl
      | succ => exact (blocked.send acting rfl (isOpen _) room).elim
  | failed => exact (sound (acting ▸ trivial)).elim

theorem Calculator.of_blocked {index : Fin config.calculatorsAmount}
    (sound : ¬ config.Failed (.calculator index) (state.thread (.calculator index)))
    (blocked : Blocked capacity state (.calculator index))
    (room : (config.network capacity).HasRoom state .assemblerQueue) :
    state.thread (.calculator index) = .ended ∨
      (state.thread (.calculator index) = .loop ∧
        state.queue .dataUnitsQueue = []) := by
  cases acting : state.thread (.calculator index) with
  | loop => exact .inr ⟨rfl, blocked.receive acting rfl (isOpen _)⟩
  | processing => cases blocked.work acting rfl .proceed
  | producing | lastStop =>
      exact (blocked.send acting rfl (isOpen _) room).elim
  | ended => exact .inl rfl
  | failed => exact (sound (acting ▸ trivial)).elim

theorem MasterServer.of_blocked (unlocked : state.store.poolLocked = false)
    (blocked : Blocked capacity state .masterServer)
    (room : (config.network capacity).HasRoom state .workerConnectionsQueue) :
    state.thread .masterServer = .stops 0 ∨
      (state.thread .masterServer = .listening ∧
        state.store.workersStopped = false) := by
  cases acting : state.thread .masterServer with
  | listening =>
      have waits := blocked.work acting rfl .stop
      simp [accept] at waits
      exact .inr ⟨rfl, waits⟩
  | readingPassword => cases blocked.work acting rfl (.password true)
  | adding =>
      have waits := blocked.work acting rfl .proceed
      simp [unlocked] at waits
  | producing => exact (blocked.send acting rfl (isOpen _) room).elim
  | stops count =>
      cases count with
      | zero => exact .inl rfl
      | succ => exact (blocked.send acting rfl (isOpen _) room).elim

theorem WorkerConnectionHandler.of_blocked
    {index : Fin config.maxWorkerConnections}
    (sound : ¬ config.Failed (.workerConnectionHandler index)
      (state.thread (.workerConnectionHandler index)))
    (unlocked : state.store.poolLocked = false)
    (blocked : Blocked capacity state (.workerConnectionHandler index))
    (room : (config.network capacity).HasRoom state .assemblerQueue) :
    state.thread (.workerConnectionHandler index) = .ended ∨
      (state.thread (.workerConnectionHandler index) = .loop ∧
        state.queue .workerConnectionsQueue = []) ∨
      ∃ worker, state.thread (.workerConnectionHandler index) = .reading worker ∧
        state.queue (.toMaster worker) = [] := by
  cases acting : state.thread (.workerConnectionHandler index) with
  | loop => exact .inr (.inl ⟨rfl, blocked.receive acting rfl (isOpen _)⟩)
  | reading worker =>
      exact .inr (.inr ⟨worker, rfl, blocked.receive acting rfl (isOpen _)⟩)
  | routing => cases blocked.work acting rfl .proceed
  | producing | lastStop =>
      exact (blocked.send acting rfl (isOpen _) room).elim
  | removing =>
      have waits := blocked.work acting rfl .proceed
      simp [unlocked] at waits
  | ended => exact .inl rfl
  | failed => exact (sound (acting ▸ trivial)).elim

theorem ResponseAssembler.of_blocked
    (sound : ¬ config.Failed .responseAssembler (state.thread .responseAssembler))
    (blocked : Blocked capacity state .responseAssembler)
    (room : (config.network capacity).HasRoom state .responderQueue) :
    state.thread .responseAssembler = .ended ∨
      ((∃ pending, state.thread .responseAssembler = .loop (pending + 1)) ∧
        state.queue .assemblerQueue = []) := by
  cases acting : state.thread .responseAssembler with
  | loop pending =>
      cases pending with
      | zero => exact (blocked.send acting rfl (isOpen _) room).elim
      | succ pending =>
          exact .inr ⟨⟨pending, rfl⟩, blocked.receive acting rfl (isOpen _)⟩
  | assembling => cases blocked.work acting rfl .proceed
  | producing => exact (blocked.send acting rfl (isOpen _) room).elim
  | ended => exact .inl rfl
  | failed => exact (sound (acting ▸ trivial)).elim

theorem ClientResponder.of_blocked
    (sound : ¬ config.Failed .clientResponder (state.thread .clientResponder))
    (blocked : Blocked capacity state .clientResponder) :
    state.thread .clientResponder = .ended ∨
      (state.thread .clientResponder = .loop ∧ state.queue .responderQueue = []) := by
  cases acting : state.thread .clientResponder with
  | loop => exact .inr ⟨rfl, blocked.receive acting rfl (isOpen _)⟩
  | responding => cases blocked.work acting rfl .proceed
  | ended => exact .inl rfl
  | failed => exact (sound (acting ▸ trivial)).elim

theorem RequestServer.of_blocked {worker : config.Worker}
    (sound : ¬ config.Failed (.requestServer worker)
      (state.thread (.requestServer worker)))
    (blocked : Blocked capacity state (.requestServer worker))
    (room : (config.network capacity).HasRoom state (.workerUnits worker)) :
    state.thread (.requestServer worker) = .stops 0 ∨
      (state.thread (.requestServer worker) = .reading ∧
        state.queue (.toWorker worker) = []) := by
  cases acting : state.thread (.requestServer worker) with
  | reading => exact .inr ⟨rfl, blocked.receive acting rfl (isOpen _)⟩
  | producing => exact (blocked.send acting rfl (isOpen _) room).elim
  | stops count =>
      cases count with
      | zero => exact .inl rfl
      | succ => exact (blocked.send acting rfl (isOpen _) room).elim
  | failed => exact (sound (acting ▸ trivial)).elim

theorem Calculator.of_workBlocked {worker : config.Worker}
    {index : Fin (config.workerCalculators worker)}
    (sound : ¬ config.Failed (.workerCalculator worker index)
      (state.thread (.workerCalculator worker index)))
    (blocked : Blocked capacity state (.workerCalculator worker index))
    (room : (config.network capacity).HasRoom state (.workerResponses worker)) :
    state.thread (.workerCalculator worker index) = .ended ∨
      (state.thread (.workerCalculator worker index) = .loop ∧
        state.queue (.workerUnits worker) = []) := by
  cases acting : state.thread (.workerCalculator worker index) with
  | loop => exact .inr ⟨rfl, blocked.receive acting rfl (isOpen _)⟩
  | processing => cases blocked.work acting rfl .proceed
  | producing | lastStop =>
      exact (blocked.send acting rfl (isOpen _) room).elim
  | ended => exact .inl rfl
  | failed => exact (sound (acting ▸ trivial)).elim

theorem ResponseClient.of_blocked {worker : config.Worker}
    (sound : ¬ config.Failed (.responseClient worker)
      (state.thread (.responseClient worker)))
    (blocked : Blocked capacity state (.responseClient worker))
    (room : (config.network capacity).HasRoom state (.toMaster worker)) :
    state.thread (.responseClient worker) = .ended ∨
      ((∃ pending, state.thread (.responseClient worker) = .loop (pending + 1)) ∧
        state.queue (.workerResponses worker) = []) := by
  cases acting : state.thread (.responseClient worker) with
  | loop pending =>
      cases pending with
      | zero => exact (blocked.send acting rfl (isOpen _) room).elim
      | succ pending =>
          exact .inr ⟨⟨pending, rfl⟩, blocked.receive acting rfl (isOpen _)⟩
  | sending => exact (blocked.send acting rfl (isOpen _) room).elim
  | ended => exact .inl rfl
  | failed => exact (sound (acting ▸ trivial)).elim

end Threads

end Concurrente.WebServer
