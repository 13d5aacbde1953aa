import Concurrente.WebServer.Http.ThreadSteps

/-!
# The signal and the lock of the pool

Which threads know that a listener was stopped, and who holds the lock of the
pool.
-/

namespace Concurrente.WebServer

open Library Network

namespace Configuration

variable {config : Configuration}

/-- What a thread knows of the listeners and of the lock of the pool.  The
signal handler stops client requests before worker connections, and without
connection handlers nothing is accepted. -/
def Informed : (node : Node config) → config.Thread node → Shared config → Prop
  | .signalHandler, thread, shared =>
      (shared.workersStopped = true → shared.clientsStopped = true) ∧
      (thread ≠ .waiting → shared.clientsStopped = true) ∧
      (thread = .ended → shared.workersStopped = true) ∧
      (config.maxConnections = 0 → shared.accepted = [])
  | .connectionHandler _, thread, shared =>
      thread = .lastStop ∨ thread = .ended → shared.clientsStopped = true
  | .masterServer, thread, shared =>
      (∃ count, thread = .stops count) → shared.workersStopped = true
  | .distributor, thread, shared =>
      shared.poolLocked = true → ∃ workers, thread = .stoppingWorkers workers
  | _, _, _ => True

/-- A step of one thread does not invalidate what another one knows. -/
theorem Informed.of_frame {node other : Node config} (ne : other ≠ node)
    {shared after : Shared config} (frame : Frame node shared after)
    (quiet : node ≠ .signalHandler) (idle : acceptsRequests node = false)
    {thread : config.Thread other} (informed : Informed other thread shared) :
    Informed other thread after := by
  have signals := frame.signals quiet
  have accepted := frame.accepted idle
  simp only [Shared.signals, Prod.mk.injEq] at signals
  cases other with
  | signalHandler =>
      simpa only [Informed, signals.1, signals.2, accepted] using informed
  | connectionHandler => simpa only [Informed, signals.1] using informed
  | masterServer => simpa only [Informed, signals.2] using informed
  | distributor =>
      simpa only [Informed, frame.poolLocked (Ne.symm ne)] using informed
  | _ => trivial

end Configuration

section Threads

variable {config : Configuration}

open WebServer.Configuration (Informed)

/-- The step of a thread in some state secures what the threads know. -/
abbrev SecuresSignals (node : Node config) (thread : config.Thread node) : Prop :=
  Secures Informed node thread (config.act node thread)

/-- A thread that knows nothing and changes nothing of this. -/
theorem SecuresSignals.of_uninformed {node : Node config}
    (ignorant : ∀ (thread : config.Thread node) shared, Informed node thread shared)
    (quiet : node ≠ .signalHandler)
    (idle : Configuration.acceptsRequests node = false)
    (thread : config.Thread node) : SecuresSignals node thread := by
  have within := Configuration.act_within node thread
  unfold SecuresSignals
  cases acts : config.act node thread with
  | receive => exact fun _ _ _ => ignorant _ _
  | send => exact fun _ _ _ => ignorant _ _
  | work effect =>
      rw [acts] at within
      exact fun choice store after next result _ => ⟨ignorant _ _,
        fun other ne _ informed =>
          informed.of_frame ne (within choice store after next result) quiet idle⟩
  | halt => trivial

theorem SignalHandler.securesSignals
    (thread : config.Thread .signalHandler) :
    SecuresSignals .signalHandler thread := by
  cases thread with
  | waiting =>
      rintro choice store after next ⟨⟩ ⟨_, _, _, none⟩
      refine ⟨⟨fun _ => rfl, fun _ => rfl,
        fun ends => SignalHandler.noConfusion ends, none⟩,
        fun other ne other_thread informed => ?_⟩
      cases other with
      | connectionHandler => exact fun _ => rfl
      | signalHandler => exact (ne rfl).elim
      | _ => exact informed
  | stoppingWorkers =>
      rintro choice store after next ⟨⟩ ⟨_, known, _, none⟩
      have stopped := known (by simp)
      refine ⟨⟨fun _ => stopped, fun _ => stopped, fun _ => rfl, none⟩,
        fun other ne other_thread informed => ?_⟩
      cases other with
      | masterServer => exact fun _ => rfl
      | signalHandler => exact (ne rfl).elim
      | _ => exact informed
  | ended => trivial

theorem HttpConnectionHandler.securesSignals (index : Fin config.maxConnections)
    (thread : HttpConnectionHandler) :
    SecuresSignals (.connectionHandler index) thread := by
  cases thread with
  | consuming =>
      intro choice store after next result informed
      rcases consume_cases result with
        ⟨_, _, _, _, _, _, _, _, _, rfl, rfl⟩ | ⟨stopped, rfl, rfl⟩
      · refine ⟨fun ends => by simp at ends,
          fun other ne other_thread known => ?_⟩
        cases other with
        | signalHandler =>
            have some : config.maxConnections ≠ 0 :=
              Nat.ne_of_gt (Nat.lt_of_le_of_lt (Nat.zero_le _) index.isLt)
            exact ⟨known.1, known.2.1, known.2.2.1, fun none => (some none).elim⟩
        | _ => exact known
      · exact ⟨fun _ => stopped, fun _ _ _ known => known⟩
  | producing data =>
      rintro store informed reported (ends | ends) <;> cases ends
  | lastStop => exact fun store informed reported _ => informed (.inl rfl)
  | ended => trivial

theorem MasterServer.securesSignals (thread : MasterServer config.Worker) :
    SecuresSignals .masterServer thread := by
  have within := Configuration.act_within .masterServer thread
  cases thread with
  | listening =>
      intro choice store after next result informed
      refine ⟨?_, fun other ne _ known => known.of_frame ne
        (within choice store after next result) (by simp) rfl⟩
      rcases accept_cases result with ⟨_, _, _, rfl, rfl⟩ | ⟨stopped, rfl, rfl⟩
      · rintro ⟨_, ends⟩
        cases ends
      · exact fun _ => stopped
  | readingPassword worker =>
      intro choice store after next result informed
      refine ⟨?_, fun other ne _ known => known.of_frame ne
        (within choice store after next result) (by simp) rfl⟩
      rcases readPassword_cases result with ⟨rfl, rfl⟩ | ⟨rfl, rfl⟩ <;>
        (rintro ⟨_, ends⟩; cases ends)
  | adding worker =>
      intro choice store after next result informed
      refine ⟨?_, fun other ne _ known => known.of_frame ne
        (within choice store after next result) (by simp) rfl⟩
      simp only [Option.ite_none_left_eq_some, Option.some.injEq,
        Prod.mk.injEq] at result
      obtain ⟨_, rfl, rfl⟩ := result
      rintro ⟨_, ends⟩
      cases ends
  | producing worker =>
      rintro store informed reported ⟨_, ends⟩
      cases ends
  | stops count =>
      cases count with
      | zero => trivial
      | succ count => exact fun store informed reported _ => informed ⟨_, rfl⟩

theorem Distributor.securesSignals (thread : Distributor config.Worker) :
    SecuresSignals .distributor thread := by
  have within := Configuration.act_within .distributor thread
  cases thread with
  | loop =>
      intro store informed item locked
      obtain ⟨_, holds⟩ := informed locked
      cases holds
  | consuming unit =>
      intro choice store after next result informed
      refine ⟨?_, fun other ne _ known => known.of_frame ne
        (within choice store after next result) (by simp) rfl⟩
      obtain ⟨rfl, _⟩ := getRandomWorkerConnection_cases result
      intro locked
      obtain ⟨_, holds⟩ := informed locked
      cases holds
  | sending | producing =>
      intro store informed reported locked
      obtain ⟨_, holds⟩ := informed locked
      cases holds
  | stopping =>
      intro choice store after next result informed
      refine ⟨?_, fun other ne _ known => known.of_frame ne
        (within choice store after next result) (by simp) rfl⟩
      simp only [Option.ite_none_left_eq_some, Option.some.injEq,
        Prod.mk.injEq] at result
      obtain ⟨_, rfl, rfl⟩ := result
      exact fun _ => ⟨_, rfl⟩
  | stoppingWorkers workers =>
      cases workers with
      | nil =>
          intro choice store after next result informed
          refine ⟨?_, fun other ne _ known => known.of_frame ne
            (within choice store after next result) (by simp) rfl⟩
          cases result
          intro locked
          cases locked
      | cons worker workers => exact fun store informed reported _ => ⟨_, rfl⟩
  | stops count =>
      cases count with
      | zero => trivial
      | succ count =>
          intro store informed reported locked
          obtain ⟨_, holds⟩ := informed locked
          cases holds
  | failed => trivial

theorem Configuration.securesSignals (node : Node config)
    (thread : config.Thread node) : SecuresSignals node thread := by
  cases node with
  | signalHandler => exact SignalHandler.securesSignals thread
  | connectionHandler index => exact HttpConnectionHandler.securesSignals index thread
  | masterServer => exact MasterServer.securesSignals thread
  | distributor => exact Distributor.securesSignals thread
  | _ =>
      refine .of_uninformed (fun _ _ => ?_) ?_ rfl thread
      · trivial
      · simp

end Threads

/-- In every state of every run the threads know what happened. -/
theorem Configuration.informed {config : Configuration}
    {capacity : Channel config → Option Nat} {faults : Prop}
    {allowed : Node config → config.State → Prop} {state : config.State}
    (run : Reaches (config.network capacity) faults allowed config.start state)
    (node : Node config) : Informed node (state.thread node) state.store := by
  refine run.secured (fun node => ?_) config.securesSignals node
  cases node with
  | signalHandler => simp [Informed, start, startThread]
  | connectionHandler => simp [Informed, start, startThread]
  | masterServer => simp [Informed, start, startThread]
  | distributor => simp [Informed, start]
  | _ => trivial

end Concurrente.WebServer
