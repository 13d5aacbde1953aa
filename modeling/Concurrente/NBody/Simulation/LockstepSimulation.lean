import Concurrente.Library.LockstepRuns
import Concurrente.Library.Loops
import Concurrente.NBody.Simulation.CollectiveAgreement
import Concurrente.NBody.Simulation.Distribution

/-!
# Processes and phases

The processes run on their own and meet in collective operations; the phases
take all of them together.  Both descriptions belong together: whatever the
interleaving, a process that has left the loop of `simulate` holds the bodies,
the time and the number of bodies that the loop over whole phases ends with.
-/

namespace Concurrente.NBody

open Library

variable {α : Type} [RealArithmetic α] {size : Nat}

namespace Simulation

/-! ## Cycles -/

/-- The rounds of the first ranks. -/
def rounds {σ : Type} (round : σ → Fin size → σ) (first : σ) (count : Nat) : σ :=
  ((List.finRange size).take count).foldl round first

theorem rounds_succ {σ : Type} (round : σ → Fin size → σ) (first : σ)
    (rank : Fin size) :
    rounds round first (rank + 1) = round (rounds round first rank) rank := by
  have inside : rank.val < (List.finRange size).length := by simp
  rw [rounds, List.take_succ_eq_append_getElem inside, List.foldl_append,
    List.getElem_finRange]
  rfl

theorem rounds_all {σ : Type} (round : σ → Fin size → σ) (first : σ) {count : Nat}
    (all : size ≤ count) :
    rounds round first count = (List.finRange size).foldl round first := by
  rw [rounds, List.take_of_length_le (by simpa using all)]

/-! ## Where the processes are -/

/-- The universes of all processes when they come to a phase together. -/
def midway (deltaTime : α) (universes : Fin size → Universe α) :
    Phase size → Fin size → Universe α
  | .count .collisions rank | .values .collisions rank =>
      rounds collisionTurn (fun process => (universes process).checkCollisions) rank
  | .count .accelerations rank | .values .accelerations rank =>
      rounds accelerationTurn
        (fun process => (stateCollisions universes process).updateAccelerations) rank
  | .activeBodies =>
      statePositions deltaTime (stateAccelerations (stateCollisions universes))
  | _ => universes

/-- The phases of the loop of `simulate`. -/
def inLoop : Phase size → Bool
  | .count .collisions _ | .values .collisions _ => true
  | .count .accelerations _ | .values .accelerations _ => true
  | .activeBodies => true
  | _ => false

/-- All processes are in the same phase of an iteration. -/
structure At (deltaTime maxTime : α) (state : Simulated α size)
    (phase : Phase size) (processes : Fin size → Process α size) : Prop where
  rank : ∀ rank, (processes rank).rank = rank
  control : ∀ rank, (processes rank).control =
    { deltaTime, maxTime, currentTime := state.currentTime,
      totalActiveBodiesCount := state.totalActiveBodiesCount, phase }
  universes : ∀ rank,
    (processes rank).ownUniverse = midway deltaTime state.universes phase rank

/-- The processes are in an iteration that the loop comes to, or behind it. -/
def Follows (deltaTime maxTime : α) (start : Simulated α size)
    (processes : Fin size → Process α size) : Prop :=
  ∃ count phase,
    (∀ earlier < count,
      continues maxTime ((iteration deltaTime)^[earlier] start) = true) ∧
    continues maxTime ((iteration deltaTime)^[count] start) = inLoop phase ∧
    At deltaTime maxTime ((iteration deltaTime)^[count] start) phase processes

end Simulation

/-! ## What an operation does to a process -/

namespace Process

/-- What a process does to its bodies before a phase. -/
def entered (deltaTime : α) (universe' : Universe α) : Phase size → Universe α
  | .count .collisions rank =>
      if rank.val = 0 then universe'.checkCollisions else universe'
  | .count .accelerations rank =>
      if rank.val = 0 then universe'.updateAccelerations else universe'
  | .activeBodies => universe'.updateVelocitiesAndPositions deltaTime
  | _ => universe'

/-- What a process does to its bodies with what it receives. -/
def updated (self : Process α size) (received : Payload α) :
    Phase size → Universe α
  | .values .collisions rank =>
      if rank = self.rank then self.ownUniverse
      else self.ownUniverse.checkReceivedCollisions received.values self.rank rank
  | .values .accelerations rank =>
      if rank = self.rank then self.ownUniverse
      else self.ownUniverse.updateReceivedAccelerations received.values
  | _ => self.ownUniverse

theorem receive_eq (self : Process α size) (received : Payload α) :
    (self.receive received).rank = self.rank ∧
      (self.receive received).ownUniverse =
        self.updated received self.control.phase := by
  unfold receive updated
  cases self.control.phase with
  | values cycle rank =>
      cases cycle with
      | collisions | accelerations =>
          dsimp only
          split <;> exact ⟨rfl, rfl⟩
      | distances =>
          dsimp only
          split <;> exact ⟨rfl, rfl⟩
  | _ => exact ⟨rfl, rfl⟩

theorem enter_eq [NeZero size] (self : Process α size) :
    self.enter.rank = self.rank ∧
      self.enter.ownUniverse =
        entered self.control.deltaTime self.ownUniverse self.control.phase := by
  have zero : ∀ rank : Fin size, rank = 0 ↔ rank.val = 0 := fun rank => Fin.ext_iff
  unfold enter entered
  cases self.control.phase with
  | count cycle rank =>
      cases cycle with
      | collisions | accelerations =>
          simp only [zero]
          split <;> exact ⟨rfl, rfl⟩
      | distances =>
          dsimp only
          split <;> exact ⟨rfl, rfl⟩
  | _ => exact ⟨rfl, rfl⟩

theorem resume_eq [NeZero size] (self : Process α size) (received : Payload α) :
    (self.resume received).rank = self.rank ∧
      (self.resume received).ownUniverse =
        entered (self.control.advance received).deltaTime
          (self.updated received self.control.phase)
          (self.control.advance received).phase := by
  obtain ⟨rank, ownUniverse⟩ := self.receive_eq received
  obtain ⟨rank', ownUniverse'⟩ := enter_eq
    { self.receive received with control := self.control.advance received }
  unfold resume
  exact ⟨rank'.trans rank, ownUniverse'.trans (by dsimp only; rw [ownUniverse])⟩

end Process

namespace Simulation

variable [NeZero size] {deltaTime maxTime : α} {state start : Simulated α size}
  {phase : Phase size} {cycle : Cycle} {rank : Fin size}
  {processes : Fin size → Process α size}

/-- What the processes receive from their operation. -/
def received (processes : Fin size → Process α size)
    (operation : Collective size) : Payload α :=
  operation.outcome fun other => ((processes other).prepare).getD default

theorem At.together (here : At deltaTime maxTime state phase processes)
    {operation : Collective size} (next : phase.operation = some operation) :
    program.together processes =
      fun rank => (processes rank).resume (received processes operation) := by
  funext rank
  have own : program.next (program.control (processes rank)) = some operation := by
    change (processes rank).control.phase.operation = some operation
    rw [here.control rank]
    exact next
  rw [CollectiveProgram.together]
  simp only [own]
  rfl

/-- The processes come to the next phase of some iteration. -/
theorem At.resume (here : At deltaTime maxTime state phase processes)
    {operation : Collective size} {later : Simulated α size} {next : Phase size}
    (control : ∀ rank, ((processes rank).control.advance
        (received processes operation)) =
      { deltaTime, maxTime, currentTime := later.currentTime,
        totalActiveBodiesCount := later.totalActiveBodiesCount, phase := next })
    (universes : ∀ rank, Process.entered deltaTime
        ((processes rank).updated (received processes operation) phase) next =
      midway deltaTime later.universes next rank) :
    At deltaTime maxTime later next fun rank =>
      (processes rank).resume (received processes operation) := by
  constructor
  · intro rank
    rw [(Process.resume_eq _ _).1]
    exact here.rank rank
  · intro rank
    rw [Process.control_resume]
    exact control rank
  · intro rank
    rw [(Process.resume_eq _ _).2, control rank, here.control rank]
    exact universes rank

/-! ## One operation of all processes -/

omit [NeZero size] in
theorem Follows.iterate {count : Nat}
    (passed : ∀ earlier < count,
      continues maxTime ((iteration deltaTime)^[earlier] start) = true)
    (more : continues maxTime ((iteration deltaTime)^[count] start) = true) :
    ∀ earlier < count + 1,
      continues maxTime ((iteration deltaTime)^[earlier] start) = true := by
  intro earlier bound
  rcases Nat.lt_succ_iff_lt_or_eq.mp bound with before | rfl
  · exact passed earlier before
  · exact more

omit [NeZero size] in
/-- What the root of a broadcast sends. -/
theorem received_values (here : At deltaTime maxTime state (.values cycle rank)
    processes) :
    (received processes (.bcast rank)).values =
      (processes rank).serialized cycle := by
  have phase : (processes rank).control.phase = .values cycle rank := by
    rw [here.control rank]
  simp only [received, Collective.outcome, Process.prepare, phase, here.rank rank,
    if_true, Option.getD_some]

/-- The turn of a rank in a loop over the ranks. -/
theorem At.turn (here : At deltaTime maxTime state (.values cycle rank) processes)
    {following : Phase size}
    (advances : ∀ control : Control α size, control.phase = .values cycle rank →
      ∀ payload, control.advance payload =
        { control with phase := .afterTurn (.count cycle) rank following })
    (inside : ∀ (more : rank + 1 < size) (process : Fin size),
      Process.entered deltaTime
          ((processes process).updated (received processes (.bcast rank))
            (.values cycle rank)) (.count cycle ⟨rank + 1, more⟩) =
        midway deltaTime state.universes (.count cycle ⟨rank + 1, more⟩) process)
    (last : size ≤ rank + 1 → ∀ process,
      Process.entered deltaTime
          ((processes process).updated (received processes (.bcast rank))
            (.values cycle rank)) following =
        midway deltaTime state.universes following process) :
    At deltaTime maxTime state (.afterTurn (.count cycle) rank following)
      fun process => (processes process).resume (received processes (.bcast rank)) := by
  apply here.resume
  · intro process
    rw [here.control process, advances _ rfl]
  · intro process
    by_cases more : rank + 1 < size
    · rw [Phase.afterTurn, dif_pos more]
      exact inside more process
    · rw [Phase.afterTurn, dif_neg more]
      exact last (by omega) process

omit [NeZero size] in
theorem updated_collisions
    (here : At deltaTime maxTime state (.values .collisions rank) processes)
    (process : Fin size) :
    (processes process).updated (received processes (.bcast rank))
        (.values .collisions rank) =
      rounds collisionTurn
        (fun process => (state.universes process).checkCollisions) (rank + 1)
        process := by
  rw [rounds_succ]
  simp only [Process.updated, received_values here, Process.serialized,
    here.rank process, here.universes, midway, collisionTurn, broadcastRound,
    eq_comm]

omit [NeZero size] in
theorem updated_accelerations
    (here : At deltaTime maxTime state (.values .accelerations rank) processes)
    (process : Fin size) :
    (processes process).updated (received processes (.bcast rank))
        (.values .accelerations rank) =
      rounds accelerationTurn
        (fun process =>
          (stateCollisions state.universes process).updateAccelerations)
        (rank + 1) process := by
  rw [rounds_succ]
  simp only [Process.updated, received_values here, Process.serialized,
    here.rank process, here.universes, midway, accelerationTurn, broadcastRound,
    eq_comm]

theorem At.collisions
    (here : At deltaTime maxTime state (.values .collisions rank) processes) :
    At deltaTime maxTime state
      (.afterTurn (.count .collisions) rank (.count .accelerations 0))
      fun process => (processes process).resume (received processes (.bcast rank)) := by
  apply here.turn
  · intro control phase payload
    simp only [Control.advance, phase]
  · intro more process
    rw [updated_collisions here]
    simp [Process.entered, midway]
  · intro all process
    rw [updated_collisions here, rounds_all _ _ all]
    simp [Process.entered, midway, rounds, stateCollisions]

theorem At.accelerations
    (here : At deltaTime maxTime state (.values .accelerations rank) processes) :
    At deltaTime maxTime state
      (.afterTurn (.count .accelerations) rank .activeBodies)
      fun process => (processes process).resume (received processes (.bcast rank)) := by
  apply here.turn
  · intro control phase payload
    simp only [Control.advance, phase]
  · intro more process
    rw [updated_accelerations here]
    simp [Process.entered, midway]
  · intro all process
    rw [updated_accelerations here, rounds_all _ _ all]
    rfl

/-- The reduction at the end of an iteration, and the test of the loop. -/
theorem At.activeBodies
    (here : At deltaTime maxTime state .activeBodies processes) :
    At deltaTime maxTime (iteration deltaTime state)
      (if continues maxTime (iteration deltaTime state) then .count .collisions 0
        else .saved 0)
      fun process => (processes process).resume (received processes .allReduce) := by
  have universes : ∀ process, (processes process).ownUniverse =
      (iteration deltaTime state).universes process := here.universes
  have total : (received processes .allReduce).number =
      (iteration deltaTime state).totalActiveBodiesCount := by
    have prepared : ∀ process, (processes process).prepare =
        some { (default : Payload α) with
          number := (processes process).ownUniverse.activeBodiesCount } := by
      intro process
      have phase : (processes process).control.phase = .activeBodies := by
        rw [here.control process]
      simp only [Process.prepare, phase]
    simp only [received, Collective.outcome, prepared, Option.getD_some, universes]
    rfl
  apply here.resume
  · intro process
    rw [here.control process]
    simp only [Control.advance, Control.test, total, continues, decide_eq_true_eq]
    rfl
  · intro process
    have same : (processes process).updated (received processes .allReduce)
        .activeBodies = (iteration deltaTime state).universes process :=
      universes process
    rw [same]
    split
    · simp [Process.entered, midway, rounds]
    · rfl

omit [RealArithmetic α] [NeZero size] in
theorem inLoop_afterTurn {turn : Fin size → Phase size} {after : Phase size}
    (turns : ∀ rank, inLoop (turn rank) = false) (left : inLoop after = false)
    (rank : Fin size) : inLoop (Phase.afterTurn turn rank after) = false := by
  unfold Phase.afterTurn
  split
  · exact turns _
  · exact left

/-- Behind the loop an operation changes nothing but the phase. -/
theorem advance_behind (control : Control α size)
    (left : inLoop control.phase = false) (payload : Payload α) :
    control.advance payload =
        { control with phase := (control.advance payload).phase } ∧
      inLoop (control.advance payload).phase = false := by
  obtain ⟨deltaTime, maxTime, currentTime, total, phase⟩ := control
  cases phase with
  | count cycle rank =>
      cases cycle with
      | collisions | accelerations => cases left
      | distances => exact ⟨rfl, rfl⟩
  | values cycle rank =>
      cases cycle with
      | collisions | accelerations => cases left
      | distances =>
          exact ⟨rfl, inLoop_afterTurn (fun _ => rfl) rfl rank⟩
  | activeBodies => cases left
  | saved rank => exact ⟨rfl, inLoop_afterTurn (fun _ => rfl) rfl rank⟩
  | distanceMean | velocityMean =>
      refine ⟨rfl, ?_⟩
      dsimp only [Control.advance]
      split <;> rfl
  | distanceStdev | velocityStdev | ended => exact ⟨rfl, rfl⟩

omit [NeZero size] in
theorem midway_behind (left : inLoop phase = false)
    (universes : Fin size → Universe α) :
    midway deltaTime universes phase = universes := by
  cases phase with
  | count cycle rank | values cycle rank => cases cycle <;> first | rfl | cases left
  | activeBodies => cases left
  | _ => rfl

omit [NeZero size] in
theorem entered_behind (left : inLoop phase = false) (self : Universe α) :
    Process.entered deltaTime self phase = self := by
  cases phase with
  | count cycle rank | values cycle rank => cases cycle <;> first | rfl | cases left
  | activeBodies => cases left
  | _ => rfl

omit [NeZero size] in
theorem updated_behind (left : inLoop phase = false) (self : Process α size)
    (received : Payload α) : self.updated received phase = self.ownUniverse := by
  cases phase with
  | count cycle rank | values cycle rank => cases cycle <;> first | rfl | cases left
  | _ => rfl

/-- Behind the loop the bodies stay as they are. -/
theorem At.behind (here : At deltaTime maxTime state phase processes)
    (left : inLoop phase = false) (operation : Collective size) :
    ∃ later, inLoop later = false ∧
      At deltaTime maxTime state later
        fun process => (processes process).resume (received processes operation) := by
  obtain ⟨same, outside⟩ := advance_behind
    { deltaTime, maxTime, currentTime := state.currentTime,
      totalActiveBodiesCount := state.totalActiveBodiesCount, phase }
    left (received processes operation)
  refine ⟨_, outside, here.resume ?_ ?_⟩
  · intro process
    rw [here.control process]
    exact same
  · intro process
    rw [entered_behind outside, updated_behind left, midway_behind outside,
      here.universes, midway_behind left]

/-- The processes follow the loop through one operation. -/
theorem Follows.together (follows : Follows deltaTime maxTime start processes) :
    Follows deltaTime maxTime start (program.together processes) := by
  obtain ⟨count, phase, passed, test, here⟩ := follows
  have stays : ∀ {later : Phase size} {operation : Collective size},
      phase.operation = some operation → inLoop later = inLoop phase →
      At deltaTime maxTime ((iteration deltaTime)^[count] start) later
        (fun process =>
          (processes process).resume (received processes operation)) →
      Follows deltaTime maxTime start (program.together processes) := by
    intro later operation next same there
    rw [here.together next]
    exact ⟨count, later, passed, test.trans same.symm, there⟩
  cases phase with
  | count cycle rank =>
      have there : At deltaTime maxTime ((iteration deltaTime)^[count] start)
          (.values cycle rank) fun process =>
            (processes process).resume (received processes (.bcast rank)) := by
        apply here.resume
        · intro process
          rw [here.control process]
          rfl
        · intro process
          have same := here.universes process
          cases cycle <;> exact same
      exact stays rfl (by cases cycle <;> rfl) there
  | values cycle rank =>
      cases cycle with
      | collisions =>
          refine stays rfl ?_ here.collisions
          unfold Phase.afterTurn
          split <;> rfl
      | accelerations =>
          refine stays rfl ?_ here.accelerations
          unfold Phase.afterTurn
          split <;> rfl
      | distances =>
          obtain ⟨later, outside, there⟩ := here.behind rfl (.bcast rank)
          exact stays rfl outside there
  | activeBodies =>
      rw [here.together rfl]
      have later := here.activeBodies
      rw [← Function.iterate_succ_apply' (iteration deltaTime)] at later
      refine ⟨count + 1, _, Follows.iterate passed test, ?_, later⟩
      split
      next more => exact more
      next ended => exact Bool.eq_false_of_not_eq_true ended
  | saved rank =>
      obtain ⟨later, outside, there⟩ := here.behind rfl .barrier
      exact stays rfl outside there
  | distanceMean | distanceStdev | velocityMean | velocityStdev =>
      obtain ⟨later, outside, there⟩ := here.behind rfl .allReduce
      exact stays rfl outside there
  | ended =>
      have idle : program.together processes = processes := by
        funext process
        have next : program.next (program.control (processes process)) = none := by
          change (processes process).control.phase.operation = none
          rw [here.control process]
          rfl
        rw [CollectiveProgram.together]
        simp only [next]
      rw [idle]
      exact ⟨count, .ended, passed, test, here⟩

/-! ## Runs -/

section Runs

variable {format : NumberFormat α} {files : Files} {argv : List Text}
  {draw : List α → Nat → Nat → Body α} {opens : Fin size → Bool}
  {totalBodiesCount : Int} {universes : Fin size → Universe α}

/-- Every process gets past `startSimulation`, with its own bodies. -/
def StartsWith (format : NumberFormat α) (files : Files) (argv : List Text)
    (draw : List α → Nat → Nat → Body α) (deltaTime maxTime : α)
    (totalBodiesCount : Int) (universes : Fin size → Universe α) : Prop :=
  ∀ rank : Fin size, startSimulation format files argv draw size rank =
    .ok ⟨deltaTime, maxTime, totalBodiesCount, universes rank⟩

theorem follows_processes
    (starts : StartsWith format files argv draw deltaTime maxTime totalBodiesCount
      universes) :
    Follows deltaTime maxTime (started totalBodiesCount universes)
      (Simulation.processes format files argv draw opens) := by
  have own : ∀ rank, Simulation.processes format files argv draw opens rank =
      Process.start rank (opens rank)
        (.ok ⟨deltaTime, maxTime, totalBodiesCount, universes rank⟩) := by
    intro rank
    rw [Simulation.processes, starts rank]
  refine ⟨0, if continues maxTime (started totalBodiesCount universes) then
    .count .collisions 0 else .saved 0, fun earlier before => by omega, ?_, ?_⟩
  · rw [Function.iterate_zero_apply]
    split
    next more => exact more
    next ended => exact Bool.eq_false_of_not_eq_true ended
  · rw [Function.iterate_zero_apply]
    constructor
    · intro rank
      rw [own, Process.start]
      exact (Process.enter_eq _).1
    · intro rank
      rw [own, Process.control_start]
      simp only [Control.test, continues, decide_eq_true_eq]
      rfl
    · intro rank
      rw [own, Process.start, (Process.enter_eq _).2]
      simp only [Control.test, continues, decide_eq_true_eq]
      change Process.entered deltaTime (universes rank)
        (if (0 : α) < maxTime ∧ 1 < totalBodiesCount then _ else _) =
          midway deltaTime universes
            (if (0 : α) < maxTime ∧ 1 < totalBodiesCount then _ else _) rank
      split
      · simp [Process.entered, midway, rounds]
      · rfl

/-- What the loop over whole phases ends with, on one process. -/
structure Holds (final : Simulated α size) (rank : Fin size)
    (self : Process α size) : Prop where
  ownUniverse : self.ownUniverse = final.universes rank
  currentTime : self.control.currentTime = final.currentTime
  total : self.control.totalActiveBodiesCount = final.totalActiveBodiesCount

theorem exists_final {meets : Process α size → Prop}
    {members : CollectiveProgram.Members (Fin size) (Process α size)
      (Collective size) (Payload α)}
    (starts : StartsWith format files argv draw deltaTime maxTime totalBodiesCount
      universes)
    (run : program.Reaches meets
      (Simulation.processes format files argv draw opens) members)
    {rank : Fin size} (left : inLoop (members rank).state.control.phase = false) :
    ∃ iterations final,
      simulate deltaTime maxTime iterations (started totalBodiesCount universes) =
          some final ∧
        Holds final rank (members rank).state := by
  have follows : ∀ count, Follows deltaTime maxTime
      (started totalBodiesCount universes)
      (program.together^[count]
        (Simulation.processes format files argv draw opens)) := by
    intro count
    induction count with
    | zero => exact follows_processes starts
    | succ count ih =>
        rw [Function.iterate_succ_apply']
        exact ih.together
  obtain ⟨count, phase, passed, test, here⟩ := follows (members rank).completed
  have state := run.lockstep.state rank
  have own : (members rank).state.control.phase = phase := by
    rw [state, here.control rank]
  rw [own] at left
  refine ⟨count, (iteration deltaTime)^[count] (started totalBodiesCount universes),
    ?_, ?_, ?_, ?_⟩
  · rw [simulate_eq_loopWhile]
    exact loopWhile_eq_some_iff.mpr
      ⟨count, le_rfl, rfl, test.trans left, passed⟩
  · rw [state, here.universes rank, midway_behind left]
  · rw [state, here.control rank]
  · rw [state, here.control rank]

omit [NeZero size] in
/-- The loop ends with one state, however many iterations are allowed. -/
theorem final_unique {iterations iterations' : Nat} {first second : Simulated α size}
    (ended : simulate deltaTime maxTime iterations start = some first)
    (ended' : simulate deltaTime maxTime iterations' start = some second) :
    first = second := by
  rw [simulate_eq_loopWhile] at ended ended'
  obtain ⟨count, _, rfl, failed, passed⟩ := loopWhile_eq_some_iff.mp ended
  obtain ⟨count', _, rfl, failed', passed'⟩ := loopWhile_eq_some_iff.mp ended'
  rcases lt_trichotomy count count' with before | rfl | after
  · rw [passed' count before] at failed
    cases failed
  · rfl
  · rw [passed count' after] at failed'
    cases failed'

/-- However the processes are interleaved and whether or not some fail, a process
that has left the loop of `simulate` has the bodies, the time and the number of
active bodies with which the loop over whole phases ends.  When nothing is left
to do and none has failed, that loop ends and all processes hold its result. -/
theorem interleavings_simulate
    (starts : StartsWith format files argv draw deltaTime maxTime totalBodiesCount
      universes) (opens : Fin size → Bool) :
    (∀ (meets : Process α size → Prop)
        (members : CollectiveProgram.Members (Fin size) (Process α size)
          (Collective size) (Payload α)),
      program.Reaches meets (Simulation.processes format files argv draw opens)
          members →
        ∀ rank, inLoop (members rank).state.control.phase = false →
          ∃ iterations final,
            simulate deltaTime maxTime iterations
                (started totalBodiesCount universes) = some final ∧
              Holds final rank (members rank).state) ∧
      ∀ members : CollectiveProgram.Members (Fin size) (Process α size)
          (Collective size) (Payload α),
        program.Reaches Process.Prepared
            (Simulation.processes format files argv draw opens) members →
          (∀ rank after, ¬ program.Step rank members after) →
            ∃ iterations final,
              simulate deltaTime maxTime iterations
                  (started totalBodiesCount universes) = some final ∧
                ∀ rank, program.Ended (members rank) ∧
                  Holds final rank (members rank).state := by
  refine ⟨fun meets members run rank left => exists_final starts run left,
    fun members run stuck => ?_⟩
  have same : ∀ rank, (Simulation.processes format files argv draw opens
      rank).control = Control.test
        { deltaTime, maxTime, currentTime := 0,
          totalActiveBodiesCount := totalBodiesCount, phase := .ended } := by
    intro rank
    rw [Simulation.processes, starts rank, Process.control_start]
  obtain ⟨outcomes, aligned⟩ := run.aligned same
    fun _ _ prepared _ => Process.prepare_isSome prepared
  have ended : ∀ rank, program.Ended (members rank) :=
    fun rank => (aligned.ended stuck rank rank).1
  have left : ∀ rank, inLoop (members rank).state.control.phase = false := by
    intro rank
    have next : (members rank).state.control.phase.operation = none :=
      (ended rank).2.2
    cases phase : (members rank).state.control.phase with
    | ended => rfl
    | _ =>
        rw [phase] at next
        cases next
  obtain ⟨iterations, final, simulated, _⟩ := exists_final starts run (left 0)
  refine ⟨iterations, final, simulated, fun rank => ⟨ended rank, ?_⟩⟩
  obtain ⟨_, other, simulated', holds⟩ := exists_final starts run (left rank)
  rwa [final_unique simulated simulated']

end Runs

/-- The two processes that read the sample file. -/
theorem sample_starts :
    ∃ universes : Fin 2 → Universe ℝ,
      StartsWith sampleFormat (sampleFiles ['1']) (sampleArguments ['1'])
        sampleDraw 1 1 2 universes := by
  have loads : ∀ rank : Fin 2, ∃ universe',
      startSimulation sampleFormat (sampleFiles ['1']) (sampleArguments ['1'])
        sampleDraw 2 rank = .ok ⟨1, 1, 2, universe'⟩ := by
    intro rank
    obtain ⟨ownUniverse, _, started⟩ := @sample_started ['1'] ['1'] 1 rank
      (by decide +kernel) (by decide) (by decide +kernel)
      (by fin_cases rank <;> decide +kernel)
      (by fin_cases rank <;> decide +kernel)
    rw [Nat.cast_one] at started
    exact ⟨ownUniverse, started⟩
  choose universes starts using loads
  exact ⟨universes, starts⟩

/-- The loop makes the iteration that the processes made. -/
theorem interleavings_simulate_sample :
    ∃ universes : Fin 2 → Universe ℝ, ∃ members,
      program.Reaches Process.Prepared (sampleProcesses ['1'] ['1']) members ∧
        ∃ iterations final,
          simulate 1 1 iterations (started 2 universes) = some final ∧
            Holds final 0 (members 0).state ∧ final.currentTime = 1 := by
  obtain ⟨universes, starts⟩ := sample_starts
  obtain ⟨members, run, _, _, controls⟩ := sampleProcesses_iteration
  refine ⟨universes, members, run, ?_⟩
  have left : inLoop (members 0).state.control.phase = false := by
    rw [controls 0]
    rfl
  obtain ⟨iterations, final, simulated, own, time, total⟩ :=
    (interleavings_simulate starts fun _ => true).1 Process.Prepared members run 0
      left
  refine ⟨iterations, final, simulated, ⟨own, time, total⟩, ?_⟩
  rw [← time, controls 0]

end Simulation

end Concurrente.NBody
