import Concurrente.Library.CollectiveOperations
import Concurrente.NBody.Simulation.Arguments
import Concurrente.NBody.Simulation.Simulation
import Concurrente.NBody.Simulation.Statistics

/-!
# The processes of a simulation

What one process does between the collective operations of MPI that it takes
part in.  A vector is broadcast in two operations, its length and its values.
What a process writes to its files does not matter here, only whether it can
open the output file.
-/

namespace Concurrente.NBody

open Library

/-- The collective operations of MPI that are used, with their roots. -/
inductive Collective (size : Nat) where
  | bcast (root : Fin size)
  | allReduce
  | barrier
  deriving DecidableEq, Repr

/-- What an operation transports. -/
structure Payload (α : Type) where
  number : Int
  vector : RealVector α
  values : List α

/-- The loops over the ranks in which each process broadcasts a vector. -/
inductive Cycle where
  | collisions
  | accelerations
  | distances
  deriving DecidableEq, Repr

/-- The values of one body in such a vector. -/
def Cycle.dataSize : Cycle → Nat
  | collisions => Universe.bodyCollisionDataSize
  | accelerations => Universe.bodyAccelerationDataSize
  | distances => Universe.bodyDistanceDataSize

/-- The operation a process comes to next. -/
inductive Phase (size : Nat) where
  | count (cycle : Cycle) (rank : Fin size)
  | values (cycle : Cycle) (rank : Fin size)
  | activeBodies
  | saved (rank : Fin size)
  | distanceMean
  | distanceStdev
  | velocityMean
  | velocityStdev
  | ended
  deriving DecidableEq, Repr

namespace Phase

variable {size : Nat}

/-- The collective operation at a phase. -/
def operation : Phase size → Option (Collective size)
  | count _ rank => some (.bcast rank)
  | values _ rank => some (.bcast rank)
  | saved _ => some .barrier
  | activeBodies | distanceMean | distanceStdev | velocityMean | velocityStdev =>
      some .allReduce
  | ended => none

/-- The end of a turn in a loop over the ranks. -/
def afterTurn (turn : Fin size → Phase size) (rank : Fin size)
    (after : Phase size) : Phase size :=
  if more : rank + 1 < size then turn ⟨rank + 1, more⟩ else after

end Phase

/-- What decides about the operations of a process: the replicated variables
of `Simulation`, and where it is. -/
structure Control (α : Type) (size : Nat) where
  deltaTime : α
  maxTime : α
  currentTime : α
  totalActiveBodiesCount : Int
  phase : Phase size

/-- A process in the middle of `Simulation::run`. -/
structure Process (α : Type) (size : Nat) where
  rank : Fin size
  opens : Bool
  control : Control α size
  ownUniverse : Universe α
  distances : List (RealVector α)
  mean : RealVector α

section

variable {α : Type} [RealArithmetic α] {size : Nat}

instance : Inhabited (Payload α) := ⟨⟨0, 0, []⟩⟩

namespace Control

variable [NeZero size]

/-- The condition of the loop of `simulate`. -/
def test (control : Control α size) : Control α size :=
  { control with
    phase :=
      if control.currentTime < control.maxTime ∧
          1 < control.totalActiveBodiesCount then
        .count .collisions 0
      else .saved 0 }

/-- What follows an operation. -/
def advance (control : Control α size) (received : Payload α) :
    Control α size :=
  match control.phase with
  | .count cycle rank => { control with phase := .values cycle rank }
  | .values .collisions rank =>
      { control with
        phase := .afterTurn (.count .collisions) rank (.count .accelerations 0) }
  | .values .accelerations rank =>
      { control with
        phase := .afterTurn (.count .accelerations) rank .activeBodies }
  | .values .distances rank =>
      { control with
        phase := .afterTurn (.count .distances) rank .distanceMean }
  | .activeBodies =>
      test { control with
        currentTime := control.currentTime + control.deltaTime
        totalActiveBodiesCount := received.number }
  | .saved rank =>
      { control with
        phase := .afterTurn .saved rank (.count .distances 0) }
  | .distanceMean =>
      -- without two bodies there is no deviation
      { control with
        phase :=
          if control.totalActiveBodiesCount ≤ 1 then .velocityMean
          else .distanceStdev }
  | .distanceStdev => { control with phase := .velocityMean }
  | .velocityMean =>
      { control with
        phase :=
          if control.totalActiveBodiesCount ≤ 1 then .ended
          else .velocityStdev }
  | .velocityStdev => { control with phase := .ended }
  | .ended => control

end Control

namespace Process

/-- The vector that a process broadcasts in its turn. -/
def serialized (self : Process α size) : Cycle → List α
  | .collisions => self.ownUniverse.serializeCollisionData
  | .accelerations => self.ownUniverse.serializeAccelerationData
  | .distances => self.ownUniverse.serializePositions

/-- What a process contributes where a vector is counted.  A count that is no
`int` is an error. -/
def announce (self : Process α size) (cycle : Cycle) (rank : Fin size) :
    Option (Payload α) :=
  if rank = self.rank then
    if InSigned 32 (self.serialized cycle).length then
      some { (default : Payload α) with number := (self.serialized cycle).length }
    else none
  else some default

/-- What a process does with the vector of a rank. -/
def receive (self : Process α size) (received : Payload α) : Process α size :=
  match self.control.phase with
  | .values .collisions rank =>
      if rank = self.rank then self
      else
        { self with
          ownUniverse := self.ownUniverse.checkReceivedCollisions received.values
            self.rank rank }
  | .values .accelerations rank =>
      if rank = self.rank then self
      else
        { self with
          ownUniverse :=
            self.ownUniverse.updateReceivedAccelerations received.values }
  | .values .distances rank =>
      if rank < self.rank then
        { self with
          distances := self.distances ++
            self.ownUniverse.aggregateDistances received.values }
      else self
  | .distanceMean | .velocityMean =>
      { self with
        mean := received.vector * (1 / (self.control.totalActiveBodiesCount : α)) }
  | _ => self

/-- What a process does on its own before a phase. -/
def enter [NeZero size] (self : Process α size) : Process α size :=
  match self.control.phase with
  | .count .collisions rank =>
      if rank = 0 then
        { self with ownUniverse := self.ownUniverse.checkCollisions }
      else self
  | .count .accelerations rank =>
      if rank = 0 then
        { self with ownUniverse := self.ownUniverse.updateAccelerations }
      else self
  | .activeBodies =>
      { self with
        ownUniverse := self.ownUniverse.updateVelocitiesAndPositions
          self.control.deltaTime }
  | .count .distances rank =>
      if rank = 0 then
        { self with
          distances :=
            (Universe.aggregateOwnDistances self.ownUniverse.bodies).getD [] }
      else self
  | _ => self

/-- What a process contributes to its next operation.  To reserve space for a
number of values that is negative or no `int` is an error, as is an output file
that cannot be opened. -/
def prepare (self : Process α size) : Option (Payload α) :=
  match self.control.phase with
  | .count .distances rank =>
      (Universe.aggregateOwnDistances self.ownUniverse.bodies).bind fun _ =>
        self.announce .distances rank
  | .count cycle rank =>
      if rank = self.rank ∧ ¬ self.ownUniverse.Reserves cycle.dataSize then none
      else self.announce cycle rank
  | .values cycle rank =>
      if rank = self.rank then
        some { (default : Payload α) with values := self.serialized cycle }
      else some default
  | .activeBodies =>
      some { (default : Payload α) with number := self.ownUniverse.activeBodiesCount }
  | .saved rank =>
      if rank = self.rank ∧ self.opens = false then none else some default
  | .distanceMean =>
      self.ownUniverse.getMyVelocities.map fun _ =>
        { (default : Payload α) with
          vector := Statistics.calculateVectorsSum self.distances }
  | .distanceStdev =>
      some { (default : Payload α) with
        vector := Statistics.calculateStDevSum self.distances self.mean }
  | .velocityMean =>
      self.ownUniverse.getMyVelocities.map fun velocities =>
        { (default : Payload α) with
          vector := Statistics.calculateVectorsSum velocities }
  | .velocityStdev =>
      self.ownUniverse.getMyVelocities.map fun velocities =>
        { (default : Payload α) with
          vector := Statistics.calculateStDevSum velocities self.mean }
  | .ended => some default

variable [NeZero size]

/-- A process after an operation. -/
def resume (self : Process α size) (received : Payload α) : Process α size :=
  enter { self.receive received with control := self.control.advance received }

/-- A process after `startSimulation`.  One that fails leaves the program. -/
def start (rank : Fin size) (opens : Bool)
    (result : Except LoadError (Started α)) : Process α size :=
  match result with
  | .ok started =>
      let control : Control α size :=
        { deltaTime := started.deltaTime
          maxTime := started.maxTime
          currentTime := 0
          totalActiveBodiesCount := started.totalBodiesCount
          phase := .ended }
      enter
        { rank, opens
          control := control.test
          ownUniverse := started.ownUniverse
          distances := []
          mean := 0 }
  | .error _ =>
      { rank, opens
        control :=
          { deltaTime := 0
            maxTime := 0
            currentTime := 0
            totalActiveBodiesCount := 0
            phase := .ended }
        ownUniverse := ⟨0, []⟩
        distances := []
        mean := 0 }

omit [NeZero size] in
@[simp] theorem control_receive (self : Process α size) (received : Payload α) :
    (self.receive received).control = self.control := by
  unfold receive
  repeat' split
  all_goals rfl

@[simp] theorem control_enter (self : Process α size) :
    self.enter.control = self.control := by
  unfold enter
  repeat' split
  all_goals rfl

@[simp] theorem control_resume (self : Process α size) (received : Payload α) :
    (self.resume received).control = self.control.advance received := by
  rw [resume, control_enter]

end Process

/-- Which processes an operation waits for. -/
def Collective.WaitsFor : Collective size → Fin size → Prop
  | bcast root, rank => rank = root
  | allReduce, _ => True
  | barrier, _ => True

/-- What the processes receive: the data of the root, or the sums. -/
def Collective.outcome (operation : Collective size)
    (contributions : Fin size → Payload α) : Payload α :=
  match operation with
  | bcast root => contributions root
  | allReduce =>
      { number := ∑ rank, (contributions rank).number
        vector := ∑ rank, (contributions rank).vector
        values := [] }
  | barrier => default

variable [NeZero size]

/-- `Simulation::run` as a program with collective operations. -/
def Simulation.program :
    CollectiveProgram (Fin size) (Process α size) (Control α size)
      (Collective size) (Payload α) where
  control := Process.control
  next control := control.phase.operation
  prepare := Process.prepare
  resume := Process.resume
  advance := Control.advance
  waitsFor := Collective.WaitsFor
  outcome := Collective.outcome
  control_resume _ _ := Process.control_resume _ _
  outcome_congr := by
    intro operation contributions others same
    cases operation with
    | bcast root => exact same root rfl
    | allReduce =>
        have all : contributions = others := funext fun rank => same rank trivial
        rw [all]
    | barrier => rfl

/-- The processes after `startSimulation`. -/
def Simulation.processes (format : NumberFormat α) (files : Files)
    (argv : List Text) (draw : List α → Nat → Nat → Body α)
    (opens : Fin size → Bool) : Fin size → Process α size :=
  fun rank => Process.start rank (opens rank)
    (startSimulation format files argv draw size rank)

end

end Concurrente.NBody
