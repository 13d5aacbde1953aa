import Concurrente.Common.SignedIntegers
import Concurrente.NBody.Universe.Universe

/-!
# Phases of the simulation

Every process runs the same loop over the ranks.  In the round of a rank that
process broadcasts what it serializes at that moment, and all the others
receive it before they continue, so the rounds of the processes are taken
together.

The phases below are those in which every broadcast can be made.  A process
that cannot reserve the memory for its vector, or whose vector is too long to
be counted, ends the program in its turn; the versions with `try` say where.
-/

namespace Concurrente.NBody

open Library

namespace Universe

variable {α : Type}

/-- Before it serializes, a process reserves memory for `activeCount()` times
the values of a body, a product of type `int`. -/
def Reserves (self : Universe α) (dataSize : Nat) : Prop :=
  0 ≤ self.activeBodiesCount ∧ InSigned 32 (self.activeBodiesCount * dataSize)

instance (self : Universe α) (dataSize : Nat) : Decidable (self.Reserves dataSize) :=
  inferInstanceAs (Decidable (_ ∧ _))

/-- `Mpi::broadcast` counts the values of the active bodies in an `int`. -/
def Broadcasts [RealArithmetic α] (self : Universe α) (dataSize : Nat) : Prop :=
  InSigned 32 (self.bodies.countP Body.isActive * dataSize : Nat)

theorem length_serializeCollisionData [RealArithmetic α] (self : Universe α) :
    self.serializeCollisionData.length =
      self.bodies.countP Body.isActive * bodyCollisionDataSize := by
  have fixed : ∀ body : Body α,
      body.serializeCheckCollision.length = bodyCollisionDataSize := fun _ => rfl
  rw [List.countP_eq_length_filter]
  exact length_flatMap_encode fixed _

theorem length_serializeAccelerationData [RealArithmetic α] (self : Universe α) :
    self.serializeAccelerationData.length =
      self.bodies.countP Body.isActive * bodyAccelerationDataSize := by
  have fixed : ∀ body : Body α,
      body.serializeAccelerationData.length = bodyAccelerationDataSize :=
    fun _ => rfl
  rw [List.countP_eq_length_filter]
  exact length_flatMap_encode fixed _

end Universe

namespace Simulation

variable {α : Type} [RealArithmetic α] {size : Nat}

/-- One round of a broadcast cycle. -/
def broadcastRound {β : Type} (serialize : Universe α → β)
    (receive : Universe α → β → Fin size → Fin size → Universe α)
    (universes : Fin size → Universe α) (rank : Fin size) :
    Fin size → Universe α :=
  fun process =>
    if process = rank then universes process
    else receive (universes process) (serialize (universes rank)) process rank

/-- The rounds of `stateCollisions`. -/
abbrev collisionTurn (universes : Fin size → Universe α) (rank : Fin size) :
    Fin size → Universe α :=
  broadcastRound Universe.serializeCollisionData
    (fun self serialized process rank =>
      self.checkReceivedCollisions serialized process rank) universes rank

/-- The rounds of `stateAccelerations`. -/
abbrev accelerationTurn (universes : Fin size → Universe α) (rank : Fin size) :
    Fin size → Universe α :=
  broadcastRound Universe.serializeAccelerationData
    (fun self serialized _ _ => self.updateReceivedAccelerations serialized)
    universes rank

/-- `Simulation::stateCollisions` of all processes. -/
def stateCollisions (universes : Fin size → Universe α) :
    Fin size → Universe α :=
  (List.finRange size).foldl
    (broadcastRound Universe.serializeCollisionData
      fun self serialized process rank =>
        self.checkReceivedCollisions serialized process rank)
    fun process => (universes process).checkCollisions

/-- `Simulation::stateAccelerations` of all processes. -/
def stateAccelerations (universes : Fin size → Universe α) :
    Fin size → Universe α :=
  (List.finRange size).foldl
    (broadcastRound Universe.serializeAccelerationData
      fun self serialized _ _ =>
        self.updateReceivedAccelerations serialized)
    fun process => (universes process).updateAccelerations

/-- `Simulation::statePositions` of all processes. -/
def statePositions (deltaTime : α) (universes : Fin size → Universe α) :
    Fin size → Universe α :=
  fun process => (universes process).updateVelocitiesAndPositions deltaTime

/-! ## Broadcasts that fail -/

/-- A round in which the process of the rank reserves memory first, and
`Mpi::broadcast` counts the values of its vector in an `int`. -/
def tryRound (dataSize : Nat) (serialize : Universe α → List α)
    (turn : (Fin size → Universe α) → Fin size → Fin size → Universe α)
    (universes : Fin size → Universe α) (rank : Fin size) :
    Option (Fin size → Universe α) :=
  if (universes rank).Reserves dataSize ∧
      InSigned 32 (serialize (universes rank)).length then
    some (turn universes rank)
  else none

/-- `Simulation::stateCollisions` of all processes, unless one ends the
program. -/
def tryStateCollisions (universes : Fin size → Universe α) :
    Option (Fin size → Universe α) :=
  (List.finRange size).foldlM
    (tryRound Universe.bodyCollisionDataSize Universe.serializeCollisionData
      collisionTurn)
    fun process => (universes process).checkCollisions

/-- `Simulation::stateAccelerations` of all processes, unless one ends the
program. -/
def tryStateAccelerations (universes : Fin size → Universe α) :
    Option (Fin size → Universe α) :=
  (List.finRange size).foldlM
    (tryRound Universe.bodyAccelerationDataSize
      Universe.serializeAccelerationData accelerationTurn)
    fun process => (universes process).updateAccelerations

omit [RealArithmetic α] in
theorem tryRounds_eq_some {dataSize : Nat} {serialize : Universe α → List α}
    {turn : (Fin size → Universe α) → Fin size → Fin size → Universe α}
    {ranks : List (Fin size)} {universes later : Fin size → Universe α}
    (sent : ranks.foldlM (tryRound dataSize serialize turn) universes =
      some later) :
    ranks.foldl turn universes = later := by
  induction ranks generalizing universes with
  | nil => exact Option.some.inj sent
  | cons rank ranks ih =>
      rw [List.foldlM_cons] at sent
      obtain ⟨next, made, rest⟩ := Option.bind_eq_some_iff.mp sent
      unfold tryRound at made
      split at made
      · cases made
        exact ih rest
      · cases made

/-- Broadcasts that are made do what the phase does. -/
theorem tryStateCollisions_eq_some {universes later : Fin size → Universe α}
    (sent : tryStateCollisions universes = some later) :
    stateCollisions universes = later :=
  tryRounds_eq_some sent

theorem tryStateAccelerations_eq_some {universes later : Fin size → Universe α}
    (sent : tryStateAccelerations universes = some later) :
    stateAccelerations universes = later :=
  tryRounds_eq_some sent

/-! ## All bodies of a run -/

/-- Where a body is: its process and its index there. -/
abbrev Place (universes : Fin size → Universe α) : Type :=
  Σ rank : Fin size, Fin (universes rank).bodies.length

/-- The body at a place. -/
def bodyAt (universes : Fin size → Universe α) (place : Place universes) :
    Body α :=
  (universes place.1).bodies[place.2]

/-- The bodies of all processes, in no order. -/
def allBodies (universes : Fin size → Universe α) : Multiset (Body α) :=
  ∑ rank, ((universes rank).bodies : Multiset (Body α))

end Simulation

end Concurrente.NBody
