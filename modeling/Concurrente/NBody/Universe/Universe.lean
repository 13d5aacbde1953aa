import Concurrente.Library.FlatRecords
import Concurrente.NBody.Universe.Body

/-!
# The bodies of one process

Loops over local bodies run in parallel.  An iteration of such a loop writes
to its own body only, and reads of the others what no iteration writes, so the
loop maps the vector.  `checkCollisions` without arguments is sequential.
-/

namespace Concurrente.NBody

open Library

/-- `Universe`. -/
structure Universe (α : Type) where
  activeBodiesCount : Int
  bodies : List (Body α)
  deriving DecidableEq

namespace Universe

def bodyCollisionDataSize : Nat := 8
def collisionMass : Nat := 0
def collisionRadius : Nat := 1
def collisionPositionX : Nat := 2
def collisionPositionY : Nat := 3
def collisionPositionZ : Nat := 4
def collisionVelocityX : Nat := 5
def collisionVelocityY : Nat := 6
def collisionVelocityZ : Nat := 7

def bodyAccelerationDataSize : Nat := 4
def accelerationMass : Nat := 0
def accelerationPositionX : Nat := 1
def accelerationPositionY : Nat := 2
def accelerationPositionZ : Nat := 3

variable {α : Type} [RealArithmetic α]

/-- `Universe::serializeCollisionData`. -/
def serializeCollisionData (self : Universe α) : List α :=
  (self.bodies.filter Body.isActive).flatMap Body.serializeCheckCollision

/-- `Universe::serializeAccelerationData`. -/
def serializeAccelerationData (self : Universe α) : List α :=
  (self.bodies.filter Body.isActive).flatMap Body.serializeAccelerationData

/-! ## Collisions -/

/-- The body of the inner loop of `checkCollisions`. -/
def checkPair (index : Nat) (self : Universe α) (otherIndex : Nat) :
    Universe α :=
  match self.bodies[index]?, self.bodies[otherIndex]? with
  | some body, some other =>
      if index = otherIndex || !other.isActive then self
      else if body.checkCollision other.radius other.position then
        let (absorbed, body', other') := body.absorbBody other
        let (other'', body'') :=
          -- the other body absorbs this one
          if absorbed then (other', body')
          else (other'.absorbBody body').2
        { activeBodiesCount := self.activeBodiesCount - 1
          bodies := (self.bodies.set index body'').set otherIndex other'' }
      else self
  | _, _ => self

/-- The body of the outer loop of `checkCollisions`. -/
def checkBody (self : Universe α) (index : Nat) : Universe α :=
  if (self.bodies[index]?).any Body.isActive then
    (List.range self.bodies.length).foldl (checkPair index) self
  else self

/-- `Universe::checkCollisions` among the local bodies. -/
def checkCollisions (self : Universe α) : Universe α :=
  (List.range self.bodies.length).foldl checkBody self

/-- `Universe::collideBodies`: whether the body was deactivated, and the
body. -/
def collideBodies (body : Body α) (serializedBodies : List α)
    (otherVelocity : RealVector α) (offset rank otherRank : Nat) :
    Bool × Body α :=
  let otherMass := serializedBodies.getD (offset + collisionMass) 0
  if body.equalMasses otherMass && rank < otherRank then
    (true, body.deactivate)
  else
    let (absorbed, body) := body.absorb otherMass
      (serializedBodies.getD (offset + collisionRadius) 0) otherVelocity
    if absorbed then (false, body) else (true, body.deactivate)

/-- The position of the body at an offset. -/
def collisionPosition (serializedBodies : List α) (offset : Nat) :
    RealVector α :=
  ⟨serializedBodies.getD (offset + collisionPositionX) 0,
    serializedBodies.getD (offset + collisionPositionY) 0,
    serializedBodies.getD (offset + collisionPositionZ) 0⟩

/-- The velocity of the body at an offset. -/
def collisionVelocity (serializedBodies : List α) (offset : Nat) :
    RealVector α :=
  ⟨serializedBodies.getD (offset + collisionVelocityX) 0,
    serializedBodies.getD (offset + collisionVelocityY) 0,
    serializedBodies.getD (offset + collisionVelocityZ) 0⟩

/-- One body against the serialized ones: the first that collides ends the
search. -/
def checkSerialized (serializedBodies : List α) (rank otherRank : Nat)
    (body : Body α) : Bool × Body α :=
  if body.isActive then
    ((offsets serializedBodies.length bodyCollisionDataSize).find? fun offset =>
        body.checkCollision (serializedBodies.getD (offset + collisionRadius) 0)
          (collisionPosition serializedBodies offset)).elim (false, body)
      fun offset => collideBodies body serializedBodies
        (collisionVelocity serializedBodies offset) offset rank otherRank
  else (false, body)

/-- `Universe::checkCollisions` against the bodies of another process.  The
counter goes down by one for every body that is deactivated. -/
def checkReceivedCollisions (self : Universe α) (serializedBodies : List α)
    (rank otherRank : Nat) : Universe α :=
  let checked := self.bodies.map
    (checkSerialized serializedBodies rank otherRank)
  { activeBodiesCount := self.activeBodiesCount - checked.countP (·.1)
    bodies := checked.map (·.2) }

/-! ## Accelerations -/

/-- `Universe::resetAccelerations`. -/
def resetAccelerations (bodies : List (Body α)) : List (Body α) :=
  bodies.map fun body => if body.isActive then body.resetAcceleration else body

/-- The body of the inner loop of `updateLocalAccelerations`. -/
def updateLocalAcceleration (bodies : List (Body α)) (i : Nat) (body : Body α)
    (j : Nat) : Body α :=
  match bodies[j]? with
  | some other =>
      if i = j || !other.isActive then body
      else body.updateAcceleration other.mass other.position
  | none => body

/-- `Universe::updateLocalAccelerations`. -/
def updateLocalAccelerations (bodies : List (Body α)) : List (Body α) :=
  bodies.mapIdx fun i body =>
    if body.isActive then
      (List.range bodies.length).foldl (updateLocalAcceleration bodies i) body
    else body

/-- `Universe::updateAccelerations` among the local bodies. -/
def updateAccelerations (self : Universe α) : Universe α :=
  { self with
    bodies := updateLocalAccelerations (resetAccelerations self.bodies) }

/-- The position of the body at an offset. -/
def accelerationPosition (serializedBodies : List α) (offset : Nat) :
    RealVector α :=
  ⟨serializedBodies.getD (offset + accelerationPositionX) 0,
    serializedBodies.getD (offset + accelerationPositionY) 0,
    serializedBodies.getD (offset + accelerationPositionZ) 0⟩

/-- `Universe::updateAccelerations` with the bodies of another process. -/
def updateReceivedAccelerations (self : Universe α)
    (serializedBodies : List α) : Universe α :=
  { self with
    bodies := self.bodies.map fun body =>
      if body.isActive then
        (offsets serializedBodies.length bodyAccelerationDataSize).foldl
          (fun body offset => body.updateAcceleration
            (serializedBodies.getD (offset + accelerationMass) 0)
            (accelerationPosition serializedBodies offset)) body
      else body }

/-- `Universe::updateVelocitiesAndPositions`. -/
def updateVelocitiesAndPositions (self : Universe α) (deltaTime : α) :
    Universe α :=
  { self with
    bodies := self.bodies.map fun body =>
      if body.isActive then
        (body.updateVelocity deltaTime).updatePosition deltaTime
      else body }

/-! ## What another process reads -/

/-- What becomes of a body that meets one of another process. -/
def collideWith (rank otherRank : Nat) (body other : Body α) : Bool × Body α :=
  if body.equalMasses other.mass && rank < otherRank then
    (true, body.deactivate)
  else
    let (absorbed, body) := body.absorb other.mass other.radius other.velocity
    if absorbed then (false, body) else (true, body.deactivate)

/-- Reading the serialized bodies back is searching the active bodies. -/
theorem checkSerialized_serializeCollisionData (self : Universe α)
    (rank otherRank : Nat) (body : Body α) :
    checkSerialized self.serializeCollisionData rank otherRank body =
      if body.isActive then
        ((self.bodies.filter Body.isActive).find? fun other =>
            body.checkCollision other.radius other.position).elim (false, body)
          (collideWith rank otherRank body)
      else (false, body) := by
  have fixed : ∀ other : Body α,
      other.serializeCheckCollision.length = bodyCollisionDataSize :=
    fun _ => rfl
  have field := fun (index : Nat)
      (inside : index < (self.bodies.filter Body.isActive).length)
      (field : Nat) (bound : field < bodyCollisionDataSize) =>
    getD_flatMap fixed 0 inside bound
  unfold checkSerialized serializeCollisionData
  split
  · apply find?_offsets (by decide) fixed
    · intro index inside
      simp only [collisionPosition,
        field index inside collisionRadius (by decide),
        field index inside collisionPositionX (by decide),
        field index inside collisionPositionY (by decide),
        field index inside collisionPositionZ (by decide)]
      rfl
    · intro index inside
      simp only [collideBodies, collisionVelocity,
        field index inside collisionMass (by decide),
        field index inside collisionRadius (by decide),
        field index inside collisionVelocityX (by decide),
        field index inside collisionVelocityY (by decide),
        field index inside collisionVelocityZ (by decide)]
      rfl
  · rfl

/-- Adding the serialized bodies up is adding the active bodies up. -/
theorem updateAcceleration_serializeAccelerationData (self : Universe α)
    (body : Body α) :
    (offsets self.serializeAccelerationData.length
        bodyAccelerationDataSize).foldl
      (fun body offset => body.updateAcceleration
        (self.serializeAccelerationData.getD (offset + accelerationMass) 0)
        (accelerationPosition self.serializeAccelerationData offset)) body =
      (self.bodies.filter Body.isActive).foldl
        (fun body other => body.updateAcceleration other.mass other.position)
        body := by
  have fixed : ∀ other : Body α,
      other.serializeAccelerationData.length = bodyAccelerationDataSize :=
    fun _ => rfl
  have field := fun (index : Nat)
      (inside : index < (self.bodies.filter Body.isActive).length)
      (field : Nat) (bound : field < bodyAccelerationDataSize) =>
    getD_flatMap fixed 0 inside bound
  apply foldl_offsets (by decide) fixed
  intro body index inside
  simp only [serializeAccelerationData, accelerationPosition,
    field index inside accelerationMass (by decide),
    field index inside accelerationPositionX (by decide),
    field index inside accelerationPositionY (by decide),
    field index inside accelerationPositionZ (by decide)]
  rfl

end Universe

end Concurrente.NBody
