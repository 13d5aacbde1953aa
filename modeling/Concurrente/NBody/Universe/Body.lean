import Concurrente.NBody.Common.RealVector

/-!
# Bodies

A body is active while its mass is positive.  Bodies that were absorbed stay in
their vector with the sign of the mass changed.
-/

namespace Concurrente.NBody

/-- `Body`. -/
structure Body (α : Type) where
  mass : α
  radius : α
  position : RealVector α
  velocity : RealVector α
  acceleration : RealVector α
  deriving DecidableEq

namespace Body

variable {α : Type} [RealArithmetic α]

/-- The gravitational constant `G`. -/
def gravitationalConstant : α := 667 / 10 ^ 13

/-- `Body::addRadiuses`. -/
def addRadiuses (body : Body α) (otherRadius : α) : α :=
  RealArithmetic.pow
    (RealArithmetic.pow body.radius 3 + RealArithmetic.pow otherRadius 3) (1 / 3)

/-- `Body::updateAcceleration` with the data of another body. -/
def updateAcceleration (body : Body α) (otherMass : α)
    (otherPosition : RealVector α) : Body α :=
  let distance := otherPosition - body.position
  let distanceMagnitude := distance.getMagnitude
  if distanceMagnitude = 0 then body
  else
    { body with acceleration := body.acceleration +
        distance * (otherMass / RealArithmetic.pow distanceMagnitude 3) }

/-- What `updateAcceleration` adds to the acceleration of a body. -/
def pull (body other : Body α) : RealVector α :=
  let distance := other.position - body.position
  if distance.getMagnitude = 0 then 0
  else
    distance * (other.mass / RealArithmetic.pow distance.getMagnitude 3)

/-- `Body::resetAcceleration`. -/
def resetAcceleration (body : Body α) : Body α :=
  { body with acceleration := body.acceleration * (0 : α) }

/-- `Body::updateVelocity`. -/
def updateVelocity (body : Body α) (deltaTime : α) : Body α :=
  { body with velocity := body.velocity +
      body.acceleration * (gravitationalConstant : α) * deltaTime }

/-- `Body::updatePosition`. -/
def updatePosition (body : Body α) (deltaTime : α) : Body α :=
  { body with position := body.position + body.velocity * deltaTime }

/-- `Body::checkCollision`. -/
def checkCollision (body : Body α) (otherRadius : α)
    (otherPosition : RealVector α) : Bool :=
  (otherPosition - body.position).getMagnitude < body.radius + otherRadius

/-- `Body::isActive`. -/
def isActive (body : Body α) : Bool := 0 < body.mass

/-- `Body::mergeVelocities`. -/
def mergeVelocities (body : Body α) (otherMass : α)
    (otherVelocity : RealVector α) : Body α :=
  let velocity := body.velocity * otherMass + otherVelocity * otherMass
  { body with velocity := velocity * (1 / (body.mass + otherMass)) }

/-- `Body::absorb` with the data of another body: the result and the body. -/
def absorb (body : Body α) (otherMass otherRadius : α)
    (otherVelocity : RealVector α) : Bool × Body α :=
  if otherMass ≤ body.mass then
    let grown :=
      { body with
        mass := body.mass + otherMass
        radius := body.addRadiuses otherRadius }
    (true, grown.mergeVelocities otherMass otherVelocity)
  else (false, body)

/-- `Body::deactivate`. -/
def deactivate (body : Body α) : Body α :=
  { body with mass := body.mass * -1 }

/-- `Body::absorb` with another body: the result and both bodies. -/
def absorbBody (body other : Body α) : Bool × Body α × Body α :=
  let (absorbed, merged) := body.absorb other.mass other.radius other.velocity
  (absorbed, merged, if absorbed then other.deactivate else other)

/-- `Body::equalMasses`. -/
def equalMasses (body : Body α) (otherMass : α) : Bool := body.mass = otherMass

/-- `Body::serializeCheckCollision`, the values it appends. -/
def serializeCheckCollision (body : Body α) : List α :=
  [body.mass, body.radius, body.position.x, body.position.y, body.position.z,
    body.velocity.x, body.velocity.y, body.velocity.z]

/-- `Body::serializeAccelerationData`, the values it appends. -/
def serializeAccelerationData (body : Body α) : List α :=
  [body.mass, body.position.x, body.position.y, body.position.z]

/-- `Body::serializePositionData`, the values it appends. -/
def serializePositionData (body : Body α) : List α :=
  [body.position.x, body.position.y, body.position.z]

end Body

end Concurrente.NBody
