import Concurrente.Library.Loops
import Concurrente.NBody.Simulation.QuietCollisions
import Concurrente.NBody.Simulation.Termination

/-!
# Rigid motions

The code compares and adds positions through their differences and the
magnitudes of these.  So a turned and shifted universe is simulated as the
universe itself, turned and shifted, with all its collisions, those that are
resolved wrongly included.
-/

namespace Concurrente.NBody

open Library

variable {α : Type} [RealArithmetic α] {size : Nat}

/-- A motion of space that keeps distances. -/
structure Motion (α : Type) [RealArithmetic α] where
  turn : RealVector α → RealVector α
  shift : RealVector α
  turn_add : ∀ first other, turn (first + other) = turn first + turn other
  turn_mul : ∀ vector (scalar : α), turn (vector * scalar) = turn vector * scalar
  magnitude : ∀ vector, (turn vector).getMagnitude = vector.getMagnitude

namespace Motion

variable (motion : Motion α)

theorem turn_zero : motion.turn 0 = 0 := by
  have scaled := motion.turn_mul 0 0
  have zero : ∀ vector : RealVector α, vector * (0 : α) = 0 := by
    intro vector
    ext <;> simp
  rwa [zero, zero] at scaled

theorem turn_sub (first other : RealVector α) :
    motion.turn (first - other) = motion.turn first - motion.turn other := by
  change motion.turn (first + other * (-1 : α)) = _
  rw [motion.turn_add, motion.turn_mul]
  rfl

theorem turn_sum (vectors : List (RealVector α)) :
    motion.turn vectors.sum = (vectors.map motion.turn).sum := by
  induction vectors with
  | nil => exact motion.turn_zero
  | cons vector vectors ih =>
      rw [List.sum_cons, motion.turn_add, ih, List.map_cons, List.sum_cons]

/-- Where a position is moved to. -/
def move (position : RealVector α) : RealVector α :=
  motion.turn position + motion.shift

theorem move_sub (first other : RealVector α) :
    motion.move first - motion.move other = motion.turn (first - other) := by
  rw [turn_sub]
  unfold move
  ext <;> simp

/-- A turn about the third axis. -/
def rotation (cosine sine : α) (unit : cosine * cosine + sine * sine = 1)
    (shift : RealVector α) : Motion α where
  turn vector :=
    ⟨cosine * vector.x - sine * vector.y, sine * vector.x + cosine * vector.y,
      vector.z⟩
  shift := shift
  turn_add first other := by
    ext <;> simp <;> ring
  turn_mul vector scalar := by
    ext <;> simp <;> ring
  magnitude vector := by
    unfold RealVector.getMagnitude
    congr 1
    linear_combination (vector.x * vector.x + vector.y * vector.y) * unit

end Motion

/-! ## Bodies -/

namespace Body

/-- A body that was moved. -/
def moved (motion : Motion α) (body : Body α) : Body α :=
  { body with
    position := motion.move body.position
    velocity := motion.turn body.velocity
    acceleration := motion.turn body.acceleration }

variable (motion : Motion α)

@[simp] theorem isActive_moved (body : Body α) :
    (body.moved motion).isActive = body.isActive := rfl

theorem checkCollision_moved (body other : Body α) :
    (body.moved motion).checkCollision (other.moved motion).radius
        (other.moved motion).position =
      body.checkCollision other.radius other.position := by
  have distance : ((other.moved motion).position -
      (body.moved motion).position).getMagnitude =
      (other.position - body.position).getMagnitude := by
    rw [← motion.magnitude (other.position - body.position), ← motion.move_sub]
    rfl
  unfold checkCollision
  rw [distance]
  rfl

theorem merged_moved (body other : Body α) :
    (body.moved motion).merged (other.moved motion) =
      (body.merged other).moved motion := by
  simp only [merged, moved, mergeVelocities, addRadiuses, motion.turn_add,
    motion.turn_mul]

theorem pull_moved (body other : Body α) :
    (body.moved motion).pull (other.moved motion) =
      motion.turn (body.pull other) := by
  have distance : (other.moved motion).position - (body.moved motion).position =
      motion.turn (other.position - body.position) :=
    motion.move_sub other.position body.position
  unfold pull
  dsimp only
  rw [distance, motion.magnitude]
  split
  · exact motion.turn_zero.symm
  · rw [motion.turn_mul]
    rfl

end Body

theorem Simulation.resolvePair_moved (motion : Motion α) (first second : Body α) :
    resolvePair (first.moved motion) (second.moved motion) =
      ((resolvePair first second).1.moved motion,
        (resolvePair first second).2.moved motion) := by
  unfold resolvePair
  rw [Body.merged_moved, Body.merged_moved]
  change (if second.mass ≤ first.mass then _ else _) = _
  split <;> rfl

/-! ## Universes -/

namespace Universe

/-- A universe that was moved. -/
def moved (motion : Motion α) (self : Universe α) : Universe α :=
  { self with bodies := self.bodies.map (Body.moved motion) }

variable (motion : Motion α)

theorem strikes_moved {index : Nat} {self : Universe α} {otherIndex : Nat}
    {body other : Body α} (strike : Strikes index self otherIndex body other) :
    Strikes index (self.moved motion) otherIndex (body.moved motion)
      (other.moved motion) where
  own := by rw [moved, List.getElem?_map, strike.own, Option.map_some]
  theirs := by rw [moved, List.getElem?_map, strike.theirs, Option.map_some]
  different := strike.different
  active := strike.active
  collides := by
    rw [Body.checkCollision_moved]
    exact strike.collides

theorem strikes_of_moved {index : Nat} {self : Universe α} {otherIndex : Nat}
    {body other : Body α}
    (strike : Strikes index (self.moved motion) otherIndex body other) :
    ∃ body other, Strikes index self otherIndex body other := by
  obtain ⟨own, theirs, different, active, collides⟩ := strike
  rw [moved, List.getElem?_map] at own theirs
  obtain ⟨body, found, rfl⟩ := Option.map_eq_some_iff.mp own
  obtain ⟨other, found', rfl⟩ := Option.map_eq_some_iff.mp theirs
  rw [Body.checkCollision_moved] at collides
  exact ⟨body, other, found, found', different, active, collides⟩

theorem checkPair_moved (index : Nat) (self : Universe α) (otherIndex : Nat) :
    checkPair index (self.moved motion) otherIndex =
      (checkPair index self otherIndex).moved motion := by
  rcases checkPair_cases index self otherIndex with
    ⟨idle, none⟩ | ⟨body, other, strike, step⟩
  · rcases checkPair_cases index (self.moved motion) otherIndex with
      ⟨idle', _⟩ | ⟨_, _, strike, _⟩
    · rw [idle, idle']
    · obtain ⟨body, other, strike⟩ := strikes_of_moved motion strike
      exact absurd strike (none body other)
  · have own := (strikes_moved motion strike).own
    have theirs := (strikes_moved motion strike).theirs
    rcases checkPair_cases index (self.moved motion) otherIndex with
      ⟨_, none⟩ | ⟨body', other', strike', step'⟩
    · exact absurd (strikes_moved motion strike) (none _ _)
    · obtain rfl := Option.some.inj (own.symm.trans strike'.own)
      obtain rfl := Option.some.inj (theirs.symm.trans strike'.theirs)
      rw [step, step', Simulation.resolvePair_moved]
      simp only [moved, List.map_set]

theorem checkBody_moved (self : Universe α) (index : Nat) :
    checkBody (self.moved motion) index = (checkBody self index).moved motion := by
  have active : ((self.moved motion).bodies[index]?).any Body.isActive =
      (self.bodies[index]?).any Body.isActive := by
    rw [moved, List.getElem?_map]
    cases self.bodies[index]? <;> rfl
  have length : (self.moved motion).bodies.length = self.bodies.length :=
    List.length_map ..
  unfold checkBody
  rw [active, length]
  split
  · exact List.foldl_hom (moved motion) fun state other =>
      checkPair_moved motion index state other
  · rfl

theorem checkCollisions_moved (self : Universe α) :
    (self.moved motion).checkCollisions = self.checkCollisions.moved motion := by
  have length : (self.moved motion).bodies.length = self.bodies.length :=
    List.length_map ..
  unfold checkCollisions
  rw [length]
  exact List.foldl_hom (moved motion) (checkBody_moved motion)

theorem filter_moved (self : Universe α) :
    (self.moved motion).bodies.filter Body.isActive =
      (self.bodies.filter Body.isActive).map (Body.moved motion) := by
  rw [moved, List.filter_map]
  rfl

theorem collideWith_moved (rank otherRank : Nat) (body other : Body α) :
    collideWith rank otherRank (body.moved motion) (other.moved motion) =
      ((collideWith rank otherRank body other).1,
        (collideWith rank otherRank body other).2.moved motion) := by
  have equal : (body.moved motion).equalMasses (other.moved motion).mass =
      body.equalMasses other.mass := rfl
  have order : (other.moved motion).mass ≤ (body.moved motion).mass ↔
      other.mass ≤ body.mass := Iff.rfl
  unfold collideWith
  rw [Body.absorb_eq, Body.absorb_eq, Body.merged_moved, equal]
  split
  · rfl
  · by_cases heavier : other.mass ≤ body.mass
    · rw [if_pos (order.mpr heavier), if_pos heavier]
      rfl
    · rw [if_neg (fun lighter => heavier (order.mp lighter)), if_neg heavier]
      rfl

theorem checkSerialized_moved (self : Universe α) (rank otherRank : Nat)
    (body : Body α) :
    checkSerialized (self.moved motion).serializeCollisionData rank otherRank
        (body.moved motion) =
      ((checkSerialized self.serializeCollisionData rank otherRank body).1,
        (checkSerialized self.serializeCollisionData rank otherRank
          body).2.moved motion) := by
  rw [checkSerialized_serializeCollisionData,
    checkSerialized_serializeCollisionData, filter_moved, List.find?_map]
  have test : ((fun other : Body α =>
      (body.moved motion).checkCollision other.radius other.position) ∘
        Body.moved motion) =
      fun other => body.checkCollision other.radius other.position :=
    funext (Body.checkCollision_moved motion body)
  rw [test, Body.isActive_moved]
  split
  · cases (self.bodies.filter Body.isActive).find? fun other =>
        body.checkCollision other.radius other.position with
    | none => rfl
    | some other => exact collideWith_moved motion rank otherRank body other
  · rfl

theorem checkReceivedCollisions_moved (self other : Universe α)
    (rank otherRank : Nat) :
    (self.moved motion).checkReceivedCollisions
        (other.moved motion).serializeCollisionData rank otherRank =
      (self.checkReceivedCollisions other.serializeCollisionData rank
        otherRank).moved motion := by
  have checked : (self.moved motion).bodies.map
        (checkSerialized (other.moved motion).serializeCollisionData rank
          otherRank) =
      (self.bodies.map (checkSerialized other.serializeCollisionData rank
        otherRank)).map fun result => (result.1, result.2.moved motion) := by
    have bodies : (self.moved motion).bodies = self.bodies.map (Body.moved motion) :=
      rfl
    rw [bodies, List.map_map, List.map_map]
    exact List.map_congr_left fun body _ =>
      checkSerialized_moved motion other rank otherRank body
  unfold checkReceivedCollisions
  rw [checked]
  simp [moved, List.countP_map, Function.comp_def]

/-- The pull of a moved universe. -/
theorem field_moved (self : Universe α) (body : Body α) :
    (self.moved motion).field (body.moved motion) =
      motion.turn (self.field body) := by
  unfold field
  rw [filter_moved, motion.turn_sum, List.map_map, List.map_map]
  congr 1
  exact List.map_congr_left fun other _ => Body.pull_moved motion body other

end Universe

/-! ## The simulation -/

namespace Simulation

variable (motion : Motion α)

/-- Universes that were moved. -/
def moved (universes : Fin size → Universe α) : Fin size → Universe α :=
  fun rank => (universes rank).moved motion

theorem stateCollisions_moved (universes : Fin size → Universe α) :
    stateCollisions (moved motion universes) =
      moved motion (stateCollisions universes) := by
  have first : (fun process => (moved motion universes process).checkCollisions) =
      moved motion fun process => (universes process).checkCollisions := by
    funext process
    exact Universe.checkCollisions_moved motion (universes process)
  unfold stateCollisions
  rw [first]
  apply List.foldl_hom (moved motion)
  intro universes rank
  funext process
  by_cases own : process = rank
  · simp [broadcastRound, moved, own]
  · simp only [broadcastRound, moved, if_neg own,
      Universe.checkReceivedCollisions_moved]

theorem updatedBody_moved (deltaTime : α) {total total' : Body α → RealVector α}
    (turned : ∀ body, total' (body.moved motion) = motion.turn (total body))
    (body : Body α) :
    updatedBody deltaTime total' (body.moved motion) =
      (updatedBody deltaTime total body).moved motion := by
  unfold updatedBody
  rw [Body.isActive_moved, turned]
  split
  · have position : ∀ vector : RealVector α,
        motion.move body.position + motion.turn vector =
          motion.move (body.position + vector) := by
      intro vector
      unfold Motion.move
      rw [motion.turn_add]
      ac_rfl
    simp only [Body.moved, Body.updatePosition, Body.updateVelocity,
      Body.withAcceleration, ← motion.turn_mul, ← motion.turn_add, position]
  · rfl

theorem statePositions_moved (deltaTime : α) (universes : Fin size → Universe α) :
    statePositions deltaTime (stateAccelerations (moved motion universes)) =
      moved motion (statePositions deltaTime (stateAccelerations universes)) := by
  funext rank
  apply Universe.eq_of_fields
  · rw [stateAccelerations_eq, stateAccelerations_eq]
    rfl
  · rw [bodies_statePositions]
    simp only [moved, Universe.moved]
    rw [bodies_statePositions, List.map_map, List.map_map]
    apply List.map_congr_left
    intro body _
    apply updatedBody_moved
    intro body
    rw [← Fin.sum_ofFn, ← Fin.sum_ofFn, motion.turn_sum, List.map_ofFn]
    congr 2
    funext rank
    exact Universe.field_moved motion (universes rank) body

/-- A state of the loop whose bodies were moved. -/
def movedState (state : Simulated α size) : Simulated α size :=
  { state with universes := Simulation.moved motion state.universes }

/-- The simulation of moved bodies takes the same iterations and ends with the
bodies of the simulation, moved. -/
theorem simulate_moved (deltaTime maxTime : α) (iterations : Nat)
    (state : Simulated α size) :
    simulate deltaTime maxTime iterations (movedState motion state) =
      (simulate deltaTime maxTime iterations state).map (movedState motion) := by
  have step : ∀ state : Simulated α size,
      iteration deltaTime (movedState motion state) =
        movedState motion (iteration deltaTime state) := by
    intro state
    simp only [iteration, movedState, stateCollisions_moved,
      statePositions_moved]
    rfl
  have test : ∀ state : Simulated α size,
      continues maxTime (movedState motion state) = continues maxTime state :=
    fun _ => rfl
  induction iterations generalizing state with
  | zero =>
      rw [simulate, simulate, test]
      split <;> rfl
  | succ iterations ih =>
      rw [simulate, simulate, test]
      split
      · rw [step, ih]
      · rfl

end Simulation

end Concurrente.NBody
