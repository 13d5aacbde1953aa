import Concurrente.NBody.Simulation.QuietCollisions
import Concurrente.NBody.Simulation.Termination

/-!
# Momentum

The pulls of two bodies on each other have the same size in terms of momentum
and opposite directions, also when the two are on different processes and the
pulls are computed by different loops.  So the update phase changes no total
momentum, and without collisions the centre of mass of all bodies moves on a
straight line.
-/

namespace Concurrente.NBody

open Library

variable {α : Type} [RealArithmetic α] {size : Nat}

/-! ## Sums over all pairs -/

/-- Contributions that cancel in pairs add up to nothing. -/
theorem sum_antisymmetric {γ β : Type} [AddCommGroup β]
    (halves : ∀ value : β, value = -value → value = 0) (items : Multiset γ)
    {contribution : γ → γ → β}
    (opposite : ∀ one other, contribution one other = -contribution other one) :
    (items.map fun one =>
      (items.map fun other => contribution one other).sum).sum = 0 := by
  apply halves
  calc (items.map fun one =>
        (items.map fun other => contribution one other).sum).sum =
      (items.map fun other =>
        (items.map fun one => contribution one other).sum).sum :=
        Multiset.sum_map_sum_map items items
    _ = (items.map fun other =>
        -(items.map fun one => contribution other one).sum).sum := by
        congr 1
        apply Multiset.map_congr rfl
        intro other _
        rw [← Multiset.sum_map_neg]
        congr 1
        exact Multiset.map_congr rfl fun one _ => opposite one other
    _ = _ := Multiset.sum_map_neg

namespace RealVector

theorem eq_zero_of_eq_neg (value : RealVector α) (same : value = -value) :
    value = 0 := by
  have coordinate : ∀ number : α, number = -number → number = 0 := by
    intro number equal
    linarith
  rw [RealVector.ext_iff, neg_x, neg_y, neg_z] at same
  exact RealVector.ext (coordinate _ same.1) (coordinate _ same.2.1)
    (coordinate _ same.2.2)

/-- Multiplication by a scalar, as a map that respects sums. -/
def scaled (scalar : α) : RealVector α →+ RealVector α where
  toFun vector := vector * scalar
  map_zero' := by ext <;> simp
  map_add' first other := by ext <;> simp [add_mul]

@[simp] theorem scaled_apply (scalar : α) (vector : RealVector α) :
    scaled scalar vector = vector * scalar := rfl

theorem sum_mul (items : Multiset (RealVector α)) (scalar : α) :
    items.sum * scalar = (items.map (scaled scalar)).sum :=
  map_multiset_sum (scaled scalar) items

end RealVector

namespace Body

/-- What the second body adds to the momentum of the first one. -/
def push (body other : Body α) : RealVector α :=
  if body.isActive = true ∧ other.isActive = true then body.pull other * body.mass
  else 0

/-- The pushes of two bodies on each other are opposite. -/
theorem push_opposite (body other : Body α) :
    body.push other = -other.push body := by
  unfold push
  by_cases both : body.isActive = true ∧ other.isActive = true
  · rw [if_pos both, if_pos both.symm, pull, pull,
      RealVector.getMagnitude_sub_comm body.position]
    split
    · ext <;> simp
    · ext
      all_goals
        simp only [RealVector.mul_x, RealVector.mul_y, RealVector.mul_z,
          RealVector.sub_x, RealVector.sub_y, RealVector.sub_z,
          RealVector.neg_x, RealVector.neg_y, RealVector.neg_z]
        ring
  · rw [if_neg both, if_neg fun swapped => both swapped.symm]
    ext <;> simp

/-- The position of a body that counts, weighed with its mass. -/
def activeMoment (body : Body α) : RealVector α :=
  if body.isActive then body.position * body.mass else 0

/-- What the update adds to the momentum of a body. -/
theorem activeMomentum_updatedBody (deltaTime : α)
    (total : Body α → RealVector α) (body : Body α) :
    (Simulation.updatedBody deltaTime total body).activeMomentum =
      body.activeMomentum +
        (if body.isActive then total body * body.mass else 0) *
          ((gravitationalConstant : α) * deltaTime) := by
  cases active : body.isActive with
  | false =>
      simp only [Simulation.updatedBody, activeMomentum, active,
        Bool.false_eq_true, if_false]
      ext <;> simp
  | true =>
      have still : (((body.withAcceleration (total body)).updateVelocity
          deltaTime).updatePosition deltaTime).isActive = true := active
      simp only [Simulation.updatedBody, activeMomentum, active, still, if_true]
      ext
      all_goals
        simp only [momentum, updateVelocity, updatePosition, withAcceleration,
          RealVector.add_x, RealVector.add_y, RealVector.add_z,
          RealVector.mul_x, RealVector.mul_y, RealVector.mul_z]
        ring

/-- A body is moved with its new velocity. -/
theorem activeMoment_updatedBody (deltaTime : α)
    (total : Body α → RealVector α) (body : Body α) :
    (Simulation.updatedBody deltaTime total body).activeMoment =
      body.activeMoment +
        (Simulation.updatedBody deltaTime total body).activeMomentum *
          deltaTime := by
  cases active : body.isActive with
  | false =>
      simp only [Simulation.updatedBody, activeMomentum, activeMoment, active,
        Bool.false_eq_true, if_false]
      ext <;> simp
  | true =>
      have still : (((body.withAcceleration (total body)).updateVelocity
          deltaTime).updatePosition deltaTime).isActive = true := active
      simp only [Simulation.updatedBody, activeMomentum, activeMoment, active, still,
        if_true]
      ext
      all_goals
        simp only [momentum, updateVelocity, updatePosition, withAcceleration,
          RealVector.add_x, RealVector.add_y, RealVector.add_z,
          RealVector.mul_x, RealVector.mul_y, RealVector.mul_z]
        ring

end Body

namespace Simulation

/-- The total momentum of the active bodies of all processes. -/
def totalMomentum (universes : Fin size → Universe α) : RealVector α :=
  ((allBodies universes).map Body.activeMomentum).sum

/-- The sum of the weighed positions of all active bodies. -/
def totalMoment (universes : Fin size → Universe α) : RealVector α :=
  ((allBodies universes).map Body.activeMoment).sum

theorem totalMass_eq_sum_allBodies (universes : Fin size → Universe α) :
    totalMass universes = ((allBodies universes).map activeMass).sum := by
  have additive := map_sum (Multiset.sumAddMonoidHom.comp
    (Multiset.mapAddMonoidHom (activeMass (α := α))))
    (fun rank => ((universes rank).bodies : Multiset (Body α))) Finset.univ
  exact additive.symm

/-- The pushes on all bodies cancel. -/
theorem sum_pushes (bodies : Multiset (Body α)) :
    (bodies.map fun body => if body.isActive then
      (bodies.map fun other =>
        if other.isActive then body.pull other else 0).sum * body.mass
      else 0).sum = 0 := by
  have cancels := sum_antisymmetric RealVector.eq_zero_of_eq_neg bodies
    Body.push_opposite
  refine Eq.trans ?_ cancels
  congr 1
  apply Multiset.map_congr rfl
  intro body _
  cases active : body.isActive with
  | false => simp [Body.push, active]
  | true =>
      rw [if_pos rfl, RealVector.sum_mul, Multiset.map_map]
      congr 1
      apply Multiset.map_congr rfl
      intro other _
      cases otherActive : other.isActive with
      | false =>
          simp only [Function.comp_apply, Body.push, active, otherActive,
            Bool.false_eq_true, if_false, and_false, map_zero]
      | true => simp [Body.push, active, otherActive]

theorem totalMomentum_update (deltaTime : α) (universes : Fin size → Universe α) :
    totalMomentum (statePositions deltaTime (stateAccelerations universes)) =
      totalMomentum universes := by
  have changes : totalMomentum
        (statePositions deltaTime (stateAccelerations universes)) =
      totalMomentum universes +
        (((allBodies universes).map fun body => if body.isActive then
          ((allBodies universes).map fun other =>
            if other.isActive then body.pull other else 0).sum * body.mass
          else 0).map
            (RealVector.scaled (Body.gravitationalConstant * deltaTime))).sum := by
    unfold totalMomentum
    rw [allBodies_statePositions, Multiset.map_map, Multiset.map_map,
      ← Multiset.sum_map_add]
    congr 1
    apply Multiset.map_congr rfl
    intro body _
    exact Body.activeMomentum_updatedBody deltaTime _ body
  rw [changes, ← RealVector.sum_mul, sum_pushes]
  ext <;> simp

theorem totalMoment_update (deltaTime : α) (universes : Fin size → Universe α) :
    totalMoment (statePositions deltaTime (stateAccelerations universes)) =
      totalMoment universes + totalMomentum universes * deltaTime := by
  have momentum := totalMomentum_update deltaTime universes
  rw [← momentum]
  unfold totalMoment totalMomentum
  rw [RealVector.sum_mul, allBodies_statePositions, Multiset.map_map,
    Multiset.map_map, Multiset.map_map, ← Multiset.sum_map_add]
  congr 1
  apply Multiset.map_congr rfl
  intro body _
  exact Body.activeMoment_updatedBody deltaTime _ body

theorem totalMass_update (deltaTime : α) (universes : Fin size → Universe α) :
    totalMass (statePositions deltaTime (stateAccelerations universes)) =
      totalMass universes := by
  rw [totalMass_eq_sum_allBodies, totalMass_eq_sum_allBodies,
    allBodies_statePositions, Multiset.map_map]
  congr 1
  apply Multiset.map_congr rfl
  intro body _
  rw [Function.comp_apply, updatedBody]
  split <;> rfl

/-! ## Runs -/

/-- One iteration in which no bodies collide. -/
theorem totals_iteration (deltaTime : α) {state : Simulated α size}
    (clear : Clear state.universes) :
    totalMass (iteration deltaTime state).universes = totalMass state.universes ∧
      totalMomentum (iteration deltaTime state).universes =
        totalMomentum state.universes ∧
      totalMoment (iteration deltaTime state).universes =
        totalMoment state.universes +
          totalMomentum state.universes * deltaTime := by
  have quiet := stateCollisions_eq_self_iff.mpr clear
  simp only [iteration, quiet]
  exact ⟨totalMass_update deltaTime _, totalMomentum_update deltaTime _,
    totalMoment_update deltaTime _⟩

/-- As long as no bodies collide, the total mass and the total momentum of all
processes stay the same, and the centre of mass moves on a straight line at
constant speed. -/
theorem centre_of_mass_moves_straight (deltaTime : α) (state : Simulated α size)
    (count : Nat)
    (clear : ∀ earlier < count,
      Clear ((iteration deltaTime)^[earlier] state).universes) :
    let after := (iteration deltaTime)^[count] state
    totalMass after.universes = totalMass state.universes ∧
      totalMomentum after.universes = totalMomentum state.universes ∧
      totalMoment after.universes = totalMoment state.universes +
        totalMomentum state.universes *
          (after.currentTime - state.currentTime) := by
  induction count with
  | zero =>
      refine ⟨rfl, rfl, ?_⟩
      ext <;> simp
  | succ count ih =>
      obtain ⟨mass, momentum, moment⟩ := ih fun earlier before =>
        clear earlier (by omega)
      obtain ⟨mass', momentum', moment'⟩ := totals_iteration deltaTime
        (clear count (by omega))
      rw [Function.iterate_succ_apply']
      refine ⟨mass'.trans mass, momentum'.trans momentum, ?_⟩
      have time : (iteration deltaTime
          ((iteration deltaTime)^[count] state)).currentTime =
          ((iteration deltaTime)^[count] state).currentTime + deltaTime := rfl
      rw [moment', momentum, moment, time]
      ext
      all_goals
        simp only [RealVector.add_x, RealVector.add_y, RealVector.add_z,
          RealVector.mul_x, RealVector.mul_y, RealVector.mul_z]
        ring

theorem centre_of_mass_apart :
    totalMomentum (iteration 1 (started 2 fun _ : Fin 1 => apart)).universes =
      totalMomentum fun _ : Fin 1 => apart := by
  have clear : Clear fun _ : Fin 1 => apart :=
    stateCollisions_eq_self_iff.mp stateCollisions_apart
  exact (centre_of_mass_moves_straight 1 (started 2 fun _ : Fin 1 => apart) 1
    (fun earlier before => by
      obtain rfl : earlier = 0 := by omega
      exact clear)).2.1

end Simulation

end Concurrente.NBody
