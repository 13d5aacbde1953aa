import Concurrente.NBody.Common.RealNumbers
import Concurrente.NBody.Simulation.Simulation

/-!
# The update phase

The acceleration of a body is collected in a local loop and in one loop for
each of the other ranks.  Masses, positions and the sets of active bodies stay
as they were until the last contribution is added, so together these loops form
one sum over the bodies of all processes.
-/

namespace Concurrente.NBody

open Library

namespace Body

variable {α : Type} [RealArithmetic α]

/-- A body with another acceleration. -/
def withAcceleration (body : Body α) (acceleration : RealVector α) : Body α :=
  { body with acceleration }

@[simp] theorem isActive_withAcceleration (body : Body α)
    (acceleration : RealVector α) :
    (body.withAcceleration acceleration).isActive = body.isActive := rfl

@[simp] theorem pull_withAcceleration (body other : Body α)
    (first second : RealVector α) :
    (body.withAcceleration first).pull (other.withAcceleration second) =
      body.pull other := rfl

/-- A body exerts no pull on itself. -/
theorem pull_eq_zero {body other : Body α}
    (same : other.position = body.position) : body.pull other = 0 := by
  have zero := (RealVector.getMagnitude_sub_eq_zero other.position
    body.position).mpr same
  simp [pull, zero]

theorem updateAcceleration_eq (body other : Body α) :
    body.updateAcceleration other.mass other.position =
      body.withAcceleration (body.acceleration + body.pull other) := by
  unfold updateAcceleration pull
  dsimp only
  split
  · rw [add_zero]
    rfl
  · rfl

theorem foldl_updateAcceleration (others : List (Body α)) (body : Body α) :
    others.foldl
        (fun body other => body.updateAcceleration other.mass other.position)
        body =
      body.withAcceleration
        (body.acceleration + (others.map body.pull).sum) := by
  induction others generalizing body with
  | nil =>
      simp only [List.foldl_nil, List.map_nil, List.sum_nil, add_zero]
      rfl
  | cons other others ih =>
      rw [List.foldl_cons, ih, updateAcceleration_eq, List.map_cons,
        List.sum_cons, ← add_assoc]
      rfl

end Body

namespace Universe

variable {α : Type} [RealArithmetic α]

/-- The pull of all active bodies of a process. -/
def field (self : Universe α) (body : Body α) : RealVector α :=
  ((self.bodies.filter Body.isActive).map body.pull).sum

/-- A universe whose active bodies have the given accelerations. -/
def accelerated (self : Universe α) (acceleration : Body α → RealVector α) :
    Universe α :=
  { self with
    bodies := self.bodies.map fun body =>
      if body.isActive then body.withAcceleration (acceleration body) else body }

theorem filter_accelerated (self : Universe α)
    (acceleration : Body α → RealVector α) :
    (self.accelerated acceleration).bodies.filter Body.isActive =
      (self.bodies.filter Body.isActive).map fun body =>
        body.withAcceleration (acceleration body) := by
  simp only [accelerated]
  induction self.bodies with
  | nil => rfl
  | cons body bodies ih =>
      by_cases active : body.isActive = true
      · simp [active, ih]
      · simp [active, ih]

theorem field_accelerated (self : Universe α)
    (acceleration : Body α → RealVector α) (body : Body α) :
    (self.accelerated acceleration).field body = self.field body := by
  rw [field, filter_accelerated, List.map_map]
  rfl

/-- The pull of one process, inactive bodies included as zeros. -/
theorem field_eq_sum (self : Universe α)
    (body : Body α) :
    self.field body =
      (self.bodies.map fun other =>
        if other.isActive then body.pull other else 0).sum := by
  unfold field
  induction self.bodies with
  | nil => rfl
  | cons other others ih =>
      by_cases active : other.isActive = true <;> simp [active, ih]

/-- Adding up the bodies another process serialized. -/
theorem foldl_serializeAccelerationData (self : Universe α) (body : Body α) :
    (offsets self.serializeAccelerationData.length
        bodyAccelerationDataSize).foldl
      (fun body offset => body.updateAcceleration
        (self.serializeAccelerationData.getD (offset + accelerationMass) 0)
        (accelerationPosition self.serializeAccelerationData offset)) body =
      body.withAcceleration (body.acceleration + self.field body) := by
  rw [updateAcceleration_serializeAccelerationData,
    Body.foldl_updateAcceleration]
  rfl

theorem updateReceivedAccelerations_eq (self other : Universe α)
    (acceleration otherAcceleration : Body α → RealVector α) :
    (self.accelerated acceleration).updateReceivedAccelerations
        (other.accelerated otherAcceleration).serializeAccelerationData =
      self.accelerated fun body => acceleration body + other.field body := by
  simp only [updateReceivedAccelerations, foldl_serializeAccelerationData,
    field_accelerated]
  simp only [accelerated, List.map_map]
  congr 1
  apply List.map_congr_left
  intro body _
  by_cases active : body.isActive = true
  · simp only [Function.comp_apply, active, if_true,
      Body.isActive_withAcceleration]
    rfl
  · simp [active]

/-- The local loop of one body, up to some index.  The iteration that is
skipped for the body itself would add nothing. -/
theorem foldl_updateLocalAccelerations {bodies : List (Body α)} {i : Nat}
    (inside : i < bodies.length) {body : Body α}
    (position : body.position = bodies[i].position) {count : Nat}
    (bound : count ≤ bodies.length) :
    (List.range count).foldl (updateLocalAcceleration bodies i) body =
      body.withAcceleration (body.acceleration +
        (((bodies.take count).filter Body.isActive).map body.pull).sum) := by
  induction count with
  | zero =>
      simp only [List.range_zero, List.foldl_nil, List.take_zero,
        List.filter_nil, List.map_nil, List.sum_nil, add_zero]
      rfl
  | succ count ih =>
      have current : count < bodies.length := bound
      rw [List.range_succ, List.foldl_append, ih (by omega),
        List.take_succ_eq_append_getElem current]
      simp only [List.foldl_cons, List.foldl_nil, updateLocalAcceleration,
        List.getElem?_eq_getElem current, List.filter_append, List.map_append, List.sum_append]
      by_cases active : bodies[count].isActive = true
      · by_cases same : i = count
        · subst same
          have zero : body.pull bodies[i] = 0 := Body.pull_eq_zero position.symm
          simp [active, zero]
        · simp only [same, active, Bool.not_true, decide_false, Bool.or_self,
            Body.updateAcceleration_eq]
          simp only [List.filter_cons, active, if_true, List.filter_nil,
            List.map_cons, List.map_nil, List.sum_cons, List.sum_nil, add_zero,
            ← add_assoc]
          rfl
      · simp [active]

theorem resetAccelerations_eq (self : Universe α) :
    resetAccelerations self.bodies = (self.accelerated fun _ => 0).bodies := by
  have zero : ∀ body : Body α,
      body.resetAcceleration = body.withAcceleration 0 := by
    intro body
    have vector : body.acceleration * (0 : α) = 0 := by ext <;> simp
    rw [Body.resetAcceleration, vector]
    rfl
  simp only [resetAccelerations, zero, accelerated]

theorem updateAccelerations_eq (self : Universe α) :
    self.updateAccelerations = self.accelerated self.field := by
  unfold updateAccelerations
  rw [resetAccelerations_eq]
  have bodies : updateLocalAccelerations (self.accelerated fun _ => 0).bodies =
      (self.accelerated self.field).bodies := by
    apply List.ext_getElem
    · simp [updateLocalAccelerations, accelerated]
    intro index _ inside
    have original : index < self.bodies.length := by
      simpa [accelerated] using inside
    have local' : index < (self.accelerated fun _ => 0).bodies.length := by
      simpa [accelerated] using inside
    have start : (self.accelerated fun _ => 0).bodies[index] =
        if self.bodies[index].isActive then self.bodies[index].withAcceleration 0
        else self.bodies[index] := by
      simp [accelerated]
    have result : (self.accelerated self.field).bodies[index] =
        if self.bodies[index].isActive then
          self.bodies[index].withAcceleration (self.field self.bodies[index])
        else self.bodies[index] := by
      simp [accelerated]
    have sum := foldl_updateLocalAccelerations local' rfl le_rfl
    rw [List.take_length] at sum
    simp only [updateLocalAccelerations, List.getElem_mapIdx, sum]
    rw [start, result]
    by_cases active : self.bodies[index].isActive = true
    · simp only [active, if_true, Body.isActive_withAcceleration]
      show self.bodies[index].withAcceleration (0 +
          (self.accelerated fun _ => 0).field
            (self.bodies[index].withAcceleration 0)) = _
      rw [zero_add, field_accelerated]
      rfl
    · simp [active]
  rw [bodies]
  rfl

end Universe

namespace Simulation

variable {α : Type} [RealArithmetic α] {size : Nat}

/-- What the rounds of some ranks add to the local loops. -/
theorem accelerationRounds (universes : Fin size → Universe α)
    (acceleration : Fin size → Body α → RealVector α) (ranks : List (Fin size)) :
    ranks.foldl
        (broadcastRound Universe.serializeAccelerationData
          fun self serialized _ _ => self.updateReceivedAccelerations serialized)
        (fun process => (universes process).accelerated (acceleration process)) =
      fun process => (universes process).accelerated fun body =>
        acceleration process body +
          (ranks.map fun rank =>
            if rank = process then 0 else (universes rank).field body).sum := by
  induction ranks generalizing acceleration with
  | nil => simp
  | cons rank ranks ih =>
      have round : broadcastRound Universe.serializeAccelerationData
          (fun self serialized _ _ => self.updateReceivedAccelerations serialized)
          (fun process =>
            (universes process).accelerated (acceleration process)) rank =
          fun process => (universes process).accelerated fun body =>
            acceleration process body +
              if rank = process then 0 else (universes rank).field body := by
        funext process
        unfold broadcastRound
        by_cases same : process = rank
        · subst same
          simp
        · simp only [if_neg same, if_neg (Ne.symm same)]
          exact Universe.updateReceivedAccelerations_eq ..
      rw [List.foldl_cons, round, ih]
      simp only [List.map_cons, List.sum_cons, add_assoc]

/-- After the phase an active body has the pull of all active bodies of all
processes. -/
theorem stateAccelerations_eq (universes : Fin size → Universe α) :
    stateAccelerations universes = fun process =>
      (universes process).accelerated fun body =>
        ∑ rank, (universes rank).field body := by
  unfold stateAccelerations
  simp only [Universe.updateAccelerations_eq]
  rw [accelerationRounds]
  funext process
  congr 1
  funext body
  have own : (universes process).field body =
      ∑ rank, if rank = process then (universes rank).field body else 0 := by
    simp
  rw [← Fin.sum_univ_def, own, ← Finset.sum_add_distrib]
  apply Finset.sum_congr rfl
  intro rank _
  split <;> simp

/-- A body after both phases, for a given total pull. -/
def updatedBody (deltaTime : α) (total : Body α → RealVector α)
    (body : Body α) : Body α :=
  if body.isActive then
    ((body.withAcceleration (total body)).updateVelocity deltaTime).updatePosition
      deltaTime
  else body

theorem bodies_statePositions (universes : Fin size → Universe α)
    (deltaTime : α) (rank : Fin size) :
    (statePositions deltaTime (stateAccelerations universes) rank).bodies =
      (universes rank).bodies.map
        (updatedBody deltaTime fun body =>
          ∑ rank, (universes rank).field body) := by
  rw [stateAccelerations_eq]
  simp only [statePositions, Universe.updateVelocitiesAndPositions,
    Universe.accelerated, List.map_map]
  apply List.map_congr_left
  intro body _
  by_cases active : body.isActive = true
  · simp [updatedBody, active]
  · simp [updatedBody, active]

/-- The total pull depends on the bodies, not on where they are. -/
theorem sum_field_eq (universes : Fin size → Universe α) (body : Body α) :
    ∑ rank, (universes rank).field body =
      ((allBodies universes).map fun other =>
        if other.isActive then body.pull other else 0).sum := by
  have additive := map_sum (Multiset.sumAddMonoidHom.comp
    (Multiset.mapAddMonoidHom fun other : Body α =>
      if other.isActive then body.pull other else 0))
    (fun rank => ((universes rank).bodies : Multiset (Body α))) Finset.univ
  simp only [Universe.field_eq_sum]
  exact additive.symm

theorem allBodies_statePositions (universes : Fin size → Universe α)
    (deltaTime : α) :
    allBodies (statePositions deltaTime (stateAccelerations universes)) =
      (allBodies universes).map (updatedBody deltaTime fun body =>
        ((allBodies universes).map fun other =>
          if other.isActive then body.pull other else 0).sum) := by
  have additive := map_sum (Multiset.mapAddMonoidHom
    (updatedBody deltaTime fun body => ∑ rank, (universes rank).field body))
    (fun rank => ((universes rank).bodies : Multiset (Body α))) Finset.univ
  simp only [← sum_field_eq]
  unfold allBodies
  simp only [bodies_statePositions]
  exact additive.symm

end Simulation

/-! ## Real numbers -/

namespace Simulation

variable {size : Nat}

/-- The sum over the other active bodies at different positions of
`m_j (x_j - x_i) / |x_j - x_i|^3`. -/
noncomputable def attraction (universes : Fin size → Universe ℝ)
    (place : Place universes) : RealVector ℝ :=
  ∑ other : Place universes with other ≠ place ∧
      (bodyAt universes other).isActive ∧
      (bodyAt universes other).position ≠ (bodyAt universes place).position,
    ((bodyAt universes other).position - (bodyAt universes place).position) *
      ((bodyAt universes other).mass /
        ((bodyAt universes other).position -
          (bodyAt universes place).position).getMagnitude ^ 3)

theorem attraction_eq (universes : Fin size → Universe ℝ)
    (place : Place universes) :
    attraction universes place =
      ∑ rank, (universes rank).field (bodyAt universes place) := by
  have terms : ∀ rank, (universes rank).field (bodyAt universes place) =
      ∑ index : Fin (universes rank).bodies.length,
        if (bodyAt universes ⟨rank, index⟩).isActive then
          (bodyAt universes place).pull (bodyAt universes ⟨rank, index⟩)
        else 0 := by
    intro rank
    rw [Universe.field_eq_sum]
    exact (Fin.sum_univ_fun_getElem _ fun other : Body ℝ =>
      if other.isActive then (bodyAt universes place).pull other else 0).symm
  simp only [terms]
  rw [attraction, Finset.sum_filter, Fintype.sum_sigma]
  refine Finset.sum_congr rfl fun rank _ => Finset.sum_congr rfl fun index _ => ?_
  by_cases active : (bodyAt universes ⟨rank, index⟩).isActive = true
  · by_cases same : (bodyAt universes ⟨rank, index⟩).position =
        (bodyAt universes place).position
    · simp [same, Body.pull_eq_zero same]
    · have other : (⟨rank, index⟩ : Place universes) ≠ place := by
        rintro rfl
        exact same rfl
      have apart : ((bodyAt universes ⟨rank, index⟩).position -
          (bodyAt universes place).position).getMagnitude ≠ 0 := fun zero =>
        same ((RealVector.getMagnitude_sub_eq_zero _ _).mp zero)
      rw [if_pos ⟨other, active, same⟩, if_pos active, Body.pull]
      simp only [apart, if_false]
      congr 2
      exact (pow_three _).symm
  · simp [active]

/-- After the update phase every active body has been moved by the attraction
of all other bodies, and the bodies that result do not depend on how they are
assigned to processes. -/
theorem update_phase (universes : Fin size → Universe ℝ) (deltaTime : ℝ) :
    (∀ place : Place universes,
      (statePositions deltaTime (stateAccelerations universes)
          place.1).bodies[place.2.val]? =
        some (
          let body := bodyAt universes place
          let velocity := body.velocity +
            attraction universes place * (667 / 10 ^ 13 : ℝ) * deltaTime
          if body.isActive then
            { body with
              position := body.position + velocity * deltaTime
              velocity
              acceleration := attraction universes place }
          else body)) ∧
      (∀ rank,
        (statePositions deltaTime (stateAccelerations universes)
          rank).bodies.length = (universes rank).bodies.length) ∧
      ∀ (otherSize : Nat) (others : Fin otherSize → Universe ℝ),
        allBodies others = allBodies universes →
        allBodies (statePositions deltaTime (stateAccelerations others)) =
          allBodies (statePositions deltaTime (stateAccelerations universes)) := by
  refine ⟨fun place => ?_, fun rank => ?_, fun otherSize others same => ?_⟩
  · rw [bodies_statePositions, List.getElem?_map,
      List.getElem?_eq_getElem place.2.isLt, Option.map_some]
    show some (updatedBody _ _ (bodyAt universes place)) = _
    unfold updatedBody
    dsimp only
    rw [← attraction_eq]
    rfl
  · rw [bodies_statePositions, List.length_map]
  · rw [allBodies_statePositions, allBodies_statePositions, same]

end Simulation

end Concurrente.NBody
