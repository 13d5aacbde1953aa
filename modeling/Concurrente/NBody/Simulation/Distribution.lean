import Concurrente.Library.Loops
import Concurrente.NBody.Simulation.QuietCollisions
import Concurrente.NBody.Simulation.Termination

/-!
# Independence of the distribution

The same bodies may be spread over any number of processes in any way.  As long
as no bodies collide, whether they do is a property of all bodies together, the
update phase is one map over them, and the loop decides with the time and with
a sum over all processes.  So the simulations agree in every iteration and end
together.
-/

namespace Concurrente.NBody

open Library

variable {α : Type} [RealArithmetic α] {size otherSize : Nat}

namespace Body

/-- Two bodies do not collide, or one of them is inactive. -/
def Apart (body other : Body α) : Prop :=
  body.isActive = true → other.isActive = true →
    ¬ body.checkCollision other.radius other.position = true

theorem Apart.symm {body other : Body α} (apart : Apart body other) :
    Apart other body :=
  fun active otherActive collides =>
    apart otherActive active (checkCollision_symm collides)

end Body

theorem Universe.clear_iff_pairwise {self : Universe α} :
    self.Clear ↔ self.bodies.Pairwise Body.Apart := by
  rw [List.pairwise_iff_getElem]
  constructor
  · intro clear index otherIndex inside inside' before active otherActive collides
    exact clear index otherIndex _ _ active
      ⟨List.getElem?_eq_getElem inside, List.getElem?_eq_getElem inside', before.ne,
        otherActive, collides⟩
  · intro apart index otherIndex body other active strike
    obtain ⟨inside, rfl⟩ := List.getElem?_eq_some_iff.mp strike.own
    obtain ⟨inside', rfl⟩ := List.getElem?_eq_some_iff.mp strike.theirs
    rcases lt_or_gt_of_ne strike.different with before | after
    · exact apart index otherIndex inside inside' before active strike.active
        strike.collides
    · exact (apart otherIndex index inside' inside after).symm active strike.active
        strike.collides

namespace Simulation

/-- The bodies of all processes in the order of their ranks. -/
def inRankOrder (universes : Fin size → Universe α) : List (Body α) :=
  (List.finRange size).flatMap fun rank => (universes rank).bodies

omit [RealArithmetic α] in
theorem coe_inRankOrder (universes : Fin size → Universe α) :
    (inRankOrder universes : Multiset (Body α)) = allBodies universes := by
  unfold inRankOrder allBodies
  rw [Fin.sum_univ_def]
  induction List.finRange size with
  | nil => rfl
  | cons rank ranks ih =>
      rw [List.flatMap_cons, List.map_cons, List.sum_cons, ← ih]
      rfl

theorem clear_iff_pairwise {universes : Fin size → Universe α} :
    Clear universes ↔ (inRankOrder universes).Pairwise Body.Apart := by
  rw [clear_iff, inRankOrder, List.pairwise_flatMap]
  simp only [Universe.clear_iff_pairwise, List.mem_finRange, true_implies]
  apply and_congr_right
  intro _
  constructor
  · intro apart
    exact (List.nodup_finRange size).imp fun {rank process} different body member
      other otherMember => apart process rank different body member other otherMember
  · intro apart rank process different body member other otherMember
    have symmetric : Std.Symm fun rank process : Fin size =>
        ∀ body ∈ (universes rank).bodies, ∀ other ∈ (universes process).bodies,
          Body.Apart body other :=
      ⟨fun rank process apart body member other otherMember =>
        (apart other otherMember body member).symm⟩
    exact apart.forall (List.mem_finRange process) (List.mem_finRange rank)
      different body member other otherMember

/-- Whether bodies collide does not depend on where they are. -/
theorem clear_congr {universes : Fin size → Universe α}
    {others : Fin otherSize → Universe α}
    (same : allBodies others = allBodies universes) :
    Clear others ↔ Clear universes := by
  rw [← coe_inRankOrder, ← coe_inRankOrder, Multiset.coe_eq_coe] at same
  rw [clear_iff_pairwise, clear_iff_pairwise]
  exact same.pairwise_iff Body.Apart.symm

/-! ## Simulations of the same bodies -/

/-- Two states of the loop with the same bodies on any processes. -/
structure SameBodies (state : Simulated α size) (other : Simulated α otherSize) :
    Prop where
  currentTime : other.currentTime = state.currentTime
  total : other.totalActiveBodiesCount = state.totalActiveBodiesCount
  counters : activeTotal other.universes = activeTotal state.universes
  bodies : allBodies other.universes = allBodies state.universes

theorem activeTotal_statePositions (deltaTime : α)
    (universes : Fin size → Universe α) :
    activeTotal (statePositions deltaTime (stateAccelerations universes)) =
      activeTotal universes := by
  rw [stateAccelerations_eq]
  rfl

/-- One iteration of both. -/
theorem SameBodies.iteration {state : Simulated α size}
    {other : Simulated α otherSize} (same : SameBodies state other)
    (clear : Clear state.universes) (deltaTime : α) :
    SameBodies (iteration deltaTime state) (iteration deltaTime other) := by
  have quiet := stateCollisions_eq_self_iff.mpr clear
  have otherQuiet := stateCollisions_eq_self_iff.mpr
    ((clear_congr same.bodies).mpr clear)
  simp only [Simulation.iteration, quiet, otherQuiet]
  constructor
  · dsimp only
    rw [same.currentTime]
  · dsimp only
    rw [activeTotal_statePositions, activeTotal_statePositions, same.counters]
  · dsimp only
    rw [activeTotal_statePositions, activeTotal_statePositions, same.counters]
  · dsimp only
    rw [allBodies_statePositions, allBodies_statePositions, same.bodies]

/-- No bodies collide in the iterations of a run. -/
def ClearRun (deltaTime maxTime : α) (state : Simulated α size) : Prop :=
  ∀ count, (∀ earlier ≤ count,
      continues maxTime ((iteration deltaTime)^[earlier] state) = true) →
    Clear ((iteration deltaTime)^[count] state).universes

theorem simulate_eq_loopWhile (deltaTime maxTime : α) (iterations : Nat)
    (state : Simulated α size) :
    simulate deltaTime maxTime iterations state =
      loopWhile (continues maxTime) (iteration deltaTime) iterations state := by
  induction iterations generalizing state with
  | zero => rfl
  | succ iterations ih => rw [simulate, loopWhile, ih]

/-- In runs without collisions the simulation of the same bodies takes the same
iterations and ends with the same bodies, on any number of processes and
however the bodies are distributed. -/
theorem simulate_independent_of_distribution {deltaTime maxTime : α}
    {state : Simulated α size} {other : Simulated α otherSize}
    (same : SameBodies state other) (clear : ClearRun deltaTime maxTime state)
    (iterations : Nat) :
    Option.Rel SameBodies (simulate deltaTime maxTime iterations state)
      (simulate deltaTime maxTime iterations other) := by
  rw [simulate_eq_loopWhile, simulate_eq_loopWhile]
  have tests : ∀ (state : Simulated α size) (other : Simulated α otherSize),
      SameBodies state other → continues maxTime state = continues maxTime other := by
    intro state other same
    simp only [continues, same.currentTime, same.total]
  have related : Option.Rel
      (fun (state : Simulated α size) (other : Simulated α otherSize) =>
        SameBodies state other ∧ ClearRun deltaTime maxTime state)
      (loopWhile (continues maxTime) (iteration deltaTime) iterations state)
      (loopWhile (continues maxTime) (iteration deltaTime) iterations other) := by
    apply loopWhile_rel
    · intro state other both
      exact tests state other both.1
    · rintro state other ⟨same, clear⟩ more
      refine ⟨same.iteration (clear 0 ?_) deltaTime, fun count passed => ?_⟩
      · intro earlier bound
        obtain rfl : earlier = 0 := by omega
        exact more
      · apply clear (count + 1)
        intro earlier bound
        cases earlier with
        | zero => exact more
        | succ earlier => exact passed earlier (by omega)
    · exact ⟨same, clear⟩
  generalize loopWhile (continues maxTime) (iteration deltaTime) iterations state =
    result at related ⊢
  generalize loopWhile (continues maxTime) (iteration deltaTime) iterations other =
    otherResult at related ⊢
  cases related with
  | some both => exact .some both.1
  | none => exact .none

/-- The two bodies that stay apart, on two processes. -/
noncomputable def apartOnTwo : Fin 2 → Universe ℝ :=
  fun rank =>
    { activeBodiesCount := 1, bodies := (apart.bodies[rank.val]?).toList }

theorem simulate_independent_apart :
    Option.Rel SameBodies (simulate 1 1 1 (started 2 fun _ : Fin 1 => apart))
      (simulate 1 1 1 (started 2 apartOnTwo)) := by
  have same : SameBodies (started 2 fun _ : Fin 1 => apart)
      (started 2 apartOnTwo) := by
    refine ⟨rfl, rfl, ?_, ?_⟩
    · simp [started, activeTotal, apartOnTwo, apart]
    · simp only [started, allBodies, Fin.sum_univ_two, Fin.sum_univ_one]
      rfl
  have clear : ClearRun 1 1 (started 2 fun _ : Fin 1 => apart) := by
    intro count passed
    cases count with
    | zero => exact stateCollisions_eq_self_iff.mp stateCollisions_apart
    | succ count =>
        have late := passed 1 (by omega)
        simp [continues, started, iteration] at late
  exact simulate_independent_of_distribution same clear 1

end Simulation

end Concurrente.NBody
