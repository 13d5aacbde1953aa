import Concurrente.NBody.Universe.Distances

/-!
# Reported statistics

The means and deviations that the simulation reports at its end.  A reduction
gives every process the sum over all processes, so the results are the same
everywhere.
-/

namespace Concurrente.NBody

open Library

variable {α : Type} [RealArithmetic α] {size : Nat}

namespace Statistics

/-- `Statistics::calculateVectorsSum`. -/
def calculateVectorsSum (realVectors : List (RealVector α)) : RealVector α :=
  realVectors.foldl (· + ·) 0

/-- `Statistics::calculateStDevSum`. -/
def calculateStDevSum (realVectors : List (RealVector α)) (mean : RealVector α) :
    RealVector α :=
  realVectors.foldl (fun sum vector => sum + (vector - mean).pow 2) 0

/-- `Statistics::realVectorMeanDistributed`.  A total of zero gives no
number. -/
def realVectorMeanDistributed (realVectors : Fin size → List (RealVector α))
    (total : Int) : Option (RealVector α) :=
  let sumResult := ∑ rank, calculateVectorsSum (realVectors rank)
  if total = 0 then none else some (sumResult * (1 / (total : α)))

/-- `Statistics::realVectorStDevDistributed`. -/
def realVectorStDevDistributed (realVectors : Fin size → List (RealVector α))
    (mean : RealVector α) (total : Int) : RealVector α :=
  if total ≤ 1 then 0
  else
    let sumResult := ∑ rank, calculateStDevSum (realVectors rank) mean
    let degreesOfFreedom := total - 1
    (sumResult * (1 / (degreesOfFreedom : α))).pow (1 / 2)

theorem sum_calculateVectorsSum (realVectors : Fin size → List (RealVector α)) :
    ∑ rank, calculateVectorsSum (realVectors rank) =
      ((List.finRange size).flatMap realVectors).sum := by
  simp only [calculateVectorsSum, ← List.sum_eq_foldl]
  rw [Fin.sum_univ_def, List.flatMap_def, List.sum_flatten, List.map_map]
  rfl

theorem sum_calculateStDevSum (realVectors : Fin size → List (RealVector α))
    (mean : RealVector α) :
    ∑ rank, calculateStDevSum (realVectors rank) mean =
      (((List.finRange size).flatMap realVectors).map fun vector =>
        (vector - mean).pow 2).sum := by
  have mapped : ∀ vectors : List (RealVector α),
      calculateStDevSum vectors mean =
        calculateVectorsSum (vectors.map fun vector => (vector - mean).pow 2) :=
    fun vectors => List.foldl_map.symm
  simp only [mapped]
  rw [sum_calculateVectorsSum, List.map_flatMap]

end Statistics

/-- `Universe::getMyVelocities`.  To reserve space for a negative number of
vectors is an error. -/
def Universe.getMyVelocities (self : Universe α) : Option (List (RealVector α)) :=
  if self.activeBodiesCount < 0 then none
  else some (self.bodies.map Body.velocity)

/-- What every process gets; none, where one fails and the others wait for
it. -/
def everyProcess {β : Type} (values : Fin size → Option β) :
    Option (Fin size → β) :=
  if every : ∀ rank, (values rank).isSome then
    some fun rank => (values rank).get (every rank)
  else none

theorem everyProcess_eq_some {β : Type} {values : Fin size → Option β}
    {results : Fin size → β} :
    everyProcess values = some results ↔
      ∀ rank, values rank = some (results rank) := by
  unfold everyProcess
  constructor
  · intro got rank
    split at got
    · cases got
      exact (Option.some_get _).symm
    · cases got
  · intro got
    have every : ∀ rank, (values rank).isSome := fun rank => by simp [got rank]
    rw [dif_pos every]
    congr 1
    funext rank
    simp [got rank]

/-- What is reported. -/
structure Report (α : Type) where
  distanceMean : RealVector α
  distanceStdev : RealVector α
  velocityMean : RealVector α
  velocityStdev : RealVector α

/-- `Simulation::reportResults` of all processes. -/
def Simulation.reportResults (universes : Fin size → Universe α)
    (totalActiveBodiesCount : Int) : Option (Report α) := do
  let distances ← everyProcess (Universe.getMyDistances universes)
  let velocities ← everyProcess fun rank => (universes rank).getMyVelocities
  let distanceMean ← Statistics.realVectorMeanDistributed distances
    totalActiveBodiesCount
  let distanceStdev := Statistics.realVectorStDevDistributed distances
    distanceMean totalActiveBodiesCount
  let velocityMean ← Statistics.realVectorMeanDistributed velocities
    totalActiveBodiesCount
  let velocityStdev := Statistics.realVectorStDevDistributed velocities
    velocityMean totalActiveBodiesCount
  return { distanceMean, distanceStdev, velocityMean, velocityStdev }

namespace Simulation

variable {bodies : List (Body α)} {universes : Fin size → Universe α}
  {totalActiveBodiesCount : Int} {report : Report α}

/-- The sum of the differences of the positions of all pairs of active
bodies. -/
def sumOfDifferences (bodies : List (Body α)) : RealVector α :=
  ∑ places ∈ Universe.activePairs bodies,
    ((bodies.get places.1).position - (bodies.get places.2).position)

/-- The sum of the velocities of all bodies, active or not. -/
def sumOfVelocities (bodies : List (Body α)) : RealVector α :=
  (bodies.map Body.velocity).sum

/-- The sum of the squared deviations of the velocities of some bodies. -/
def sumOfSquares (bodies : List (Body α)) (mean : RealVector α) : RealVector α :=
  (bodies.map fun body => (body.velocity - mean).pow 2).sum

/-- What is reported at a number of processes. -/
def reportOf (bodies : List (Body α)) (universes : Fin size → Universe α)
    (total : Int) : Report α :=
  let distanceMean := sumOfDifferences bodies * (1 / (total : α))
  let velocityMean := sumOfVelocities bodies * (1 / (total : α))
  { distanceMean
    distanceStdev := Statistics.realVectorStDevDistributed
      (fun rank => (Universe.myPairs universes rank).map Universe.difference)
      distanceMean total
    velocityMean
    velocityStdev :=
      if total ≤ 1 then 0
      else (sumOfSquares bodies velocityMean *
        (1 / ((total - 1 : Int) : α))).pow (1 / 2) }

theorem reportResults_eq_some
    (distributed : Universe.Distributed bodies universes)
    (counted : ∀ rank, 0 ≤ (universes rank).activeBodiesCount)
    (nonzero : totalActiveBodiesCount ≠ 0) :
    reportResults universes totalActiveBodiesCount =
      some (reportOf bodies universes totalActiveBodiesCount) := by
  have distances := everyProcess_eq_some.mpr fun rank =>
    Universe.getMyDistances_eq (distributed.bodies_ne_nil rank)
  have velocities := everyProcess_eq_some.mpr fun rank =>
    show (universes rank).getMyVelocities =
        some ((universes rank).bodies.map Body.velocity) from
      if_neg (not_lt.mpr (counted rank))
  have differences : ((List.finRange size).flatMap fun rank =>
      (Universe.myPairs universes rank).map Universe.difference).sum =
      sumOfDifferences bodies := by
    rw [← Multiset.sum_coe, distributed.differences_perm]
    rfl
  have all : ((List.finRange size).flatMap fun rank =>
      (universes rank).bodies.map Body.velocity) =
      bodies.map Body.velocity := by
    rw [← List.map_flatMap, distributed.flatMap_bodies]
  unfold reportResults
  rw [distances, velocities]
  simp only [Option.bind_eq_bind, Option.bind_some, Option.pure_def,
    Statistics.realVectorMeanDistributed, Statistics.realVectorStDevDistributed,
    if_neg nonzero, Statistics.sum_calculateVectorsSum,
    Statistics.sum_calculateStDevSum, differences, all, List.map_map, reportOf]
  rfl

theorem counted_of_reportResults
    (reported : reportResults universes totalActiveBodiesCount = some report) :
    (∀ rank, 0 ≤ (universes rank).activeBodiesCount) ∧
      totalActiveBodiesCount ≠ 0 := by
  unfold reportResults at reported
  simp only [Option.bind_eq_bind, Option.bind_eq_some_iff] at reported
  obtain ⟨distances, _, velocities, every, mean, averaged, _⟩ := reported
  constructor
  · intro rank
    have reserved := everyProcess_eq_some.mp every rank
    by_contra negative
    rw [Universe.getMyVelocities, if_pos (not_le.mp negative)] at reserved
    cases reserved
  · intro zero
    rw [Statistics.realVectorMeanDistributed, if_pos zero] at averaged
    cases averaged

/-- A property of the report, in terms of the bodies. -/
theorem reportResults_iff {Holds : Report α → Prop}
    (distributed : Universe.Distributed bodies universes) :
    (∃ report, reportResults universes totalActiveBodiesCount = some report ∧
      Holds report) ↔
    (∀ rank, 0 ≤ (universes rank).activeBodiesCount) ∧
      totalActiveBodiesCount ≠ 0 ∧
      Holds (reportOf bodies universes totalActiveBodiesCount) := by
  constructor
  · intro ⟨report, reported, holds⟩
    obtain ⟨counted, nonzero⟩ := counted_of_reportResults reported
    rw [reportResults_eq_some distributed counted nonzero] at reported
    cases reported
    exact ⟨counted, nonzero, holds⟩
  · intro ⟨counted, nonzero, holds⟩
    exact ⟨_, reportResults_eq_some distributed counted nonzero, holds⟩

/-! ## Distances -/

/-- The mean that the serial program reports. -/
def meanDifference (bodies : List (Body α)) : RealVector α :=
  sumOfDifferences bodies * (1 / ((Universe.activePairs bodies).card : α))

theorem card_activePairs (bodies : List (Body α)) :
    (Universe.activePairs bodies).card =
      (bodies.countP Body.isActive).choose 2 := by
  have same := congrArg Multiset.card (Universe.coe_pairs_active bodies)
  rw [Multiset.coe_card, List.length_map, length_pairs, Multiset.card_map,
    Finset.card_val] at same
  rw [← same, List.countP_eq_length_filter]

theorem mul_one_div_eq_iff {vector : RealVector α} {a b : α} (left : a ≠ 0)
    (right : b ≠ 0) :
    vector * (1 / a) = vector * (1 / b) ↔ vector = 0 ∨ a = b := by
  have component : ∀ value : α,
      value * (1 / a) = value * (1 / b) ↔ value = 0 ∨ a = b := by
    intro value
    rw [mul_one_div, mul_one_div, div_eq_div_iff left right,
      mul_eq_mul_left_iff, or_comm, eq_comm (a := b)]
  rw [RealVector.ext_iff, RealVector.ext_iff]
  simp only [RealVector.mul_x, RealVector.mul_y, RealVector.mul_z, component,
    RealVector.zero_x, RealVector.zero_y, RealVector.zero_z]
  tauto

theorem sumOfDifferences_eq (bodies : List (Body α)) :
    sumOfDifferences bodies =
      ((pairs (bodies.filter Body.isActive)).map Universe.difference).sum := by
  rw [← Multiset.sum_coe, Universe.coe_pairs_active]
  rfl

/-- The reported mean of the distances is that of all pairs of active bodies
only when the total that was passed happens to be the number of pairs, or when
the differences cancel. -/
theorem distanceMean_eq_iff
    (distributed : Universe.Distributed bodies universes)
    (two : 2 ≤ bodies.countP Body.isActive) :
    (∃ report, reportResults universes totalActiveBodiesCount = some report ∧
      report.distanceMean = meanDifference bodies) ↔
    (∀ rank, 0 ≤ (universes rank).activeBodiesCount) ∧
      totalActiveBodiesCount ≠ 0 ∧
      (sumOfDifferences bodies = 0 ∨
        totalActiveBodiesCount =
          ((bodies.countP Body.isActive).choose 2 : Nat)) := by
  refine (reportResults_iff distributed).trans ?_
  apply and_congr_right
  intro _
  apply and_congr_right
  intro nonzero
  have pairs : 0 < (bodies.countP Body.isActive).choose 2 := Nat.choose_pos two
  rw [reportOf, meanDifference, mul_one_div_eq_iff (by exact_mod_cast nonzero)
    (by rw [card_activePairs]; exact_mod_cast pairs.ne'), card_activePairs]
  norm_cast

theorem sample_active :
    Universe.sampleBodies.filter Body.isActive =
      [⟨1, 1, ⟨0, 0, 0⟩, ⟨0, 0, 0⟩, 0⟩, ⟨1, 1, ⟨1, 0, 0⟩, ⟨0, 1, 0⟩, 0⟩] := by
  simp [Universe.sampleBodies, Body.isActive]

theorem sample_countP : Universe.sampleBodies.countP Body.isActive = 2 := by
  rw [List.countP_eq_length_filter, sample_active]
  rfl

/-- Three active bodies on two processes. -/
noncomputable def activeTriple : List (Body ℝ) :=
  [⟨1, 1, ⟨0, 0, 0⟩, ⟨0, 0, 0⟩, ⟨0, 0, 0⟩⟩, ⟨1, 1, ⟨1, 0, 0⟩, ⟨0, 0, 0⟩, ⟨0, 0, 0⟩⟩,
    ⟨1, 1, ⟨0, 1, 0⟩, ⟨0, 0, 0⟩, ⟨0, 0, 0⟩⟩]

noncomputable def tripleUniverses (rank : Fin 2) : Universe ℝ :=
  ⟨(assigned activeTriple 2 rank).length, assigned activeTriple 2 rank⟩

theorem triple_countP : activeTriple.countP Body.isActive = 3 := by
  simp [activeTriple, Body.isActive]

/-- Three bodies are as many as their pairs. -/
theorem distanceMean_eq_iff_sample :
    ∃ report, reportResults tripleUniverses 3 = some report ∧
      report.distanceMean = meanDifference activeTriple := by
  have distributed : Universe.Distributed activeTriple tripleUniverses :=
    ⟨by decide, by decide, fun _ => rfl⟩
  apply (distanceMean_eq_iff distributed (triple_countP.ge.trans' (by decide))).mpr
  refine ⟨fun rank => Int.natCast_nonneg _, by decide, .inr ?_⟩
  rw [triple_countP]
  rfl

/-- With two active bodies the sum of the differences is halved. -/
theorem distanceMean_halved :
    Universe.Distributed Universe.sampleBodies Universe.sampleUniverses ∧
      Universe.sampleBodies.countP Body.isActive = 2 ∧
      ¬ ∃ report, reportResults Universe.sampleUniverses 2 = some report ∧
        report.distanceMean = meanDifference Universe.sampleBodies := by
  refine ⟨Universe.sample_distributed, sample_countP, ?_⟩
  intro found
  obtain ⟨_, _, mean⟩ := (reportResults_iff Universe.sample_distributed).mp found
  rw [reportOf, meanDifference, card_activePairs, sample_countP] at mean
  rcases (mul_one_div_eq_iff (by norm_num) (by norm_num)).mp mean with
    cancelled | counted
  · rw [sumOfDifferences_eq, sample_active] at cancelled
    have x := congrArg RealVector.x cancelled
    simp [pairs, Universe.difference] at x
  · norm_num at counted

/-! ## Velocities -/

/-- The bodies that are not active any more. -/
def stale (bodies : List (Body α)) : List (Body α) :=
  bodies.filter fun body => !body.isActive

/-- The mean velocity of the active bodies. -/
def activeMean (bodies : List (Body α)) : RealVector α :=
  sumOfVelocities (bodies.filter Body.isActive) *
    (1 / (bodies.countP Body.isActive : α))

/-- The report has the mean of the velocities of the active bodies and, with at
least two of them, the square root of their variance. -/
structure VelocitiesRight (bodies : List (Body α)) (report : Report α) :
    Prop where
  mean : report.velocityMean = activeMean bodies
  variance : 2 ≤ bodies.countP Body.isActive →
    report.velocityStdev.pow 2 =
      sumOfSquares (bodies.filter Body.isActive) (activeMean bodies) *
        (1 / ((bodies.countP Body.isActive : α) - 1))

/-- The velocities of the inactive bodies make up for the difference between
the total that was passed and the number of active bodies. -/
structure StaleAgree (bodies : List (Body α)) (total : Int) : Prop where
  mean : sumOfVelocities (stale bodies) * (bodies.countP Body.isActive : α) =
    sumOfVelocities (bodies.filter Body.isActive) *
      ((total : α) - (bodies.countP Body.isActive : α))
  variance : 2 ≤ bodies.countP Body.isActive →
    if total ≤ 1 then
      sumOfSquares (bodies.filter Body.isActive) (activeMean bodies) = 0
    else
      sumOfSquares (stale bodies) (activeMean bodies) *
          ((bodies.countP Body.isActive : α) - 1) =
        sumOfSquares (bodies.filter Body.isActive) (activeMean bodies) *
          ((total : α) - (bodies.countP Body.isActive : α))

theorem sumOfVelocities_eq (bodies : List (Body α)) :
    sumOfVelocities bodies =
      sumOfVelocities (bodies.filter Body.isActive) +
        sumOfVelocities (stale bodies) := by
  rw [sumOfVelocities, sumOfVelocities, sumOfVelocities, ← List.sum_append,
    ← List.map_append]
  exact ((List.filter_append_perm _ bodies).map _).symm.sum_eq

theorem sumOfSquares_eq (bodies : List (Body α)) (mean : RealVector α) :
    sumOfSquares bodies mean =
      sumOfSquares (bodies.filter Body.isActive) mean +
        sumOfSquares (stale bodies) mean := by
  rw [sumOfSquares, sumOfSquares, sumOfSquares, ← List.sum_append,
    ← List.map_append]
  exact ((List.filter_append_perm _ bodies).map _).symm.sum_eq

/-- A sum over all bodies, divided by one number, against the sum over the
active ones, divided by another number. -/
theorem add_mul_one_div_eq_iff {active stale : RealVector α} {a b : α}
    (left : a ≠ 0) (right : b ≠ 0) :
    (active + stale) * (1 / a) = active * (1 / b) ↔
      stale * b = active * (a - b) := by
  have component : ∀ x y : α,
      (x + y) * (1 / a) = x * (1 / b) ↔ y * b = x * (a - b) := by
    intro x y
    rw [mul_one_div, mul_one_div, div_eq_div_iff left right]
    constructor
    · intro same
      linear_combination same
    · intro same
      linear_combination same
  rw [RealVector.ext_iff, RealVector.ext_iff]
  simp only [RealVector.mul_x, RealVector.mul_y, RealVector.mul_z,
    RealVector.add_x, RealVector.add_y, RealVector.add_z, component]

theorem mul_one_div_eq_zero_iff {vector : RealVector α} {a : α} (nonzero : a ≠ 0) :
    vector * (1 / a) = 0 ↔ vector = 0 := by
  rw [RealVector.ext_iff, RealVector.ext_iff]
  simp [nonzero]

theorem velocityMean_eq_iff {total : Int} (nonzero : total ≠ 0)
    (one : 1 ≤ bodies.countP Body.isActive) :
    (reportOf bodies universes total).velocityMean = activeMean bodies ↔
      sumOfVelocities (stale bodies) * (bodies.countP Body.isActive : α) =
        sumOfVelocities (bodies.filter Body.isActive) *
          ((total : α) - (bodies.countP Body.isActive : α)) := by
  have some : (bodies.countP Body.isActive : α) ≠ 0 := by
    exact_mod_cast Nat.one_le_iff_ne_zero.mp one
  rw [reportOf, sumOfVelocities_eq, activeMean]
  exact add_mul_one_div_eq_iff (by exact_mod_cast nonzero) some

/-- The variance around the mean of the active bodies. -/
theorem variance_eq_iff {mean : RealVector α} {total : Int}
    (two : 2 ≤ bodies.countP Body.isActive) :
    (if total ≤ 1 then 0
      else sumOfSquares bodies mean * (1 / ((total : α) - 1))) =
      sumOfSquares (bodies.filter Body.isActive) mean *
        (1 / ((bodies.countP Body.isActive : α) - 1)) ↔
    if total ≤ 1 then sumOfSquares (bodies.filter Body.isActive) mean = 0
    else
      sumOfSquares (stale bodies) mean *
          ((bodies.countP Body.isActive : α) - 1) =
        sumOfSquares (bodies.filter Body.isActive) mean *
          ((total : α) - (bodies.countP Body.isActive : α)) := by
  have freedom : (bodies.countP Body.isActive : α) - 1 ≠ 0 := by
    have above : (1 : α) < (bodies.countP Body.isActive : α) := by
      exact_mod_cast two
    exact (sub_pos.mpr above).ne'
  split
  · exact eq_comm.trans (mul_one_div_eq_zero_iff freedom)
  · rename_i many
    have above : (1 : α) < (total : α) := by
      exact_mod_cast not_le.mp many
    rw [sumOfSquares_eq, add_mul_one_div_eq_iff (sub_pos.mpr above).ne' freedom,
      sub_sub_sub_cancel_right]

section Roots

/-- No component is negative. -/
def Nonneg (vector : RealVector ℝ) : Prop :=
  0 ≤ vector.x ∧ 0 ≤ vector.y ∧ 0 ≤ vector.z

theorem sumOfSquares_nonneg (bodies : List (Body ℝ)) (mean : RealVector ℝ) :
    Nonneg (sumOfSquares bodies mean) := by
  induction bodies with
  | nil => exact ⟨le_refl _, le_refl _, le_refl _⟩
  | cons body bodies ih =>
      obtain ⟨x, y, z⟩ := ih
      have square : ∀ value : ℝ, 0 ≤ RealArithmetic.pow value 2 := by
        intro value
        change 0 ≤ value ^ (2 : ℝ)
        rw [Real.rpow_two]
        positivity
      exact ⟨add_nonneg (square _) x, add_nonneg (square _) y,
        add_nonneg (square _) z⟩

theorem Nonneg.mul {vector : RealVector ℝ} (nonneg : Nonneg vector) {scalar : ℝ}
    (positive : 0 ≤ scalar) : Nonneg (vector * scalar) :=
  ⟨mul_nonneg nonneg.1 positive, mul_nonneg nonneg.2.1 positive,
    mul_nonneg nonneg.2.2 positive⟩

theorem pow_half_pow_two {vector : RealVector ℝ} (nonneg : Nonneg vector) :
    (vector.pow (1 / 2)).pow 2 = vector := by
  have component : ∀ value : ℝ, 0 ≤ value →
      RealArithmetic.pow (RealArithmetic.pow value (1 / 2)) 2 = value := by
    intro value positive
    change (value ^ (1 / 2 : ℝ)) ^ (2 : ℝ) = value
    rw [← Real.rpow_mul positive]
    norm_num
  exact RealVector.ext (component _ nonneg.1) (component _ nonneg.2.1)
    (component _ nonneg.2.2)

theorem zero_pow_two : (0 : RealVector ℝ).pow 2 = 0 := by
  have component : RealArithmetic.pow (0 : ℝ) 2 = 0 := by
    change (0 : ℝ) ^ (2 : ℝ) = 0
    norm_num
  exact RealVector.ext component component component

/-- The square of the reported deviation. -/
theorem velocityStdev_pow_two (bodies : List (Body ℝ))
    (universes : Fin size → Universe ℝ) (total : Int) :
    (reportOf bodies universes total).velocityStdev.pow 2 =
      if total ≤ 1 then 0
      else sumOfSquares bodies (reportOf bodies universes total).velocityMean *
        (1 / ((total : ℝ) - 1)) := by
  unfold reportOf
  dsimp only
  split
  · exact zero_pow_two
  · rename_i many
    have positive : (0 : ℝ) ≤ 1 / ((total - 1 : Int) : ℝ) := by
      have above : (0 : ℝ) ≤ ((total - 1 : Int) : ℝ) := by
        exact_mod_cast (by omega : 0 ≤ total - 1)
      exact one_div_nonneg.mpr above
    rw [pow_half_pow_two ((sumOfSquares_nonneg _ _).mul positive)]
    push_cast
    rfl

end Roots

/-- The reported mean and variance of the velocities are those of the active
bodies only when the velocities of the bodies that were absorbed agree with
them. -/
theorem velocities_right_iff {bodies : List (Body ℝ)}
    {universes : Fin size → Universe ℝ} {totalActiveBodiesCount : Int}
    (distributed : Universe.Distributed bodies universes)
    (one : 1 ≤ bodies.countP Body.isActive) :
    (∃ report, reportResults universes totalActiveBodiesCount = some report ∧
      VelocitiesRight bodies report) ↔
    (∀ rank, 0 ≤ (universes rank).activeBodiesCount) ∧
      totalActiveBodiesCount ≠ 0 ∧ StaleAgree bodies totalActiveBodiesCount := by
  refine (reportResults_iff distributed).trans ?_
  apply and_congr_right
  intro _
  apply and_congr_right
  intro nonzero
  have mean := @velocityMean_eq_iff ℝ _ _ bodies universes _ nonzero one
  constructor
  · intro right
    refine ⟨mean.mp right.mean, fun two => ?_⟩
    have variance := right.variance two
    rw [velocityStdev_pow_two, right.mean] at variance
    exact (variance_eq_iff two).mp variance
  · intro agree
    refine ⟨mean.mpr agree.mean, fun two => ?_⟩
    rw [velocityStdev_pow_two, mean.mpr agree.mean]
    exact (variance_eq_iff two).mpr (agree.variance two)

/-- Two bodies that move apart, and one at rest that was absorbed. -/
noncomputable def balancedBodies : List (Body ℝ) :=
  [⟨1, 1, ⟨0, 0, 0⟩, ⟨-1, 0, 0⟩, ⟨0, 0, 0⟩⟩, ⟨-1, 1, ⟨0, 0, 0⟩, ⟨0, 0, 0⟩, ⟨0, 0, 0⟩⟩,
    ⟨1, 1, ⟨1, 0, 0⟩, ⟨1, 0, 0⟩, ⟨0, 0, 0⟩⟩]

noncomputable def balancedUniverses (rank : Fin 2) : Universe ℝ :=
  ⟨(assigned balancedBodies 2 rank).countP Body.isActive, assigned balancedBodies 2 rank⟩

theorem staleAgree_balanced : StaleAgree balancedBodies 2 := by
  have active : balancedBodies.filter Body.isActive =
      [⟨1, 1, ⟨0, 0, 0⟩, ⟨-1, 0, 0⟩, ⟨0, 0, 0⟩⟩,
        ⟨1, 1, ⟨1, 0, 0⟩, ⟨1, 0, 0⟩, ⟨0, 0, 0⟩⟩] := by
    simp [balancedBodies, Body.isActive]
  have absorbed : stale balancedBodies =
      [⟨-1, 1, ⟨0, 0, 0⟩, ⟨0, 0, 0⟩, ⟨0, 0, 0⟩⟩] := by
    simp [stale, balancedBodies, Body.isActive]
  have count : balancedBodies.countP Body.isActive = 2 := by
    simp [balancedBodies, Body.isActive]
  have mean : activeMean balancedBodies = 0 := by
    rw [activeMean, active]
    ext <;> simp [sumOfVelocities]
  constructor
  · rw [count, absorbed, active]
    ext <;> simp [sumOfVelocities]
  · intro _
    have square : RealArithmetic.pow (0 : ℝ) 2 = 0 := congrArg RealVector.x zero_pow_two
    rw [if_neg (by decide), count, absorbed, active, mean]
    ext <;> simp [sumOfSquares, RealVector.pow, square]

theorem velocities_right_iff_sample :
    ∃ report, reportResults balancedUniverses 2 = some report ∧
      VelocitiesRight balancedBodies report := by
  have distributed : Universe.Distributed balancedBodies balancedUniverses :=
    ⟨by decide, by decide, fun _ => rfl⟩
  apply (velocities_right_iff distributed (by simp [balancedBodies, Body.isActive])).mpr
  exact ⟨fun rank => Int.natCast_nonneg _, by decide, staleAgree_balanced⟩

/-- The velocity of the body that was absorbed is added to those of the others. -/
theorem velocities_stale :
    Universe.Distributed Universe.sampleBodies Universe.sampleUniverses ∧
      Universe.sampleBodies.countP Body.isActive = 2 ∧
      ¬ ∃ report, reportResults Universe.sampleUniverses 2 = some report ∧
        VelocitiesRight Universe.sampleBodies report := by
  refine ⟨Universe.sample_distributed, sample_countP, ?_⟩
  intro found
  obtain ⟨_, nonzero, right⟩ :=
    (reportResults_iff Universe.sample_distributed).mp found
  have mean := (velocityMean_eq_iff nonzero
    (sample_countP.ge.trans' (by decide))).mp right.mean
  have x := congrArg RealVector.x mean
  rw [sample_countP] at x
  norm_num [stale, sumOfVelocities, Universe.sampleBodies, Body.isActive] at x

end Simulation

end Concurrente.NBody
