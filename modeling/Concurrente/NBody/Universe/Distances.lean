import Concurrente.NBody.Common.RealNumbers
import Concurrente.NBody.Common.Util
import Concurrente.NBody.Universe.Universe

/-!
# Distances between bodies

Every process collects the differences of the positions of its own active
bodies, and those between the active bodies of each lower rank and its own.
Together these are the differences of all pairs, whatever the number of
processes is.
-/

namespace Concurrente.NBody

open Library

namespace Universe

def bodyDistanceDataSize : Nat := 3

variable {α : Type} [RealArithmetic α]

/-- `Universe::serializePositions`. -/
def serializePositions (self : Universe α) : List α :=
  (self.bodies.filter Body.isActive).flatMap Body.serializePositionData

/-- The body of the inner loop of `aggregateOwnDistances`: what it adds. -/
def ownDistance (bodies : List (Body α)) (startBodyIdx currentBodyIdx : Nat) :
    List (RealVector α) :=
  match bodies[startBodyIdx]?, bodies[currentBodyIdx]? with
  | some startBody, some currentBody =>
      if startBodyIdx = currentBodyIdx then []
      else if currentBody.isActive then
        [startBody.position - currentBody.position]
      else []
  | _, _ => []

/-- `Universe::aggregateOwnDistances`, the values it appends.  Without bodies
the limit of the outer loop wraps around, and the loop reads past the vector. -/
def aggregateOwnDistances (bodies : List (Body α)) :
    Option (List (RealVector α)) :=
  if bodies.isEmpty then none
  else
    some ((List.range (bodies.length - 1)).flatMap fun startBodyIdx =>
      if (bodies[startBodyIdx]?).any Body.isActive then
        (List.range' (startBodyIdx + 1)
          (bodies.length - (startBodyIdx + 1))).flatMap
          (ownDistance bodies startBodyIdx)
      else [])

/-- The position at an offset. -/
def distancePosition (serializedPositions : List α) (offset : Nat) :
    RealVector α :=
  ⟨serializedPositions.getD offset 0, serializedPositions.getD (offset + 1) 0,
    serializedPositions.getD (offset + 2) 0⟩

/-- `Universe::aggregateDistances`, the values it appends. -/
def aggregateDistances (self : Universe α) (serializedPositions : List α) :
    List (RealVector α) :=
  self.bodies.flatMap fun body =>
    if body.isActive then
      (offsets serializedPositions.length bodyDistanceDataSize).map fun offset =>
        distancePosition serializedPositions offset - body.position
    else []

/-- `Universe::getMyDistances` in the process `rank`, when all processes call
it.  In the turn of a rank, that process broadcasts its serialized positions. -/
def getMyDistances {size : Nat} (universes : Fin size → Universe α)
    (rank : Fin size) : Option (List (RealVector α)) :=
  (aggregateOwnDistances (universes rank).bodies).map fun distances =>
    (List.finRange size).foldl (fun distances currentRank =>
      if currentRank = rank then distances
      else
        let receivedPositions := (universes currentRank).serializePositions
        if currentRank < rank then
          distances ++ (universes rank).aggregateDistances receivedPositions
        else distances) distances

/-- The difference of the positions of two bodies. -/
def difference (pair : Body α × Body α) : RealVector α :=
  pair.1.position - pair.2.position

/-! ## Pairs of one process and of two -/

theorem ownDistance_eq {bodies : List (Body α)} {first second : Nat}
    (before : first < second) (inside : second < bodies.length) :
    ownDistance bodies first second =
      if bodies[second].isActive then
        [difference (bodies[first], bodies[second])]
      else [] := by
  have earlier : first < bodies.length := before.trans inside
  simp only [ownDistance, List.getElem?_eq_getElem earlier,
    List.getElem?_eq_getElem inside, if_neg before.ne]
  rfl

/-- The differences of all pairs of active bodies of one process. -/
theorem aggregateOwnDistances_eq {bodies : List (Body α)} (some : bodies ≠ []) :
    aggregateOwnDistances bodies = Option.some
      ((pairs (bodies.filter Body.isActive)).map difference) := by
  have loops : ((List.range (bodies.length - 1)).flatMap fun first =>
      (List.range' (first + 1) (bodies.length - (first + 1))).flatMap fun second =>
        if (bodies[first]?).any Body.isActive then
          ownDistance bodies first second
        else []) =
      (pairs bodies).flatMap fun pair =>
        if pair.1.isActive && pair.2.isActive then [difference pair] else [] := by
    apply flatMap_range_pairs
    intro first second before inside
    have earlier : first < bodies.length := before.trans inside
    rw [ownDistance_eq before inside, List.getElem?_eq_getElem earlier,
      Option.any_some]
    cases bodies[first].isActive <;> simp
  rw [pairs_filter, ← flatMap_ite_singleton, ← loops, aggregateOwnDistances,
    if_neg (by simpa using some)]
  congr 1
  apply List.flatMap_congr
  intro first _
  cases (bodies[first]?).any Body.isActive <;> simp

/-- The differences of the active bodies of another process and one's own. -/
theorem aggregateDistances_serializePositions (self other : Universe α) :
    self.aggregateDistances other.serializePositions =
      (crossPairs (other.bodies.filter Body.isActive)
        (self.bodies.filter Body.isActive)).map difference := by
  have fixed : ∀ body : Body α,
      body.serializePositionData.length = bodyDistanceDataSize :=
    fun _ => rfl
  have received : ∀ body : Body α,
      (offsets other.serializePositions.length bodyDistanceDataSize).map
        (fun offset => distancePosition other.serializePositions offset -
          body.position) =
      (other.bodies.filter Body.isActive).map fun first =>
        first.position - body.position := by
    intro body
    apply map_offsets (by decide) fixed
    intro index inside
    have field := fun (field : Nat) (bound : field < bodyDistanceDataSize) =>
      getD_flatMap fixed 0 inside bound
    have first := field 0 (by decide)
    rw [Nat.add_zero] at first
    simp only [serializePositions, distancePosition, first,
      field 1 (by decide), field 2 (by decide)]
    rfl
  simp only [aggregateDistances, received, flatMap_ite, crossPairs,
    List.map_flatMap, List.map_map]
  rfl

/-- The pairs of active bodies that a process looks at. -/
def myPairs {size : Nat} (universes : Fin size → Universe α) (rank : Fin size) :
    List (Body α × Body α) :=
  pairs ((universes rank).bodies.filter Body.isActive) ++
    ((List.finRange size).filter (· < rank)).flatMap fun lower =>
      crossPairs ((universes lower).bodies.filter Body.isActive)
        ((universes rank).bodies.filter Body.isActive)

theorem getMyDistances_eq {size : Nat} {universes : Fin size → Universe α}
    {rank : Fin size} (some : (universes rank).bodies ≠ []) :
    getMyDistances universes rank =
      Option.some ((myPairs universes rank).map difference) := by
  have loop : ∀ (ranks : List (Fin size)) (distances : List (RealVector α)),
      ranks.foldl (fun distances currentRank =>
        if currentRank = rank then distances
        else if currentRank < rank then
          distances ++ (universes rank).aggregateDistances
            (universes currentRank).serializePositions
        else distances) distances =
      distances ++ (ranks.filter (· < rank)).flatMap fun lower =>
        (crossPairs ((universes lower).bodies.filter Body.isActive)
          ((universes rank).bodies.filter Body.isActive)).map difference := by
    intro ranks
    induction ranks with
    | nil => simp
    | cons currentRank ranks ih =>
        intro distances
        rw [List.foldl_cons, ih]
        by_cases lower : currentRank < rank
        · rw [if_neg lower.ne, if_pos lower,
            List.filter_cons_of_pos (by simpa using lower), List.flatMap_cons,
            aggregateDistances_serializePositions, List.append_assoc]
        · rw [List.filter_cons_of_neg (by simpa using lower), if_neg lower,
            ite_self]
  rw [getMyDistances, aggregateOwnDistances_eq some, Option.map_some]
  congr 1
  rw [myPairs, List.map_append, List.map_flatMap]
  exact loop _ _

/-! ## All pairs -/

/-- The pairs of active bodies, each once, as pairs of indices. -/
def activePairs (bodies : List (Body α)) :
    Finset (Fin bodies.length × Fin bodies.length) :=
  Finset.univ.filter fun places => places.1 < places.2 ∧
    bodies[places.1].isActive ∧ bodies[places.2].isActive

theorem coe_pairs_active (bodies : List (Body α)) :
    ((pairs (bodies.filter Body.isActive)).map difference :
      Multiset (RealVector α)) =
      (activePairs bodies).val.map fun places =>
        bodies[places.1].position - bodies[places.2].position := by
  have kept : ((pairs bodies).filter fun pair =>
      pair.1.isActive && pair.2.isActive : Multiset (Body α × Body α)) =
      (pairs bodies : Multiset (Body α × Body α)).filter fun pair =>
        pair.1.isActive ∧ pair.2.isActive := by
    rw [Multiset.filter_coe]
    simp only [Bool.decide_and, Bool.decide_eq_true]
  have places : activePairs bodies =
      (Finset.univ.filter fun places :
        Fin bodies.length × Fin bodies.length => places.1 < places.2).filter
        fun places => bodies[places.1].isActive ∧ bodies[places.2].isActive := by
    rw [Finset.filter_filter]
    rfl
  rw [pairs_filter, ← Multiset.map_coe, kept, coe_pairs_eq, Multiset.filter_map,
    Multiset.map_map, places, Finset.filter_val]
  rfl

/-- The processes have the blocks of one list of bodies. -/
structure Distributed {size : Nat} (bodies : List (Body α))
    (universes : Fin size → Universe α) : Prop where
  some : 0 < size
  enough : size ≤ bodies.length
  block : ∀ rank : Fin size, (universes rank).bodies = assigned bodies size rank

omit [RealArithmetic α] in
theorem Distributed.bodies_ne_nil {size : Nat} {bodies : List (Body α)}
    {universes : Fin size → Universe α}
    (distributed : Distributed bodies universes) (rank : Fin size) :
    (universes rank).bodies ≠ [] := by
  rw [distributed.block]
  exact assigned_ne_nil distributed.some distributed.enough rank

omit [RealArithmetic α] in
/-- The bodies of all processes, in the order of the ranks. -/
theorem Distributed.flatMap_bodies {size : Nat} {bodies : List (Body α)}
    {universes : Fin size → Universe α}
    (distributed : Distributed bodies universes) :
    (List.finRange size).flatMap (fun rank => (universes rank).bodies) =
      bodies := by
  calc (List.finRange size).flatMap (fun rank => (universes rank).bodies) =
        (List.finRange size).flatMap fun rank : Fin size =>
          assigned bodies size rank :=
      List.flatMap_congr fun rank _ => distributed.block rank
    _ = bodies := flatMap_assigned distributed.some

/-- The processes look at all pairs together. -/
theorem Distributed.differences_perm {size : Nat} {bodies : List (Body α)}
    {universes : Fin size → Universe α}
    (distributed : Distributed bodies universes) :
    ((List.finRange size).flatMap fun rank =>
        (myPairs universes rank).map difference : Multiset (RealVector α)) =
      (activePairs bodies).val.map fun places =>
        bodies[places.1].position - bodies[places.2].position := by
  have ordered : (List.finRange size).Pairwise (· < ·) :=
    (List.sortedLT_finRange size).pairwise
  have collected := (pairs_flatMap_perm ordered fun rank : Fin size =>
    (universes rank).bodies.filter Body.isActive).map difference
  rw [← List.filter_flatMap, distributed.flatMap_bodies] at collected
  rw [← coe_pairs_active, Multiset.coe_eq_coe, ← List.map_flatMap]
  exact collected.symm

/-- Together the processes collect the difference of each pair of active bodies
once and nothing else, however many processes there are. -/
theorem getMyDistances_perm {size : Nat} {bodies : List (Body α)}
    {universes : Fin size → Universe α}
    (distributed : Distributed bodies universes) :
    ∃ distances : Fin size → List (RealVector α),
      (∀ rank, getMyDistances universes rank = some (distances rank)) ∧
      ((List.finRange size).flatMap distances : Multiset (RealVector α)) =
        (activePairs bodies).val.map fun places =>
          bodies[places.1].position - bodies[places.2].position :=
  ⟨_, fun rank => getMyDistances_eq (distributed.bodies_ne_nil rank),
    distributed.differences_perm⟩

/-- Three bodies, of which the second was absorbed. -/
noncomputable def sampleBodies : List (Body ℝ) :=
  [⟨1, 1, ⟨0, 0, 0⟩, ⟨0, 0, 0⟩, 0⟩, ⟨-1, 1, ⟨0, 1, 0⟩, ⟨1, 0, 0⟩, 0⟩,
    ⟨1, 1, ⟨1, 0, 0⟩, ⟨0, 1, 0⟩, 0⟩]

/-- The universes of two processes. -/
noncomputable def sampleUniverses (rank : Fin 2) : Universe ℝ :=
  ⟨1, assigned sampleBodies 2 rank⟩

theorem sample_distributed : Distributed sampleBodies sampleUniverses where
  some := by decide
  enough := by decide
  block _ := rfl

theorem getMyDistances_perm_sample :
    ∃ distances : Fin 2 → List (RealVector ℝ),
      (∀ rank, getMyDistances sampleUniverses rank = some (distances rank)) ∧
      ((List.finRange 2).flatMap distances : Multiset (RealVector ℝ)) =
        (activePairs sampleBodies).val.map fun places =>
          sampleBodies[places.1].position - sampleBodies[places.2].position :=
  getMyDistances_perm sample_distributed

end Universe

end Concurrente.NBody
