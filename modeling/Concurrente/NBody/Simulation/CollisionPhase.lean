import Concurrente.NBody.Common.RealNumbers
import Concurrente.NBody.Simulation.LocalCollisions

/-!
# The collision phase

After the local loops the ranks broadcast their active bodies one after
another.  In a pair on two ranks the process of the higher rank meets the
serialized body first.  When it finds its own body to be the lighter one it
deactivates it, and the other process, which would have to absorb it, never
receives it: the mass is lost.
-/

namespace Concurrente.NBody

namespace Simulation

variable {α : Type} [RealArithmetic α] {size : Nat}
  {universes : Fin size → Universe α}

/-- The pairs of a body that are done after some rounds: the local one, and
those with the ranks that have broadcast. -/
def roundDone (rounds : Nat) (x y : Place universes) : Prop :=
  x.1 = y.1 ∨ y.1.val < rounds

/-- The bodies a rank serializes. -/
theorem mem_active {self : Universe α} {rank : Fin size}
    {done : Place universes → Place universes → Prop}
    (bodies : self.bodies = List.ofFn fun i : Fin (universes rank).bodies.length =>
      settled universes done ⟨rank, i⟩) {other : Body α} :
    other ∈ self.bodies.filter Body.isActive ↔
      ∃ i, other = settled universes done ⟨rank, i⟩ ∧ other.isActive = true := by
  rw [bodies, List.mem_filter, List.mem_ofFn]
  constructor
  · rintro ⟨⟨i, rfl⟩, active⟩
    exact ⟨i, rfl, active⟩
  · rintro ⟨i, rfl, active⟩
    exact ⟨⟨i, rfl⟩, active⟩

/-- A body that meets its partner grown by its own mass is deactivated. -/
theorem collideWith_grown {body other : Body α} (positive : 0 < other.mass)
    (rank otherRank : Nat) :
    (Universe.collideWith rank otherRank body (other.merged body)).2 =
      body.deactivate := by
  have heavier : ¬ (other.merged body).mass ≤ body.mass := by
    rw [Body.mass_merged, not_le]
    exact lt_add_of_pos_left body.mass positive
  unfold Universe.collideWith
  rw [Body.absorb_eq, if_neg heavier]
  split <;> rfl

/-- A body that meets one of a lower rank decides by the masses alone. -/
theorem collideWith_lower {rank otherRank : Nat} (lower : otherRank < rank)
    (body other : Body α) :
    (Universe.collideWith rank otherRank body other).2 =
      if other.mass ≤ body.mass then body.merged other else body.deactivate := by
  have notLower : ¬ rank < otherRank := by omega
  unfold Universe.collideWith
  rw [Body.absorb_eq]
  simp only [notLower, decide_false, Bool.and_false, Bool.false_eq_true,
    if_false]
  split <;> rfl

section Round

variable (separated : Separated universes) {rank : Fin size} {x : Place universes}
  (remote : x.1 ≠ rank) {self : Universe α}
  (bodies : self.bodies = List.ofFn fun i : Fin (universes rank).bodies.length =>
    settled universes (roundDone rank.val) ⟨rank, i⟩)

include separated remote bodies

/-- A round of a rank where the body has no partner. -/
theorem checkSerialized_of_no_partner
    (alone : ∀ i, ¬ Overlap universes x ⟨rank, i⟩) :
    (Universe.checkSerialized self.serializeCollisionData x.1 rank
      (settled universes (roundDone rank.val) x)).2 =
      settled universes (roundDone rank.val) x := by
  rw [Universe.checkSerialized_serializeCollisionData]
  split
  · cases found : (self.bodies.filter Body.isActive).find? fun other =>
        (settled universes (roundDone rank.val) x).checkCollision other.radius
          other.position with
    | none => rfl
    | some other =>
        obtain ⟨i, rfl, _⟩ := (mem_active bodies).mp (List.mem_of_find?_eq_some found)
        have collides := List.find?_some found
        exact (alone i (separated.overlap_of_checkCollision
          (fun same => remote (congrArg Sigma.fst same))
          (variant_settled _ _) (variant_settled _ _) collides)).elim
  · rfl

/-- A round of the rank of the partner: the body meets it if it is still
active. -/
theorem checkSerialized_of_partner {i : Fin (universes rank).bodies.length}
    (overlap : Overlap universes x ⟨rank, i⟩) :
    (Universe.checkSerialized self.serializeCollisionData x.1 rank
      (bodyAt universes x)).2 =
      if (settled universes (roundDone rank.val) ⟨rank, i⟩).isActive ∧
          (bodyAt universes x).checkCollision
            (settled universes (roundDone rank.val) ⟨rank, i⟩).radius
            (settled universes (roundDone rank.val) ⟨rank, i⟩).position then
        (Universe.collideWith x.1 rank (bodyAt universes x)
          (settled universes (roundDone rank.val) ⟨rank, i⟩)).2
      else bodyAt universes x := by
  have active := (Body.isActive_iff _).mpr (separated.positive x)
  rw [Universe.checkSerialized_serializeCollisionData, if_pos active]
  cases found : (self.bodies.filter Body.isActive).find? fun other =>
      (bodyAt universes x).checkCollision other.radius other.position with
  | none =>
      rw [if_neg]
      · rfl
      · rintro ⟨otherActive, collides⟩
        have missed := List.find?_eq_none.mp found _
          ((mem_active bodies).mpr ⟨i, rfl, otherActive⟩)
        exact missed collides
  | some other =>
      obtain ⟨j, rfl, otherActive⟩ :=
        (mem_active bodies).mp (List.mem_of_find?_eq_some found)
      have collides := List.find?_some found
      have pair := separated.overlap_of_checkCollision
        (fun same => remote (congrArg Sigma.fst same))
        (variant_bodyAt x) (variant_settled _ _) collides
      cases separated.partner_unique pair overlap
      rw [if_pos ⟨otherActive, collides⟩]
      rfl

/-- One round, for a body of another rank. -/
theorem checkSerialized_round :
    (Universe.checkSerialized self.serializeCollisionData x.1 rank
      (settled universes (roundDone rank.val) x)).2 =
      settled universes (roundDone (rank.val + 1)) x := by
  by_cases pair : ∃ i, Overlap universes x ⟨rank, i⟩
  · obtain ⟨i, overlap⟩ := pair
    have untouched : settled universes (roundDone rank.val) x =
        bodyAt universes x := by
      apply settled_of_not_done
      intro y again
      obtain rfl := separated.partner_unique overlap again
      simp [roundDone, remote]
    have finished : settled universes (roundDone (rank.val + 1)) x =
        outcome universes x ⟨rank, i⟩ :=
      settled_of_done separated overlap (.inr (Nat.lt_succ_self _))
    rw [untouched, finished,
      checkSerialized_of_partner separated remote bodies overlap]
    have order : x.1.val ≠ rank.val := fun same => remote (Fin.ext same)
    rcases Nat.lt_or_gt_of_ne order with lower | higher
    · have below : x.1 < rank := lower
      have notBelow : ¬ rank < x.1 := by omega
      rw [settled_of_done separated overlap.symm (.inr lower)]
      simp only [outcome, remote, Ne.symm remote, if_false, below, notBelow, if_true]
      split
      next heavier =>
        have active : ((bodyAt universes ⟨rank, i⟩).merged
            (bodyAt universes x)).isActive = true :=
          (Body.isActive_iff _).mpr
            (add_pos (separated.positive _) (separated.positive _))
        rw [if_pos ⟨active, separated.kept x _ overlap⟩,
          collideWith_grown (separated.positive _)]
      next lighter =>
        rw [if_neg]
        rintro ⟨active, _⟩
        rw [Body.isActive_iff, Body.mass_deactivate, Left.neg_pos_iff] at active
        exact active.not_gt (separated.positive _)
    · have notBelow : ¬ x.1 < rank := by
        have above : rank.val < x.1.val := higher
        omega
      have waiting : settled universes (roundDone rank.val) ⟨rank, i⟩ =
          bodyAt universes ⟨rank, i⟩ := by
        apply settled_of_not_done
        intro y again
        obtain rfl := separated.partner_unique overlap.symm again
        have above : rank.val < x.1.val := higher
        simp only [roundDone, not_or]
        exact ⟨Ne.symm remote, by omega⟩
      rw [waiting, if_pos ⟨(Body.isActive_iff _).mpr (separated.positive _), overlap.2⟩,
        collideWith_lower higher]
      simp only [outcome, remote, if_false, notBelow]
  · have alone : ∀ i, ¬ Overlap universes x ⟨rank, i⟩ :=
      fun i overlap => pair ⟨i, overlap⟩
    rw [checkSerialized_of_no_partner separated remote bodies alone]
    apply settled_congr separated
    rintro ⟨rank', j⟩ overlap
    have other : rank' ≠ rank := by
      rintro rfl
      exact alone j overlap
    have different : rank'.val ≠ rank.val := fun same => other (Fin.ext same)
    simp only [roundDone]
    exact or_congr_right (by omega)

end Round

/-- The bodies of all ranks when some pairs are done. -/
def SettledAt (universes : Fin size → Universe α)
    (done : Place universes → Place universes → Prop)
    (after : Fin size → Universe α) : Prop :=
  ∀ rank, (after rank).bodies =
    List.ofFn fun i : Fin (universes rank).bodies.length =>
      settled universes done ⟨rank, i⟩

theorem SettledAt.congr (separated : Separated universes)
    {first second : Place universes → Place universes → Prop}
    {after : Fin size → Universe α} (settledAt : SettledAt universes first after)
    (same : ∀ x y, Overlap universes x y → (first x y ↔ second x y)) :
    SettledAt universes second after := by
  intro rank
  rw [settledAt rank]
  congr 1
  funext i
  exact settled_congr separated fun y => same ⟨rank, i⟩ y

/-- One round of the broadcast cycle. -/
theorem settledAt_round (separated : Separated universes)
    {state : Fin size → Universe α} {rank : Fin size}
    (before : SettledAt universes (roundDone rank.val) state) :
    SettledAt universes (roundDone (rank.val + 1))
      (broadcastRound Universe.serializeCollisionData
        (fun self serialized process rank =>
          self.checkReceivedCollisions serialized process rank) state rank) := by
  intro process
  unfold broadcastRound
  by_cases same : process = rank
  · rw [if_pos same, before process]
    congr 1
    funext i
    apply settled_congr separated
    rintro y overlap
    simp only [roundDone]
    constructor
    · exact Or.imp_right (by omega)
    · rintro (own | earlier)
      · exact .inl own
      · rcases Nat.lt_succ_iff_lt_or_eq.mp earlier with less | equal
        · exact .inr less
        · exact .inl (same.trans (Fin.ext equal.symm))
  · rw [if_neg same]
    simp only [Universe.checkReceivedCollisions, before process, List.map_ofFn]
    congr 1
    funext i
    exact @checkSerialized_round _ _ _ _ separated rank ⟨process, i⟩ same _
      (before rank)

/-- After the whole phase every pair is done. -/
theorem settledAt_stateCollisions (separated : Separated universes) :
    SettledAt universes (fun _ _ => True) (stateCollisions universes) := by
  have start : SettledAt universes (roundDone 0) fun process =>
      (universes process).checkCollisions :=
    SettledAt.congr separated (bodies_checkCollisions separated)
      fun x y _ => by simp [roundDone]
  have rounds : ∀ count, count ≤ size →
      SettledAt universes (roundDone count)
        (((List.finRange size).take count).foldl
          (broadcastRound Universe.serializeCollisionData
            fun self serialized process rank =>
              self.checkReceivedCollisions serialized process rank)
          fun process => (universes process).checkCollisions) := by
    intro count bound
    induction count with
    | zero => exact start
    | succ count ih =>
        have inside : count < (List.finRange size).length := by simpa using bound
        rw [List.take_succ_eq_append_getElem inside, List.foldl_append,
          List.getElem_finRange]
        exact @settledAt_round _ _ _ _ separated _ ⟨count, bound⟩
          (ih (by omega))
  have all := rounds size le_rfl
  rw [List.take_of_length_le (by simp)] at all
  exact all.congr separated fun x y _ => by simp [roundDone]

/-- What the phase leaves at a place. -/
theorem getElem?_stateCollisions (separated : Separated universes)
    (x : Place universes) :
    (stateCollisions universes x.1).bodies[x.2.val]? =
      some (settled universes (fun _ _ => True) x) := by
  rw [settledAt_stateCollisions separated x.1]
  simp

/-! ## Mass -/

/-- A pair on two ranks whose lower rank has the heavier body. -/
def LowerHeavier (universes : Fin size → Universe α) (x y : Place universes) :
    Prop :=
  x.1 < y.1 ∧ (bodyAt universes y).mass < (bodyAt universes x).mass

/-- One body of the pair is active and has the mass of both. -/
def Absorbed (first second : Body α) (mass : α) : Prop :=
  (first.isActive = true ∧ second.isActive = false ∧ first.mass = mass) ∨
    (second.isActive = true ∧ first.isActive = false ∧ second.mass = mass)

theorem Absorbed.symm {first second : Body α} {mass : α}
    (absorbed : Absorbed first second mass) : Absorbed second first mass :=
  absorbed.elim .inr .inl

theorem absorbed_merged {first second : Body α} (positive : 0 < first.mass)
    (positive' : 0 < second.mass) :
    Absorbed (first.merged second) second.deactivate
      (first.mass + second.mass) := by
  refine .inl ⟨(Body.isActive_iff _).mpr (add_pos positive positive'), ?_, rfl⟩
  rw [← Bool.not_eq_true, Body.isActive_iff, Body.mass_deactivate,
    Left.neg_pos_iff]
  exact positive'.not_gt

theorem absorbed_resolvePair {first second : Body α} (positive : 0 < first.mass)
    (positive' : 0 < second.mass) :
    Absorbed (resolvePair first second).1 (resolvePair first second).2
      (first.mass + second.mass) := by
  unfold resolvePair
  split
  · exact absorbed_merged positive positive'
  · rw [add_comm]
    exact (absorbed_merged positive' positive).symm

/-- On two ranks the lower one keeps its body unless the other absorbs it. -/
theorem outcome_of_lower {x y : Place universes} (lower : x.1 < y.1) :
    outcome universes x y =
        (if (bodyAt universes x).mass ≤ (bodyAt universes y).mass then
          (bodyAt universes x).deactivate
        else bodyAt universes x) ∧
      outcome universes y x =
        if (bodyAt universes x).mass ≤ (bodyAt universes y).mass then
          (bodyAt universes y).merged (bodyAt universes x)
        else (bodyAt universes y).deactivate := by
  simp [outcome, lower, lower.ne, lower.ne', lower.not_gt]

/-- When the lower rank has the heavier body, that body stays as it was. -/
theorem outcome_of_lowerHeavier {x y : Place universes}
    (lower : LowerHeavier universes x y) :
    outcome universes x y = bodyAt universes x ∧
      outcome universes y x = (bodyAt universes y).deactivate := by
  obtain ⟨own, theirs⟩ := outcome_of_lower lower.1
  rw [if_neg lower.2.not_ge] at own theirs
  exact ⟨own, theirs⟩

section Pairs

variable (separated : Separated universes) {x y : Place universes}

include separated

theorem absorbed_outcome_of_lower (lower : x.1 < y.1)
    (notLower : ¬ LowerHeavier universes x y) :
    Absorbed (outcome universes x y) (outcome universes y x)
      ((bodyAt universes x).mass + (bodyAt universes y).mass) := by
  have order : (bodyAt universes x).mass ≤ (bodyAt universes y).mass :=
    not_lt.mp fun heavier => notLower ⟨lower, heavier⟩
  obtain ⟨own, theirs⟩ := outcome_of_lower lower
  rw [own, theirs, if_pos order, if_pos order, add_comm]
  exact (absorbed_merged (separated.positive y) (separated.positive x)).symm

theorem absorbed_outcome_local {rank : Fin size}
    {i j : Fin (universes rank).bodies.length} (before : i < j) :
    Absorbed (outcome universes ⟨rank, i⟩ ⟨rank, j⟩)
      (outcome universes ⟨rank, j⟩ ⟨rank, i⟩)
      ((bodyAt universes ⟨rank, i⟩).mass + (bodyAt universes ⟨rank, j⟩).mass) := by
  have results := Prod.ext_iff.mp (outcome_local before)
  dsimp only at results
  rw [results.1, results.2]
  exact absorbed_resolvePair (separated.positive _) (separated.positive _)

/-- A pair is merged unless its lower rank has the heavier body. -/
theorem absorbed_outcome (overlap : Overlap universes x y)
    (notLower : ¬ LowerHeavier universes x y)
    (notLower' : ¬ LowerHeavier universes y x) :
    Absorbed (outcome universes x y) (outcome universes y x)
      ((bodyAt universes x).mass + (bodyAt universes y).mass) := by
  rcases lt_trichotomy x.1 y.1 with lower | same | higher
  · exact absorbed_outcome_of_lower separated lower notLower
  · obtain ⟨rank, i⟩ := x
    obtain ⟨rank', j⟩ := y
    obtain rfl : rank = rank' := same
    have different : i ≠ j := fun equality => overlap.1 (by rw [equality])
    rcases lt_or_gt_of_ne different with before | after
    · exact absorbed_outcome_local separated before
    · rw [add_comm]
      exact (absorbed_outcome_local separated after).symm
  · rw [add_comm]
    exact (absorbed_outcome_of_lower separated higher notLower').symm

end Pairs

/-- The mass of a body that counts. -/
def activeMass (body : Body α) : α := if body.isActive then body.mass else 0

/-- The total active mass of all processes. -/
def totalMass (universes : Fin size → Universe α) : α :=
  ∑ rank, ((universes rank).bodies.map activeMass).sum

theorem activeMass_of_absorbed {first second : Body α} {mass : α}
    (absorbed : Absorbed first second mass) :
    activeMass first + activeMass second = mass := by
  rcases absorbed with ⟨active, inactive, rfl⟩ | ⟨active, inactive, rfl⟩ <;>
    simp [activeMass, active, inactive]

theorem totalMass_eq_sum (universes : Fin size → Universe α) :
    totalMass universes = ∑ x : Place universes, activeMass (bodyAt universes x) := by
  rw [Fintype.sum_sigma]
  exact Finset.sum_congr rfl fun rank _ =>
    (Fin.sum_univ_fun_getElem _ activeMass).symm

theorem totalMass_stateCollisions (separated : Separated universes) :
    totalMass (stateCollisions universes) =
      ∑ x : Place universes,
        activeMass (settled universes (fun _ _ => True) x) := by
  rw [Fintype.sum_sigma]
  refine Finset.sum_congr rfl fun rank _ => ?_
  rw [settledAt_stateCollisions separated rank, List.map_ofFn, List.sum_ofFn]
  rfl

open Classical in
/-- The other body of a pair. -/
noncomputable def partner (universes : Fin size → Universe α)
    (x : Place universes) : Place universes :=
  if pair : ∃ y, Overlap universes x y then pair.choose else x

theorem partner_of_overlap (separated : Separated universes)
    {x y : Place universes} (overlap : Overlap universes x y) :
    partner universes x = y := by
  have pair : ∃ y, Overlap universes x y := ⟨y, overlap⟩
  rw [partner, dif_pos pair]
  exact separated.partner_unique pair.choose_spec overlap

theorem partner_of_alone {x : Place universes}
    (alone : ∀ y, ¬ Overlap universes x y) : partner universes x = x := by
  rw [partner, dif_neg fun pair => alone _ pair.choose_spec]

/-- When every pair is merged the total active mass stays the same: a body
and its partner contribute as much as before. -/
theorem totalMass_eq (separated : Separated universes)
    (merged : ∀ x y, Overlap universes x y → ¬ LowerHeavier universes x y) :
    totalMass (stateCollisions universes) = totalMass universes := by
  have initial : ∀ x, activeMass (bodyAt universes x) = (bodyAt universes x).mass :=
    fun x => if_pos ((Body.isActive_iff _).mpr (separated.positive x))
  rw [totalMass_stateCollisions separated, totalMass_eq_sum, ← sub_eq_zero,
    ← Finset.sum_sub_distrib]
  refine Finset.sum_involution (fun x _ => partner universes x) ?_ ?_
    (fun _ _ => Finset.mem_univ _) ?_
  · intro x _
    by_cases pair : ∃ y, Overlap universes x y
    · obtain ⟨y, overlap⟩ := pair
      have sum := activeMass_of_absorbed (absorbed_outcome separated overlap
        (merged x y overlap) (merged y x overlap.symm))
      rw [partner_of_overlap separated overlap,
        settled_of_done separated overlap trivial,
        settled_of_done separated overlap.symm trivial, initial, initial,
        sub_add_sub_comm, sum, sub_self]
    · have alone : ∀ y, ¬ Overlap universes x y := fun y overlap => pair ⟨y, overlap⟩
      rw [partner_of_alone alone,
        settled_of_not_done fun y overlap => (alone y overlap).elim]
      simp
  · intro x _ changed
    by_cases pair : ∃ y, Overlap universes x y
    · obtain ⟨y, overlap⟩ := pair
      rw [partner_of_overlap separated overlap]
      exact overlap.1.symm
    · refine (changed ?_).elim
      rw [settled_of_not_done fun y overlap => (pair ⟨y, overlap⟩).elim, sub_self]
  · intro x _
    by_cases pair : ∃ y, Overlap universes x y
    · obtain ⟨y, overlap⟩ := pair
      rw [partner_of_overlap separated overlap,
        partner_of_overlap separated overlap.symm]
    · have alone : ∀ y, ¬ Overlap universes x y := fun y overlap => pair ⟨y, overlap⟩
      rw [partner_of_alone alone, partner_of_alone alone]

/-- What the phase should do: every pair leaves one active body with the mass
of both, the other bodies stay, and no mass is lost. -/
structure MergesPairs (universes after : Fin size → Universe α) : Prop where
  pairs : ∀ x y, Overlap universes x y → ∃ first second,
    (after x.1).bodies[x.2.val]? = some first ∧
      (after y.1).bodies[y.2.val]? = some second ∧
      Absorbed first second
        ((bodyAt universes x).mass + (bodyAt universes y).mass)
  others : ∀ x, (∀ y, ¬ Overlap universes x y) →
    (after x.1).bodies[x.2.val]? = some (bodyAt universes x)
  mass : totalMass after = totalMass universes

/-- The phase merges all pairs exactly when in no pair on two ranks the lower
rank has the heavier body. -/
theorem mergesPairs_iff (separated : Separated universes) :
    MergesPairs universes (stateCollisions universes) ↔
      ∀ x y, Overlap universes x y → x.1 < y.1 →
        (bodyAt universes x).mass ≤ (bodyAt universes y).mass := by
  constructor
  · intro merges x y overlap lower
    by_contra heavier
    have lost := outcome_of_lowerHeavier ⟨lower, not_le.mp heavier⟩
    obtain ⟨first, second, own, theirs, absorbed⟩ := merges.pairs x y overlap
    rw [getElem?_stateCollisions separated,
      settled_of_done separated overlap trivial, lost.1] at own
    rw [getElem?_stateCollisions separated,
      settled_of_done separated overlap.symm trivial, lost.2] at theirs
    cases own
    cases theirs
    have positive := separated.positive y
    rcases absorbed with ⟨_, _, mass⟩ | ⟨active, _, _⟩
    · exact positive.ne' (left_eq_add.mp mass)
    · rw [Body.isActive_iff, Body.mass_deactivate, Left.neg_pos_iff] at active
      exact active.not_gt positive
  · intro lighter
    have merged : ∀ x y, Overlap universes x y → ¬ LowerHeavier universes x y :=
      fun x y overlap lower => (lighter x y overlap lower.1).not_gt lower.2
    refine
      { pairs := fun x y overlap =>
          ⟨_, _, getElem?_stateCollisions separated x,
            getElem?_stateCollisions separated y, ?_⟩
        others := fun x alone => ?_
        mass := totalMass_eq separated merged }
    · rw [settled_of_done separated overlap trivial,
        settled_of_done separated overlap.symm trivial]
      exact absorbed_outcome separated overlap (merged x y overlap)
        (merged y x overlap.symm)
    · rw [getElem?_stateCollisions separated,
        settled_of_not_done fun y overlap => (alone y overlap).elim]

/-! ## Real numbers -/

section Real

variable {size : Nat} {universes : Fin size → Universe ℝ}

/-- A sphere that absorbs another one does not shrink, so the two still
overlap. -/
theorem separated_of_spheres
    (positive : ∀ x, 0 < (bodyAt universes x).mass)
    (spheres : ∀ x, 0 ≤ (bodyAt universes x).radius)
    (single : ∀ x y z, Meets universes x y → Meets universes x z → y = z) :
    Separated universes := by
  refine { positive, single, kept := fun x y overlap => ?_ }
  have close := (Body.checkCollision_iff ..).mp overlap.2
  have grown : (bodyAt universes y).radius ≤
      (bodyAt universes y).addRadiuses (bodyAt universes x).radius :=
    le_pow_third (spheres y) (spheres x)
  exact (Body.checkCollision_iff ..).mpr (by linarith)

/-- For spheres with positive masses of which each overlaps at most one other,
also with grown radii, the collision phase merges every pair and loses no mass
if and only if in no pair on two ranks the lower rank has the heavier body. -/
theorem collision_phase_iff
    (positive : ∀ x, 0 < (bodyAt universes x).mass)
    (spheres : ∀ x, 0 ≤ (bodyAt universes x).radius)
    (single : ∀ x y z, Meets universes x y → Meets universes x z → y = z) :
    MergesPairs universes (stateCollisions universes) ↔
      ∀ x y, Overlap universes x y → x.1 < y.1 →
        (bodyAt universes x).mass ≤ (bodyAt universes y).mass :=
  mergesPairs_iff (separated_of_spheres positive spheres single)

/-- Two overlapping bodies on two ranks. -/
noncomputable def twoBodies (first second : ℝ) : Fin 2 → Universe ℝ :=
  fun rank =>
    { activeBodiesCount := 1
      bodies :=
        [{ mass := if rank = 0 then first else second
           radius := 1
           position := ⟨if rank = 0 then 0 else 1, 0, 0⟩
           velocity := 0
           acceleration := 0 }] }

theorem bodyAt_twoBodies (first second : ℝ) (x : Place (twoBodies first second)) :
    (bodyAt (twoBodies first second) x).mass =
        (if x.1 = 0 then first else second) ∧
      (bodyAt (twoBodies first second) x).radius = 1 ∧
      (bodyAt (twoBodies first second) x).position =
        ⟨if x.1 = 0 then 0 else 1, 0, 0⟩ := by
  obtain ⟨rank, ⟨index, inside⟩⟩ := x
  obtain rfl : index = 0 := by simpa [twoBodies] using inside
  exact ⟨rfl, rfl, rfl⟩

theorem place_twoBodies {first second : ℝ} {x y : Place (twoBodies first second)}
    (same : x.1 = y.1) : x = y := by
  obtain ⟨rank, ⟨index, inside⟩⟩ := x
  obtain ⟨rank', ⟨index', inside'⟩⟩ := y
  obtain rfl : rank = rank' := same
  obtain rfl : index = 0 := by simpa [twoBodies] using inside
  obtain rfl : index' = 0 := by simpa [twoBodies] using inside'
  rfl

theorem single_twoBodies {first second : ℝ}
    (x y z : Place (twoBodies first second))
    (meets : Meets (twoBodies first second) x y)
    (meets' : Meets (twoBodies first second) x z) : y = z := by
  have other : x.1 ≠ y.1 := fun same => meets.1 (place_twoBodies same)
  have other' : x.1 ≠ z.1 := fun same => meets'.1 (place_twoBodies same)
  exact place_twoBodies (by omega)

theorem positive_twoBodies {first second : ℝ} (positive : 0 < first)
    (positive' : 0 < second) (x : Place (twoBodies first second)) :
    0 < (bodyAt (twoBodies first second) x).mass := by
  rw [(bodyAt_twoBodies first second x).1]
  split <;> assumption

theorem spheres_twoBodies {first second : ℝ}
    (x : Place (twoBodies first second)) :
    0 ≤ (bodyAt (twoBodies first second) x).radius := by
  rw [(bodyAt_twoBodies first second x).2.1]
  exact zero_le_one

/-- The higher rank has the heavier body. -/
theorem collision_phase_twoBodies :
    MergesPairs (twoBodies 1 2) (stateCollisions (twoBodies 1 2)) := by
  refine (collision_phase_iff (positive_twoBodies one_pos two_pos)
    spheres_twoBodies single_twoBodies).mpr fun x y _ lower => ?_
  have first : x.1 = 0 := by omega
  have second : y.1 ≠ 0 := by omega
  rw [(bodyAt_twoBodies 1 2 x).1, (bodyAt_twoBodies 1 2 y).1, if_pos first,
    if_neg second]
  norm_num

/-- The lower rank has the heavier body. -/
theorem collision_phase_loses_mass :
    (∀ x, 0 < (bodyAt (twoBodies 2 1) x).mass) ∧
      (∀ x, 0 ≤ (bodyAt (twoBodies 2 1) x).radius) ∧
      (∀ x y z, Meets (twoBodies 2 1) x y → Meets (twoBodies 2 1) x z → y = z) ∧
      ¬ MergesPairs (twoBodies 2 1) (stateCollisions (twoBodies 2 1)) := by
  refine ⟨positive_twoBodies two_pos one_pos, spheres_twoBodies,
    single_twoBodies, fun merges => ?_⟩
  have lighter := (mergesPairs_iff (separated_of_spheres
    (positive_twoBodies two_pos one_pos) spheres_twoBodies
    single_twoBodies)).mp merges ⟨0, ⟨0, by simp [twoBodies]⟩⟩
      ⟨1, ⟨0, by simp [twoBodies]⟩⟩ ⟨by simp, ?_⟩ (by simp)
  · rw [(bodyAt_twoBodies 2 1 _).1, (bodyAt_twoBodies 2 1 _).1] at lighter
    norm_num at lighter
  · rw [Body.checkCollision_iff]
    simp only [(bodyAt_twoBodies 2 1 _).2.1, (bodyAt_twoBodies 2 1 _).2.2]
    norm_num [RealVector.getMagnitude, RealArithmetic.sqrt]

end Real

end Simulation

end Concurrente.NBody
