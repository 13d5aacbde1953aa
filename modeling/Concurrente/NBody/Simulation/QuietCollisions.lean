import Concurrente.Library.Loops
import Concurrente.NBody.Simulation.ActiveCount

/-!
# Collision phases without collisions

A collision takes one from a counter or adds mass to an active body, and
nothing in the phase undoes either.  So the phase of all processes leaves every
universe as it was only if no two active bodies overlap.
-/

namespace Concurrente.NBody

open Library

variable {α : Type} [RealArithmetic α] {size : Nat}

namespace Universe

omit [RealArithmetic α] in
theorem eq_of_fields {self other : Universe α}
    (count : self.activeBodiesCount = other.activeBodiesCount)
    (bodies : self.bodies = other.bodies) : self = other := by
  cases self
  cases other
  cases count
  cases bodies
  rfl

/-! ## The local loops -/

theorem checkPair_eq_or_lt (index : Nat) (self : Universe α) (otherIndex : Nat) :
    checkPair index self otherIndex = self ∨
      (checkPair index self otherIndex).activeBodiesCount <
        self.activeBodiesCount := by
  rcases checkPair_cases index self otherIndex with ⟨idle, _⟩ | ⟨_, _, _, step⟩
  · exact .inl idle
  · right
    rw [step]
    exact sub_one_lt self.activeBodiesCount

theorem checkPair_eq_self_iff {index : Nat} {self : Universe α}
    {otherIndex : Nat} :
    checkPair index self otherIndex = self ↔
      ∀ body other, ¬ Strikes index self otherIndex body other := by
  rcases checkPair_cases index self otherIndex with
    ⟨idle, none⟩ | ⟨body, other, strike, step⟩
  · exact iff_of_true idle none
  · apply iff_of_false
    · rw [step]
      intro same
      have count := congrArg Universe.activeBodiesCount same
      dsimp only at count
      omega
    · intro none
      exact none body other strike

theorem checkBody_eq_or_lt (self : Universe α) (index : Nat) :
    checkBody self index = self ∨
      (checkBody self index).activeBodiesCount < self.activeBodiesCount := by
  unfold checkBody
  split
  · exact foldl_eq_or_lt Universe.activeBodiesCount
      (checkPair_eq_or_lt index) self _
  · exact .inl rfl

theorem checkCollisions_eq_or_lt (self : Universe α) :
    self.checkCollisions = self ∨
      self.checkCollisions.activeBodiesCount < self.activeBodiesCount :=
  foldl_eq_or_lt Universe.activeBodiesCount checkBody_eq_or_lt self _

/-- No two active bodies of the process overlap. -/
def Clear (self : Universe α) : Prop :=
  ∀ (index otherIndex : Nat) (body other : Body α), body.isActive = true →
    ¬ Strikes index self otherIndex body other

theorem checkBody_eq_self_iff {self : Universe α} {index : Nat} :
    checkBody self index = self ↔
      ∀ (otherIndex : Nat) (body other : Body α), body.isActive = true →
        ¬ Strikes index self otherIndex body other := by
  unfold checkBody
  split
  next active =>
    rw [foldl_eq_self_iff Universe.activeBodiesCount
      (checkPair_eq_or_lt index)]
    simp only [checkPair_eq_self_iff]
    constructor
    · intro idle otherIndex body other _ strike
      have inside := (List.getElem?_eq_some_iff.mp strike.theirs).1
      exact idle otherIndex (List.mem_range.mpr inside) body other strike
    · intro none otherIndex _ body other strike
      rw [strike.own] at active
      exact none otherIndex body other active strike
  next inactive =>
    refine iff_of_true rfl fun otherIndex body other active strike => ?_
    rw [strike.own] at inactive
    exact inactive active

theorem checkCollisions_eq_self_iff {self : Universe α} :
    self.checkCollisions = self ↔ self.Clear := by
  unfold checkCollisions
  rw [foldl_eq_self_iff Universe.activeBodiesCount checkBody_eq_or_lt]
  simp only [checkBody_eq_self_iff]
  constructor
  · intro idle index otherIndex body other active strike
    have inside := (List.getElem?_eq_some_iff.mp strike.own).1
    exact idle index (List.mem_range.mpr inside) otherIndex body other active strike
  · intro clear index _
    exact clear index

/-! ## The bodies of another process -/

/-- No active body overlaps an active one of the other process. -/
def ClearOf (self other : Universe α) : Prop :=
  ∀ body ∈ self.bodies, ∀ otherBody ∈ other.bodies, body.isActive = true →
    otherBody.isActive = true →
    ¬ body.checkCollision otherBody.radius otherBody.position = true

/-- A body that meets one of another process is deactivated or grows. -/
theorem collideWith_cases (rank otherRank : Nat) (body other : Body α) :
    (collideWith rank otherRank body other).1 = true ∨
      collideWith rank otherRank body other = (false, body.merged other) := by
  unfold collideWith
  split
  · exact .inl rfl
  · by_cases heavier : other.mass ≤ body.mass
    · rw [Body.absorb_eq, if_pos heavier]
      exact .inr rfl
    · rw [Body.absorb_eq, if_neg heavier]
      exact .inl rfl

/-- What one body does in the round of another process. -/
theorem checkSerialized_cases (self : Universe α) (rank otherRank : Nat)
    (body : Body α) :
    (checkSerialized self.serializeCollisionData rank otherRank body =
          (false, body) ∧
        ∀ other ∈ self.bodies, body.isActive = true → other.isActive = true →
          ¬ body.checkCollision other.radius other.position = true) ∨
      ∃ other ∈ self.bodies, body.isActive = true ∧ other.isActive = true ∧
        body.checkCollision other.radius other.position = true ∧
        checkSerialized self.serializeCollisionData rank otherRank body =
          collideWith rank otherRank body other := by
  rw [checkSerialized_serializeCollisionData]
  cases active : body.isActive with
  | false =>
      left
      exact ⟨rfl, fun _ _ wrong => absurd wrong (by simp)⟩
  | true =>
      rw [if_pos rfl]
      cases found : (self.bodies.filter Body.isActive).find? fun other =>
          body.checkCollision other.radius other.position with
      | none =>
          left
          refine ⟨rfl, fun other member _ otherActive => ?_⟩
          exact List.find?_eq_none.mp found other
            (List.mem_filter.mpr ⟨member, otherActive⟩)
      | some other =>
          right
          obtain ⟨member, otherActive⟩ :=
            List.mem_filter.mp (List.mem_of_find?_eq_some found)
          have collides := List.find?_some found
          exact ⟨other, member, rfl, otherActive, collides, rfl⟩

/-- A body that is still counted as active is the same or has more mass. -/
theorem activeMass_checkSerialized {self : Universe α} {rank otherRank : Nat}
    {body : Body α}
    (kept : (checkSerialized self.serializeCollisionData rank otherRank body).1 =
      false) :
    (checkSerialized self.serializeCollisionData rank otherRank body).2 = body ∨
      Simulation.activeMass body < Simulation.activeMass
        (checkSerialized self.serializeCollisionData rank otherRank body).2 := by
  rcases checkSerialized_cases self rank otherRank body with
    ⟨idle, _⟩ | ⟨other, _, active, otherActive, _, met⟩
  · rw [idle]
    exact .inl rfl
  · rw [met] at kept ⊢
    rcases collideWith_cases rank otherRank body other with lost | grown
    · rw [lost] at kept
      cases kept
    · right
      have positive := (Body.isActive_iff _).mp active
      have positive' := (Body.isActive_iff _).mp otherActive
      have whole : (body.merged other).isActive = true :=
        (Body.isActive_iff _).mpr (add_pos positive positive')
      rw [grown, Simulation.activeMass, Simulation.activeMass, if_pos active,
        if_pos whole, Body.mass_merged]
      exact lt_add_of_pos_right body.mass positive'

/-- The round of another process does nothing, takes from the counter, or adds
mass. -/
theorem checkReceivedCollisions_cases (self other : Universe α)
    (rank otherRank : Nat) :
    self.checkReceivedCollisions other.serializeCollisionData rank otherRank =
        self ∨
      (self.checkReceivedCollisions other.serializeCollisionData rank
          otherRank).activeBodiesCount < self.activeBodiesCount ∨
      ((self.checkReceivedCollisions other.serializeCollisionData rank
            otherRank).activeBodiesCount = self.activeBodiesCount ∧
        self.mass < (self.checkReceivedCollisions other.serializeCollisionData
          rank otherRank).mass) := by
  have counter : (self.checkReceivedCollisions other.serializeCollisionData rank
      otherRank).activeBodiesCount = self.activeBodiesCount -
        (self.bodies.countP fun body => (checkSerialized
          other.serializeCollisionData rank otherRank body).1) := by
    simp [checkReceivedCollisions, List.countP_map, Function.comp_def]
  have bodies : (self.checkReceivedCollisions other.serializeCollisionData rank
      otherRank).bodies = self.bodies.map fun body =>
        (checkSerialized other.serializeCollisionData rank otherRank body).2 := by
    simp [checkReceivedCollisions]
  cases lost : self.bodies.countP fun body => (checkSerialized
      other.serializeCollisionData rank otherRank body).1 with
  | succ count =>
      right
      left
      rw [counter, lost]
      omega
  | zero =>
      rw [lost, Nat.cast_zero, sub_zero] at counter
      rw [List.countP_eq_zero] at lost
      simp only [Bool.not_eq_true] at lost
      by_cases same : ∀ body ∈ self.bodies, (checkSerialized
          other.serializeCollisionData rank otherRank body).2 = body
      · left
        have kept := List.map_congr_left same
        rw [List.map_id', ← bodies] at kept
        exact eq_of_fields counter kept
      · right
        right
        refine ⟨counter, ?_⟩
        push Not at same
        obtain ⟨body, member, changed⟩ := same
        rw [mass, mass, bodies, List.map_map]
        apply List.sum_lt_sum
        · intro body member
          rcases activeMass_checkSerialized (lost body member) with same | more
          · exact le_of_eq (congrArg Simulation.activeMass same.symm)
          · exact more.le
        · refine ⟨body, member, ?_⟩
          exact (activeMass_checkSerialized (lost body member)).resolve_left changed

/-- The round of another process does nothing exactly when no body of it
overlaps one of this process. -/
theorem checkReceivedCollisions_eq_self_iff {self other : Universe α}
    {rank otherRank : Nat} :
    self.checkReceivedCollisions other.serializeCollisionData rank otherRank =
        self ↔ self.ClearOf other := by
  constructor
  · intro same body member otherBody otherMember active otherActive collides
    have lost : self.bodies.countP (fun body => (checkSerialized
        other.serializeCollisionData rank otherRank body).1) = 0 := by
      have counter := congrArg Universe.activeBodiesCount same
      simp only [checkReceivedCollisions, List.countP_map,
        Function.comp_def] at counter
      omega
    have kept : (checkSerialized other.serializeCollisionData rank otherRank
        body).1 = false := by
      simpa using List.countP_eq_zero.mp lost body member
    have unchanged : (checkSerialized other.serializeCollisionData rank otherRank
        body).2 = body := by
      have bodies := congrArg Universe.bodies same
      simp only [checkReceivedCollisions, List.map_map] at bodies
      rw [← List.map_id self.bodies, List.map_map, List.map_inj_left] at bodies
      exact bodies body member
    rcases checkSerialized_cases other rank otherRank body with
      ⟨_, none⟩ | ⟨met, _, _, metActive, _, result⟩
    · exact none otherBody otherMember active otherActive collides
    · rcases collideWith_cases rank otherRank body met with gone | grown
      · rw [result, gone] at kept
        cases kept
      · rw [result, grown] at unchanged
        have mass := congrArg Body.mass unchanged
        have positive := (Body.isActive_iff _).mp metActive
        rw [Body.mass_merged] at mass
        exact positive.ne' (add_eq_left.mp mass)
  · intro clear
    have idle : ∀ body ∈ self.bodies, checkSerialized
        other.serializeCollisionData rank otherRank body = (false, body) := by
      intro body member
      rcases checkSerialized_cases other rank otherRank body with
        ⟨none, _⟩ | ⟨met, metMember, active, metActive, collides, _⟩
      · exact none
      · exact absurd collides
          (clear body member met metMember active metActive)
    have checked := List.map_congr_left idle
    unfold checkReceivedCollisions
    rw [checked]
    apply eq_of_fields
    · simp [List.countP_map, Function.comp_def]
    · simp

end Universe

/-! ## All processes -/

namespace Simulation

/-- The counters go down first, and the masses up. -/
def standing (universes : Fin size → Universe α) : ℤ ×ₗ αᵒᵈ :=
  toLex (∑ rank, (universes rank).activeBodiesCount,
    OrderDual.toDual (totalMass universes))

/-- If every process stands still, takes from its counter or adds mass, then
all of them together do. -/
theorem standing_cases {before after : Fin size → Universe α}
    (cases : ∀ rank, after rank = before rank ∨
      (after rank).activeBodiesCount < (before rank).activeBodiesCount ∨
      ((after rank).activeBodiesCount = (before rank).activeBodiesCount ∧
        (before rank).mass < (after rank).mass)) :
    after = before ∨ standing after < standing before := by
  have counts : ∀ rank, (after rank).activeBodiesCount ≤
      (before rank).activeBodiesCount := by
    intro rank
    rcases cases rank with same | fewer | ⟨same, _⟩
    · rw [same]
    · exact fewer.le
    · exact same.le
  by_cases fewer : ∃ rank, (after rank).activeBodiesCount <
      (before rank).activeBodiesCount
  · right
    obtain ⟨rank, fewer⟩ := fewer
    apply Prod.Lex.toLex_lt_toLex.mpr
    left
    exact Finset.sum_lt_sum (fun rank _ => counts rank)
      ⟨rank, Finset.mem_univ rank, fewer⟩
  · push Not at fewer
    have equal : ∀ rank, (after rank).activeBodiesCount =
        (before rank).activeBodiesCount :=
      fun rank => le_antisymm (counts rank) (fewer rank)
    by_cases changed : ∃ rank, after rank ≠ before rank
    · right
      obtain ⟨rank, changed⟩ := changed
      apply Prod.Lex.toLex_lt_toLex.mpr
      right
      have counters : ∑ rank, (after rank).activeBodiesCount =
          ∑ rank, (before rank).activeBodiesCount :=
        Finset.sum_congr rfl fun rank _ => equal rank
      refine ⟨counters, ?_⟩
      apply OrderDual.toDual_lt_toDual.mpr
      have heavier : ∀ rank, after rank ≠ before rank →
          (before rank).mass < (after rank).mass := by
        intro rank different
        rcases cases rank with same | less | ⟨_, more⟩
        · exact absurd same different
        · exact absurd less (fewer rank).not_gt
        · exact more
      apply Finset.sum_lt_sum
      · intro rank _
        by_cases same : after rank = before rank
        · rw [same]
        · exact (heavier rank same).le
      · exact ⟨rank, Finset.mem_univ rank, heavier rank changed⟩
    · left
      push Not at changed
      exact funext changed

/-- No two active bodies at different places overlap. -/
def Clear (universes : Fin size → Universe α) : Prop :=
  ∀ x y : Place universes, (bodyAt universes x).isActive = true →
    (bodyAt universes y).isActive = true → ¬ Overlap universes x y

theorem collisionTurn_eq_or_lt (universes : Fin size → Universe α)
    (rank : Fin size) :
    collisionTurn universes rank = universes ∨
      standing (collisionTurn universes rank) < standing universes := by
  apply standing_cases
  intro process
  unfold collisionTurn broadcastRound
  split
  · exact .inl rfl
  · exact Universe.checkReceivedCollisions_cases _ _ _ _

theorem collisionTurn_eq_self_iff {universes : Fin size → Universe α}
    {rank : Fin size} :
    collisionTurn universes rank = universes ↔
      ∀ process, process ≠ rank →
        (universes process).ClearOf (universes rank) := by
  rw [funext_iff]
  apply forall_congr'
  intro process
  unfold collisionTurn broadcastRound
  by_cases own : process = rank
  · simp [own]
  · rw [if_neg own, Universe.checkReceivedCollisions_eq_self_iff]
    exact ⟨fun clear _ => clear, fun clear => clear own⟩

/-- Bodies that do not overlap are on one process or on two. -/
theorem clear_iff {universes : Fin size → Universe α} :
    Clear universes ↔
      (∀ rank, (universes rank).Clear) ∧
        ∀ rank process, process ≠ rank →
          (universes process).ClearOf (universes rank) := by
  constructor
  · intro clear
    refine ⟨fun rank index otherIndex body other active strike => ?_,
      fun rank process different body member other otherMember active
        otherActive collides => ?_⟩
    · obtain ⟨inside, rfl⟩ := List.getElem?_eq_some_iff.mp strike.own
      obtain ⟨inside', rfl⟩ := List.getElem?_eq_some_iff.mp strike.theirs
      refine clear ⟨rank, ⟨index, inside⟩⟩ ⟨rank, ⟨otherIndex, inside'⟩⟩ active
        strike.active ⟨?_, strike.collides⟩
      intro same
      cases same
      exact strike.different rfl
    · obtain ⟨index, inside, rfl⟩ := List.mem_iff_getElem.mp member
      obtain ⟨otherIndex, inside', rfl⟩ := List.mem_iff_getElem.mp otherMember
      refine clear ⟨process, ⟨index, inside⟩⟩ ⟨rank, ⟨otherIndex, inside'⟩⟩ active
        otherActive ⟨?_, collides⟩
      intro same
      exact different (congrArg Sigma.fst same)
  · rintro ⟨own, others⟩ ⟨rank, index⟩ ⟨rank', otherIndex⟩ active otherActive
      ⟨different, collides⟩
    by_cases same : rank = rank'
    · subst same
      refine own rank index otherIndex _ _ active
        ⟨List.getElem?_eq_getElem index.isLt,
          List.getElem?_eq_getElem otherIndex.isLt, ?_, otherActive, collides⟩
      intro equal
      exact different (by rw [Fin.ext equal])
    · exact others rank' rank same _ (List.getElem_mem _) _ (List.getElem_mem _)
        active otherActive collides

/-- The local loops of all processes. -/
theorem localLoops_eq_or_lt (universes : Fin size → Universe α) :
    (fun process => (universes process).checkCollisions) = universes ∨
      standing (fun process => (universes process).checkCollisions) <
        standing universes := by
  apply standing_cases
  intro rank
  rcases (universes rank).checkCollisions_eq_or_lt with idle | fewer
  · exact .inl idle
  · exact .inr (.inl fewer)

/-- The phase, as its local loops and one round for each rank. -/
theorem stateCollisions_eq_foldl (universes : Fin size → Universe α) :
    stateCollisions universes = (none :: (List.finRange size).map some).foldl
      (fun state (turn : Option (Fin size)) => turn.elim
        (fun process => (state process).checkCollisions) (collisionTurn state))
      universes := by
  rw [List.foldl_cons, List.foldl_map]
  rfl

theorem stateCollisions_step (universes : Fin size → Universe α)
    (turn : Option (Fin size)) :
    turn.elim (fun process => (universes process).checkCollisions)
        (collisionTurn universes) = universes ∨
      standing (turn.elim (fun process => (universes process).checkCollisions)
        (collisionTurn universes)) < standing universes := by
  cases turn with
  | none => exact localLoops_eq_or_lt universes
  | some rank => exact collisionTurn_eq_or_lt universes rank

theorem stateCollisions_eq_self_iff {universes : Fin size → Universe α} :
    stateCollisions universes = universes ↔ Clear universes := by
  rw [stateCollisions_eq_foldl, foldl_eq_self_iff standing stateCollisions_step,
    List.forall_mem_cons, List.forall_mem_map, clear_iff]
  apply and_congr
  · change (fun process => (universes process).checkCollisions) = universes ↔ _
    rw [funext_iff]
    exact forall_congr' fun rank => Universe.checkCollisions_eq_self_iff
  · simp only [Option.elim_some, collisionTurn_eq_self_iff, List.mem_finRange,
      true_implies]

/-- The collision phase leaves all universes as they were exactly when no two
active bodies of all processes overlap.  Otherwise the sum of the counters goes
down, or stays while the active bodies gain mass. -/
theorem collision_phase_quiet_iff (universes : Fin size → Universe α) :
    (stateCollisions universes = universes ↔ Clear universes) ∧
      (¬ Clear universes →
        ∑ rank, (stateCollisions universes rank).activeBodiesCount <
            ∑ rank, (universes rank).activeBodiesCount ∨
          (∑ rank, (stateCollisions universes rank).activeBodiesCount =
              ∑ rank, (universes rank).activeBodiesCount ∧
            totalMass universes < totalMass (stateCollisions universes))) := by
  refine ⟨stateCollisions_eq_self_iff, fun crowded => ?_⟩
  rw [← stateCollisions_eq_self_iff] at crowded
  have lower : standing (stateCollisions universes) < standing universes := by
    rw [stateCollisions_eq_foldl] at crowded ⊢
    exact (foldl_eq_or_lt standing stateCollisions_step universes _).resolve_left
      crowded
  rcases Prod.Lex.toLex_lt_toLex.mp lower with fewer | ⟨same, more⟩
  · exact .inl fewer
  · exact .inr ⟨same, OrderDual.toDual_lt_toDual.mp more⟩

end Simulation

end Concurrente.NBody
