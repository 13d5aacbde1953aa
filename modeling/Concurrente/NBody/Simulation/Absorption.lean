import Concurrente.NBody.Simulation.CollisionPhase

/-!
# What an absorption conserves

`mergeVelocities` weighs both velocities with the mass of the absorbed body,
and divides by a mass that has already grown by it.  The masses add up in every
absorption; the momentum does in those where the two velocities happen to make
up for the weights.
-/

namespace Concurrente.NBody

variable {α : Type} [RealArithmetic α]

namespace RealVector

instance : Neg (RealVector α) := ⟨fun vector => vector * (-1 : α)⟩

@[simp] theorem neg_x (a : RealVector α) : (-a).x = -a.x := mul_neg_one a.x
@[simp] theorem neg_y (a : RealVector α) : (-a).y = -a.y := mul_neg_one a.y
@[simp] theorem neg_z (a : RealVector α) : (-a).z = -a.z := mul_neg_one a.z

instance : AddCommGroup (RealVector α) :=
  { (inferInstance : AddCommMonoid (RealVector α)) with
    neg := Neg.neg
    sub := Sub.sub
    sub_eq_add_neg := fun _ _ => rfl
    zsmul := zsmulRec
    neg_add_cancel := fun a => by ext <;> simp }

end RealVector

/-- Two entries of a list are replaced. -/
theorem sum_map_set_set {γ β : Type} [AddCommGroup β] (measure : γ → β)
    {entries : List γ} {i j : Nat} {a b : γ} (different : i ≠ j)
    (own : entries[i]? = some a) (theirs : entries[j]? = some b) (a' b' : γ) :
    (((entries.set i a').set j b').map measure).sum =
      (entries.map measure).sum +
        (measure a' + measure b' - (measure a + measure b)) := by
  obtain ⟨inside, rfl⟩ := List.getElem?_eq_some_iff.mp own
  obtain ⟨inside', rfl⟩ := List.getElem?_eq_some_iff.mp theirs
  rw [List.map_set, List.map_set, List.sum_set', List.sum_set']
  simp only [List.length_set, List.length_map, inside, inside', dif_pos,
    List.getElem_map, List.getElem_set_ne different]
  abel

namespace Body

/-- The momentum of a body. -/
def momentum (body : Body α) : RealVector α := body.velocity * body.mass

/-- What the two forms of `absorb` leave when they conserve momentum. -/
structure AbsorbsMomentum (body other : Body α) : Prop where
  received : (body.absorb other.mass other.radius other.velocity).1 = true
  mass : (body.absorb other.mass other.radius other.velocity).2.mass =
    body.mass + other.mass
  velocity : (body.absorb other.mass other.radius other.velocity).2.velocity =
    (body.momentum + other.momentum) * (1 / (body.mass + other.mass))
  localForm : body.absorbBody other =
    (true, (body.absorb other.mass other.radius other.velocity).2,
      other.deactivate)

/-- The velocities make up for the weights of `mergeVelocities`. -/
def Balanced (body other : Body α) : Prop :=
  other.velocity * (other.mass * other.mass) =
    body.velocity *
      (other.mass * other.mass - body.mass * other.mass - body.mass * body.mass)

/-- One coordinate of the momentum after `mergeVelocities`. -/
theorem merged_coordinate {mass otherMass : α} (positive : 0 < mass)
    (positive' : 0 < otherMass) (velocity otherVelocity : α) :
    (velocity * otherMass + otherVelocity * otherMass) *
          (1 / (mass + otherMass + otherMass)) * (mass + otherMass) =
        velocity * mass + otherVelocity * otherMass ↔
      otherVelocity * (otherMass * otherMass) =
        velocity * (otherMass * otherMass - mass * otherMass - mass * mass) := by
  have grown : mass + otherMass + otherMass ≠ 0 := by positivity
  rw [mul_one_div, div_mul_eq_mul_div, div_eq_iff grown]
  constructor
  · intro conserved
    linear_combination -conserved
  · intro balanced
    linear_combination -balanced

theorem momentum_merged_iff {body other : Body α} (positive : 0 < body.mass)
    (positive' : 0 < other.mass) :
    (body.merged other).momentum = body.momentum + other.momentum ↔
      Balanced body other := by
  have coordinate := @merged_coordinate α _ _ _ positive positive'
  rw [Balanced, RealVector.ext_iff, RealVector.ext_iff]
  exact and_congr (coordinate _ _) (and_congr (coordinate _ _) (coordinate _ _))

/-- A velocity is a momentum divided by the mass. -/
theorem velocity_eq_iff {body : Body α} (positive : 0 < body.mass)
    (momentum : RealVector α) :
    body.velocity = momentum * (1 / body.mass) ↔ body.momentum = momentum := by
  have coordinate : ∀ speed share : α,
      speed = share * (1 / body.mass) ↔ speed * body.mass = share := by
    intro speed share
    rw [mul_one_div, eq_div_iff positive.ne']
  rw [RealVector.ext_iff, RealVector.ext_iff]
  exact and_congr (coordinate _ _) (and_congr (coordinate _ _) (coordinate _ _))

theorem absorbsMomentum_iff {body other : Body α} (positive : 0 < other.mass)
    (heavier : other.mass ≤ body.mass) :
    AbsorbsMomentum body other ↔ Balanced body other := by
  have whole : 0 < body.mass := positive.trans_le heavier
  have grown : 0 < (body.merged other).mass := add_pos whole positive
  have result : body.absorb other.mass other.radius other.velocity =
      (true, body.merged other) := by
    rw [absorb_eq, if_pos heavier]
  have target := velocity_eq_iff grown (body.momentum + other.momentum)
  rw [← momentum_merged_iff whole positive, ← target]
  constructor
  · intro absorbs
    have velocity := absorbs.velocity
    rwa [result] at velocity
  · intro velocity
    constructor
    · rw [result]
    · rw [result, mass_merged]
    · rw [result]
      exact velocity
    · rw [absorbBody, result]
      rfl

/-- A lighter body absorbs nothing. -/
theorem absorb_of_lighter {body other : Body α} (lighter : body.mass < other.mass) :
    body.absorb other.mass other.radius other.velocity = (false, body) ∧
      body.absorbBody other = (false, body, other) := by
  have result : body.absorb other.mass other.radius other.velocity =
      (false, body) := by
    rw [absorb_eq, if_neg lighter.not_ge]
  refine ⟨result, ?_⟩
  rw [absorbBody, result]
  rfl

/-- The momentum of a body that counts. -/
def activeMomentum (body : Body α) : RealVector α :=
  if body.isActive then body.momentum else 0

end Body

/-! ## Sequences of absorptions -/

/-- One active body of a set absorbs another one. -/
def absorbAt (bodies : List (Body α)) (pair : Nat × Nat) : List (Body α) :=
  match bodies[pair.1]?, bodies[pair.2]? with
  | some body, some other =>
      if pair.1 ≠ pair.2 ∧ body.isActive ∧ other.isActive then
        let (_, body', other') := body.absorbBody other
        (bodies.set pair.1 body').set pair.2 other'
      else bodies
  | _, _ => bodies

/-- If the step absorbs a body, the velocities of the two make up for the
weights. -/
def BalancedStep (bodies : List (Body α)) (pair : Nat × Nat) : Prop :=
  ∀ body other, bodies[pair.1]? = some body → bodies[pair.2]? = some other →
    pair.1 ≠ pair.2 → body.isActive = true → other.isActive = true →
      other.mass ≤ body.mass → Body.Balanced body other

/-- What a step does to the sum of a measure that inactive bodies have none
of. -/
theorem absorbAt_cases (bodies : List (Body α)) (pair : Nat × Nat) :
    (absorbAt bodies pair = bodies ∧ BalancedStep bodies pair) ∨
      ∃ body other, 0 < body.mass ∧ 0 < other.mass ∧
        (BalancedStep bodies pair ↔ Body.Balanced body other) ∧
        ∀ {β : Type} [AddCommGroup β] (measure : Body α → β),
          ((absorbAt bodies pair).map measure).sum =
            (bodies.map measure).sum +
              (measure (body.merged other) + measure other.deactivate -
                (measure body + measure other)) := by
  by_cases acts : ∃ body other, bodies[pair.1]? = some body ∧
      bodies[pair.2]? = some other ∧ pair.1 ≠ pair.2 ∧
      body.isActive = true ∧ other.isActive = true ∧ other.mass ≤ body.mass
  · obtain ⟨body, other, own, theirs, different, active, active', heavier⟩ := acts
    right
    refine ⟨body, other, (Body.isActive_iff _).mp active,
      (Body.isActive_iff _).mp active', ?_, ?_⟩
    · constructor
      · intro balanced
        exact balanced body other own theirs different active active' heavier
      · intro balanced body' other' own' theirs' _ _ _ _
        rw [own] at own'
        rw [theirs] at theirs'
        rwa [← Option.some.inj own', ← Option.some.inj theirs']
    · intro β _ measure
      have step : absorbAt bodies pair =
          (bodies.set pair.1 (body.merged other)).set pair.2 other.deactivate := by
        simp [absorbAt, own, theirs, different, active, active', heavier,
          Body.absorbBody, Body.absorb_eq]
      rw [step, sum_map_set_set measure different own theirs]
  · left
    have balanced : BalancedStep bodies pair := by
      intro body other own theirs different active active' heavier
      exact absurd ⟨body, other, own, theirs, different, active, active', heavier⟩ acts
    refine ⟨?_, balanced⟩
    unfold absorbAt
    split
    next body other own theirs =>
      split
      next guard =>
        obtain ⟨different, active, active'⟩ := guard
        have lighter : body.mass < other.mass := by
          rw [← not_le]
          intro heavier
          exact acts ⟨body, other, own, theirs, different, active, active', heavier⟩
        obtain ⟨inside, rfl⟩ := List.getElem?_eq_some_iff.mp own
        obtain ⟨inside', rfl⟩ := List.getElem?_eq_some_iff.mp theirs
        rw [(Body.absorb_of_lighter lighter).2]
        simp
      next => rfl
    next => rfl

theorem activeMass_absorbAt (bodies : List (Body α)) (pair : Nat × Nat) :
    ((absorbAt bodies pair).map Simulation.activeMass).sum =
      (bodies.map Simulation.activeMass).sum := by
  rcases absorbAt_cases bodies pair with
    ⟨idle, _⟩ | ⟨body, other, positive, positive', _, sums⟩
  · rw [idle]
  · rw [sums]
    have grown := add_pos positive positive'
    simp [Simulation.activeMass, Body.isActive, positive, positive', grown,
      positive'.le]

theorem activeMomentum_absorbAt_iff (bodies : List (Body α)) (pair : Nat × Nat) :
    ((absorbAt bodies pair).map Body.activeMomentum).sum =
        (bodies.map Body.activeMomentum).sum ↔ BalancedStep bodies pair := by
  rcases absorbAt_cases bodies pair with
    ⟨idle, balanced⟩ | ⟨body, other, positive, positive', same, sums⟩
  · simp [idle, balanced]
  · rw [sums, same, ← Body.momentum_merged_iff positive positive']
    have grown := add_pos positive positive'
    simp [Body.activeMomentum, Body.isActive, positive, positive', grown,
      positive'.not_gt, sub_eq_zero]

/-- In every state of a run the active bodies have the mass and the momentum
they had at first. -/
def Conserves (bodies : List (Body α)) (pairs : List (Nat × Nat)) : Prop :=
  ∀ before, before <+: pairs →
    ((before.foldl absorbAt bodies).map Simulation.activeMass).sum =
        (bodies.map Simulation.activeMass).sum ∧
      ((before.foldl absorbAt bodies).map Body.activeMomentum).sum =
        (bodies.map Body.activeMomentum).sum

/-- Every step of a run is balanced. -/
def BalancedRun (bodies : List (Body α)) (pairs : List (Nat × Nat)) : Prop :=
  ∀ before pair, before ++ [pair] <+: pairs →
    BalancedStep (before.foldl absorbAt bodies) pair

theorem activeMass_run (bodies : List (Body α)) (pairs : List (Nat × Nat)) :
    ((pairs.foldl absorbAt bodies).map Simulation.activeMass).sum =
      (bodies.map Simulation.activeMass).sum := by
  induction pairs generalizing bodies with
  | nil => rfl
  | cons pair pairs ih => rw [List.foldl_cons, ih, activeMass_absorbAt]

theorem conserves_iff (bodies : List (Body α)) (pairs : List (Nat × Nat)) :
    Conserves bodies pairs ↔ BalancedRun bodies pairs := by
  constructor
  · intro conserves before pair reached
    have earlier := (conserves before ((List.prefix_append _ _).trans reached)).2
    have later := (conserves _ reached).2
    rw [List.foldl_append, ← earlier] at later
    exact (activeMomentum_absorbAt_iff _ pair).mp later
  · intro balanced before reached
    refine ⟨activeMass_run bodies before, ?_⟩
    induction before using List.reverseRecOn with
    | nil => rfl
    | append_singleton before pair ih =>
        have earlier := ih ((List.prefix_append _ _).trans reached)
        rw [List.foldl_append, ← earlier]
        exact (activeMomentum_absorbAt_iff _ pair).mpr (balanced before pair reached)

/-- One absorption conserves momentum exactly when the velocities make up for
the weights, and a sequence of them when every step is balanced. -/
theorem absorption_conserves_iff (α : Type) [RealArithmetic α] :
    (∀ body other : Body α, 0 < other.mass → other.mass ≤ body.mass →
        (Body.AbsorbsMomentum body other ↔ Body.Balanced body other)) ∧
      (∀ body other : Body α, body.mass < other.mass →
        body.absorb other.mass other.radius other.velocity = (false, body) ∧
          body.absorbBody other = (false, body, other)) ∧
      ∀ (bodies : List (Body α)) (pairs : List (Nat × Nat)),
        Conserves bodies pairs ↔ BalancedRun bodies pairs :=
  ⟨fun _ _ => Body.absorbsMomentum_iff, fun _ _ => Body.absorb_of_lighter,
    conserves_iff⟩

/-- A body of mass one that moves along the first axis. -/
noncomputable def mover (velocity : ℝ) : Body ℝ :=
  { mass := 1
    radius := 1
    position := 0
    velocity := ⟨velocity, 0, 0⟩
    acceleration := 0 }

theorem balanced_mover (velocity otherVelocity : ℝ) :
    Body.Balanced (mover velocity) (mover otherVelocity) ↔
      otherVelocity = -velocity := by
  rw [Body.Balanced, RealVector.ext_iff]
  norm_num [mover]

theorem absorption_conserves_opposite :
    Body.AbsorbsMomentum (mover 1) (mover (-1)) :=
  ((absorption_conserves_iff ℝ).1 (mover 1) (mover (-1)) (by norm_num [mover])
    (by norm_num [mover])).mpr ((balanced_mover 1 (-1)).mpr rfl)

theorem absorption_loses_momentum :
    (¬ Body.AbsorbsMomentum (mover 1) (mover 0)) ∧
      ¬ Conserves [mover 1, mover 0] [(0, 1)] := by
  have heavy : 0 < (mover 0).mass ∧ (mover 0).mass ≤ (mover 1).mass := by
    norm_num [mover]
  have unbalanced : ¬ Body.Balanced (mover 1) (mover 0) := by
    rw [balanced_mover]
    norm_num
  constructor
  · rwa [Body.absorbsMomentum_iff heavy.1 heavy.2]
  · rw [conserves_iff]
    intro balanced
    have step := balanced [] (0, 1) (by simp)
    exact unbalanced (step (mover 1) (mover 0) rfl rfl (by simp)
      (by norm_num [Body.isActive, mover]) (by norm_num [Body.isActive, mover])
      heavy.2)

end Concurrente.NBody
