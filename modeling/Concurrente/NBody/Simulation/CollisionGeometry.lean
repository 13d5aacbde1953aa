import Concurrente.NBody.Simulation.Simulation

/-!
# Geometry of collisions

Bodies collide in pairs: no body overlaps two others, also when a body that has
absorbed its partner is taken with its grown radius.  Under this assumption
the overlapping pairs can be followed one by one.
-/

namespace Concurrente.NBody

namespace Body

variable {α : Type} [RealArithmetic α]

/-- A body that has absorbed another one. -/
def merged (body other : Body α) : Body α :=
  { body with
    mass := body.mass + other.mass
    radius := body.addRadiuses other.radius }.mergeVelocities
      other.mass other.velocity

theorem absorb_eq (body other : Body α) :
    body.absorb other.mass other.radius other.velocity =
      if other.mass ≤ body.mass then (true, body.merged other)
      else (false, body) := rfl

@[simp] theorem mass_merged (body other : Body α) :
    (body.merged other).mass = body.mass + other.mass := rfl

@[simp] theorem radius_merged (body other : Body α) :
    (body.merged other).radius = body.addRadiuses other.radius := rfl

@[simp] theorem position_merged (body other : Body α) :
    (body.merged other).position = body.position := rfl

@[simp] theorem mass_deactivate (body : Body α) :
    body.deactivate.mass = -body.mass := mul_neg_one body.mass

@[simp] theorem radius_deactivate (body : Body α) :
    body.deactivate.radius = body.radius := rfl

@[simp] theorem position_deactivate (body : Body α) :
    body.deactivate.position = body.position := rfl

theorem isActive_iff (body : Body α) : body.isActive = true ↔ 0 < body.mass := by
  simp [isActive]

theorem checkCollision_iff (body : Body α) (otherRadius : α)
    (otherPosition : RealVector α) :
    body.checkCollision otherRadius otherPosition = true ↔
      (otherPosition - body.position).getMagnitude <
        body.radius + otherRadius := by
  simp [checkCollision]

theorem checkCollision_symm {body other : Body α}
    (collides : body.checkCollision other.radius other.position = true) :
    other.checkCollision body.radius body.position = true := by
  rw [checkCollision_iff] at collides ⊢
  rwa [RealVector.getMagnitude_sub_comm, add_comm]

end Body

namespace Simulation

variable {α : Type} [RealArithmetic α] {size : Nat}

/-- Two bodies overlap before the phase. -/
def Overlap (universes : Fin size → Universe α) (x y : Place universes) : Prop :=
  x ≠ y ∧ (bodyAt universes x).checkCollision (bodyAt universes y).radius
    (bodyAt universes y).position

/-- The radii a body can have during the phase: its own one and, when it
overlaps another body, the one it grows to. -/
def Radii (universes : Fin size → Universe α) (x : Place universes)
    (radius : α) : Prop :=
  radius = (bodyAt universes x).radius ∨
    ∃ y, Overlap universes x y ∧
      radius = (bodyAt universes x).addRadiuses (bodyAt universes y).radius

/-- Two bodies overlap with some of their radii. -/
def Meets (universes : Fin size → Universe α) (x y : Place universes) : Prop :=
  x ≠ y ∧ ∃ radius, Radii universes x radius ∧
    ∃ otherRadius, Radii universes y otherRadius ∧
      ((bodyAt universes y).position -
        (bodyAt universes x).position).getMagnitude < radius + otherRadius

/-- The assumptions of the phase: bodies collide in pairs only, and a body
that has absorbed its partner still overlaps it. -/
structure Separated (universes : Fin size → Universe α) : Prop where
  positive : ∀ x, 0 < (bodyAt universes x).mass
  single : ∀ x y z, Meets universes x y → Meets universes x z → y = z
  kept : ∀ x y, Overlap universes x y →
    (bodyAt universes x).checkCollision
      ((bodyAt universes y).addRadiuses (bodyAt universes x).radius)
      (bodyAt universes y).position

section

variable {universes : Fin size → Universe α} {x y z : Place universes}

theorem Overlap.symm (overlap : Overlap universes x y) :
    Overlap universes y x :=
  ⟨overlap.1.symm, Body.checkCollision_symm overlap.2⟩

theorem Overlap.meets (overlap : Overlap universes x y) :
    Meets universes x y :=
  ⟨overlap.1, _, .inl rfl, _, .inl rfl,
    (Body.checkCollision_iff ..).mp overlap.2⟩

theorem Meets.symm (meets : Meets universes x y) : Meets universes y x := by
  obtain ⟨different, radius, own, otherRadius, other, close⟩ := meets
  refine ⟨different.symm, otherRadius, other, radius, own, ?_⟩
  rwa [RealVector.getMagnitude_sub_comm, add_comm]

namespace Separated

variable (separated : Separated universes)

include separated

theorem partner_unique (first : Overlap universes x y)
    (second : Overlap universes x z) : y = z :=
  separated.single x y z first.meets second.meets

/-- Grown radii bring no new overlaps. -/
theorem overlap_of_meets (meets : Meets universes x y) :
    Overlap universes x y := by
  obtain ⟨different, radius, own, otherRadius, other, close⟩ := id meets
  rcases own with rfl | ⟨z, overlap, rfl⟩
  · rcases other with rfl | ⟨z, overlap, rfl⟩
    · exact ⟨different, (Body.checkCollision_iff ..).mpr close⟩
    · obtain rfl := separated.single y x z meets.symm overlap.meets
      exact overlap.symm
  · obtain rfl := separated.single x y z meets overlap.meets
    exact overlap

end Separated

/-- A body at a place of the run: the position has not changed and the radius
is one of those the body can have. -/
structure Variant (universes : Fin size → Universe α) (x : Place universes)
    (body : Body α) : Prop where
  position : body.position = (bodyAt universes x).position
  radius : Radii universes x body.radius

/-- Only partners collide, whatever happened to them before. -/
theorem Separated.overlap_of_checkCollision (separated : Separated universes)
    (different : x ≠ y) {body other : Body α} (own : Variant universes x body)
    (theirs : Variant universes y other)
    (collides : body.checkCollision other.radius other.position = true) :
    Overlap universes x y := by
  rw [Body.checkCollision_iff, own.position, theirs.position] at collides
  exact separated.overlap_of_meets
    ⟨different, _, own.radius, _, theirs.radius, collides⟩

/-! ## What becomes of a pair -/

/-- What a local collision makes of the body with the lower index and of the
other one. -/
def resolvePair (first second : Body α) : Body α × Body α :=
  if second.mass ≤ first.mass then (first.merged second, second.deactivate)
  else (first.deactivate, second.merged first)

open Classical in
/-- What becomes of a body that overlaps another one.  On two different ranks
the process of the higher rank decides first. -/
noncomputable def outcome (universes : Fin size → Universe α)
    (x y : Place universes) : Body α :=
  let body := bodyAt universes x
  let other := bodyAt universes y
  if x.1 = y.1 then
    if x.2.val < y.2.val then (resolvePair body other).1
    else (resolvePair other body).2
  else if x.1 < y.1 then
    if body.mass ≤ other.mass then body.deactivate else body
  else
    if other.mass ≤ body.mass then body.merged other else body.deactivate

open Classical in
/-- The body at a place once some of the pairs are done. -/
noncomputable def settled (universes : Fin size → Universe α)
    (done : Place universes → Place universes → Prop) (x : Place universes) :
    Body α :=
  if pair : ∃ y, Overlap universes x y ∧ done x y then
    outcome universes x pair.choose
  else bodyAt universes x

theorem settled_of_done (separated : Separated universes)
    {done : Place universes → Place universes → Prop}
    (overlap : Overlap universes x y) (finished : done x y) :
    settled universes done x = outcome universes x y := by
  have pair : ∃ y, Overlap universes x y ∧ done x y := ⟨y, overlap, finished⟩
  unfold settled
  rw [dif_pos pair, separated.partner_unique pair.choose_spec.1 overlap]

theorem settled_of_not_done {done : Place universes → Place universes → Prop}
    (unfinished : ∀ y, Overlap universes x y → ¬ done x y) :
    settled universes done x = bodyAt universes x := by
  unfold settled
  rw [dif_neg]
  rintro ⟨y, overlap, finished⟩
  exact unfinished y overlap finished

/-- Only the pairs of a body decide what it is. -/
theorem settled_congr (separated : Separated universes)
    {first second : Place universes → Place universes → Prop}
    (same : ∀ y, Overlap universes x y → (first x y ↔ second x y)) :
    settled universes first x = settled universes second x := by
  by_cases pair : ∃ y, Overlap universes x y ∧ first x y
  · obtain ⟨y, overlap, finished⟩ := pair
    rw [settled_of_done separated overlap finished,
      settled_of_done separated overlap ((same y overlap).mp finished)]
  · have unfinished : ∀ y, Overlap universes x y → ¬ first x y :=
      fun y overlap finished => pair ⟨y, overlap, finished⟩
    rw [settled_of_not_done unfinished, settled_of_not_done fun y overlap =>
      mt (same y overlap).mpr (unfinished y overlap)]

theorem variant_bodyAt (x : Place universes) :
    Variant universes x (bodyAt universes x) :=
  { position := rfl, radius := .inl rfl }

theorem variant_outcome (overlap : Overlap universes x y) :
    Variant universes x (outcome universes x y) := by
  have grown : Variant universes x
      ((bodyAt universes x).merged (bodyAt universes y)) :=
    { position := rfl, radius := .inr ⟨y, overlap, rfl⟩ }
  have stopped : Variant universes x (bodyAt universes x).deactivate :=
    { position := rfl, radius := .inl rfl }
  unfold outcome resolvePair
  dsimp only
  split_ifs <;> first | exact grown | exact stopped | exact variant_bodyAt x

theorem variant_settled (done : Place universes → Place universes → Prop)
    (x : Place universes) : Variant universes x (settled universes done x) := by
  unfold settled
  split
  next pair => exact variant_outcome pair.choose_spec.1
  next => exact variant_bodyAt x

end

end Simulation

end Concurrente.NBody
