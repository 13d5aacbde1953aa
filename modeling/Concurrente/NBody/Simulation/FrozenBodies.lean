import Concurrente.Library.Loops
import Concurrente.NBody.Simulation.ActiveCount
import Concurrente.NBody.Simulation.Termination

/-!
# Absorbed bodies

Within one pass of `checkCollisions` a body that was absorbed can come back.
One that is inactive when an iteration begins cannot: no loop of the iteration
enters it or takes it as the other body, so nothing of it ever changes again.
-/

namespace Concurrente.NBody

open Library

variable {α : Type} [RealArithmetic α] {size : Nat}

namespace Universe

/-- Inactive bodies stay what and where they are, and no body is added. -/
structure Frozen (before after : Universe α) : Prop where
  length : after.bodies.length = before.bodies.length
  inactive : ∀ {index : Nat} {body : Body α},
    before.bodies[index]? = some body → body.isActive = false →
      after.bodies[index]? = some body

theorem Frozen.refl (self : Universe α) : Frozen self self :=
  ⟨rfl, fun found _ => found⟩

theorem Frozen.trans {first second third : Universe α}
    (before : Frozen first second) (after : Frozen second third) :
    Frozen first third :=
  ⟨after.length.trans before.length,
    fun found inactive => after.inactive (before.inactive found inactive) inactive⟩

/-- A body that is active was active before. -/
theorem Frozen.active {before after : Universe α} (frozen : Frozen before after)
    {index : Nat} (active : (after.bodies[index]?).any Body.isActive = true) :
    (before.bodies[index]?).any Body.isActive = true := by
  cases found : before.bodies[index]? with
  | none =>
      have outside := List.getElem?_eq_none_iff.mp found
      rw [← frozen.length] at outside
      rw [List.getElem?_eq_none outside] at active
      exact active
  | some body =>
      cases own : body.isActive with
      | true => exact own
      | false =>
          rw [frozen.inactive found own, Option.any_some, own] at active
          cases active

/-- There are at most as many active bodies as before. -/
theorem Frozen.countP_le {before after : Universe α} (frozen : Frozen before after) :
    after.bodies.countP Body.isActive ≤ before.bodies.countP Body.isActive := by
  obtain ⟨_, earlier⟩ := before
  obtain ⟨_, later⟩ := after
  obtain ⟨length, inactive⟩ := frozen
  dsimp only at length inactive ⊢
  induction earlier generalizing later with
  | nil => simp [List.length_eq_zero_iff.mp length]
  | cons body earlier ih =>
      obtain ⟨other, later, rfl⟩ := List.exists_cons_of_length_eq_add_one length
      have rest := ih later (by simpa using length) fun {index} _ found =>
        @inactive (index + 1) _ found
      have head : body.isActive = false → other.isActive = false := by
        intro idle
        have same := @inactive 0 body rfl idle
        rw [List.getElem?_cons_zero, Option.some.injEq] at same
        rw [same, idle]
      rw [List.countP_cons, List.countP_cons]
      cases own : body.isActive with
      | true =>
          split <;> simp <;> omega
      | false =>
          rw [head own]
          simpa using rest

/-! ## Collisions -/

section

variable {position : Nat} {body : Body α} (inactive : body.isActive = false)

include inactive

theorem checkPair_getElem? {index : Nat} (different : index ≠ position)
    {self : Universe α} (found : self.bodies[position]? = some body)
    (otherIndex : Nat) :
    (checkPair index self otherIndex).bodies[position]? = some body := by
  rcases checkPair_cases index self otherIndex with
    ⟨idle, _⟩ | ⟨_, other, strike, step⟩
  · rw [idle]
    exact found
  · have apart : otherIndex ≠ position := by
      rintro rfl
      have same := Option.some.inj (strike.theirs.symm.trans found)
      rw [← same, strike.active] at inactive
      cases inactive
    rw [step]
    simpa [different, apart] using found

theorem checkBody_getElem? {self : Universe α}
    (found : self.bodies[position]? = some body) (index : Nat) :
    (checkBody self index).bodies[position]? = some body := by
  unfold checkBody
  split
  next active =>
    have different : index ≠ position := by
      rintro rfl
      rw [found, Option.any_some, inactive] at active
      cases active
    generalize List.range self.bodies.length = others
    clear active
    induction others generalizing self with
    | nil => exact found
    | cons otherIndex others ih =>
        exact ih (checkPair_getElem? inactive different found otherIndex)
  next => exact found

end

theorem length_checkBody (self : Universe α) (index : Nat) :
    (checkBody self index).bodies.length = self.bodies.length := by
  have row : ∀ (others : List Nat) (state : Universe α),
      (others.foldl (checkPair index) state).bodies.length =
        state.bodies.length := by
    intro others
    induction others with
    | nil => exact fun _ => rfl
    | cons otherIndex others ih =>
        intro state
        rw [List.foldl_cons, ih, length_checkPair]
  unfold checkBody
  split
  · exact row _ self
  · rfl

theorem frozen_checkCollisions (self : Universe α) :
    Frozen self self.checkCollisions := by
  unfold checkCollisions
  generalize List.range self.bodies.length = indices
  constructor
  · induction indices generalizing self with
    | nil => rfl
    | cons index indices ih => rw [List.foldl_cons, ih, length_checkBody]
  · intro position body found inactive
    induction indices generalizing self with
    | nil => exact found
    | cons index indices ih =>
        exact ih _ (checkBody_getElem? inactive found index)

/-- A pass over the bodies that skips the inactive ones. -/
theorem frozen_map {self after : Universe α} {change : Body α → Body α}
    (bodies : after.bodies = self.bodies.map change)
    (skips : ∀ body, body.isActive = false → change body = body) :
    Frozen self after := by
  constructor
  · rw [bodies, List.length_map]
  · intro index body found inactive
    rw [bodies, List.getElem?_map, found, Option.map_some, skips body inactive]

theorem frozen_checkReceivedCollisions (self : Universe α)
    (serializedBodies : List α) (rank otherRank : Nat) :
    Frozen self
      (self.checkReceivedCollisions serializedBodies rank otherRank) := by
  apply frozen_map
  · simp only [checkReceivedCollisions, List.map_map]
    rfl
  · intro body inactive
    simp [checkSerialized, inactive]

end Universe

namespace Simulation

/-! ## The loop -/

theorem frozen_stateCollisions (universes : Fin size → Universe α)
    (rank : Fin size) :
    (universes rank).Frozen (stateCollisions universes rank) := by
  have rounds : ∀ (ranks : List (Fin size)) (state : Fin size → Universe α),
      (state rank).Frozen
        (ranks.foldl (broadcastRound Universe.serializeCollisionData
          fun self serialized process rank =>
            self.checkReceivedCollisions serialized process rank) state rank) := by
    intro ranks
    induction ranks with
    | nil => exact fun state => .refl (state rank)
    | cons turn ranks ih =>
        intro state
        refine .trans ?_ (ih _)
        unfold broadcastRound
        split
        · exact .refl (state rank)
        · exact Universe.frozen_checkReceivedCollisions (state rank) _ _ _
  exact (Universe.frozen_checkCollisions (universes rank)).trans
    (rounds (List.finRange size) fun process => (universes process).checkCollisions)

theorem frozen_statePositions (deltaTime : α) (universes : Fin size → Universe α)
    (rank : Fin size) :
    (universes rank).Frozen
      (statePositions deltaTime (stateAccelerations universes) rank) := by
  apply Universe.frozen_map (bodies_statePositions universes deltaTime rank)
  intro body inactive
  simp [updatedBody, inactive]

theorem frozen_iteration (deltaTime : α) (state : Simulated α size)
    (rank : Fin size) :
    (state.universes rank).Frozen ((iteration deltaTime state).universes rank) :=
  (frozen_stateCollisions state.universes rank).trans
    (frozen_statePositions deltaTime _ rank)

theorem frozen_iterate (deltaTime : α) (state : Simulated α size)
    (earlier later : Nat) (rank : Fin size) :
    (((iteration deltaTime)^[earlier] state).universes rank).Frozen
      (((iteration deltaTime)^[earlier + later] state).universes rank) := by
  induction later with
  | zero => exact .refl _
  | succ later ih =>
      rw [← Nat.add_assoc, Function.iterate_succ_apply']
      exact ih.trans (frozen_iteration deltaTime _ rank)

/-- In every run no process gets or loses bodies, a body that is inactive before
an iteration is the same body in all later states, and the active bodies only
become fewer. -/
theorem absorbed_stay_absorbed (deltaTime : α) (state : Simulated α size)
    (earlier later : Nat) (rank : Fin size) :
    let before := (((iteration deltaTime)^[earlier] state).universes rank).bodies
    let after :=
      (((iteration deltaTime)^[earlier + later] state).universes rank).bodies
    after.length = before.length ∧
      (∀ (index : Nat) (body : Body α), before[index]? = some body →
        body.isActive = false → after[index]? = some body) ∧
      (∀ index : Nat, (after[index]?).any Body.isActive = true →
        (before[index]?).any Body.isActive = true) ∧
      after.countP Body.isActive ≤ before.countP Body.isActive := by
  have frozen := frozen_iterate deltaTime state earlier later rank
  exact ⟨frozen.length, fun _ _ => frozen.inactive, fun _ => frozen.active,
    frozen.countP_le⟩

end Simulation

end Concurrente.NBody
