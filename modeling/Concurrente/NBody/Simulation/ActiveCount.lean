import Concurrente.NBody.Simulation.Absorption

/-!
# Counting the active bodies

The inner loop of `checkCollisions` goes on with a body that was absorbed in
the middle of it.  At the next body that overlaps, the mass with the changed
sign is taken from that body, and a second change of the sign brings the
absorbed one back.  The counter goes down at every collision and never comes
back from such a step.
-/

namespace Concurrente.NBody

namespace Universe

variable {α : Type} [RealArithmetic α]

/-- The inner loop of `index` resolves a collision of the two bodies. -/
structure Strikes (index : Nat) (state : Universe α) (otherIndex : Nat)
    (body other : Body α) : Prop where
  own : state.bodies[index]? = some body
  theirs : state.bodies[otherIndex]? = some other
  different : index ≠ otherIndex
  active : other.isActive = true
  collides : body.checkCollision other.radius other.position = true

/-- The inner loop resolves a collision of a body that was absorbed earlier in
its own row. -/
def Revives (index : Nat) (state : Universe α) (otherIndex : Nat) : Prop :=
  ∃ body other, Strikes index state otherIndex body other ∧ body.isActive = false

theorem checkPair_cases (index : Nat) (state : Universe α) (otherIndex : Nat) :
    (checkPair index state otherIndex = state ∧
        ∀ body other, ¬ Strikes index state otherIndex body other) ∨
      ∃ body other, Strikes index state otherIndex body other ∧
        checkPair index state otherIndex =
          { activeBodiesCount := state.activeBodiesCount - 1
            bodies :=
              (state.bodies.set index (Simulation.resolvePair body other).1).set
                otherIndex (Simulation.resolvePair body other).2 } := by
  by_cases strikes : ∃ body other, Strikes index state otherIndex body other
  · obtain ⟨body, other, strike⟩ := strikes
    right
    refine ⟨body, other, strike, ?_⟩
    simp only [checkPair, strike.own, strike.theirs]
    by_cases heavier : other.mass ≤ body.mass
    · simp [strike.different, strike.active, strike.collides, heavier,
        Body.absorbBody, Body.absorb_eq, Simulation.resolvePair]
    · have masses : body.mass ≤ other.mass := (lt_of_not_ge heavier).le
      simp [strike.different, strike.active, strike.collides, heavier, masses,
        Body.absorbBody, Body.absorb_eq, Simulation.resolvePair]
  · left
    refine ⟨?_, fun body other strike => strikes ⟨body, other, strike⟩⟩
    unfold checkPair
    split
    next body other own theirs =>
      split
      next => rfl
      next guard =>
        rw [if_neg]
        intro collides
        simp only [Bool.or_eq_true, decide_eq_true_eq, not_or,
          Bool.not_eq_true, Bool.not_eq_false'] at guard
        exact strikes ⟨body, other, own, theirs, guard.1, guard.2, collides⟩
    next => rfl

/-! ## What one collision does to the counter and to the masses -/

/-- One for a body that counts. -/
def activeOne (body : Body α) : Int := if body.isActive then 1 else 0

theorem countP_isActive (bodies : List (Body α)) :
    (bodies.countP Body.isActive : Int) = (bodies.map activeOne).sum := by
  induction bodies with
  | nil => rfl
  | cons body bodies ih =>
      rw [List.countP_cons, List.map_cons, List.sum_cons, ← ih]
      by_cases active : body.isActive = true
      · simp [activeOne, active]
        ring
      · simp [activeOne, active]

/-- How far the counter is above the number of active bodies. -/
def slack (state : Universe α) : Int :=
  state.activeBodiesCount - state.bodies.countP Body.isActive

/-- The total mass of the active bodies. -/
def mass (state : Universe α) : α := (state.bodies.map Simulation.activeMass).sum

theorem activeOne_resolvePair {body other : Body α} (active : body.isActive = true)
    (active' : other.isActive = true) :
    activeOne (Simulation.resolvePair body other).1 +
        activeOne (Simulation.resolvePair body other).2 = 1 := by
  rcases Simulation.absorbed_resolvePair ((Body.isActive_iff _).mp active)
    ((Body.isActive_iff _).mp active') with ⟨yes, no, _⟩ | ⟨yes, no, _⟩ <;>
    simp [activeOne, yes, no]

/-- A body that was absorbed comes back, or leaves the other one its mass. -/
theorem le_activeOne_resolvePair {body other : Body α}
    (inactive : body.isActive = false) (active' : other.isActive = true) :
    1 ≤ activeOne (Simulation.resolvePair body other).1 +
        activeOne (Simulation.resolvePair body other).2 := by
  have positive := (Body.isActive_iff _).mp active'
  have absorbed : body.mass ≤ 0 := by
    rw [← not_lt, ← Body.isActive_iff]
    simp [inactive]
  have lighter : ¬ other.mass ≤ body.mass := (absorbed.trans_lt positive).not_ge
  rw [Simulation.resolvePair, if_neg lighter]
  change 1 ≤ activeOne body.deactivate + activeOne (other.merged body)
  have nonneg : ∀ any : Body α, 0 ≤ activeOne any := by
    intro any
    unfold activeOne
    split <;> simp
  rcases absorbed.lt_or_eq with negative | zero
  · have back : activeOne body.deactivate = 1 := by
      simp [activeOne, Body.isActive, negative]
    have kept := nonneg (other.merged body)
    omega
  · have kept : activeOne (other.merged body) = 1 := by
      simp [activeOne, Body.isActive, zero, positive]
    have own := nonneg body.deactivate
    omega

/-- Good steps lead from one state to the other: the counter stays as far from
the number of active bodies, and no body is active that was not. -/
structure Kept (earlier later : Universe α) : Prop where
  slack : later.slack = earlier.slack
  mass : later.mass = earlier.mass
  active : ∀ position : Nat, (later.bodies[position]?).any Body.isActive = true →
    (earlier.bodies[position]?).any Body.isActive = true

theorem Kept.refl (state : Universe α) : Kept state state :=
  ⟨rfl, rfl, fun _ => id⟩

theorem Kept.trans {first second third : Universe α} (before : Kept first second)
    (after : Kept second third) : Kept first third :=
  ⟨after.slack.trans before.slack, after.mass.trans before.mass,
    fun position active => before.active position (after.active position active)⟩

theorem slack_checkPair (index : Nat) (state : Universe α) (otherIndex : Nat) :
    (Revives index state otherIndex ∧
        slack (checkPair index state otherIndex) < slack state) ∨
      (¬ Revives index state otherIndex ∧
        Kept state (checkPair index state otherIndex)) := by
  rcases checkPair_cases index state otherIndex with
    ⟨idle, none⟩ | ⟨body, other, strike, step⟩
  · right
    have quiet : ¬ Revives index state otherIndex := by
      rintro ⟨body, other, strike, _⟩
      exact none body other strike
    rw [idle]
    exact ⟨quiet, .refl state⟩
  · have counts := sum_map_set_set activeOne strike.different strike.own
      strike.theirs (Simulation.resolvePair body other).1
      (Simulation.resolvePair body other).2
    have before : activeOne other = 1 := by simp [activeOne, strike.active]
    cases active : body.isActive with
    | false =>
        left
        refine ⟨⟨body, other, strike, active⟩, ?_⟩
        have after := le_activeOne_resolvePair active strike.active
        have own : activeOne body = 0 := by simp [activeOne, active]
        rw [step]
        simp only [slack, countP_isActive, counts]
        omega
    | true =>
        right
        have own : activeOne body = 1 := by simp [activeOne, active]
        have after := activeOne_resolvePair active strike.active
        have positive := (Body.isActive_iff _).mp active
        have positive' := (Body.isActive_iff _).mp strike.active
        refine ⟨?_, ?_, ?_, ?_⟩
        · rintro ⟨body', other', again, inactive⟩
          have same := Option.some.inj (strike.own.symm.trans again.own)
          rw [← same, active] at inactive
          exact absurd inactive (by simp)
        · rw [step]
          simp only [slack, countP_isActive, counts]
          omega
        · have kept := Simulation.activeMass_of_absorbed
            (Simulation.absorbed_resolvePair positive positive')
          rw [step, mass, mass, sum_map_set_set _ strike.different strike.own
            strike.theirs, kept]
          simp [Simulation.activeMass, active, strike.active]
        · intro position stillActive
          rw [step] at stillActive
          by_cases last : otherIndex = position
          · simp [← last, strike.theirs, strike.active]
          by_cases first : index = position
          · simp [← first, strike.own, active]
          · simpa [last, first] using stillActive

/-! ## The loops -/

/-- The state before a row of the pass. -/
def beforeRow (state : Universe α) (index : Nat) : Universe α :=
  (List.range index).foldl checkBody state

/-- The state in which the inner loop of a row comes to another body. -/
def beforePair (state : Universe α) (index otherIndex : Nat) : Universe α :=
  (List.range otherIndex).foldl (checkPair index) (state.beforeRow index)

/-- The inner loop of a row is entered. -/
def Enters (state : Universe α) (index : Nat) : Prop :=
  ((state.beforeRow index).bodies[index]?).any Body.isActive = true

/-- At no step of the pass does an inner loop revive the body of its row. -/
def KeepsAbsorbed (state : Universe α) : Prop :=
  ∀ index < state.bodies.length, state.Enters index →
    ∀ otherIndex < state.bodies.length,
      ¬ Revives index (state.beforePair index otherIndex) otherIndex

/-- The states of the pass, before each of its steps and at its end. -/
inductive InPass (state : Universe α) : Universe α → Prop where
  | row {index : Nat} (inside : index ≤ state.bodies.length) :
      InPass state (state.beforeRow index)
  | pair {index otherIndex : Nat} (inside : index < state.bodies.length)
      (entered : state.Enters index) (inside' : otherIndex ≤ state.bodies.length) :
      InPass state (state.beforePair index otherIndex)

theorem beforeRow_succ (state : Universe α) (index : Nat) :
    state.beforeRow (index + 1) = checkBody (state.beforeRow index) index := by
  rw [beforeRow, List.range_succ, List.foldl_append]
  rfl

theorem beforePair_succ (state : Universe α) (index otherIndex : Nat) :
    state.beforePair index (otherIndex + 1) =
      checkPair index (state.beforePair index otherIndex) otherIndex := by
  rw [beforePair, List.range_succ, List.foldl_append]
  rfl

@[simp] theorem length_checkPair (index : Nat) (state : Universe α)
    (otherIndex : Nat) :
    (checkPair index state otherIndex).bodies.length = state.bodies.length := by
  rcases checkPair_cases index state otherIndex with ⟨idle, _⟩ | ⟨_, _, _, step⟩
  · rw [idle]
  · simp [step]

@[simp] theorem length_beforePair (state : Universe α) (index otherIndex : Nat) :
    (state.beforePair index otherIndex).bodies.length =
      (state.beforeRow index).bodies.length := by
  induction otherIndex with
  | zero => rfl
  | succ otherIndex ih => rw [beforePair_succ, length_checkPair, ih]

theorem checkBody_beforeRow (state : Universe α) (index : Nat) :
    checkBody (state.beforeRow index) index = state.beforeRow index ∨
      state.Enters index ∧ checkBody (state.beforeRow index) index =
        state.beforePair index (state.beforeRow index).bodies.length := by
  unfold checkBody
  split
  next entered => exact .inr ⟨entered, rfl⟩
  next => exact .inl rfl

@[simp] theorem length_beforeRow (state : Universe α) (index : Nat) :
    (state.beforeRow index).bodies.length = state.bodies.length := by
  induction index with
  | zero => rfl
  | succ index ih =>
      rw [beforeRow_succ]
      rcases checkBody_beforeRow state index with skipped | ⟨_, row⟩
      · rw [skipped, ih]
      · rw [row, length_beforePair, ih]

/-- A row is its inner loop, if that is entered. -/
theorem beforeRow_succ_cases (state : Universe α) (index : Nat) :
    state.beforeRow (index + 1) = state.beforeRow index ∨
      state.Enters index ∧ state.beforeRow (index + 1) =
        state.beforePair index state.bodies.length := by
  have row := checkBody_beforeRow state index
  rwa [length_beforeRow, ← beforeRow_succ] at row

theorem Enters.beforeRow_succ {state : Universe α} {index : Nat}
    (entered : state.Enters index) :
    state.beforeRow (index + 1) = state.beforePair index state.bodies.length := by
  unfold Enters at entered
  rw [Universe.beforeRow_succ, checkBody, if_pos entered, length_beforeRow]
  rfl

/-! ### The counter falls behind -/

theorem slack_beforePair (state : Universe α) (index : Nat) :
    Antitone fun otherIndex => slack (state.beforePair index otherIndex) := by
  apply antitone_nat_of_succ_le
  intro otherIndex
  rw [beforePair_succ]
  rcases slack_checkPair index (state.beforePair index otherIndex) otherIndex with
    ⟨_, lost⟩ | ⟨_, kept⟩
  · exact lost.le
  · exact kept.slack.le

theorem slack_beforeRow (state : Universe α) :
    Antitone fun index => slack (state.beforeRow index) := by
  apply antitone_nat_of_succ_le
  intro index
  rcases beforeRow_succ_cases state index with skipped | ⟨_, row⟩
  · rw [skipped]
  · rw [row]
    exact slack_beforePair state index (Nat.zero_le state.bodies.length)

/-- What a step takes from the counter too much is never made up for. -/
theorem slack_lt_of_revives {state : Universe α} {index otherIndex : Nat}
    (inside : index < state.bodies.length) (entered : state.Enters index)
    (inside' : otherIndex < state.bodies.length)
    (revives : Revives index (state.beforePair index otherIndex) otherIndex) :
    slack state.checkCollisions < slack state := by
  have step : slack (state.beforePair index (otherIndex + 1)) <
      slack (state.beforePair index otherIndex) := by
    rw [beforePair_succ]
    rcases slack_checkPair index (state.beforePair index otherIndex) otherIndex with
      ⟨_, lost⟩ | ⟨quiet, _⟩
    · exact lost
    · exact absurd revives quiet
  calc slack state.checkCollisions
      ≤ slack (state.beforeRow (index + 1)) := slack_beforeRow state inside
    _ = slack (state.beforePair index state.bodies.length) := by
        rw [entered.beforeRow_succ]
    _ ≤ slack (state.beforePair index (otherIndex + 1)) :=
        slack_beforePair state index inside'
    _ < slack (state.beforePair index otherIndex) := step
    _ ≤ slack (state.beforeRow index) :=
        slack_beforePair state index (Nat.zero_le otherIndex)
    _ ≤ slack state := slack_beforeRow state (Nat.zero_le index)

/-! ### A pass of good steps -/

/-- Good steps in a row are good together. -/
theorem Kept.of_steps {states : Nat → Universe α} {count : Nat}
    (steps : ∀ index < count, Kept (states index) (states (index + 1)))
    {first last : Nat} (before : first ≤ last) (inside : last ≤ count) :
    Kept (states first) (states last) := by
  induction last, before using Nat.le_induction with
  | base => exact .refl (states first)
  | succ last before ih =>
      exact (ih (by omega)).trans (steps last (by omega))

theorem KeepsAbsorbed.kept_pair {state : Universe α} (clear : KeepsAbsorbed state)
    {index first last : Nat} (inside : index < state.bodies.length)
    (entered : state.Enters index) (before : first ≤ last)
    (inside' : last ≤ state.bodies.length) :
    Kept (state.beforePair index first) (state.beforePair index last) := by
  refine @Kept.of_steps _ _ (state.beforePair index) _ ?_ _ _ before inside'
  intro otherIndex bound
  rw [beforePair_succ]
  rcases slack_checkPair index (state.beforePair index otherIndex) otherIndex with
    ⟨revives, _⟩ | ⟨_, kept⟩
  · exact absurd revives (clear index inside entered otherIndex bound)
  · exact kept

theorem KeepsAbsorbed.kept_row {state : Universe α} (clear : KeepsAbsorbed state)
    {first last : Nat} (before : first ≤ last)
    (inside : last ≤ state.bodies.length) :
    Kept (state.beforeRow first) (state.beforeRow last) := by
  refine @Kept.of_steps _ _ state.beforeRow _ ?_ _ _ before inside
  intro index bound
  rcases beforeRow_succ_cases state index with skipped | ⟨entered, row⟩
  · rw [skipped]
    exact .refl _
  · rw [row]
    exact clear.kept_pair bound entered (Nat.zero_le _) le_rfl

/-- From every state of the pass good steps lead to its end. -/
theorem KeepsAbsorbed.kept {state reached : Universe α}
    (clear : KeepsAbsorbed state) (passed : InPass state reached) :
    Kept reached state.checkCollisions := by
  cases passed with
  | row inside => exact clear.kept_row inside le_rfl
  | @pair index otherIndex inside entered inside' =>
      have rest := clear.kept_row inside le_rfl
      rw [entered.beforeRow_succ] at rest
      exact (clear.kept_pair inside entered inside' le_rfl).trans rest

/-- The counter and the masses are right after the pass, and no body is active
that was inactive before it or at any moment of it. -/
structure CountsActive (state : Universe α) : Prop where
  counted : state.checkCollisions.activeBodiesCount =
    state.checkCollisions.bodies.countP Body.isActive
  mass : state.checkCollisions.mass = state.mass
  absorbed : ∀ reached, InPass state reached →
    ∀ position : Nat, (reached.bodies[position]?).any Body.isActive = false →
      (state.checkCollisions.bodies[position]?).any Body.isActive = false

theorem keepsAbsorbed_of_counted {state : Universe α}
    (counted : state.activeBodiesCount = state.bodies.countP Body.isActive)
    (after : state.checkCollisions.activeBodiesCount =
      state.checkCollisions.bodies.countP Body.isActive) :
    KeepsAbsorbed state := by
  intro index inside entered otherIndex inside' revives
  have lost := slack_lt_of_revives inside entered inside' revives
  unfold slack at lost
  omega

/-- Where the counter was right, the pass keeps it and the masses right exactly
when no row goes on with a body that it has lost. -/
theorem countsActive_iff_keepsAbsorbed {state : Universe α}
    (counted : state.activeBodiesCount = state.bodies.countP Body.isActive) :
    CountsActive state ↔ KeepsAbsorbed state := by
  constructor
  · intro counts
    exact keepsAbsorbed_of_counted counted counts.counted
  · intro clear
    have whole := clear.kept (.row (Nat.zero_le state.bodies.length))
    change Kept state state.checkCollisions at whole
    constructor
    · have slack := whole.slack
      simp only [Universe.slack] at slack
      omega
    · exact whole.mass
    · intro reached passed position inactive
      rw [← Bool.not_eq_true] at inactive ⊢
      intro active
      exact inactive ((clear.kept passed).active position active)

end Universe

end Concurrente.NBody
