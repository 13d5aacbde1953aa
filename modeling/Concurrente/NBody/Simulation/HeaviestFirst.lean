import Concurrente.NBody.Common.RealNumbers
import Concurrente.NBody.Simulation.ActiveCount

/-!
# Bodies in the order of their masses

No body is absorbed in its own row when each is at least as heavy as those that
it overlaps further back, and no growth brings together bodies that did not
overlap.  Then the pass counts right.
-/

namespace Concurrente.NBody

namespace Universe

/-- The radius of a body that counts. -/
noncomputable def activeRadius (body : Body ℝ) : ℝ :=
  if body.isActive then body.radius else 0

/-- Of two active bodies that overlap the first is not lighter, and two that do
not are as far apart as all radii together. -/
structure HeaviestFirst (state : Universe ℝ) : Prop where
  radii : ∀ body ∈ state.bodies, body.isActive = true → 0 ≤ body.radius
  heaviest : ∀ {index otherIndex : Nat} {body other : Body ℝ}, index < otherIndex →
    state.bodies[index]? = some body → state.bodies[otherIndex]? = some other →
    body.isActive = true → other.isActive = true →
    body.checkCollision other.radius other.position = true →
      other.mass ≤ body.mass
  apart : ∀ {index otherIndex : Nat} {body other : Body ℝ}, index < otherIndex →
    state.bodies[index]? = some body → state.bodies[otherIndex]? = some other →
    body.isActive = true → other.isActive = true →
    body.checkCollision other.radius other.position = false →
      (state.bodies.map activeRadius).sum ≤
        (other.position - body.position).getMagnitude

/-- What has become of an active body: it may have grown. -/
structure Grown (before now : Body ℝ) : Prop where
  active : before.isActive = true
  position : now.position = before.position
  mass : before.mass ≤ now.mass
  radius : before.radius ≤ now.radius

/-- The pass has come to a column of a row.  Bodies of later rows are as they
were, and of two bodies that overlapped and whose turn is over one is gone. -/
structure Ranked (start state : Universe ℝ) (row column : Nat) : Prop where
  grown : ∀ {index : Nat} {now : Body ℝ}, state.bodies[index]? = some now →
    now.isActive = true → ∃ before, start.bodies[index]? = some before ∧
      Grown before now ∧ (row < index → now = before)
  radii : (state.bodies.map activeRadius).sum ≤ (start.bodies.map activeRadius).sum
  passed : ∀ {index otherIndex : Nat} {now other before otherBefore : Body ℝ},
    index < otherIndex → index < row ∨ index = row ∧ otherIndex < column →
    state.bodies[index]? = some now → now.isActive = true →
    state.bodies[otherIndex]? = some other → other.isActive = true →
    start.bodies[index]? = some before →
    start.bodies[otherIndex]? = some otherBefore →
      before.checkCollision otherBefore.radius otherBefore.position = false

variable {start state : Universe ℝ} {row column : Nat}

theorem inactive_deactivate {body : Body ℝ} (active : body.isActive = true) :
    body.deactivate.isActive = false := by
  have positive := (Body.isActive_iff body).mp active
  rw [← Bool.not_eq_true, Body.isActive_iff, Body.mass_deactivate]
  linarith

theorem active_merged {body other : Body ℝ} (active : body.isActive = true)
    (active' : other.isActive = true) : (body.merged other).isActive = true := by
  rw [Body.isActive_iff, Body.mass_merged]
  exact add_pos ((Body.isActive_iff body).mp active)
    ((Body.isActive_iff other).mp active')

theorem Grown.collides {before now otherBefore otherNow : Body ℝ}
    (grown : Grown before now) (otherGrown : Grown otherBefore otherNow)
    (collides : before.checkCollision otherBefore.radius otherBefore.position =
      true) :
    now.checkCollision otherNow.radius otherNow.position = true := by
  rw [Body.checkCollision_iff] at collides ⊢
  rw [grown.position, otherGrown.position]
  exact collides.trans_le (add_le_add grown.radius otherGrown.radius)

theorem activeRadius_nonneg (heaviest : HeaviestFirst start)
    (ranked : Ranked start state row column) {index : Nat} {now : Body ℝ}
    (found : state.bodies[index]? = some now) : 0 ≤ activeRadius now := by
  unfold activeRadius
  split
  next active =>
    obtain ⟨before, was, grown, _⟩ := ranked.grown found active
    exact (heaviest.radii before (List.mem_of_getElem? was) grown.active).trans
      grown.radius
  next => exact le_rfl

/-- The radii of two active bodies are a part of all radii. -/
theorem radius_add_radius_le (heaviest : HeaviestFirst start)
    (ranked : Ranked start state row column) {index otherIndex : Nat}
    {now other : Body ℝ} (different : index ≠ otherIndex)
    (own : state.bodies[index]? = some now) (active : now.isActive = true)
    (theirs : state.bodies[otherIndex]? = some other)
    (active' : other.isActive = true) :
    now.radius + other.radius ≤ (state.bodies.map activeRadius).sum := by
  have gone : ∀ {body : Body ℝ}, body.isActive = true →
      activeRadius body.deactivate = 0 := by
    intro body positive
    simp [activeRadius, inactive_deactivate positive]
  have rest := sum_map_set_set activeRadius different own theirs now.deactivate
    other.deactivate
  have nonneg : 0 ≤ (((state.bodies.set index now.deactivate).set otherIndex
      other.deactivate).map activeRadius).sum := by
    apply List.sum_nonneg
    simp only [List.forall_mem_map]
    intro body member
    rcases List.mem_or_eq_of_mem_set member with earlier | rfl
    · rcases List.mem_or_eq_of_mem_set earlier with old | rfl
      · obtain ⟨position, found⟩ := List.mem_iff_getElem?.mp old
        exact activeRadius_nonneg heaviest ranked found
      · rw [gone active]
    · rw [gone active']
  rw [rest, gone active, gone active'] at nonneg
  simp only [activeRadius, active, active', if_true] at nonneg
  linarith

/-- Only bodies that overlapped before the pass collide in it. -/
theorem overlapped (heaviest : HeaviestFirst start)
    (ranked : Ranked start state row column) {index otherIndex : Nat}
    {now other before otherBefore : Body ℝ} (later : index < otherIndex)
    (own : state.bodies[index]? = some now) (active : now.isActive = true)
    (theirs : state.bodies[otherIndex]? = some other)
    (active' : other.isActive = true)
    (was : start.bodies[index]? = some before) (grown : Grown before now)
    (was' : start.bodies[otherIndex]? = some otherBefore)
    (grown' : Grown otherBefore other)
    (collides : now.checkCollision other.radius other.position = true) :
    before.checkCollision otherBefore.radius otherBefore.position = true := by
  by_contra no
  have far := heaviest.apart later was was' grown.active grown'.active
    (Bool.eq_false_of_not_eq_true no)
  have sum := radius_add_radius_le heaviest ranked later.ne own active theirs active'
  rw [Body.checkCollision_iff, grown.position, grown'.position] at collides
  linarith [ranked.radii]

theorem Ranked.passes (ranked : Ranked start state row column)
    (none : ∀ body other, ¬ Strikes row state column body other) :
    Ranked start state row (column + 1) := by
  refine ⟨ranked.grown, ranked.radii, ?_⟩
  intro index otherIndex now other before otherBefore later turn here here' there
    there' past past'
  rcases turn with earlier | ⟨rfl, bound⟩
  · exact ranked.passed later (.inl earlier) here here' there there' past past'
  rcases Nat.lt_succ_iff_lt_or_eq.mp bound with less | rfl
  · exact ranked.passed later (.inr ⟨rfl, less⟩) here here' there there' past past'
  · -- the pair that was looked at just now
    by_contra collides
    obtain ⟨_, same, grownOther, _⟩ := ranked.grown there there'
    cases past'.symm.trans same
    obtain ⟨_, same', grownOwn, _⟩ := ranked.grown here here'
    cases past.symm.trans same'
    exact none now other ⟨here, there, later.ne, there',
      grownOwn.collides grownOther (Bool.eq_true_of_not_eq_false collides)⟩

/-- An active body only strikes lighter ones further back. -/
theorem Ranked.strikes_lighter (heaviest : HeaviestFirst start)
    (ranked : Ranked start state row column) {own other : Body ℝ}
    (strike : Strikes row state column own other) (active : own.isActive = true) :
    row < column ∧ other.mass ≤ own.mass := by
  obtain ⟨before, was, grown, _⟩ := ranked.grown strike.own active
  obtain ⟨otherBefore, was', grown', untouched⟩ :=
    ranked.grown strike.theirs strike.active
  have later : row < column := by
    rcases lt_or_gt_of_ne strike.different with later | earlier
    · exact later
    · -- their turn was in the row of the other body
      have collided := overlapped heaviest ranked earlier strike.theirs
        strike.active strike.own active was' grown' was grown
        (Body.checkCollision_symm strike.collides)
      rw [ranked.passed earlier (.inl earlier) strike.theirs strike.active
        strike.own active was' was] at collided
      cases collided
  have collided := overlapped heaviest ranked later strike.own active
    strike.theirs strike.active was grown was' grown' strike.collides
  refine ⟨later, ?_⟩
  rw [untouched later]
  exact (heaviest.heaviest later was was' grown.active grown'.active
    collided).trans grown.mass

/-- Where an active body comes from after an absorption. -/
theorem origin_of_set {bodies : List (Body ℝ)} {own whole gone : Body ℝ}
    (found : bodies[row]? = some own) (inside : column < bodies.length)
    (inactive : gone.isActive = false) {index : Nat} {now : Body ℝ}
    (here : ((bodies.set row whole).set column gone)[index]? = some now)
    (active : now.isActive = true) :
    index ≠ column ∧
      (index = row ∧ now = whole ∨ index ≠ row ∧ bodies[index]? = some now) := by
  have different : index ≠ column := by
    rintro rfl
    rw [List.getElem?_set_self (by simpa using inside)] at here
    cases here
    rw [inactive] at active
    cases active
  rw [List.getElem?_set_ne different.symm] at here
  refine ⟨different, ?_⟩
  by_cases same : index = row
  · subst same
    rw [List.getElem?_set_self (List.getElem?_eq_some_iff.mp found).1] at here
    exact .inl ⟨rfl, (Option.some.inj here).symm⟩
  · rw [List.getElem?_set_ne (Ne.symm same)] at here
    exact .inr ⟨same, here⟩

theorem Ranked.absorbs (heaviest : HeaviestFirst start)
    (ranked : Ranked start state row column) {own other : Body ℝ}
    (strike : Strikes row state column own other) (active : own.isActive = true)
    (later : row < column) (count : Int) :
    Ranked start ⟨count, (state.bodies.set row (own.merged other)).set column
      other.deactivate⟩ row (column + 1) := by
  obtain ⟨before, was, grown, _⟩ := ranked.grown strike.own active
  obtain ⟨otherBefore, was', grown', _⟩ := ranked.grown strike.theirs strike.active
  have radius : 0 ≤ own.radius := (heaviest.radii before
    (List.mem_of_getElem? was) grown.active).trans grown.radius
  have radius' : 0 ≤ other.radius := (heaviest.radii otherBefore
    (List.mem_of_getElem? was') grown'.active).trans grown'.radius
  have gone := inactive_deactivate strike.active
  have inside : column < state.bodies.length :=
    (List.getElem?_eq_some_iff.mp strike.theirs).1
  refine ⟨?_, ?_, ?_⟩
  · intro index now here here'
    obtain ⟨_, ⟨rfl, rfl⟩ | ⟨_, old⟩⟩ := origin_of_set strike.own inside gone here here'
    · refine ⟨before, was, ⟨grown.active, grown.position, ?_, ?_⟩,
        fun wrong => absurd wrong (lt_irrefl _)⟩
      · have positive := (Body.isActive_iff other).mp strike.active
        rw [Body.mass_merged]
        linarith [grown.mass]
      · exact grown.radius.trans (le_pow_third radius radius')
    · exact ranked.grown old here'
  · rw [sum_map_set_set activeRadius strike.different strike.own strike.theirs]
    have sum : (own.merged other).radius ≤ own.radius + other.radius :=
      pow_third_le radius radius'
    have whole := active_merged active strike.active
    simp only [activeRadius, whole, gone, active, strike.active, if_true,
      Bool.false_eq_true, if_false]
    linarith [ranked.radii]
  · intro index otherIndex now other' before' otherBefore' before'' turn here here'
      there there' past past'
    obtain ⟨_, ⟨same, rfl⟩ | ⟨different, old⟩⟩ :=
      origin_of_set strike.own inside gone here here'
    all_goals
      obtain ⟨column', ⟨same', rfl⟩ | ⟨different', old'⟩⟩ :=
        origin_of_set strike.own inside gone there there'
    · omega
    · subst same
      exact ranked.passed before'' (.inr ⟨rfl, by omega⟩) strike.own active old'
        there' past past'
    · subst same'
      exact ranked.passed before'' (.inl (by omega)) old here' strike.own active
        past past'
    · exact ranked.passed before'' (by omega) old here' old' there' past past'

theorem Ranked.step (heaviest : HeaviestFirst start)
    (ranked : Ranked start state row column) {own : Body ℝ}
    (found : state.bodies[row]? = some own) (active : own.isActive = true) :
    Ranked start (checkPair row state column) row (column + 1) ∧
      ((checkPair row state column).bodies[row]?).any Body.isActive = true := by
  rcases checkPair_cases row state column with
    ⟨idle, none⟩ | ⟨body, other, strike, step⟩
  · rw [idle]
    exact ⟨ranked.passes none, by simp [found, active]⟩
  · cases found.symm.trans strike.own
    obtain ⟨later, lighter⟩ := ranked.strikes_lighter heaviest strike active
    rw [step, Simulation.resolvePair, if_pos lighter]
    refine ⟨ranked.absorbs heaviest strike active later _, ?_⟩
    rw [List.getElem?_set_ne strike.different.symm,
      List.getElem?_set_self (List.getElem?_eq_some_iff.mp strike.own).1]
    simpa using active_merged active strike.active

theorem HeaviestFirst.ranked_row (heaviest : HeaviestFirst start) (index : Nat)
    (ranked : Ranked start (start.beforeRow index) index 0)
    (entered : start.Enters index) (otherIndex : Nat) :
    Ranked start (start.beforePair index otherIndex) index otherIndex ∧
      ((start.beforePair index otherIndex).bodies[index]?).any Body.isActive =
        true := by
  induction otherIndex with
  | zero => exact ⟨ranked, entered⟩
  | succ otherIndex ih =>
      obtain ⟨here, active⟩ := ih
      obtain ⟨own, found, still⟩ := (Option.any_eq_true _ _).mp active
      rw [beforePair_succ]
      exact here.step heaviest found still

theorem Ranked.next (ranked : Ranked start state row column)
    (done : (state.bodies[row]?).any Body.isActive = true →
      state.bodies.length ≤ column) : Ranked start state (row + 1) 0 := by
  refine ⟨?_, ranked.radii, ?_⟩
  · intro index now here active
    obtain ⟨before, was, grown, untouched⟩ := ranked.grown here active
    exact ⟨before, was, grown, fun later => untouched (by omega)⟩
  · intro index otherIndex now other before otherBefore later turn here active there
      active' was was'
    refine ranked.passed later ?_ here active there active' was was'
    rcases turn with earlier | ⟨_, never⟩
    · rcases Nat.lt_succ_iff_lt_or_eq.mp earlier with before | rfl
      · exact .inl before
      · have inside := (List.getElem?_eq_some_iff.mp there).1
        exact .inr ⟨rfl, inside.trans_le (done (by simp [here, active]))⟩
    · omega

theorem HeaviestFirst.ranked (heaviest : HeaviestFirst start) (index : Nat) :
    Ranked start (start.beforeRow index) index 0 := by
  induction index with
  | zero =>
      refine ⟨fun here active => ⟨_, here, ⟨active, rfl, le_rfl, le_rfl⟩, fun _ => rfl⟩,
        le_rfl, fun _ turn => ?_⟩
      omega
  | succ index ih =>
      by_cases entered : start.Enters index
      · rw [entered.beforeRow_succ]
        apply (heaviest.ranked_row index ih entered start.bodies.length).1.next
        intro _
        simp
      · have skipped : start.beforeRow (index + 1) = start.beforeRow index := by
          rw [beforeRow_succ, checkBody]
          exact if_neg entered
        rw [skipped]
        exact ih.next fun active => absurd active entered

/-- A row that keeps its own body active revives nothing. -/
theorem HeaviestFirst.keepsAbsorbed (heaviest : HeaviestFirst start) :
    KeepsAbsorbed start := by
  rintro index _ entered otherIndex _ ⟨body, other, strike, inactive⟩
  have active :=
    (heaviest.ranked_row index (heaviest.ranked index) entered otherIndex).2
  rw [strike.own] at active
  change body.isActive = true at active
  rw [inactive] at active
  cases active

/-- Where the counter was right, the pass keeps it and the masses right exactly
when at none of its steps the body of the row has been absorbed and overlaps
another active one.  No step is such when every body stands before the lighter
ones that it overlaps. -/
theorem countsActive_iff {state : Universe ℝ}
    (counted : state.activeBodiesCount = state.bodies.countP Body.isActive) :
    (CountsActive state ↔ KeepsAbsorbed state) ∧
      (HeaviestFirst state → CountsActive state) :=
  ⟨countsActive_iff_keepsAbsorbed counted, fun heaviest =>
    (countsActive_iff_keepsAbsorbed counted).mpr heaviest.keepsAbsorbed⟩

/-- Bodies of the given masses at one place. -/
noncomputable def crowd (masses : List ℝ) : Universe ℝ :=
  { activeBodiesCount := masses.countP (0 < ·)
    bodies := masses.map fun mass =>
      { mass, radius := 1, position := 0, velocity := 0, acceleration := 0 } }

theorem counted_crowd (masses : List ℝ) :
    (crowd masses).activeBodiesCount =
      (crowd masses).bodies.countP Body.isActive := by
  simp [crowd, List.countP_map, Function.comp_def, Body.isActive]

theorem heaviestFirst_crowd {masses : List ℝ} (falling : masses.Pairwise (· ≥ ·)) :
    HeaviestFirst (crowd masses) := by
  have place : ∀ {index : Nat} {body : Body ℝ},
      (crowd masses).bodies[index]? = some body →
      ∃ inside : index < masses.length,
        body = ⟨masses[index], 1, 0, 0, 0⟩ := by
    intro index body found
    rw [crowd, List.getElem?_map] at found
    obtain ⟨mass, there, rfl⟩ := Option.map_eq_some_iff.mp found
    obtain ⟨inside, rfl⟩ := List.getElem?_eq_some_iff.mp there
    exact ⟨inside, rfl⟩
  constructor
  · intro body member _
    obtain ⟨index, found⟩ := List.mem_iff_getElem?.mp member
    obtain ⟨_, rfl⟩ := place found
    exact zero_le_one
  · intro index otherIndex body other later here there _ _ _
    obtain ⟨inside, rfl⟩ := place here
    obtain ⟨inside', rfl⟩ := place there
    exact List.pairwise_iff_getElem.mp falling index otherIndex inside inside' later
  · intro index otherIndex body other _ here there _ _ apart
    obtain ⟨_, rfl⟩ := place here
    obtain ⟨_, rfl⟩ := place there
    norm_num [Body.checkCollision, RealVector.getMagnitude,
      RealArithmetic.sqrt] at apart

theorem checkCollisions_descending :
    CountsActive (crowd [3, 2, 1]) ∧ KeepsAbsorbed (crowd [3, 2, 1]) := by
  obtain ⟨exactly, enough⟩ := countsActive_iff (counted_crowd [3, 2, 1])
  have counts := enough (heaviestFirst_crowd (by norm_num))
  exact ⟨counts, exactly.mp counts⟩

/-- The second body absorbs the first one, and the third one meets it again in
the same row. -/
theorem revives_crowd :
    Revives 0 (checkPair 0 (checkPair 0 (crowd [1, 2, 3]) 0) 1) 2 := by
  have own : checkPair 0 (crowd [1, 2, 3]) 0 = crowd [1, 2, 3] := by
    simp [checkPair, crowd]
  rw [own]
  rcases checkPair_cases 0 (crowd [1, 2, 3]) 1 with
    ⟨_, none⟩ | ⟨body, other, strike, step⟩
  · exfalso
    refine none _ _ ⟨rfl, rfl, by simp, ?_, ?_⟩
    · norm_num [Body.isActive]
    · norm_num [Body.checkCollision, RealVector.getMagnitude, RealArithmetic.sqrt]
  · have first := Option.some.inj strike.own
    have second := Option.some.inj strike.theirs
    rw [step]
    refine ⟨(Simulation.resolvePair body other).1, _, ⟨?_, rfl, by simp, ?_, ?_⟩, ?_⟩
    all_goals
      norm_num [crowd, ← first, ← second, Simulation.resolvePair, Body.isActive,
        Body.checkCollision, RealVector.getMagnitude, RealArithmetic.sqrt]

theorem checkCollisions_miscounts :
    (crowd [1, 2, 3]).activeBodiesCount =
        (crowd [1, 2, 3]).bodies.countP Body.isActive ∧
      ¬ CountsActive (crowd [1, 2, 3]) := by
  refine ⟨counted_crowd _, fun counts => ?_⟩
  have clear := keepsAbsorbed_of_counted (counted_crowd _) counts.counted
  have entered : (crowd [1, 2, 3]).Enters 0 := by
    norm_num [Enters, beforeRow, crowd, Body.isActive]
  exact clear 0 (by simp [crowd]) entered 2 (by simp [crowd]) revives_crowd

end Universe

end Concurrente.NBody
